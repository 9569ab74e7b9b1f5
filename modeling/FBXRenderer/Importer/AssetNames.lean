import FBXRenderer.Asset.AssetPools
import FBXRenderer.Importer.AssetTree
import FBXRenderer.Importer.FileNameWide
import FBXRenderer.Lib.JoinedNames
import FBXRenderer.Lib.PartialRun

/-!
# FBXRenderer.Importer.AssetNames

The names of the geometries and models that a session imports, file after file. A name is joined
from the file name, an underscore and the name of the first node that has the mesh; nothing in it
tells two nodes with one mesh apart, or two nodes of one name, or where the file name ends.

* `extractFileName_bytes`: the file name is the one that the function over bytes leaves.
* `importFiles_names`: the names, in the order of the pools.
* `asset_names_iff`: they are all different, and no insertion finds its key taken, exactly where no
  two mesh nodes of the session have words that join to one name.
-/

namespace FBXRenderer

open SS JoinedNames PartialRun

section Path

/-- The text behind the last `c`. -/
def behindLast (c : Char) (text : List Char) : Option (List Char) :=
  if c ∈ text then some (text.reverse.takeWhile fun x => x ≠ c).reverse else none

/-- The text before the last `c`. -/
def beforeLast (c : Char) (text : List Char) : Option (List Char) :=
  if c ∈ text then some (text.reverse.dropWhile fun x => x ≠ c).tail.reverse else none

/-- `none` is arithmetic on the null pointer, for a path without a separator or a dot. -/
def extractFileNameFromFilePath (InFilePath : String) : Option String := do
  let outFileName ←
    (behindLast '/' InFilePath.toList).or (behindLast '\\' InFilePath.toList)
  let cut ← beforeLast '.' outFileName
  some (String.ofList cut)

section Bytes

open LastSplit NulText Utf

variable {c : Char} {text pre post : List Char}

theorem ne_of_mem_reverse (h : c ∉ post) : ∀ x ∈ post.reverse, decide (x ≠ c) = true := by
  intro x hx
  exact decide_eq_true fun hxc => h (hxc ▸ List.mem_reverse.mp hx)

theorem behindLast_eq_behind (c : Char) (text : List Char) :
    behindLast c text = if c ∈ text then some (behind (isChar c) text) else none := by
  rw [behindLast]
  by_cases hc : c ∈ text
  · obtain ⟨pre, post, rfl, hpost⟩ := exists_last hc
    rw [if_pos hc, if_pos hc, behind_last hpost, List.reverse_append, List.reverse_cons,
      List.append_assoc, List.takeWhile_append_of_pos (ne_of_mem_reverse hpost)]
    simp
  · rw [if_neg hc, if_neg hc]

theorem beforeLast_eq (h : c ∉ post) : beforeLast c (pre ++ c :: post) = some pre := by
  have hmem : c ∈ pre ++ c :: post := List.mem_append_right pre List.mem_cons_self
  rw [beforeLast, if_pos hmem, List.reverse_append, List.reverse_cons, List.append_assoc,
    List.dropWhile_append_of_pos (ne_of_mem_reverse h)]
  simp

theorem utf8_splitsAt (hc : Ascii c) : SplitsAt utf8 c (byteOf c) where
  mem_iff := fun _ => mem_utf8_iff hc
  split := fun _ _ => utf8_split hc

/-- The name of a file, in bytes, is what the function over bytes leaves. -/
theorem extractFileName_bytes (raw : FixedString UInt8 ASSET_NAME_LEN_MAX) (path : String)
    (InFilePath : NulStr UInt8) (hpath : InFilePath.chars = utf8 path.toList)
    (hfit : ∀ component, Narrow.chosenComponent InFilePath.chars = some component →
      component.length < ASSET_NAME_LEN_MAX) :
    (Narrow.extractFileNameFromFilePath raw InFilePath).map (fun name => textOf name.dataPool)
      = (extractFileNameFromFilePath path).map fun name => utf8 name.toList := by
  have hchosen : Narrow.chosenComponent InFilePath.chars
      = (chosenBehind '/' '\\' path.toList).map utf8 := by
    rw [hpath]
    exact (utf8_splitsAt ascii_slash).chosenBehind (utf8_splitsAt ascii_backslash)
  have hsearch : (behindLast '/' path.toList).or (behindLast '\\' path.toList)
      = chosenBehind '/' '\\' path.toList := by
    rw [behindLast_eq_behind, behindLast_eq_behind, chosenBehind]
    split <;> rfl
  rw [extractFileNameFromFilePath, hsearch]
  cases hcomponent : chosenBehind '/' '\\' path.toList with
  | none =>
    rw [hcomponent] at hchosen
    rw [Narrow.extract_none fun component h => by rw [hchosen] at h; cases h]
    rfl
  | some component =>
    rw [hcomponent, Option.map_some] at hchosen
    by_cases hdot : '.' ∈ component
    · obtain ⟨name, ext, rfl, hext⟩ := exists_last hdot
      have hsplit : utf8 (name ++ '.' :: ext) = utf8 name ++ dot :: utf8 ext := utf8_split ascii_dot
      have hext' : dot ∉ utf8 ext := fun h => hext ((mem_utf8_iff ascii_dot).mp h)
      have hlen := hfit _ hchosen
      rw [hsplit] at hchosen hlen
      obtain ⟨out, hout, htracks⟩ := Narrow.extract_some raw hchosen hlen hext'
      rw [hout, Option.map_some, htracks.holds.textOf_eq]
      show _ = ((beforeLast '.' (name ++ '.' :: ext)).bind _).map _
      rw [beforeLast_eq hext]
      simp
    · have hdot' : dot ∉ utf8 component := fun h => hdot ((mem_utf8_iff ascii_dot).mp h)
      have hnone : beforeLast '.' component = none := if_neg hdot
      rw [Narrow.extract_none fun other h _ => by
        rw [hchosen] at h
        cases h
        exact hdot']
      show _ = ((beforeLast '.' component).bind _).map _
      rw [hnone]
      rfl

end Bytes

end Path

section Names

/-- The name of an asset from a file name and a node name. -/
def assetNameWith (suffix : String) (e : String × String) : String :=
  e.1 ++ "_" ++ e.2 ++ suffix

/-- File and node names that are joined to the same name. -/
def SameAssetName (a b : String × String) : Prop :=
  a = b ∨ (∃ w, a.1 = b.1 ++ "_" ++ w ∧ b.2 = w ++ "_" ++ a.2) ∨
    ∃ w, b.1 = a.1 ++ "_" ++ w ∧ a.2 = w ++ "_" ++ b.2

def letters (e : String × String) : List Char × List Char := (e.1.toList, e.2.toList)

theorem toList_assetNameWith (suffix : String) (e : String × String) :
    (assetNameWith suffix e).toList = join '_' (letters e) ++ suffix.toList := by
  simp [assetNameWith, join, letters]

theorem overlaps_letters (a b : String × String) : Overlaps '_' (letters a) (letters b) ↔
    ∃ w, a.1 = b.1 ++ "_" ++ w ∧ b.2 = w ++ "_" ++ a.2 := by
  constructor
  · rintro ⟨w, h1, h2⟩
    refine ⟨String.ofList w, String.ext ?_, String.ext ?_⟩
    · simpa [letters] using h1
    · simpa [letters] using h2
  · rintro ⟨w, h1, h2⟩
    refine ⟨w.toList, ?_, ?_⟩
    · simp [letters, h1]
    · simp [letters, h2]

theorem letters_inj {a b : String × String} : letters a = letters b ↔ a = b := by
  rw [letters, letters, Prod.mk.injEq, String.toList_inj, String.toList_inj, Prod.ext_iff]

theorem assetNameWith_inj (suffix : String) (a b : String × String) :
    assetNameWith suffix a = assetNameWith suffix b ↔ SameAssetName a b := by
  rw [← String.toList_inj, toList_assetNameWith, toList_assetNameWith, List.append_left_inj,
    join_eq_join_iff, Clash, letters_inj, overlaps_letters, overlaps_letters, SameAssetName]

example : SameAssetName ("street_a", "b") ("street", "a_b") := Or.inr (Or.inl ⟨"a", rfl, rfl⟩)

theorem nodup_assetNames_iff (suffix : String) (names : List (String × String)) :
    (names.map (assetNameWith suffix)).Nodup ↔ names.Pairwise fun a b => ¬ SameAssetName a b := by
  rw [List.Nodup, List.pairwise_map]
  refine List.Pairwise.iff fun a b => ?_
  rw [Ne, assetNameWith_inj]

end Names

/-! What the import of meshes, scenes and files names its assets. -/

section Import

variable {K : Type} [Field K] [LinearOrder K]

/-- An FBX file: its path, its scene, and the skeletons and materials that its import finds. -/
structure FbxFile (K : Type) where
  filePath : String
  rootNode : FbxNode K
  skeletonAsset : String → Option (SSSkeletonAsset K)
  materials : SSMaterialAssetManager

/-- The models of one more file. -/
def importFile (sdk : FbxVectors K) (shaders : List SSShaderAsset) (models : List SSModelAsset)
    (file : FbxFile K) : Option (List SSModelAsset) := do
  let fileName ← extractFileNameFromFilePath file.filePath
  let s ← importCurrentSceneToModelAsset ⟨fileName, sdk, file.skeletonAsset⟩ shaders models
    file.materials file.rootNode
  some s.models

/-- A session. -/
def importFiles (sdk : FbxVectors K) (shaders : List SSShaderAsset) (files : List (FbxFile K)) :
    Option (List SSModelAsset) :=
  files.foldlM (importFile sdk shaders) []

/-- File name and node name of every mesh node that a file makes a model of. -/
def FbxFile.meshNames (file : FbxFile K) : List (String × String) :=
  match extractFileNameFromFilePath file.filePath with
  | none => []
  | some fileName => (meshNodesChilds file.rootNode.childs).map fun e => (fileName, e.2.nodeName)

/-- The names of a model and its geometry. -/
def SSModelAsset.names (model : SSModelAsset) : String × String :=
  (model._geometry._assetName, model._assetName)

/-- Both names, as the importer builds them. -/
def builtNames (e : String × String) : String × String :=
  (assetNameWith ".geom" e, assetNameWith ".mdl" e)

omit [Field K] [LinearOrder K] in
theorem finishGeometry_name {ctx : ImportContext K} {fbxMesh : FbxSceneMesh K}
    {meshType : EMeshType} {layout : IndexLayout} {geometry : SSGeometryAsset}
    (h : finishGeometry ctx fbxMesh meshType layout = some geometry) :
    geometry._assetName = assetNameWith ".geom" (ctx._fileName, fbxMesh.nodeName) := by
  unfold finishGeometry at h
  split at h
  · obtain ⟨assetName, hname, heq⟩ := Option.bind_eq_some_iff.mp h
    obtain ⟨_, rfl⟩ := fixedAssetName_eq_some.mp hname
    cases heq
    rfl
  · cases h

theorem generateMesh_name {ctx : ImportContext K} {fbxMesh : FbxSceneMesh K}
    {geometry : SSGeometryAsset} (h : generateMesh ctx fbxMesh = some geometry) :
    geometry._assetName = assetNameWith ".geom" (ctx._fileName, fbxMesh.nodeName) := by
  unfold generateMesh at h
  split at h
  · simp only [generateGeometryFromFbxMesh, Option.bind_eq_bind, Option.bind_eq_some_iff] at h
    obtain ⟨_, _, _, _, hfinish⟩ := h
    exact finishGeometry_name hfinish
  · simp only [generateSkinnedGeometryFromFbxMesh, Option.bind_eq_bind,
      Option.bind_eq_some_iff] at h
    obtain ⟨_, _, _, _, _, _, _, _, hcheck⟩ := h
    split at hcheck
    · obtain ⟨_, _, hfinish⟩ := Option.bind_eq_some_iff.mp hcheck
      exact finishGeometry_name hfinish
    · cases hcheck

theorem setMaterial_names (model : SSModelAsset) (InMaterial matIdx : Nat) :
    (model.setMaterial InMaterial matIdx).names = model.names := by
  unfold SSModelAsset.setMaterial
  split
  · rfl
  · rfl

theorem setMaterials_names {shaders : List SSShaderAsset} (materials : List FbxSurfaceMaterial) :
    ∀ {i : Nat} {manager manager' : SSMaterialAssetManager} {model model' : SSModelAsset},
      setMaterials shaders materials i manager model = some (manager', model') →
      model'.names = model.names := by
  induction materials with
  | nil =>
    intro i manager manager' model model' h
    cases h
    rfl
  | cons material rest ih =>
    intro i manager manager' model model' h
    obtain ⟨_, _, hrest⟩ := setMaterials_cons h
    rw [ih hrest, setMaterial_names]

theorem importMesh_names {ctx : ImportContext K} {shaders : List SSShaderAsset}
    {s s' : ImportState K} {node : FbxNode K} {fbxMesh : FbxSceneMesh K}
    (h : importMesh ctx shaders s node fbxMesh = some s') :
    s'.models.map SSModelAsset.names =
      s.models.map SSModelAsset.names ++ [builtNames (ctx._fileName, fbxMesh.nodeName)] := by
  simp only [importMesh, Option.bind_eq_bind, Option.bind_eq_some_iff] at h
  obtain ⟨newGeometry, hgeometry, assetName, hname, ⟨materials, newModel⟩, hset, models, hmodels,
    hs⟩ := h
  obtain ⟨_, rfl⟩ := fixedAssetName_eq_some.mp hname
  obtain ⟨_, rfl⟩ := insertNewModel_eq_some.mp hmodels
  cases hs
  have hgeometryName := generateMesh_name hgeometry
  have hnames : newModel.names = builtNames (ctx._fileName, fbxMesh.nodeName) := by
    rw [setMaterials_names node.materials hset, SSModelAsset.names, hgeometryName]
    rfl
  rw [List.map_append, List.map_singleton]
  split
  · rw [setMaterial_names, hnames]
  · rw [hnames]

theorem importMeshes_names {ctx : ImportContext K} {shaders : List SSShaderAsset}
    (nodes : List (FbxNode K × FbxSceneMesh K)) : ∀ {s s' : ImportState K},
      importMeshes ctx shaders s nodes = some s' →
      s'.models.map SSModelAsset.names = s.models.map SSModelAsset.names ++
        nodes.map fun e => builtNames (ctx._fileName, e.2.nodeName) := by
  induction nodes with
  | nil =>
    intro s s' h
    cases h
    simp
  | cons e nodes ih =>
    intro s s' h
    rw [importMeshes_cons] at h
    obtain ⟨s1, h1, hrest⟩ := Option.bind_eq_some_iff.mp h
    rw [ih hrest, importMesh_names h1, List.append_assoc, List.map_cons, List.singleton_append]

theorem importFile_names {sdk : FbxVectors K} {shaders : List SSShaderAsset}
    {models models' : List SSModelAsset} {file : FbxFile K}
    (h : importFile sdk shaders models file = some models') :
    models'.map SSModelAsset.names =
      models.map SSModelAsset.names ++ file.meshNames.map builtNames := by
  simp only [importFile, Option.bind_eq_bind, Option.bind_eq_some_iff] at h
  obtain ⟨fileName, hname, s, hscene, hmodels⟩ := h
  cases hmodels
  obtain ⟨_, s1, hmeshes, hmodels, _⟩ := importScene_some hscene
  rw [hmodels, importMeshes_names _ hmeshes, FbxFile.meshNames, hname, List.map_map]
  rfl

/-- The pools hold what the files were imported for, in their order. -/
theorem importFiles_names {sdk : FbxVectors K} {shaders : List SSShaderAsset}
    {files : List (FbxFile K)} {models : List SSModelAsset}
    (h : importFiles sdk shaders files = some models) :
    models.map SSModelAsset.names = (files.flatMap FbxFile.meshNames).map builtNames := by
  induction files using List.reverseRecOn generalizing models with
  | nil =>
    cases h
    rfl
  | append_singleton files file ih =>
    rw [importFiles, foldlM_concat] at h
    obtain ⟨models1, h1, hfile⟩ := Option.bind_eq_some_iff.mp h
    rw [importFile_names hfile, ih h1, List.flatMap_append, List.map_append, List.flatMap_singleton]

end Import

/-! The insertions into the two managers. -/

section Store

/-- The name as a C string, if it fits `FixedStringA<ASSET_NAME_LEN_MAX>`. -/
def assetNameOf (s : String) : Option AssetName :=
  if h : (0 : UInt8) ∉ s.toByteArray.data.toList ∧
      s.toByteArray.data.toList.length < ASSET_NAME_LEN_MAX then
    some ⟨⟨s.toByteArray.data.toList, h.1⟩, h.2⟩
  else none

/-- An asset with the name it was made with. -/
structure Named (A : Type) where
  asset : A
  assetName : AssetName

structure AssetStore where
  geometries : AssetManager (Named SSGeometryAsset) ASSET_NAME_LEN_MAX
  models : AssetManager (Named SSModelAsset) PATH_LEN_MAX

variable (H : CStr → UInt64 → UInt64)

/-- `InsertNewGeometry` and `InsertNewModel` for the asset of one mesh node. -/
def storeModel (s : AssetStore) (newModel : SSModelAsset) : Option AssetStore := do
  let geometryName ← assetNameOf newModel._geometry._assetName
  let modelName ← assetNameOf newModel._assetName
  let g ← SSGeometryAssetManager.insertNewGeometry H Named.assetName s.geometries
    ⟨newModel._geometry, geometryName⟩
  let m ← SSModelAssetManager.insertNewModel H Named.assetName s.models ⟨newModel, modelName⟩
  some ⟨g.manager, m.manager⟩

/-- `TryInsert` answers `KeyAlreadyExist`. -/
def KeyTaken {A : Type} {STR_LEN_MAX : Nat} (m : AssetManager A STR_LEN_MAX) (name : AssetName) :
    Prop :=
  ∃ item, (m._assetHash.tryInsert H name.1 item).1 = .keyAlreadyExist

/-- Neither insertion finds its key in the map. -/
def FindsNoKey (s : AssetStore) (newModel : SSModelAsset) : Prop :=
  (∀ name, assetNameOf newModel._geometry._assetName = some name →
      ¬ KeyTaken H s.geometries name) ∧
    ∀ name, assetNameOf newModel._assetName = some name → ¬ KeyTaken H s.models name

theorem assetNameOf_inj {s s' : String} {name name' : AssetName} (h : assetNameOf s = some name)
    (h' : assetNameOf s' = some name') (heq : name.1 = name'.1) : s = s' := by
  unfold assetNameOf at h h'
  split at h
  · split at h'
    · cases h
      cases h'
      have hbytes := congrArg CStr.bytes heq
      exact String.toByteArray_inj.mp (ByteArray.ext (Array.toList_inj.mp hbytes))
    · cases h'
  · cases h

variable {A : Type} {STR_LEN_MAX : Nat} {H}

/-- Every key of the map is one of the names. -/
def HeldFrom (names : List String) (m : AssetManager A STR_LEN_MAX) : Prop :=
  ∀ p k, m._assetHash.Holds p k → ∃ s ∈ names, ∃ name, assetNameOf s = some name ∧ name.1 = k

theorem heldFrom_new (raw : Nat → Nat) (poolCapacity hashCapacity hashCollisionLimit : Nat)
    (hashSeed : UInt64) : HeldFrom [] (AssetManager.new raw poolCapacity hashCapacity
      hashCollisionLimit hashSeed : AssetManager A STR_LEN_MAX) := by
  intro p k hholds
  exact absurd rfl hholds.1

theorem HeldFrom.insert {grows : Bool} {report : CStr → InsertResult → List UInt8}
    {getAssetName : A → AssetName} {m : AssetManager A STR_LEN_MAX} {newAsset : A}
    {stored : Stored A STR_LEN_MAX} {names : List String} {s : String} (h : HeldFrom names m)
    (hname : assetNameOf s = some (getAssetName newAsset))
    (hinsert : AssetManager.insert grows report H getAssetName m newAsset = some stored) :
    HeldFrom (s :: names) stored.manager := by
  simp only [AssetManager.insert, Option.bind_eq_bind, Option.bind_eq_some_iff] at hinsert
  obtain ⟨_, _, pool, _, hstored⟩ := hinsert
  cases hstored
  intro p k hholds
  cases StringHashMapA.holds_tryInsert hholds with
  | inl hold =>
    obtain ⟨s', hs', hfrom⟩ := h p k hold
    exact ⟨s', List.mem_cons_of_mem s hs', hfrom⟩
  | inr hnew => exact ⟨s, List.mem_cons_self, _, hname, hnew.symm⟩

/-- A name that is not among those of the map is not taken. -/
theorem HeldFrom.not_taken {m : AssetManager A STR_LEN_MAX} {names : List String} {s : String}
    {name : AssetName} (h : HeldFrom names m) (hs : s ∉ names) (hname : assetNameOf s = some name) :
    ¬ KeyTaken H m name := by
  rintro ⟨item, hexist⟩
  obtain ⟨p, hholds⟩ := StringHashMapA.holds_of_keyAlreadyExist hexist
  obtain ⟨s', hs', name', hname', heq⟩ := h p name.1 hholds
  rw [assetNameOf_inj hname' hname heq] at hs'
  exact hs hs'

theorem storeModel_heldFrom {s s' : AssetStore} {newModel : SSModelAsset}
    {geometryNames modelNames : List String} (hgeometries : HeldFrom geometryNames s.geometries)
    (hmodels : HeldFrom modelNames s.models) (h : storeModel H s newModel = some s') :
    HeldFrom (newModel._geometry._assetName :: geometryNames) s'.geometries ∧
      HeldFrom (newModel._assetName :: modelNames) s'.models := by
  simp only [storeModel, Option.bind_eq_bind, Option.bind_eq_some_iff] at h
  obtain ⟨_, hgeometryName, _, hmodelName, _, hgeometry, _, hmodel, hs'⟩ := h
  cases hs'
  exact ⟨hgeometries.insert hgeometryName hgeometry, hmodels.insert hmodelName hmodel⟩

/-- By induction on the models that are still to come, whose names are none of the names before. -/
theorem each_findsNoKey (models : List SSModelAsset) : ∀ {s : AssetStore}
    {geometryNames modelNames : List String}, HeldFrom geometryNames s.geometries →
      HeldFrom modelNames s.models →
      (models.map (fun m => m._geometry._assetName) ++ geometryNames).Nodup →
      (models.map (fun m => m._assetName) ++ modelNames).Nodup →
      Each (storeModel H) (FindsNoKey H) s models := by
  induction models with
  | nil => exact fun _ _ _ _ => trivial
  | cons newModel models ih =>
    intro s geometryNames modelNames hgeometries hmodels hgeometryNames hmodelNames
    rw [List.map_cons, List.cons_append] at hgeometryNames hmodelNames
    obtain ⟨hnewGeometry, hrestGeometries⟩ := List.nodup_cons.mp hgeometryNames
    obtain ⟨hnewModel, hrestModels⟩ := List.nodup_cons.mp hmodelNames
    refine ⟨⟨fun name hname => ?_, fun name hname => ?_⟩, fun s' hs' => ?_⟩
    · exact hgeometries.not_taken (fun hmem => hnewGeometry (List.mem_append_right _ hmem)) hname
    · exact hmodels.not_taken (fun hmem => hnewModel (List.mem_append_right _ hmem)) hname
    · obtain ⟨hgeometries', hmodels'⟩ := storeModel_heldFrom hgeometries hmodels hs'
      refine ih hgeometries' hmodels' ?_ ?_
      · exact List.nodup_middle.mpr hgeometryNames
      · exact List.nodup_middle.mpr hmodelNames

def newStore (raw : Nat → Nat) (poolCapacity hashCapacity hashCollisionLimit : ManagerKind → Nat)
    (hashSeed : UInt64) : AssetStore where
  geometries := AssetManager.new raw (poolCapacity .geometry) (hashCapacity .geometry)
    (hashCollisionLimit .geometry) hashSeed
  models := AssetManager.new raw (poolCapacity .model) (hashCapacity .model)
    (hashCollisionLimit .model) hashSeed

end Store

section Session

variable {K : Type} [Field K] [LinearOrder K]

/-- The names of a session are all different, and every insertion finds its key free. -/
structure NamesApart (H : CStr → UInt64 → UInt64) (start : AssetStore)
    (models : List SSModelAsset) : Prop where
  geometryNames : (models.map fun m => m._geometry._assetName).Nodup
  modelNames : (models.map fun m => m._assetName).Nodup
  keys : Each (storeModel H) (FindsNoKey H) start models

/-- The names are apart exactly where those of no two mesh nodes join to one. -/
theorem asset_names_iff (sdk : FbxVectors K) (shaders : List SSShaderAsset)
    (files : List (FbxFile K)) {models : List SSModelAsset}
    (h : importFiles sdk shaders files = some models) (H : CStr → UInt64 → UInt64)
    (raw : Nat → Nat) (poolCapacity hashCapacity hashCollisionLimit : ManagerKind → Nat)
    (hashSeed : UInt64) :
    NamesApart H (newStore raw poolCapacity hashCapacity hashCollisionLimit hashSeed) models ↔
      (files.flatMap FbxFile.meshNames).Pairwise fun a b => ¬ SameAssetName a b := by
  have hnames := importFiles_names h
  have hgeometries : models.map (fun m => m._geometry._assetName) =
      (files.flatMap FbxFile.meshNames).map (assetNameWith ".geom") := by
    have hfst := congrArg (List.map Prod.fst) hnames
    rwa [List.map_map, List.map_map] at hfst
  have hmodels : models.map (fun m => m._assetName) =
      (files.flatMap FbxFile.meshNames).map (assetNameWith ".mdl") := by
    have hsnd := congrArg (List.map Prod.snd) hnames
    rwa [List.map_map, List.map_map] at hsnd
  constructor
  · intro hapart
    have hnodup := hapart.geometryNames
    rw [hgeometries] at hnodup
    exact (nodup_assetNames_iff ".geom" _).mp hnodup
  · intro hpairs
    have hgeometryNames := (nodup_assetNames_iff ".geom" _).mpr hpairs
    have hmodelNames := (nodup_assetNames_iff ".mdl" _).mpr hpairs
    rw [← hgeometries] at hgeometryNames
    rw [← hmodels] at hmodelNames
    refine ⟨hgeometryNames, hmodelNames, ?_⟩
    refine each_findsNoKey models (heldFrom_new _ _ _ _ _) (heldFrom_new _ _ _ _ _) ?_ ?_
    · rwa [List.append_nil]
    · rwa [List.append_nil]

end Session

section Files

/-- The scene of a skinned and a rigid node, from two files. -/
def twoFiles : List (FbxFile ℚ) :=
  [⟨"C:/assets/street.fbx", sharedScene, sharedContext.skeletonAsset, twoMaterials⟩,
    ⟨"C:\\assets\\house.v2.fbx", sharedScene, sharedContext.skeletonAsset, twoMaterials⟩]

example : twoFiles.flatMap FbxFile.meshNames =
    [("street", "s"), ("street", "r"), ("house.v2", "s"), ("house.v2", "r")] := by
  decide +kernel

theorem asset_names_iff_two_files :
    ∃ models, importFiles ⟨id, ⟨0, 0⟩⟩ [pbrShader, pbrSkinnedShader] twoFiles = some models ∧
      NamesApart (fun _ _ => 0) (newStore (fun _ => 0) (fun _ => 1000) (fun _ => 1000)
        (fun _ => 10) 0) models := by
  have hsome : (importFiles ⟨id, ⟨0, 0⟩⟩ [pbrShader, pbrSkinnedShader] twoFiles).isSome = true := by
    decide +kernel
  obtain ⟨models, hmodels⟩ := Option.isSome_iff_exists.mp hsome
  have hpairs := (nodup_assetNames_iff ".mdl" (twoFiles.flatMap FbxFile.meshNames)).mp
    (by decide +kernel)
  have hiff := asset_names_iff ⟨id, ⟨0, 0⟩⟩ [pbrShader, pbrSkinnedShader] twoFiles hmodels
    (fun _ _ => 0) (fun _ => 0) (fun _ => 1000) (fun _ => 1000) (fun _ => 10) 0
  exact ⟨models, hmodels, hiff.mpr hpairs⟩

/-- Two nodes with one mesh: the name of the mesh is that of the first. -/
def sharedMeshFile : FbxFile ℚ where
  filePath := "C:/assets/street.fbx"
  rootNode := groupNode "root" [triangleNode "s" [], { triangleNode "s" [] with name := "t" }]
  skeletonAsset := sharedContext.skeletonAsset
  materials := twoMaterials

theorem sharedMesh_run : ((importFiles ⟨id, ⟨0, 0⟩⟩ [pbrShader, pbrSkinnedShader]
    [sharedMeshFile]).bind fun models =>
      (models[0]?).bind fun first => (models[1]?).bind fun second => (storeModel
        (fun _ _ => 0) (newStore (fun _ => 0) (fun _ => 1000) (fun _ => 1000) (fun _ => 10) 0)
          first).bind fun s =>
          (assetNameOf second._geometry._assetName).map fun name =>
            (first.names, second.names,
              (s.geometries._assetHash.tryInsert (fun _ _ => 0) name.1 0).1)) =
    some (("street_s.geom", "street_s.mdl"), ("street_s.geom", "street_s.mdl"),
      .keyAlreadyExist) := by
  decide +kernel

/-- Both models are made, and the second geometry finds the name of the first. -/
theorem sharedMesh_names_clash :
    ∃ models first second s, importFiles ⟨id, ⟨0, 0⟩⟩ [pbrShader, pbrSkinnedShader]
        [sharedMeshFile] = some models ∧
      models[0]? = some first ∧ models[1]? = some second ∧ first.names = second.names ∧
      storeModel (fun _ _ => 0) (newStore (fun _ => 0) (fun _ => 1000) (fun _ => 1000)
        (fun _ => 10) 0) first = some s ∧
      ∃ name, assetNameOf second._geometry._assetName = some name ∧
        KeyTaken (fun _ _ => 0) s.geometries name := by
  have hrun := sharedMesh_run
  simp only [Option.bind_eq_some_iff, Option.map_eq_some_iff, Prod.mk.injEq] at hrun
  obtain ⟨models, hmodels, first, hfirst, second, hsecond, s, hs, name, hname, hnames, hnames',
    htaken⟩ := hrun
  exact ⟨models, first, second, s, hmodels, hfirst, hsecond, hnames.trans hnames'.symm, hs, name,
    hname, 0, htaken⟩

end Files

end FBXRenderer
