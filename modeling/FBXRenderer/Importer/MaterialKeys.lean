import Mathlib
import FBXRenderer.Asset.AssetPools
import FBXRenderer.Importer.FileNameWide
import FBXRenderer.Lib.Decimal

/-!
# FBXRenderer.Importer.MaterialKeys

The names of the materials of a scene (`SSFBXImporter.cpp`). `ImportCurrentSceneToMaterialAsset`
registers each material under its own name, an underscore and the decimal text of its id, and
`TraverseNodesRecursion` builds that name once more to look the material up. The textures that the
former reads as well play no part here.

* `buildAssetName`: the name, over the buffer `outAssetID`.
* `materialKey_injective`: no two materials have one name.
* `Registered`: what a run of registrations keeps.
* `material_keys_iff`: when the texts of the ids fit and the lookups find their materials.
-/

namespace FBXRenderer

open SS NulText PartialRun FixedString Decimal Utf

/-- A material of the scene. -/
structure SceneMaterial where
  nameOnly : NulStr UInt8
  uniqueID : UInt64

/-- A material asset, and the material of the scene that it was made for, if any. -/
structure SSPbrMaterialAsset where
  _assetName : AssetName
  source : Option SceneMaterial

/-- The pool and the hash map of `SSMaterialAssetManager`. -/
abbrev MaterialManager := AssetManager SSPbrMaterialAsset PATH_LEN_MAX

section Model

theorem nul_not_mem_decimalBytes {v : Int} : (0 : UInt8) ∉ decimalBytes v :=
  not_mem_decimalBytes (c := Char.ofNat 0) (by decide) (by decide) (by decide)

/-- `_i64toa(value, buffer, 10)`; what is read from a buffer of the given size. -/
def i64toa (value : Int) (size : Nat) : Option (NulStr UInt8) :=
  if (decimalBytes value).length < size then some ⟨decimalBytes value, nul_not_mem_decimalBytes⟩
  else none

/-- The argument of `_i64toa` is signed. -/
def SceneMaterial.idValue (material : SceneMaterial) : Int := toInt64 material.uniqueID.toNat

/-- `"_"`. -/
def underscore : NulStr UInt8 := ⟨[byteOf '_'], by decide⟩

/-- The name as both functions build it. -/
def buildAssetName (raw : FixedString UInt8 ASSET_NAME_LEN_MAX) (material : SceneMaterial) :
    Option (FixedString UInt8 ASSET_NAME_LEN_MAX) := do
  let outAssetID ← i64toa material.idValue 10
  let assetName ← construct raw material.nameOnly
  let assetName ← assetName.addAssign underscore
  assetName.addAssign outAssetID

/-- The conversion of a string to `const char*`. -/
def toCStr (s : FixedString UInt8 ASSET_NAME_LEN_MAX) : CStr :=
  ⟨textOf s.dataPool, nul_not_mem_textOf⟩

def SSPbrMaterialAsset.new (MaterialAssetName : CStr) (source : Option SceneMaterial) :
    Option SSPbrMaterialAsset :=
  if h : MaterialAssetName.strlen < ASSET_NAME_LEN_MAX then some ⟨⟨MaterialAssetName, h⟩, source⟩
  else none

def SSDefaultPbr : CStr := ⟨asciiBytes "SSDefaultPbr", by decide⟩

-- `CityHash64WithSeed`, and the memory of the string that a name is built in
variable (cityHash64WithSeed : CStr → UInt64 → UInt64)
  (raw : SceneMaterial → FixedString UInt8 ASSET_NAME_LEN_MAX)

namespace SSMaterialAssetManager

def createTempMaterials (manager : MaterialManager) : Option MaterialManager := do
  let newMaterial ← SSPbrMaterialAsset.new SSDefaultPbr none
  (insertNewMaterial cityHash64WithSeed (·._assetName) manager newMaterial).map (·.manager)

/-- The outer `none` is a read outside the pool, the inner one the null pointer. -/
def findMaterialWithNameInternal (manager : MaterialManager) (name : CStr) :
    Option (Option SSPbrMaterialAsset) :=
  match manager._assetHash.tryFind cityHash64WithSeed name SS_UINT32_MAX with
  | (.success, foundIdx) => (manager._assetPool.get foundIdx).map some
  | _ => some none

end SSMaterialAssetManager

open SSMaterialAssetManager

/-- One turn of the loop over the materials of the scene. -/
def importMaterial (manager : MaterialManager) (material : SceneMaterial) :
    Option MaterialManager := do
  let outAssetName ← buildAssetName (raw material) material
  let pbrMaterial ← SSPbrMaterialAsset.new (toCStr outAssetName) (some material)
  (insertNewMaterial cityHash64WithSeed (·._assetName) manager pbrMaterial).map (·.manager)

def importCurrentSceneToMaterialAsset (manager : MaterialManager)
    (materials : List SceneMaterial) : Option MaterialManager :=
  materials.foldlM (importMaterial cityHash64WithSeed raw) manager

/-- The material lookup of `TraverseNodesRecursion`. -/
def findNodeMaterial (manager : MaterialManager) (material : SceneMaterial) :
    Option (Option SSPbrMaterialAsset) := do
  let assetName ← buildAssetName (raw material) material
  findMaterialWithNameInternal cityHash64WithSeed manager (toCStr assetName)

end Model

section Keys

variable {material material' : SceneMaterial}

/-- The name of a material, an underscore and its id. -/
def materialKey (material : SceneMaterial) : CStr where
  bytes := material.nameOnly.chars ++ byteOf '_' :: decimalBytes material.idValue
  no_nul := by
    rw [List.mem_append, List.mem_cons]
    rintro (h | h | h)
    · exact material.nameOnly.no_nul h
    · exact absurd h (by decide)
    · exact nul_not_mem_decimalBytes h

/-- The text of the id fits `outAssetID`. -/
def TextFits (material : SceneMaterial) : Prop := (i64toa material.idValue 10).isSome = true

instance (material : SceneMaterial) : Decidable (TextFits material) :=
  inferInstanceAs (Decidable (_ = true))

theorem underscore_not_mem_decimalBytes {v : Int} : byteOf '_' ∉ decimalBytes v :=
  not_mem_decimalBytes (by decide) (by decide) (by decide)

theorem underscore_mem_materialKey (material : SceneMaterial) :
    byteOf '_' ∈ (materialKey material).bytes :=
  List.mem_append_right _ List.mem_cons_self

theorem idValue_injective (h : material.idValue = material'.idValue) :
    material.uniqueID = material'.uniqueID :=
  UInt64.toNat_inj.mp (toInt64_injective material.uniqueID.toNat_lt material'.uniqueID.toNat_lt h)

/-- The last underscore of a name is the one in front of the id. -/
theorem materialKey_injective (h : materialKey material = materialKey material') :
    material = material' := by
  have hbytes := congrArg CStr.bytes h
  obtain ⟨hname, hid⟩ := last_unique underscore_not_mem_decimalBytes
    underscore_not_mem_decimalBytes hbytes
  have hname' : material.nameOnly = material'.nameOnly := NulStr.ext hname
  have hid' := idValue_injective (decimalBytes_injective hid)
  cases material
  cases material'
  cases hname'
  cases hid'
  rfl

/-- The name of the traversal's materials, in bytes. -/
theorem assetName_bytes (fbxMaterial : FbxSurfaceMaterial)
    (hname : material.nameOnly.chars = utf8 fbxMaterial.nameOnly.toList)
    (hid : material.uniqueID.toNat = fbxMaterial.uniqueID) :
    utf8 fbxMaterial.assetName.toList = (materialKey material).bytes := by
  have hsep : utf8 "_".toList = [byteOf '_'] := by decide
  calc utf8 fbxMaterial.assetName.toList
      = utf8 fbxMaterial.nameOnly.toList ++ byteOf '_' ::
          decimalBytes (toInt64 fbxMaterial.uniqueID) := by
        rw [FbxSurfaceMaterial.assetName, String.toList_append, String.toList_append, utf8_append,
          utf8_append, hsep, List.append_assoc, List.singleton_append, decimalBytes, decimal]
    _ = (materialKey material).bytes := by
        rw [← hname, ← hid, ← SceneMaterial.idValue, materialKey]

theorem textFits_iff_length : TextFits material ↔ (decimalBytes material.idValue).length < 10 := by
  rw [TextFits, i64toa]
  split
  case isTrue hfit => exact iff_of_true rfl hfit
  case isFalse hlong => exact iff_of_false Bool.false_ne_true hlong

theorem textFits_iff :
    TextFits material ↔ -99999999 ≤ material.idValue ∧ material.idValue ≤ 999999999 := by
  have hlen := length_decimal_le_iff (v := material.idValue) (k := 8) (by decide)
  rw [textFits_iff_length, length_decimalBytes, Nat.lt_succ_iff, hlen]
  omega

theorem i64toa_some (hfits : TextFits material) :
    ∃ outAssetID, i64toa material.idValue 10 = some outAssetID ∧
      outAssetID.chars = decimalBytes material.idValue := by
  refine ⟨⟨decimalBytes material.idValue, nul_not_mem_decimalBytes⟩, ?_, ?_⟩
  · rw [i64toa, if_pos (textFits_iff_length.mp hfits)]
  · dsimp only

theorem buildAssetName_some (raw : FixedString UInt8 ASSET_NAME_LEN_MAX)
    (hfits : TextFits material)
    (hshort : (materialKey material).strlen < ASSET_NAME_LEN_MAX) :
    ∃ assetName, buildAssetName raw material = some assetName ∧
      toCStr assetName = materialKey material := by
  have hlen : material.nameOnly.chars.length + ((decimalBytes material.idValue).length + 1)
      < ASSET_NAME_LEN_MAX := by
    rwa [CStr.strlen, materialKey, List.length_append, List.length_cons] at hshort
  obtain ⟨outAssetID, hid, hchars⟩ := i64toa_some hfits
  have hname : material.nameOnly.chars.length < ASSET_NAME_LEN_MAX := by omega
  obtain ⟨s1, h1, htracks1⟩ := construct_some (by decide) raw hname
  obtain ⟨s2, h2, htracks2⟩ := addAssign_some (by decide) htracks1 underscore
    (by rw [underscore, List.length_singleton]; omega)
  obtain ⟨s3, h3, htracks3⟩ := addAssign_some (by decide) htracks2 outAssetID
    (by rw [List.length_append, underscore, List.length_singleton, hchars]; omega)
  refine ⟨s3, ?_, CStr.ext_bytes ?_⟩
  · rw [buildAssetName, hid]
    show (construct raw material.nameOnly).bind _ = _
    rw [h1]
    show (s1.addAssign underscore).bind _ = _
    rw [h2]
    exact h3
  · show textOf s3.dataPool = _
    rw [htracks3.holds.textOf_eq, hchars, List.append_assoc, underscore, List.singleton_append,
      materialKey]

end Keys

section Runs

open SSMaterialAssetManager

variable {H : CStr → UInt64 → UInt64}
  {raw raw' : SceneMaterial → FixedString UInt8 ASSET_NAME_LEN_MAX} {manager : MaterialManager}
  {materials done : List SceneMaterial} {material : SceneMaterial}
  {asset : SSPbrMaterialAsset} {results : List InsertResult}

/-- When a material is to be registered, a slot that its key may use is empty. -/
def FindsRoom (H : CStr → UInt64 → UInt64) (manager : MaterialManager) (material : SceneMaterial) :
    Prop :=
  manager._assetHash.HasRoom H (materialKey material)

/-- The asset is the one that was made for the material, under its key. -/
def IsAssetOf (asset : SSPbrMaterialAsset) (material : SceneMaterial) : Prop :=
  asset.source = some material ∧ asset._assetName.1 = materialKey material

/-- Of the materials of a scene, registered from the state `start`: the text of every id fits, the
keys are different, and the lookup of every material finds the asset that was made for it. -/
structure KeysFind (H : CStr → UInt64 → UInt64)
    (raw raw' : SceneMaterial → FixedString UInt8 ASSET_NAME_LEN_MAX) (start : MaterialManager)
    (materials : List SceneMaterial) : Prop where
  texts_fit : ∀ material ∈ materials, TextFits material
  keys_differ : materials.Pairwise fun a b => materialKey a ≠ materialKey b
  found : ∃ manager, importCurrentSceneToMaterialAsset H raw start materials = some manager ∧
    ∀ material ∈ materials, ∃ asset, IsAssetOf asset material ∧
      findNodeMaterial H raw' manager material = some (some asset)

/-- The pool and the hash map, as those of the shared container. -/
def toContainer (manager : MaterialManager) : AssetManagerContainer SSPbrMaterialAsset :=
  ⟨manager._assetPool, manager._assetHash⟩

theorem findMaterialWithNameInternal_eq (manager : MaterialManager) (name : CStr) :
    findMaterialWithNameInternal H manager name = (toContainer manager).findAssetWithName H name :=
  rfl

instance (H : CStr → UInt64 → UInt64) (manager : MaterialManager) (material : SceneMaterial) :
    Decidable (FindsRoom H manager material) :=
  inferInstanceAs (Decidable (∃ i, i < manager._assetHash.collisionLimit ∧ _))

/-- What a new asset has its name from. -/
def NamedBySource (asset : SSPbrMaterialAsset) : Prop :=
  match asset.source with
  | some material => asset._assetName.1 = materialKey material
  | none => asset._assetName.1 = SSDefaultPbr

/-- What a run of registrations keeps. The first asset of the pool is the default one. -/
structure Registered (H : CStr → UInt64 → UInt64) (manager : MaterialManager)
    (done : List SceneMaterial) (results : List InsertResult) : Prop where
  capacity : 0 < manager._assetPool.capacity
  state : AssetManagerContainer.ContainerState H (·._assetName) (toContainer manager)
    manager._assetPool.data results
  sources : manager._assetPool.data.map (·.source) = none :: done.map some
  named : ∀ asset ∈ manager._assetPool.data, NamedBySource asset

/-- Only one source gives the key of a material. -/
theorem NamedBySource.source_eq (h : NamedBySource asset)
    (hname : asset._assetName.1 = materialKey material) : asset.source = some material := by
  rw [NamedBySource] at h
  split at h
  case h_1 material' hsource =>
    rw [hsource, materialKey_injective (h.symm.trans hname)]
  case h_2 =>
    have hmem := underscore_mem_materialKey material
    rw [← hname, h] at hmem
    exact absurd hmem (by decide)

/-- What registering an asset leaves in the pool and in the hash map. -/
theorem insertNewMaterial_eq (manager : MaterialManager) (asset : SSPbrMaterialAsset) :
    (insertNewMaterial H (·._assetName) manager asset).map (·.manager)
      = (manager._assetPool.pushBackCapacity asset).map fun pool =>
        ⟨pool, (manager._assetHash.tryInsert H asset._assetName.1
          (toUint32 ((pool.getSize : Int) - 1))).2⟩ := by
  have hpush := AssetManagers.poolToPush_pushBack true manager._assetPool asset
  rw [if_pos rfl] at hpush
  rw [← hpush, insertNewMaterial, AssetManager.insert]
  cases poolToPush true manager._assetPool with
  | none => rfl
  | some grown =>
    simp only [Option.bind_eq_bind, Option.bind_some]
    cases grown.pushBack asset <;> rfl

/-- One more asset, whatever becomes of its name in the hash map. -/
theorem insertNewMaterial_some (manager : MaterialManager)
    (hcap : 0 < manager._assetPool.capacity)
    (hstate : AssetManagerContainer.ContainerState H (·._assetName) (toContainer manager)
      manager._assetPool.data results)
    (hsize : manager._assetPool.data.length < 2 ^ 31) (asset : SSPbrMaterialAsset) :
    ∃ manager' v,
      (insertNewMaterial H (·._assetName) manager asset).map (·.manager) = some manager' ∧
      0 < manager'._assetPool.capacity ∧
      manager'._assetPool.data = manager._assetPool.data ++ [asset] ∧
      AssetManagerContainer.ContainerState H (·._assetName) (toContainer manager')
        manager'._assetPool.data
        (results ++ [(manager._assetHash.tryInsert H asset._assetName.1 v).1]) := by
  obtain ⟨pool, hpush, hdata, hcap'⟩ := PooledList.pushBackCapacity_eq hcap hsize asset
  rw [insertNewMaterial_eq, hpush]
  refine ⟨_, toUint32 ((pool.getSize : Int) - 1), rfl, hcap', hdata, ?_⟩
  show AssetManagerContainer.ContainerState H _ _ pool.data _
  rw [hdata]
  exact hstate.insert (by omega) hdata

theorem new_some {name : CStr} (hshort : name.strlen < ASSET_NAME_LEN_MAX)
    (source : Option SceneMaterial) :
    SSPbrMaterialAsset.new name source = some ⟨⟨name, hshort⟩, source⟩ := by
  rw [SSPbrMaterialAsset.new, dif_pos hshort]

/-- The state that a scene is loaded in. -/
theorem createTempMaterials_some (H : CStr → UInt64 → UInt64) (rawSlots : Nat → Nat)
    {poolCapacity hashCapacity : Nat} (hpool : 0 < poolCapacity) (hhash : 0 < hashCapacity)
    (limit : Nat) (seed : UInt64) :
    ∃ start r,
      createTempMaterials H (.new rawSlots poolCapacity hashCapacity limit seed) = some start ∧
      Registered H start [] [r] := by
  have hstate := AssetManagerContainer.containerState_new H SSPbrMaterialAsset._assetName rawSlots
    poolCapacity hhash limit seed
  obtain ⟨start, v, hinsert, hcap, hdata, hstate'⟩ := insertNewMaterial_some
    (.new rawSlots poolCapacity hashCapacity limit seed) hpool hstate (show 0 < 2 ^ 31 by decide)
    ⟨⟨SSDefaultPbr, by decide⟩, none⟩
  refine ⟨start, _, ?_, hcap, hstate', ?_, ?_⟩
  · rw [createTempMaterials, new_some (by decide)]
    exact hinsert
  · rw [hdata]
    rfl
  · rw [hdata]
    intro asset hmem
    rw [List.mem_singleton.mp hmem]
    rfl

theorem Registered.length (h : Registered H manager done results) :
    manager._assetPool.data.length = done.length + 1 := by
  have hlen := congrArg List.length h.sources
  rwa [List.length_map, List.length_cons, List.length_map] at hlen

/-- Where an insertion under the key of a material has put it. -/
theorem Registered.insertedAt (h : Registered H manager done results) {idx : Nat}
    (hin : AssetManagerContainer.InsertedAt (·._assetName) manager._assetPool.data results
      (materialKey material) idx) :
    ∃ j, done[j]? = some material ∧ results[j + 1]? = some .success := by
  obtain ⟨asset, hidx, hname, hsuccess⟩ := hin
  have hsource := (h.named asset (List.mem_of_getElem? hidx)).source_eq hname
  have hat : (none :: done.map some)[idx]? = some (some material) := by
    rw [← h.sources, List.getElem?_map, hidx, Option.map_some, hsource]
  cases idx with
  | zero => cases hat
  | succ j =>
    rw [List.getElem?_cons_succ, List.getElem?_map, Option.map_eq_some_iff] at hat
    obtain ⟨material', hj, hsome⟩ := hat
    cases hsome
    exact ⟨j, hj, hsuccess⟩

theorem validKey_materialKey (hshort : (materialKey material).strlen < ASSET_NAME_LEN_MAX) :
    StringHashMapA.ValidKey PATH_LEN_MAX (materialKey material) := by
  have hpos := List.length_pos_of_mem (underscore_mem_materialKey material)
  refine ⟨hpos.ne', hshort.trans (by decide)⟩

/-- The hash map takes the key of a new material exactly when it has room. -/
theorem Registered.success_iff (h : Registered H manager done results) (hnew : material ∉ done)
    (hshort : (materialKey material).strlen < ASSET_NAME_LEN_MAX) (v : Nat) :
    (manager._assetHash.tryInsert H (materialKey material) v).1 = .success ↔
      FindsRoom H manager material := by
  have hinsertable := h.state.success_iff (materialKey material) v
  refine hinsertable.trans ⟨fun hins => hins.2.2, fun hroom => ?_⟩
  refine ⟨validKey_materialKey hshort, fun p hp hheld => hnew ?_, hroom⟩
  obtain ⟨idx, hin⟩ := h.state.inserted_of_holds hp hheld
  obtain ⟨j, hj, _⟩ := h.insertedAt hin
  exact List.mem_of_getElem? hj

/-- One turn of the loop. -/
theorem Registered.step (h : Registered H manager done results)
    (raw : SceneMaterial → FixedString UInt8 ASSET_NAME_LEN_MAX)
    (hsize : done.length + 1 < 2 ^ 31) (hfits : TextFits material)
    (hshort : (materialKey material).strlen < ASSET_NAME_LEN_MAX) (hnew : material ∉ done) :
    ∃ manager' r, importMaterial H raw manager material = some manager' ∧
      Registered H manager' (done ++ [material]) (results ++ [r]) ∧
      (FindsRoom H manager material ↔ r = .success) := by
  obtain ⟨assetName, hbuild, hname⟩ := buildAssetName_some (raw material) hfits hshort
  obtain ⟨manager', v, hinsert, hcap, hdata, hstate⟩ := insertNewMaterial_some manager h.capacity
    h.state (h.length.symm ▸ hsize) ⟨⟨materialKey material, hshort⟩, some material⟩
  refine ⟨manager', _, ?_, ⟨hcap, hstate, ?_, ?_⟩, (h.success_iff hnew hshort v).symm⟩
  · rw [importMaterial, hbuild]
    show (SSPbrMaterialAsset.new (toCStr assetName) (some material)).bind _ = _
    rw [hname, new_some hshort]
    exact hinsert
  · rw [hdata, List.map_append, h.sources, List.map_append]
    rfl
  · rw [hdata]
    intro asset hmem
    rcases List.mem_append.mp hmem with hold | hlast
    · exact h.named asset hold
    · rw [List.mem_singleton.mp hlast]
      rfl

/-- By induction on the materials, with those registered so far. -/
theorem Registered.run (raw : SceneMaterial → FixedString UInt8 ASSET_NAME_LEN_MAX)
    (h : Registered H manager done results) (hsize : done.length + materials.length < 2 ^ 31)
    (hfits : ∀ material ∈ materials, TextFits material)
    (hshort : ∀ material ∈ materials, (materialKey material).strlen < ASSET_NAME_LEN_MAX)
    (hnodup : (done ++ materials).Nodup) :
    ∃ manager' results',
      importCurrentSceneToMaterialAsset H raw manager materials = some manager' ∧
      Registered H manager' (done ++ materials) (results ++ results') ∧
      (Each (importMaterial H raw) (FindsRoom H) manager materials ↔
        ∀ r ∈ results', r = .success) := by
  induction materials generalizing manager done results with
  | nil =>
    refine ⟨manager, [], rfl, ?_, iff_of_true trivial (fun r hr => absurd hr List.not_mem_nil)⟩
    rwa [List.append_nil, List.append_nil]
  | cons material rest ih =>
    rw [List.length_cons] at hsize
    have hnew : material ∉ done := fun hmem =>
      (List.nodup_append.mp hnodup).2.2 material hmem material List.mem_cons_self rfl
    obtain ⟨manager1, r, hstep, hreg, hroom⟩ := h.step raw (by omega)
      (hfits material List.mem_cons_self) (hshort material List.mem_cons_self) hnew
    have hsplit : done ++ material :: rest = (done ++ [material]) ++ rest := by simp
    obtain ⟨manager', results', hrun, hreg', heach⟩ := ih hreg
      (by rw [List.length_append, List.length_singleton]; omega)
      (fun m hm => hfits m (List.mem_cons_of_mem material hm))
      (fun m hm => hshort m (List.mem_cons_of_mem material hm)) (hsplit ▸ hnodup)
    refine ⟨manager', r :: results', ?_, ?_, ?_⟩
    · rw [importCurrentSceneToMaterialAsset, List.foldlM_cons, hstep]
      exact hrun
    · rw [List.append_cons, List.append_cons results]
      exact hreg'
    · rw [List.forall_mem_cons, ← heach, ← hroom, Each]
      refine and_congr_right fun _ => ⟨fun hrest => hrest manager1 hstep, fun hrest s hs => ?_⟩
      rw [hstep] at hs
      cases hs
      exact hrest

theorem findNodeMaterial_eq (raw : SceneMaterial → FixedString UInt8 ASSET_NAME_LEN_MAX)
    (manager : MaterialManager) (hfits : TextFits material)
    (hshort : (materialKey material).strlen < ASSET_NAME_LEN_MAX) :
    findNodeMaterial H raw manager material
      = (toContainer manager).findAssetWithName H (materialKey material) := by
  obtain ⟨assetName, hbuild, hname⟩ := buildAssetName_some (raw material) hfits hshort
  rw [findNodeMaterial, hbuild]
  show findMaterialWithNameInternal H manager (toCStr assetName) = _
  rw [hname, findMaterialWithNameInternal_eq]

/-- A lookup finds the asset of its material exactly when that could be entered in the hash map. -/
theorem Registered.found_iff {r : InsertResult} (h : Registered H manager done (r :: results))
    (hnodup : done.Nodup) {j : Nat} (hj : done[j]? = some material) :
    (∃ asset, IsAssetOf asset material ∧
        (toContainer manager).findAssetWithName H (materialKey material) = some (some asset)) ↔
      results[j]? = some .success := by
  have hfinds := h.state.findsInserted
  constructor
  · rintro ⟨asset, _, hfind⟩
    by_contra hfail
    have hnone := hfinds.missing (materialKey material) fun idx hin => by
      obtain ⟨j', hj', hsuccess⟩ := h.insertedAt hin
      have hlt := (List.getElem?_eq_some_iff.mp hj).1
      rw [(List.getElem?_inj hlt hnodup).mp (hj.trans hj'.symm)] at hfail
      exact hfail hsuccess
    rw [hnone] at hfind
    cases hfind
  · intro hsuccess
    have hat : (manager._assetPool.data.map (·.source))[j + 1]? = some (some material) := by
      rw [h.sources, List.getElem?_cons_succ, List.getElem?_map, hj]
      rfl
    rw [List.getElem?_map, Option.map_eq_some_iff] at hat
    obtain ⟨asset, hasset, hsource⟩ := hat
    have hnamed := h.named asset (List.mem_of_getElem? hasset)
    rw [NamedBySource, hsource] at hnamed
    refine ⟨asset, ⟨hsource, hnamed⟩, ?_⟩
    have hfind := hfinds.by_name (j + 1) asset hasset hsuccess
    rwa [hnamed] at hfind

theorem Registered.all_found_iff {r : InsertResult} (h : Registered H manager done (r :: results))
    (hnodup : done.Nodup) :
    (∀ material ∈ done, ∃ asset, IsAssetOf asset material ∧
        (toContainer manager).findAssetWithName H (materialKey material) = some (some asset)) ↔
      ∀ s ∈ results, s = .success := by
  have hlen : results.length = done.length := by
    have hresults := h.state.length
    rw [h.length, List.length_cons] at hresults
    exact Nat.succ.inj hresults
  constructor
  · intro hfound s hs
    obtain ⟨j, hj⟩ := List.mem_iff_getElem?.mp hs
    have hlt : j < done.length := hlen ▸ (List.getElem?_eq_some_iff.mp hj).1
    have hat := List.getElem?_eq_getElem hlt
    have hsuccess := (h.found_iff hnodup hat).mp (hfound _ (List.getElem_mem hlt))
    rw [hj] at hsuccess
    exact Option.some.inj hsuccess
  · intro hall material hmem
    obtain ⟨j, hj⟩ := List.mem_iff_getElem?.mp hmem
    have hlt : j < results.length := hlen.symm ▸ (List.getElem?_eq_some_iff.mp hj).1
    refine (h.found_iff hnodup hj).mpr ?_
    rw [List.getElem?_eq_getElem hlt, hall _ (List.getElem_mem hlt)]

theorem keys_differ (hids : (materials.map (·.uniqueID)).Nodup) :
    materials.Pairwise fun a b => materialKey a ≠ materialKey b := by
  have hpairs : materials.Pairwise fun a b => a.uniqueID ≠ b.uniqueID := List.pairwise_map.mp hids
  refine hpairs.imp fun hne heq => hne ?_
  rw [materialKey_injective heq]

/-- For all materials with ids and names as they should be, and every hash function: the texts fit,
the keys differ and the lookups find their materials exactly when every id has a text of at most
nine characters and every key finds room in the hash map. -/
theorem material_keys_iff (H : CStr → UInt64 → UInt64)
    (raw raw' : SceneMaterial → FixedString UInt8 ASSET_NAME_LEN_MAX) (rawSlots : Nat → Nat)
    (poolCapacity hashCapacity : Nat) (hpool : 1 ≤ poolCapacity) (hhash : 1 ≤ hashCapacity)
    (hashCollisionLimit : Nat) (hashSeed : UInt64) (materials : List SceneMaterial)
    (hsize : materials.length < 2 ^ 31) (hids : (materials.map (·.uniqueID)).Nodup)
    (hshort : ∀ material ∈ materials, (materialKey material).strlen < ASSET_NAME_LEN_MAX) :
    ∃ start, createTempMaterials H
        (.new rawSlots poolCapacity hashCapacity hashCollisionLimit hashSeed) = some start ∧
      (KeysFind H raw raw' start materials ↔
        (∀ material ∈ materials, -99999999 ≤ material.idValue ∧ material.idValue ≤ 999999999) ∧
          Each (importMaterial H raw) (FindsRoom H) start materials) := by
  obtain ⟨start, r, hstart, hreg⟩ := createTempMaterials_some H rawSlots hpool hhash
    hashCollisionLimit hashSeed
  have hnodup : materials.Nodup := List.Nodup.of_map _ hids
  have hbounds : (∀ material ∈ materials, TextFits material) ↔
      ∀ material ∈ materials, -99999999 ≤ material.idValue ∧ material.idValue ≤ 999999999 :=
    forall₂_congr fun _ _ => textFits_iff
  refine ⟨start, hstart, ?_⟩
  rw [← hbounds]
  by_cases hfits : ∀ material ∈ materials, TextFits material
  · obtain ⟨manager, results, hrun, hreg', heach⟩ := hreg.run raw
      (by rwa [List.length_nil, Nat.zero_add]) hfits hshort hnodup
    have hreg' : Registered H manager materials (r :: results) := hreg'
    rw [heach, and_iff_right hfits, ← hreg'.all_found_iff hnodup]
    have hfind : ∀ material ∈ materials, findNodeMaterial H raw' manager material
        = (toContainer manager).findAssetWithName H (materialKey material) :=
      fun material hmem =>
        findNodeMaterial_eq raw' manager (hfits material hmem) (hshort material hmem)
    constructor
    · intro h material hmem
      obtain ⟨manager', hrun', hfound⟩ := h.found
      cases Option.some.inj (hrun.symm.trans hrun')
      rw [← hfind material hmem]
      exact hfound material hmem
    · intro hfound
      refine ⟨hfits, keys_differ hids, manager, hrun, fun material hmem => ?_⟩
      rw [hfind material hmem]
      exact hfound material hmem
  · exact iff_of_false (fun h => hfits h.texts_fit) (fun h => hfits h.1)

/-- `"a_1"` with the id 2, and `"a"` with the id 12. -/
def underscoreFirst : SceneMaterial := ⟨⟨[byteOf 'a', byteOf '_', byteOf '1'], by decide⟩, 2⟩
def underscoreSecond : SceneMaterial := ⟨⟨[byteOf 'a'], by decide⟩, 12⟩

def noMemory (_ : SceneMaterial) : FixedString UInt8 ASSET_NAME_LEN_MAX :=
  blank UInt8 ASSET_NAME_LEN_MAX

/-- The length of a name as its hash. -/
def lengthHash (name : CStr) (_ : UInt64) : UInt64 := UInt64.ofNat name.strlen

theorem material_keys_iff_two :
    ∃ start, createTempMaterials lengthHash (.new (fun _ => 0) 1 20 1 0) = some start ∧
      KeysFind lengthHash noMemory noMemory start [underscoreFirst, underscoreSecond] := by
  have hfirst : ∀ s ∈ createTempMaterials lengthHash (.new (fun _ => 0) 1 20 1 0),
      FindsRoom lengthHash s underscoreFirst := by decide +kernel
  have hsecond : ∀ s ∈ (createTempMaterials lengthHash (.new (fun _ => 0) 1 20 1 0)).bind
      fun s => importMaterial lengthHash noMemory s underscoreFirst,
      FindsRoom lengthHash s underscoreSecond := by decide +kernel
  obtain ⟨start, hstart, hiff⟩ := material_keys_iff lengthHash noMemory noMemory (fun _ => 0) 1 20
    (by decide) (by decide) 1 0 [underscoreFirst, underscoreSecond] (by decide) (by decide)
    (by decide)
  rw [hstart] at hfirst hsecond
  rw [Option.bind_some] at hsecond
  refine ⟨start, hstart, hiff.mpr ⟨by decide, hfirst start rfl, fun s1 h1 => ?_⟩⟩
  exact ⟨hsecond s1 (Option.mem_def.mpr h1), fun _ _ => trivial⟩

/-- A text of ten digits. -/
def tenDigits : SceneMaterial := ⟨⟨[byteOf 'a'], by decide⟩, 1000000000⟩

theorem ten_digits_overflow :
    ∃ start, createTempMaterials lengthHash (.new (fun _ => 0) 1 20 1 0) = some start ∧
      ¬ KeysFind lengthHash noMemory noMemory start [tenDigits] := by
  obtain ⟨start, r, hstart, _⟩ := createTempMaterials_some lengthHash (fun _ => 0)
    Nat.one_pos (show 0 < 20 by decide) 1 0
  refine ⟨start, hstart, fun h => ?_⟩
  have hmem : tenDigits ∈ [tenDigits] := List.mem_singleton_self tenDigits
  have hfits : TextFits tenDigits := h.texts_fit tenDigits hmem
  exact absurd (textFits_iff.mp hfits).2 (by decide)

end Runs

end FBXRenderer
