import FBXRenderer.Importer.AssetTree

/-!
# FBXRenderer.Importer.SceneTaken

Which scenes are imported. A step of the import can fail at a mesh that cannot be made a geometry,
at a name that does not fit its array, at a material whose shader is not there, and at a full pool;
none of these depends on the order of the meshes, except that the pools fill up.

* `setMaterials_isSome_iff`, `importMesh_isSome_iff`: when one mesh node is imported.
* `importMeshes_isSome_iff`: when all the mesh nodes of a scene are, one after the other.
* `asset_tree_imported_iff`: exactly then the scene becomes the tree of its placeable assets.
-/

namespace FBXRenderer

open SS

section Lookups

/-- Two managers that answer the same names with the same indices, of pools of one size. -/
structure SameLookups (before after : SSMaterialAssetManager) : Prop where
  hash : after._assetHash = before._assetHash
  size : after._assetPool.getSize = before._assetPool.getSize

theorem SameLookups.refl (manager : SSMaterialAssetManager) : SameLookups manager manager :=
  ⟨rfl, rfl⟩

theorem SameLookups.trans {m1 m2 m3 : SSMaterialAssetManager} (h : SameLookups m1 m2)
    (h' : SameLookups m2 m3) : SameLookups m1 m3 :=
  ⟨h'.hash.trans h.hash, h'.size.trans h.size⟩

variable {shaders : List SSShaderAsset} {manager manager' : SSMaterialAssetManager}

theorem changeShader_lookups {name : String} {m : Nat}
    (h : manager.changeShader shaders name m = some manager') : SameLookups manager manager' := by
  unfold SSMaterialAssetManager.changeShader at h
  obtain ⟨assetPool, hmodify, rfl⟩ := Option.map_eq_some_iff.mp h
  exact ⟨rfl, (PooledList.modify_some hmodify).size⟩

/-- `ChangeShader` needs the material in the pool, and a shader of that name. -/
theorem changeShader_isSome_iff (shaders : List SSShaderAsset) (manager : SSMaterialAssetManager)
    (name : String) (m : Nat) :
    (manager.changeShader shaders name m).isSome ↔ m < manager._assetPool.getSize ∧
      (SSShaderAssetManager.findShaderWithName shaders name).isSome := by
  unfold SSMaterialAssetManager.changeShader
  rw [Option.isSome_map]
  constructor
  · intro h
    obtain ⟨assetPool, hmodify⟩ := Option.isSome_iff_exists.mp h
    obtain ⟨material, hfound⟩ := PooledList.modify_found hmodify
    obtain ⟨material', hchange, _⟩ := (PooledList.modify_some hmodify).here material hfound
    refine ⟨(List.getElem?_eq_some_iff.mp hfound).1, ?_⟩
    unfold SSMaterialAsset.changeShader at hchange
    split at hchange
    · cases hchange
    · rename_i hshader
      rw [hshader]
      rfl
  · rintro ⟨hlt, hshader⟩
    obtain ⟨shader, hshader⟩ := Option.isSome_iff_exists.mp hshader
    have hfound : manager._assetPool.data[m]? = some manager._assetPool.data[m] :=
      List.getElem?_eq_getElem hlt
    obtain ⟨material', hchange⟩ : ∃ material', SSMaterialAsset.changeShader shaders name
        manager._assetPool.data[m] = some material' := by
      unfold SSMaterialAsset.changeShader
      rw [hshader]
      dsimp only
      split
      · exact ⟨_, rfl⟩
      · exact ⟨_, rfl⟩
    obtain ⟨assetPool, hmodify, _⟩ := PooledList.modify_eq hfound hchange
    rw [hmodify]
    rfl

end Lookups

section Materials

variable {shaders : List SSShaderAsset} {manager manager' : SSMaterialAssetManager}

/-- The name of the material fits; and where a skinned mesh finds the material under it, the
material and the shader that it is given are there. -/
structure MaterialTaken (shaders : List SSShaderAsset) (manager : SSMaterialAssetManager)
    (meshType : EMeshType) (material : FbxSurfaceMaterial) : Prop where
  name_fits : material.NameFits
  shader : meshType = .Skinned → ∀ m, manager._assetHash material.assetName = some m →
    m < manager._assetPool.getSize ∧ (SSShaderAssetManager.findShaderWithName shaders
      SSShaderAssetManager.SSDefaultPbrSkinnedShaderName).isSome

theorem MaterialTaken.of_lookups {meshType : EMeshType} {material : FbxSurfaceMaterial}
    (h : SameLookups manager manager') :
    MaterialTaken shaders manager' meshType material ↔
      MaterialTaken shaders manager meshType material := by
  constructor
  · rintro ⟨hname, hshader⟩
    rw [h.hash, h.size] at hshader
    exact ⟨hname, hshader⟩
  · rintro ⟨hname, hshader⟩
    refine ⟨hname, ?_⟩
    rw [h.hash, h.size]
    exact hshader

theorem fitMaterial_lookups {newGeometry : SSGeometryAsset} {m : Nat}
    (h : fitMaterial shaders manager newGeometry m = some manager') :
    SameLookups manager manager' := by
  unfold fitMaterial at h
  split at h
  · exact changeShader_lookups h
  · cases h
    exact SameLookups.refl manager

theorem fitMaterial_isSome_iff (newGeometry : SSGeometryAsset) (m : Nat) :
    (fitMaterial shaders manager newGeometry m).isSome ↔
      (newGeometry._meshType = .Skinned → m < manager._assetPool.getSize ∧
        (SSShaderAssetManager.findShaderWithName shaders
          SSShaderAssetManager.SSDefaultPbrSkinnedShaderName).isSome) := by
  unfold fitMaterial
  split
  · rename_i hskin
    rw [changeShader_isSome_iff]
    exact ⟨fun h _ => h, fun h => h hskin⟩
  · rename_i hskin
    exact iff_of_true rfl fun h => absurd h hskin

theorem setMaterials_lookups : ∀ (materials : List FbxSurfaceMaterial) {i : Nat}
    {manager manager' : SSMaterialAssetManager} {model model' : SSModelAsset},
    setMaterials shaders materials i manager model = some (manager', model') →
      SameLookups manager manager' := by
  intro materials
  induction materials with
  | nil =>
    intro i manager manager' model model' h
    cases h
    exact SameLookups.refl manager
  | cons material rest ih =>
    intro i manager manager' model model' h
    unfold setMaterials at h
    rw [Option.ite_none_right_eq_some] at h
    obtain ⟨_, h⟩ := h
    split at h
    · exact ih h
    · obtain ⟨manager1, hfit, hrest⟩ := Option.bind_eq_some_iff.mp h
      exact (fitMaterial_lookups hfit).trans (ih hrest)

/-- By induction on the materials: the shader of a material before may have changed, which no
lookup sees. -/
theorem setMaterials_isSome_iff : ∀ (materials : List FbxSurfaceMaterial) (i : Nat)
    (manager : SSMaterialAssetManager) (model : SSModelAsset),
    (setMaterials shaders materials i manager model).isSome ↔
      ∀ material ∈ materials, MaterialTaken shaders manager model._geometry._meshType material := by
  intro materials
  induction materials with
  | nil => exact fun i manager model => iff_of_true rfl fun _ h => nomatch h
  | cons material rest ih =>
    intro i manager model
    rw [List.forall_mem_cons]
    unfold setMaterials
    by_cases hname : material.NameFits
    case neg =>
      rw [if_neg hname]
      exact iff_of_false Bool.false_ne_true fun h => hname h.1.name_fits
    rw [if_pos hname]
    unfold SSMaterialAssetManager.findAssetWithName
    cases hfind : manager._assetHash material.assetName with
    | none =>
      have htaken : MaterialTaken shaders manager model._geometry._meshType material :=
        ⟨hname, fun _ m hm => by rw [hfind] at hm; cases hm⟩
      simp only [ih, setMaterial_geometry, htaken, true_and]
    | some modelMaterial =>
      have hiff : MaterialTaken shaders manager model._geometry._meshType material ↔
          (fitMaterial shaders manager model._geometry modelMaterial).isSome := by
        rw [fitMaterial_isSome_iff]
        constructor
        · exact fun h hskin => h.shader hskin modelMaterial hfind
        · intro h
          refine ⟨hname, fun hskin m hm => ?_⟩
          rw [hfind] at hm
          cases hm
          exact h hskin
      rw [hiff]
      dsimp only [Option.bind_eq_bind]
      cases hfit : fitMaterial shaders manager model._geometry modelMaterial with
      | none => simp
      | some manager1 =>
        have hsame := fitMaterial_lookups hfit
        simp only [Option.bind_some, ih, setMaterial_geometry, MaterialTaken.of_lookups hsame,
          Option.isSome_some, true_and]

end Materials

section Meshes

variable {K : Type} [Field K] [LinearOrder K] {ctx : ImportContext K}
  {shaders : List SSShaderAsset}

theorem generateMesh_fits {fbxMesh : FbxSceneMesh K} {geometry : SSGeometryAsset}
    (h : generateMesh ctx fbxMesh = some geometry) :
    FitsAssetName (ctx._fileName ++ "_" ++ fbxMesh.nodeName ++ ".geom") := by
  have hfinish : ∀ meshType layout, finishGeometry ctx fbxMesh meshType layout = some geometry →
      FitsAssetName (ctx._fileName ++ "_" ++ fbxMesh.nodeName ++ ".geom") := by
    intro meshType layout h
    unfold finishGeometry at h
    rw [Option.ite_none_right_eq_some] at h
    obtain ⟨assetName, hname, _⟩ := Option.bind_eq_some_iff.mp h.2
    exact (fixedAssetName_eq_some.mp hname).1
  unfold generateMesh at h
  split at h
  · unfold generateGeometryFromFbxMesh at h
    simp only [Option.bind_eq_bind, Option.bind_eq_some_iff] at h
    obtain ⟨_, _, layout, _, h⟩ := h
    exact hfinish _ layout h
  · unfold generateSkinnedGeometryFromFbxMesh at h
    simp only [Option.bind_eq_bind, Option.bind_eq_some_iff] at h
    obtain ⟨_, _, _, _, _, _, _, _, h⟩ := h
    rw [Option.ite_none_right_eq_some] at h
    obtain ⟨layout, _, h⟩ := Option.bind_eq_some_iff.mp h.2
    exact hfinish _ layout h

/-- The name of a model is shorter than that of its geometry. -/
theorem fits_mdl_of_geom {name : String} (h : FitsAssetName (name ++ ".geom")) :
    FitsAssetName (name ++ ".mdl") := by
  have hgeom : (".geom" : String).utf8ByteSize = 5 := by decide
  have hmdl : (".mdl" : String).utf8ByteSize = 4 := by decide
  unfold FitsAssetName at h ⊢
  rw [String.utf8ByteSize_append] at h ⊢
  omega

variable (ctx shaders) in
/-- The mesh of a node can be made a geometry, whose name fits, and its materials can be set. -/
structure MeshTaken (manager : SSMaterialAssetManager) (e : FbxNode K × FbxSceneMesh K) :
    Prop where
  name_fits : FitsAssetName (ctx._fileName ++ "_" ++ e.2.nodeName ++ ".geom")
  geometry : (generateMesh ctx e.2).isSome
  materials : ∀ material ∈ e.1.materials, MaterialTaken shaders manager e.2.meshType material

theorem importMesh_isSome_iff (s : ImportState K) (e : FbxNode K × FbxSceneMesh K) :
    (importMesh ctx shaders s e.1 e.2).isSome ↔
      MeshTaken ctx shaders s.materials e ∧ s.models.length < meshPoolCapacity := by
  unfold importMesh
  cases hgeometry : generateMesh ctx e.2 with
  | none =>
    refine iff_of_false Bool.false_ne_true fun h => ?_
    have hsome := h.1.geometry
    rw [hgeometry] at hsome
    cases hsome
  | some newGeometry =>
    have hgeom := generateMesh_fits hgeometry
    have htype := (generateMesh_some hgeometry).1
    have htaken : MeshTaken ctx shaders s.materials e ↔ ∀ material ∈ e.1.materials,
        MaterialTaken shaders s.materials newGeometry._meshType material := by
      rw [htype]
      exact ⟨fun h => h.materials, fun h => ⟨hgeom, by rw [hgeometry]; rfl, h⟩⟩
    simp only [fixedAssetName_of_fits (fits_mdl_of_geom hgeom), Option.bind_eq_bind,
      Option.bind_some]
    rw [htaken, ← setMaterials_isSome_iff e.1.materials 0 s.materials
      ⟨_, newGeometry, fun _ => none⟩]
    cases setMaterials shaders e.1.materials 0 s.materials _ with
    | none => simp
    | some r =>
      simp only [Option.bind_some, Option.isSome_some, true_and]
      unfold insertNewModel
      split
      · rename_i hlt
        exact iff_of_true rfl hlt
      · rename_i hlt
        exact iff_of_false Bool.false_ne_true hlt

/-- What a mesh leaves for the next one. -/
theorem importMesh_leaves {s s' : ImportState K} {e : FbxNode K × FbxSceneMesh K}
    (h : importMesh ctx shaders s e.1 e.2 = some s') :
    s'.models.length = s.models.length + 1 ∧ SameLookups s.materials s'.materials := by
  refine ⟨(importMesh_some h).models_length, ?_⟩
  unfold importMesh at h
  simp only [Option.bind_eq_bind, Option.bind_eq_some_iff] at h
  obtain ⟨_, _, _, _, ⟨materials, model⟩, hset, _, _, heq⟩ := h
  cases heq
  exact setMaterials_lookups _ hset

theorem MeshTaken.of_lookups {manager manager' : SSMaterialAssetManager}
    {e : FbxNode K × FbxSceneMesh K} (h : SameLookups manager manager') :
    MeshTaken ctx shaders manager' e ↔ MeshTaken ctx shaders manager e := by
  constructor
  · rintro ⟨hname, hgeometry, hmaterials⟩
    exact ⟨hname, hgeometry, fun material hm =>
      (MaterialTaken.of_lookups h).mp (hmaterials material hm)⟩
  · rintro ⟨hname, hgeometry, hmaterials⟩
    exact ⟨hname, hgeometry, fun material hm =>
      (MaterialTaken.of_lookups h).mpr (hmaterials material hm)⟩

/-- There is room for the models of `n` more meshes. -/
def PoolsHaveRoom (models : List SSModelAsset) (n : Nat) : Prop :=
  n = 0 ∨ models.length + n ≤ meshPoolCapacity

theorem importMeshes_isSome_iff : ∀ (nodes : List (FbxNode K × FbxSceneMesh K))
    (s : ImportState K), (importMeshes ctx shaders s nodes).isSome ↔
      (∀ e ∈ nodes, MeshTaken ctx shaders s.materials e) ∧
        PoolsHaveRoom s.models nodes.length := by
  intro nodes
  induction nodes with
  | nil => exact fun s => iff_of_true rfl ⟨fun _ h => (nomatch h), Or.inl rfl⟩
  | cons e nodes ih =>
    intro s
    have hone : (importMesh ctx shaders s e.1 e.2).isSome ↔ _ := importMesh_isSome_iff s e
    rw [importMeshes_cons, List.forall_mem_cons, PoolsHaveRoom, List.length_cons]
    cases hmesh : importMesh ctx shaders s e.1 e.2 with
    | none =>
      rw [hmesh] at hone
      refine iff_of_false Bool.false_ne_true fun h => ?_
      exact absurd (hone.mpr ⟨h.1.1, by omega⟩) Bool.false_ne_true
    | some s1 =>
      rw [hmesh] at hone
      obtain ⟨htaken, hlt⟩ := hone.mp rfl
      obtain ⟨hlength, hsame⟩ := importMesh_leaves hmesh
      simp only [Option.bind_some, ih s1, MeshTaken.of_lookups hsame, htaken, true_and,
        PoolsHaveRoom, hlength]
      refine and_congr_right fun _ => ?_
      omega

end Meshes

section Scene

variable {K : Type} [Field K] [LinearOrder K]

/-- The import ends, and the placeable assets are then the tree of the scene. -/
def AssetTreeImported (ctx : ImportContext K) (shaders : List SSShaderAsset)
    (models : List SSModelAsset) (materials : SSMaterialAssetManager) (rootNode : FbxNode K) :
    Prop :=
  ∃ s', importCurrentSceneToModelAsset ctx shaders models materials rootNode = some s' ∧
    IsAssetTree (sceneAssetTree ctx._fileName models.length rootNode) s'.placeables

/-- The name of the root asset fits, every mesh node outside the skeletons can be imported, and the
two pools have room for what is made of them. -/
structure SceneTaken (ctx : ImportContext K) (shaders : List SSShaderAsset)
    (models : List SSModelAsset) (materials : SSMaterialAssetManager) (rootNode : FbxNode K) :
    Prop where
  name_fits : FitsAssetName (ctx._fileName ++ ".mdlc")
  meshes : ∀ e ∈ meshNodesChilds rootNode.childs, MeshTaken ctx shaders materials e
  room : PoolsHaveRoom models (meshNodesChilds rootNode.childs).length

theorem importScene_taken_iff (ctx : ImportContext K) (shaders : List SSShaderAsset)
    (models : List SSModelAsset) (materials : SSMaterialAssetManager) (rootNode : FbxNode K) :
    (importCurrentSceneToModelAsset ctx shaders models materials rootNode).isSome ↔
      SceneTaken ctx shaders models materials rootNode := by
  rw [importScene_isSome_iff, importMeshes_isSome_iff]
  exact ⟨fun h => ⟨h.1, h.2.1, h.2.2⟩, fun h => ⟨h.name_fits, h.meshes, h.room⟩⟩

/-- A scene of any shape becomes the tree of its placeable assets exactly when its names fit, its
meshes can be imported and the pools have room for them; the links between the assets are never the
reason that it does not. -/
theorem asset_tree_imported_iff (ctx : ImportContext K) (shaders : List SSShaderAsset)
    (models : List SSModelAsset) (materials : SSMaterialAssetManager) (rootNode : FbxNode K) :
    AssetTreeImported ctx shaders models materials rootNode ↔
      SceneTaken ctx shaders models materials rootNode := by
  rw [← importScene_taken_iff]
  constructor
  · rintro ⟨s', hs', _⟩
    rw [hs']
    rfl
  · intro h
    obtain ⟨s', hs'⟩ := Option.isSome_iff_exists.mp h
    exact ⟨s', hs', asset_tree_imported hs'⟩

end Scene

section Street

/-- A skeleton with a mesh below it, a mesh and a group. -/
def mixedScene : FbxNode ℚ :=
  groupNode "root" [jointNode "hand" [triangleNode "glove" []], triangleNode "table" [],
    groupNode "group" [jointNode "foot" []]]

example : (importCurrentSceneToModelAsset sharedContext [pbrShader, pbrSkinnedShader] []
    twoMaterials mixedScene).isSome = true := by decide +kernel

/-- A street of `n` houses with one mesh each. -/
def streetScene (n : Nat) : FbxNode ℚ :=
  groupNode "street" ((List.range n).map fun i => triangleNode (toString i) [])

theorem streetScene_meshes (n : Nat) :
    (meshNodesChilds (streetScene n).childs).length = n := by
  have hchilds : ∀ numbers : List Nat, (meshNodesChilds
      (numbers.map fun i => triangleNode (toString i) [])).length = numbers.length := by
    intro numbers
    induction numbers with
    | nil => rfl
    | cons i numbers ih =>
      rw [List.map_cons, meshNodesChilds, List.length_append, ih, List.length_cons, Nat.add_comm]
      rfl
  rw [streetScene, groupNode, hchilds, List.length_range]

/-- The house after the thousandth finds the pools full. -/
theorem street_not_imported :
    ¬ AssetTreeImported sharedContext [pbrShader, pbrSkinnedShader] [] twoMaterials
      (streetScene 1001) := by
  rintro ⟨s', hs', _⟩
  have htaken := (importScene_taken_iff sharedContext [pbrShader, pbrSkinnedShader] []
    twoMaterials (streetScene 1001)).mp (by rw [hs']; rfl)
  have hroom := htaken.room
  rw [streetScene_meshes] at hroom
  exact absurd hroom (by simp [PoolsHaveRoom, meshPoolCapacity])

end Street

end FBXRenderer
