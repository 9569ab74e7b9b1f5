import FBXRenderer.Importer.Traverse

/-!
# FBXRenderer.Importer.TraverseShaders

What the traversal does to models and materials. Every mesh node outside the skeletons becomes one
model, and `ChangeShader` is called on the materials that skinned nodes find, and on nothing else.

* `setMaterials_some`: the material loop of one model.
* `traverseChilds_processed`: the models made, and the shaders after the traversal.
-/

namespace FBXRenderer

open SS

section Spec

variable {K : Type}

mutual

/-- The nodes that become models: skeleton nodes are left out with everything below them. -/
def meshNodes : FbxNode K → List (FbxNode K × FbxSceneMesh K)
  | ⟨name, nodeAttribute, materials, fbxMat, childs⟩ =>
    match nodeAttribute with
    | some (.eMesh fbxMesh) =>
      (⟨name, nodeAttribute, materials, fbxMat, childs⟩, fbxMesh) :: meshNodesChilds childs
    | some (.eSkeleton _) => []
    | _ => meshNodesChilds childs

def meshNodesChilds : List (FbxNode K) → List (FbxNode K × FbxSceneMesh K)
  | [] => []
  | child :: rest => meshNodes child ++ meshNodesChilds rest

end

/-- The materials of a node that are found under their names. -/
def foundMaterials (hash : String → Option Nat) (materials : List FbxSurfaceMaterial) : List Nat :=
  materials.filterMap fun material => hash material.assetName

/-- The material in slot `i` of a node's model: the one found, or the fallback. -/
def slotMaterial (hash : String → Option Nat) (materials : List FbxSurfaceMaterial) (i : Nat) :
    Option Nat :=
  if materials.length = 0 then if i = 0 then some SSMaterialAssetManager.getEmptyAsset else none
  else (materials[i]?).map fun material =>
    (hash material.assetName).getD SSMaterialAssetManager.getEmptyAsset

/-- Some skinned node among `nodes` finds the material. -/
def NamedBySkinned (hash : String → Option Nat) (nodes : List (FbxNode K × FbxSceneMesh K))
    (m : Nat) : Prop :=
  ∃ e ∈ nodes, e.2.meshType = .Skinned ∧ m ∈ foundMaterials hash e.1.materials

/-- The model made for a mesh node. -/
structure ModelOf (hash : String → Option Nat) (e : FbxNode K × FbxSceneMesh K)
    (model : SSModelAsset) : Prop where
  meshType : model._geometry._meshType = e.2.meshType
  subGeometryNum : model._geometry.subGeometryNum = e.2.toFbxMesh.subGeometryNum
  slots : ∀ i, i < e.2.toFbxMesh.subGeometryNum →
    model._multiMaterialList i = slotMaterial hash e.1.materials i

/-- The shaders after a step that changes the materials in `named`. -/
structure ShadersChanged (shaders : List SSShaderAsset) (named : Nat → Prop)
    (before after : SSMaterialAssetManager) : Prop where
  hash : after._assetHash = before._assetHash
  changed : ∀ m, named m → after.shaderOf m = (instantiatedShader shaders
    SSShaderAssetManager.SSDefaultPbrSkinnedShaderName).or (before.shaderOf m)
  kept : ∀ m, ¬ named m → after.shaderOf m = before.shaderOf m

theorem ShadersChanged.refl (shaders : List SSShaderAsset) {named : Nat → Prop}
    (hnone : ∀ m, ¬ named m) (manager : SSMaterialAssetManager) :
    ShadersChanged shaders named manager manager :=
  ⟨rfl, fun m hm => absurd hm (hnone m), fun _ _ => rfl⟩

theorem ShadersChanged.trans {shaders : List SSShaderAsset} {named named' named'' : Nat → Prop}
    {m1 m2 m3 : SSMaterialAssetManager} (h : ShadersChanged shaders named m1 m2)
    (h' : ShadersChanged shaders named' m2 m3) (hor : ∀ m, named'' m ↔ named m ∨ named' m) :
    ShadersChanged shaders named'' m1 m3 where
  hash := h'.hash.trans h.hash
  changed := by
    intro m hm
    by_cases h2 : named' m
    · rw [h'.changed m h2]
      by_cases h1 : named m
      · rw [h.changed m h1, ← Option.or_assoc, Option.or_self]
      · rw [h.kept m h1]
    · rw [h'.kept m h2]
      exact h.changed m (((hor m).mp hm).resolve_right h2)
  kept := by
    intro m hm
    have hnot := fun hmm => hm ((hor m).mpr hmm)
    rw [h'.kept m fun h2 => hnot (Or.inr h2), h.kept m fun h1 => hnot (Or.inl h1)]

end Spec

section Loop

variable {shaders : List SSShaderAsset}

theorem setMaterial_geometry (model : SSModelAsset) (InMaterial matIdx : Nat) :
    (model.setMaterial InMaterial matIdx)._geometry = model._geometry := by
  unfold SSModelAsset.setMaterial
  split <;> rfl

theorem setMaterial_slot (model : SSModelAsset) (InMaterial matIdx : Nat) {j : Nat}
    (hj : j < model._geometry.subGeometryNum) :
    (model.setMaterial InMaterial matIdx)._multiMaterialList j =
      if j = matIdx then some InMaterial else model._multiMaterialList j := by
  unfold SSModelAsset.setMaterial
  split
  · rw [if_neg (by omega)]
  · exact Function.update_apply ..

theorem fitMaterial_some {manager manager' : SSMaterialAssetManager}
    {newGeometry : SSGeometryAsset} {modelMaterial : Nat}
    (h : fitMaterial shaders manager newGeometry modelMaterial = some manager') :
    ShadersChanged shaders (fun m => newGeometry._meshType = .Skinned ∧ m = modelMaterial)
      manager manager' := by
  unfold fitMaterial at h
  split at h
  · rename_i hskin
    obtain ⟨hhash, hshader⟩ := SSMaterialAssetManager.changeShader_some h
    refine ⟨hhash, fun m hm => ?_, fun m hm => ?_⟩
    · rw [hshader m, if_pos hm.2]
    · rw [hshader m, if_neg fun hmm => hm ⟨hskin, hmm⟩]
  · rename_i hskin
    cases h
    exact ShadersChanged.refl shaders (fun m hm => hskin hm.1) _

/-- What the material loop leaves, started at slot `i`. -/
structure MaterialsSet (shaders : List SSShaderAsset) (materials : List FbxSurfaceMaterial)
    (i : Nat) (manager : SSMaterialAssetManager) (model : SSModelAsset)
    (manager' : SSMaterialAssetManager) (model' : SSModelAsset) : Prop where
  geometry : model'._geometry = model._geometry
  shaders : ShadersChanged shaders (fun m => model._geometry._meshType = .Skinned ∧
    m ∈ foundMaterials manager._assetHash materials) manager manager'
  slots : ∀ j, j < model._geometry.subGeometryNum → model'._multiMaterialList j =
    if i ≤ j ∧ j < i + materials.length then
      (materials[j - i]?).map fun material =>
        (manager._assetHash material.assetName).getD SSMaterialAssetManager.getEmptyAsset
    else model._multiMaterialList j

/-- One turn of the loop: the material found under the name, or the fallback. -/
theorem setMaterials_cons {material : FbxSurfaceMaterial} {rest : List FbxSurfaceMaterial}
    {i : Nat} {manager : SSMaterialAssetManager} {model : SSModelAsset}
    {result : SSMaterialAssetManager × SSModelAsset}
    (h : setMaterials shaders (material :: rest) i manager model = some result) :
    ∃ manager1, ShadersChanged shaders (fun m => model._geometry._meshType = .Skinned ∧
        manager._assetHash material.assetName = some m) manager manager1 ∧
      setMaterials shaders rest (i + 1) manager1
        (model.setMaterial ((manager._assetHash material.assetName).getD
          SSMaterialAssetManager.getEmptyAsset) i) = some result := by
  unfold setMaterials SSMaterialAssetManager.findAssetWithName at h
  rw [Option.ite_none_right_eq_some] at h
  obtain ⟨_, h⟩ := h
  split at h
  · rename_i hfind
    refine ⟨manager, ShadersChanged.refl shaders (fun m hm => ?_) _, ?_⟩
    · rw [hfind] at hm
      cases hm.2
    · rw [hfind]
      exact h
  · rename_i modelMaterial hfind
    obtain ⟨manager1, hfit, hrest⟩ := Option.bind_eq_some_iff.mp h
    have hchanged := fitMaterial_some hfit
    refine ⟨manager1, ?_, ?_⟩
    · rw [hfind]
      simpa only [Option.some_inj, eq_comm] using hchanged
    · rw [hfind]
      exact hrest

theorem setMaterials_some : ∀ (materials : List FbxSurfaceMaterial) (i : Nat)
    (manager : SSMaterialAssetManager) (model : SSModelAsset)
    (manager' : SSMaterialAssetManager) (model' : SSModelAsset),
    setMaterials shaders materials i manager model = some (manager', model') →
      MaterialsSet shaders materials i manager model manager' model' := by
  intro materials
  induction materials with
  | nil =>
    intro i manager model manager' model' h
    cases h
    refine ⟨rfl, ShadersChanged.refl shaders (by simp [foundMaterials]) _, fun j _ => ?_⟩
    rw [if_neg (by simp only [List.length_nil]; omega)]
  | cons material rest ih =>
    intro i manager model manager' model' h
    obtain ⟨manager1, hchanged, hrest⟩ := setMaterials_cons h
    have hset := ih (i + 1) _ _ manager' model' hrest
    have hgeom := setMaterial_geometry model
      ((manager._assetHash material.assetName).getD SSMaterialAssetManager.getEmptyAsset) i
    refine ⟨hset.geometry.trans hgeom, hchanged.trans hset.shaders fun m => ?_, fun j hj => ?_⟩
    · rw [hgeom, hchanged.hash]
      unfold foundMaterials
      rw [List.filterMap_cons]
      cases manager._assetHash material.assetName with
      | none => simp
      | some x => simp [and_or_left, eq_comm]
    · rw [hset.slots j (by rw [hgeom]; exact hj), setMaterial_slot model _ i hj, hchanged.hash]
      rcases Nat.lt_trichotomy j i with hlt | rfl | hgt
      · rw [if_neg (by omega), if_neg (by omega), if_neg (by omega)]
      · rw [if_neg (by omega), if_pos rfl, if_pos (by simp), Nat.sub_self]
        rfl
      · obtain ⟨d, rfl⟩ := Nat.exists_eq_add_of_lt hgt
        have hd : i + d + 1 - i = d + 1 := by omega
        have hd' : i + d + 1 - (i + 1) = d := by omega
        rw [hd, hd', List.getElem?_cons_succ, List.length_cons]
        by_cases hlen : d < rest.length
        · rw [if_pos (by omega), if_pos (by omega)]
        · rw [if_neg (by omega), if_neg (by omega), if_neg (by omega)]

end Loop

section Traverse

variable {K : Type} {shaders : List SSShaderAsset}

/-- What the traversal of a part of the scene adds and changes; `nodes` are its mesh nodes. -/
structure Processed (shaders : List SSShaderAsset) (nodes : List (FbxNode K × FbxSceneMesh K))
    (s s' : ImportState K) : Prop where
  models : ∃ new, s'.models = s.models ++ new ∧
    List.Forall₂ (ModelOf s.materials._assetHash) nodes new
  shaders : ShadersChanged shaders (NamedBySkinned s.materials._assetHash nodes)
    s.materials s'.materials

theorem Processed.refl {s s' : ImportState K} (hmodels : s'.models = s.models)
    (hmaterials : s'.materials = s.materials) : Processed shaders [] s s' where
  models := ⟨[], by rw [hmodels, List.append_nil], List.Forall₂.nil⟩
  shaders := by
    rw [hmaterials]
    exact ShadersChanged.refl shaders (by simp [NamedBySkinned]) _

theorem Processed.append {nodes nodes' : List (FbxNode K × FbxSceneMesh K)}
    {s1 s2 s3 : ImportState K} (h : Processed shaders nodes s1 s2)
    (h' : Processed shaders nodes' s2 s3) : Processed shaders (nodes ++ nodes') s1 s3 := by
  obtain ⟨new, hnew, hall⟩ := h.models
  obtain ⟨new', hnew', hall'⟩ := h'.models
  rw [h.shaders.hash] at hall'
  refine ⟨⟨new ++ new', ?_, List.rel_append hall hall'⟩, ?_⟩
  · rw [hnew', hnew, List.append_assoc]
  · refine h.shaders.trans h'.shaders fun m => ?_
    rw [h.shaders.hash]
    unfold NamedBySkinned
    simp only [List.mem_append, or_and_right, exists_or]

/-- A step that touches neither models nor materials comes first. -/
theorem Processed.of_frame {nodes : List (FbxNode K × FbxSceneMesh K)} {s1 s2 s3 : ImportState K}
    (hmodels : s2.models = s1.models) (hmaterials : s2.materials = s1.materials)
    (h : Processed shaders nodes s2 s3) : Processed shaders nodes s1 s3 :=
  (Processed.refl hmodels hmaterials).append h

theorem attach_some {s s' : ImportState K} {thisAsset : SSPlaceableAsset K}
    {parentAsset idx : Nat} (h : s.attach thisAsset parentAsset = some (s', idx)) :
    s'.models = s.models ∧ s'.materials = s.materials := by
  unfold ImportState.attach at h
  simp only [Option.bind_eq_bind, Option.bind_eq_some_iff] at h
  obtain ⟨parent, _, childs, _, heq⟩ := h
  cases heq
  exact ⟨rfl, rfl⟩

variable [Field K] [LinearOrder K] {ctx : ImportContext K}

theorem importMesh_some {s s' : ImportState K} {node : FbxNode K} {fbxMesh : FbxSceneMesh K}
    (h : importMesh ctx shaders s node fbxMesh = some s') :
    Processed shaders [(node, fbxMesh)] s s' := by
  unfold importMesh at h
  simp only [Option.bind_eq_bind, Option.bind_eq_some_iff] at h
  obtain ⟨geometry, hgeometry, assetName, _, ⟨materials, model⟩, hset, models, hmodels, heq⟩ := h
  obtain ⟨_, rfl⟩ := insertNewModel_eq_some.mp hmodels
  cases heq
  obtain ⟨htype, hnum⟩ := generateMesh_some hgeometry
  have hloop := setMaterials_some _ _ _ _ _ _ hset
  have hgeom : model._geometry = geometry := hloop.geometry
  refine ⟨⟨_, rfl, List.Forall₂.cons ⟨?_, ?_, ?_⟩ List.Forall₂.nil⟩, ?_⟩
  · split
    · rw [setMaterial_geometry, hgeom, htype]
    · rw [hgeom, htype]
  · split
    · rw [setMaterial_geometry, hgeom, hnum]
    · rw [hgeom, hnum]
  · intro i hi
    rw [← hnum] at hi
    have hslot := hloop.slots i hi
    unfold slotMaterial
    split
    · -- no material: the fallback in slot 0
      rename_i hlen
      rw [setMaterial_slot model _ 0 (by rw [hgeom]; exact hi)]
      congr 1
      rw [hslot, if_neg (by omega)]
    · rename_i hlen
      rw [hslot, Nat.sub_zero, Nat.zero_add]
      by_cases hlt : i < node.materials.length
      · rw [if_pos ⟨Nat.zero_le i, hlt⟩]
      · rw [if_neg fun hand => hlt hand.2, List.getElem?_eq_none (Nat.le_of_not_lt hlt)]
        rfl
  · have hiff : ∀ m, NamedBySkinned s.materials._assetHash [(node, fbxMesh)] m ↔
        geometry._meshType = .Skinned ∧
          m ∈ foundMaterials s.materials._assetHash node.materials := by
      intro m
      unfold NamedBySkinned
      simp only [List.mem_singleton, exists_eq_left, htype]
    refine ⟨hloop.shaders.hash, fun m hm => ?_, fun m hm => ?_⟩
    · exact hloop.shaders.changed m ((hiff m).mp hm)
    · exact hloop.shaders.kept m fun hmm => hm ((hiff m).mpr hmm)

/-- The asset made for a node, and what making it did. -/
theorem importNode_some {s s' : ImportState K} {node : FbxNode K}
    {thisAsset : Option (SSPlaceableAsset K)}
    (h : importNode ctx shaders s node = some (s', thisAsset)) :
    (∃ fbxMesh, node.nodeAttribute = some (.eMesh fbxMesh) ∧ thisAsset.isSome ∧
      Processed shaders [(node, fbxMesh)] s s') ∨
    (∃ limbLength, node.nodeAttribute = some (.eSkeleton limbLength) ∧ thisAsset = none ∧
      s' = s) ∨
    ((node.nodeAttribute = none ∨ node.nodeAttribute = some .other) ∧ thisAsset.isSome ∧
      s' = s) := by
  unfold importNode at h
  split at h
  · rename_i fbxMesh hattr
    obtain ⟨s1, hmesh, heq⟩ := Option.map_eq_some_iff.mp h
    cases heq
    exact Or.inl ⟨fbxMesh, hattr, rfl, importMesh_some hmesh⟩
  · rename_i limbLength hattr
    cases h
    exact Or.inr (Or.inl ⟨limbLength, hattr, rfl, rfl⟩)
  · rename_i hmesh hskeleton
    cases h
    refine Or.inr (Or.inr ⟨?_, rfl, rfl⟩)
    cases hattr : node.nodeAttribute with
    | none => exact Or.inl rfl
    | some attr =>
      cases attr with
      | eMesh fbxMesh => exact absurd hattr (hmesh fbxMesh)
      | eSkeleton limbLength => exact absurd hattr (hskeleton limbLength)
      | other => exact Or.inr rfl

mutual

theorem traverseNodesRecursion_processed : ∀ (node : FbxNode K) (s s' : ImportState K)
    (parentAsset : Nat), traverseNodesRecursion ctx shaders s node parentAsset = some s' →
      Processed shaders (meshNodes node) s s'
  | ⟨name, nodeAttribute, materials, fbxMat, childs⟩, s, s', parentAsset => by
    intro h
    unfold traverseNodesRecursion at h
    simp only [Option.bind_eq_bind, Option.bind_eq_some_iff] at h
    obtain ⟨⟨s1, thisAsset⟩, hnode, hrest⟩ := h
    rcases importNode_some hnode with ⟨fbxMesh, hattr, hsome, hmesh⟩ |
      ⟨limbLength, hattr, rfl, rfl⟩ | ⟨hattr, hsome, rfl⟩
    · obtain ⟨asset, rfl⟩ := Option.isSome_iff_exists.mp hsome
      obtain ⟨⟨s2, thisIdx⟩, hattach, hchilds⟩ := Option.bind_eq_some_iff.mp hrest
      obtain ⟨hmodels, hmaterials⟩ := attach_some hattach
      have hbelow := traverseChilds_processed childs s2 s' thisIdx hchilds
      have hnodes : meshNodes ⟨name, nodeAttribute, materials, fbxMat, childs⟩ =
          (⟨name, nodeAttribute, materials, fbxMat, childs⟩, fbxMesh) ::
            meshNodesChilds childs := by
        unfold meshNodes
        rw [show nodeAttribute = some (.eMesh fbxMesh) from hattr]
      rw [hnodes]
      exact hmesh.append (hbelow.of_frame hmodels hmaterials)
    · cases hrest
      have hnodes : meshNodes ⟨name, nodeAttribute, materials, fbxMat, childs⟩ = [] := by
        unfold meshNodes
        rw [show nodeAttribute = some (.eSkeleton limbLength) from hattr]
      rw [hnodes]
      exact Processed.refl rfl rfl
    · obtain ⟨asset, rfl⟩ := Option.isSome_iff_exists.mp hsome
      obtain ⟨⟨s2, thisIdx⟩, hattach, hchilds⟩ := Option.bind_eq_some_iff.mp hrest
      obtain ⟨hmodels, hmaterials⟩ := attach_some hattach
      have hbelow := traverseChilds_processed childs s2 s' thisIdx hchilds
      have hnodes : meshNodes ⟨name, nodeAttribute, materials, fbxMat, childs⟩ =
          meshNodesChilds childs := by
        unfold meshNodes
        have hattr' : nodeAttribute = none ∨ nodeAttribute = some .other := hattr
        rcases hattr' with hnone | hother
        · rw [hnone]
        · rw [hother]
      rw [hnodes]
      exact hbelow.of_frame hmodels hmaterials

theorem traverseChilds_processed : ∀ (childs : List (FbxNode K)) (s s' : ImportState K)
    (thisAsset : Nat), traverseChilds ctx shaders s childs thisAsset = some s' →
      Processed shaders (meshNodesChilds childs) s s'
  | [], s, s', thisAsset => by
    intro h
    unfold traverseChilds at h
    cases h
    exact Processed.refl rfl rfl
  | child :: rest, s, s', thisAsset => by
    intro h
    unfold traverseChilds at h
    simp only [Option.bind_eq_bind, Option.bind_eq_some_iff] at h
    obtain ⟨s1, hchild, hrest⟩ := h
    exact (traverseNodesRecursion_processed child s s1 thisAsset hchild).append
      (traverseChilds_processed rest s1 s' thisAsset hrest)

end

end Traverse

end FBXRenderer
