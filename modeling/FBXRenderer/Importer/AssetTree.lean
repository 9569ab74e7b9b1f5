import FBXRenderer.Importer.ShaderFit
import FBXRenderer.Importer.SkeletonNodes

/-!
# FBXRenderer.Importer.AssetTree

The placeable assets as a tree in pre-order: the tree of the scene without the subtrees of skeleton
nodes. A skipped node takes no place in its parent's child list, which was made for all children.

* `traverseNodesRecursion_run`: the traversal adds the trees of its node, and fails only where a
  mesh cannot be imported.
* `asset_tree_imported`: what was imported is the asset tree of the scene.
-/

namespace FBXRenderer

open SS PreorderList

section Labels

variable {K : Type}

/-- What an asset is told when it is made. -/
structure AssetLabel (K : Type) where
  assetName : String
  kind : PlaceableKind
  transform : Transform K
  childCnt : Nat

def placeableEntry (asset : SSPlaceableAsset K) : Entry (AssetLabel K) where
  label := ⟨asset._assetName, asset.kind, asset._transform, asset._childs.capacity⟩
  parent := asset._parent
  childs := asset._childs.data

def ImportState.entries (s : ImportState K) : List (Entry (AssetLabel K)) :=
  s.placeables.map placeableEntry

variable [Field K]

def nodeAssetLabel (node : FbxNode K) (assetName : String) (kind : PlaceableKind) :
    AssetLabel K where
  assetName := assetName
  kind := kind
  transform := extractTransformFromNode node .infinite
  childCnt := node.childs.length

mutual

/-- The tree of assets for a node, when `n` models were made before: nothing for a skeleton node,
with everything below it. -/
def assetTrees : Nat → FbxNode K → List (RoseTree (AssetLabel K))
  | n, ⟨name, nodeAttribute, materials, fbxMat, childs⟩ =>
    let node : FbxNode K := ⟨name, nodeAttribute, materials, fbxMat, childs⟩
    match nodeAttribute with
    | some (.eMesh fbxMesh) =>
      [.node (nodeAssetLabel node fbxMesh.nodeName (.modelCombination (some n)))
        (assetForest (n + 1) childs)]
    | some (.eSkeleton _) => []
    | _ => [.node (nodeAssetLabel node "" .blank) (assetForest n childs)]

def assetForest : Nat → List (FbxNode K) → List (RoseTree (AssetLabel K))
  | _, [] => []
  | n, child :: rest => assetTrees n child ++ assetForest (n + (meshNodes child).length) rest

end

theorem assetTrees_length_le (n : Nat) (node : FbxNode K) : (assetTrees n node).length ≤ 1 := by
  cases node with
  | mk name nodeAttribute materials fbxMat childs =>
    unfold assetTrees
    split
    · exact Nat.le_refl _
    · exact Nat.zero_le _
    · exact Nat.le_refl _

end Labels

section Attach

variable {K : Type}

/-- Attaching below an asset with room: a new last entry. -/
theorem attach_eq {s : ImportState K} {thisAsset : SSPlaceableAsset K} {parentAsset : Nat}
    (hroom : Room AssetLabel.childCnt s.entries (some parentAsset) 1)
    (hnew : thisAsset._childs.data = []) :
    ∃ placeables, s.attach thisAsset parentAsset =
        some ({ s with placeables := placeables }, s.placeables.length) ∧
      placeables.map placeableEntry =
        add s.entries (placeableEntry thisAsset).label (some parentAsset) := by
  obtain ⟨e, he, hlt⟩ := hroom parentAsset rfl
  have hentry := he
  unfold ImportState.entries at he
  rw [List.getElem?_map] at he
  obtain ⟨parent, hparent, rfl⟩ := Option.map_eq_some_iff.mp he
  obtain ⟨childs, hpush, hdata, hcap⟩ :=
    PooledList.pushBack_eq (l := parent._childs) hlt s.placeables.length
  refine ⟨s.placeables.set parentAsset { parent with _childs := childs } ++
    [{ thisAsset with _parent := some parentAsset }], ?_, ?_⟩
  · unfold ImportState.attach
    simp only [hparent, hpush, Option.bind_eq_bind, Option.bind_some]
  · have hchild : placeableEntry { parent with _childs := childs } =
        (placeableEntry parent).addChilds [s.placeables.length] := by
      unfold placeableEntry Entry.addChilds
      simp only [hdata, hcap]
    have hlength : s.entries.length = s.placeables.length := List.length_map ..
    have henter : enter s.entries (some parentAsset) [s.placeables.length] =
        s.entries.set parentAsset ((placeableEntry parent).addChilds [s.placeables.length]) := by
      show s.entries.modify parentAsset _ = _
      rw [List.modify_eq_set_getElem?, hentry]
      rfl
    have hlast : placeableEntry { thisAsset with _parent := some parentAsset } =
        ⟨(placeableEntry thisAsset).label, some parentAsset, []⟩ := by
      unfold placeableEntry
      simp only [hnew]
    rw [add, hlength, henter, List.map_append, List.map_set, hchild]
    simp only [List.map_cons, List.map_nil, hlast]
    rfl

theorem Processed.models_length {shaders : List SSShaderAsset}
    {nodes : List (FbxNode K × FbxSceneMesh K)} {s s' : ImportState K}
    (h : Processed shaders nodes s s') : s'.models.length = s.models.length + nodes.length := by
  obtain ⟨new, hnew, hall⟩ := h.models
  rw [hnew, List.length_append, hall.length_eq]

/-- A part of the traversal that imports meshes as in `meshes`: it fails where that fails, and else
leaves the assets with entries `es`. -/
def Traversed (result meshes : Option (ImportState K)) (es : List (Entry (AssetLabel K))) : Prop :=
  match meshes with
  | none => result = none
  | some s1 => ∃ placeables, result = some { s1 with placeables := placeables } ∧
      placeables.map placeableEntry = es

theorem Traversed.of_placeables {result meshes : Option (ImportState K)}
    {es : List (Entry (AssetLabel K))} {placeables : List (SSPlaceableAsset K)}
    (h : Traversed result (meshes.map fun s => { s with placeables := placeables }) es) :
    Traversed result meshes es := by
  cases meshes with
  | none => exact h
  | some s1 => exact h

end Attach

section Meshes

variable {K : Type} [Field K] [LinearOrder K] {ctx : ImportContext K}
  {shaders : List SSShaderAsset}

variable (ctx shaders) in
/-- The meshes of a scene imported in their order, without the placeable assets. -/
def importMeshes (s : ImportState K) (nodes : List (FbxNode K × FbxSceneMesh K)) :
    Option (ImportState K) :=
  nodes.foldlM (fun s e => importMesh ctx shaders s e.1 e.2) s

theorem importMeshes_append (s : ImportState K) (nodes nodes' : List (FbxNode K × FbxSceneMesh K)) :
    importMeshes ctx shaders s (nodes ++ nodes') =
      (importMeshes ctx shaders s nodes).bind fun s1 => importMeshes ctx shaders s1 nodes' :=
  List.foldlM_append

theorem importMeshes_cons (s : ImportState K) (e : FbxNode K × FbxSceneMesh K)
    (nodes : List (FbxNode K × FbxSceneMesh K)) :
    importMeshes ctx shaders s (e :: nodes) =
      (importMesh ctx shaders s e.1 e.2).bind fun s1 => importMeshes ctx shaders s1 nodes :=
  List.foldlM_cons

/-- Importing a mesh does not look at the placeable assets, and keeps them. -/
theorem importMesh_placeables (s : ImportState K) (placeables : List (SSPlaceableAsset K))
    (node : FbxNode K) (fbxMesh : FbxSceneMesh K) :
    importMesh ctx shaders { s with placeables := placeables } node fbxMesh =
      (importMesh ctx shaders s node fbxMesh).map
        fun s' => { s' with placeables := placeables } := by
  unfold importMesh
  cases generateMesh ctx fbxMesh with
  | none => rfl
  | some newGeometry =>
    cases fixedAssetName (ctx._fileName ++ "_" ++ fbxMesh.nodeName ++ ".mdl") with
    | none => rfl
    | some assetName =>
      simp only [Option.bind_eq_bind, Option.bind_some]
      cases setMaterials shaders node.materials 0 s.materials _ with
      | none => rfl
      | some r =>
        simp only [Option.bind_some]
        cases insertNewModel s.models _ with
        | none => rfl
        | some models => rfl

theorem importMesh_keeps {s s' : ImportState K} {node : FbxNode K} {fbxMesh : FbxSceneMesh K}
    (h : importMesh ctx shaders s node fbxMesh = some s') : s'.placeables = s.placeables := by
  have hsame : importMesh ctx shaders s node fbxMesh = _ :=
    importMesh_placeables s s.placeables node fbxMesh
  rw [h, Option.map_some] at hsame
  rw [Option.some_inj.mp hsame]

theorem importMeshes_placeables : ∀ (nodes : List (FbxNode K × FbxSceneMesh K))
    (s : ImportState K) (placeables : List (SSPlaceableAsset K)),
    importMeshes ctx shaders { s with placeables := placeables } nodes =
      (importMeshes ctx shaders s nodes).map fun s' => { s' with placeables := placeables } := by
  intro nodes
  induction nodes with
  | nil => intro s placeables; rfl
  | cons e nodes ih =>
    intro s placeables
    unfold importMeshes at ih ⊢
    rw [List.foldlM_cons, List.foldlM_cons, importMesh_placeables]
    cases importMesh ctx shaders s e.1 e.2 with
    | none => rfl
    | some s1 => exact ih s1 placeables

theorem importMeshes_some : ∀ (nodes : List (FbxNode K × FbxSceneMesh K)) (s s' : ImportState K),
    importMeshes ctx shaders s nodes = some s' → Processed shaders nodes s s' := by
  intro nodes
  induction nodes with
  | nil =>
    intro s s' h
    cases h
    exact Processed.refl rfl rfl
  | cons e nodes ih =>
    intro s s' h
    unfold importMeshes at ih h
    rw [List.foldlM_cons] at h
    obtain ⟨s1, h1, h2⟩ := Option.bind_eq_some_iff.mp h
    exact (importMesh_some h1).append (ih s1 s' h2)

end Meshes

section Run

variable {K : Type} [Field K] [LinearOrder K] {ctx : ImportContext K}
  {shaders : List SSShaderAsset}

/-- Two parts after each other. -/
theorem Traversed.bind {result meshes : Option (ImportState K)}
    {next : ImportState K → Option (ImportState K)}
    {nodes : List (FbxNode K × FbxSceneMesh K)} {es es' : List (Entry (AssetLabel K))}
    (h : Traversed result meshes es)
    (hnext : ∀ s1 placeables, meshes = some s1 → placeables.map placeableEntry = es →
      Traversed (next { s1 with placeables := placeables })
        (importMeshes ctx shaders { s1 with placeables := placeables } nodes) es') :
    Traversed (result.bind next)
      (meshes.bind fun s1 => importMeshes ctx shaders s1 nodes) es' := by
  cases hmeshes : meshes with
  | none =>
    rw [hmeshes] at h
    have hresult : result = none := h
    rw [hresult]
    rfl
  | some s1 =>
    rw [hmeshes] at h
    obtain ⟨placeables, hresult, hes⟩ := h
    rw [hresult]
    have hrest := hnext s1 placeables hmeshes hes
    rw [importMeshes_placeables] at hrest
    exact hrest.of_placeables

/-- The asset of a node is attached, then come the children. -/
theorem attach_run {s : ImportState K} (node : FbxNode K) (assetName : String)
    (kind : PlaceableKind) {parentAsset : Nat}
    (hroom : Room AssetLabel.childCnt s.entries (some parentAsset) 1)
    (hchilds : ∀ (s : ImportState K) (thisAsset : Nat),
      Room AssetLabel.childCnt s.entries (some thisAsset) node.childs.length →
      Traversed (traverseChilds ctx shaders s node.childs thisAsset)
        (importMeshes ctx shaders s (meshNodesChilds node.childs))
        (buildForest s.entries (assetForest s.models.length node.childs) thisAsset)) :
    Traversed ((s.attach (newPlaceable node assetName kind) parentAsset).bind
        fun r => traverseChilds ctx shaders r.1 node.childs r.2)
      (importMeshes ctx shaders s (meshNodesChilds node.childs))
      (buildForest s.entries [.node (nodeAssetLabel node assetName kind)
        (assetForest s.models.length node.childs)] parentAsset) := by
  obtain ⟨placeables, hattach, hes⟩ :=
    attach_eq hroom (show (newPlaceable node assetName kind)._childs.data = [] from rfl)
  have hlength : s.entries.length = s.placeables.length := List.length_map ..
  have hplaces := Room.of_add AssetLabel.childCnt s.entries (nodeAssetLabel node assetName kind)
    (some parentAsset)
  have hrun := hchilds { s with placeables := placeables } s.entries.length (by
    show Room AssetLabel.childCnt (placeables.map placeableEntry) _ _
    rw [hes]
    exact hplaces)
  rw [importMeshes_placeables] at hrun
  rw [hattach, ← hlength, buildForest, buildForest, build]
  have hentries : ImportState.entries { s with placeables := placeables } = _ := hes
  rw [hentries] at hrun
  exact hrun.of_placeables

mutual

theorem traverseNodesRecursion_run : ∀ (node : FbxNode K) (s : ImportState K) (parentAsset : Nat),
    Room AssetLabel.childCnt s.entries (some parentAsset) 1 →
    Traversed (traverseNodesRecursion ctx shaders s node parentAsset)
      (importMeshes ctx shaders s (meshNodes node))
      (buildForest s.entries (assetTrees s.models.length node) parentAsset)
  | ⟨name, nodeAttribute, materials, fbxMat, childs⟩, s, parentAsset => by
    intro hroom
    have hchilds := traverseChilds_run childs
    unfold traverseNodesRecursion importNode meshNodes assetTrees
    cases nodeAttribute with
    | none => exact attach_run _ _ _ hroom hchilds
    | some attr =>
      cases attr with
      | other => exact attach_run _ _ _ hroom hchilds
      | eSkeleton limbLength => exact ⟨s.placeables, rfl, by rw [buildForest]; rfl⟩
      | eMesh fbxMesh =>
        show Traversed _ (importMeshes ctx shaders s (_ :: meshNodesChilds childs)) _
        rw [importMeshes_cons]
        cases hmesh : importMesh ctx shaders s
            ⟨name, some (.eMesh fbxMesh), materials, fbxMat, childs⟩ fbxMesh with
        | none =>
          show Option.bind (Option.map _ _) _ = none
          rw [hmesh]
          rfl
        | some s1 =>
          have hentries : s1.entries = s.entries := by
            unfold ImportState.entries
            rw [importMesh_keeps hmesh]
          have hlength := (importMesh_some hmesh).models_length
          rw [← hentries] at hroom ⊢
          have hrun := attach_run ⟨name, some (.eMesh fbxMesh), materials, fbxMat, childs⟩
            fbxMesh.nodeName (.modelCombination (some s.models.length)) hroom hchilds
          rw [hlength] at hrun
          simp only [hmesh, Option.map_some, Option.bind_some]
          exact hrun

theorem traverseChilds_run : ∀ (childs : List (FbxNode K)) (s : ImportState K) (thisAsset : Nat),
    Room AssetLabel.childCnt s.entries (some thisAsset) childs.length →
    Traversed (traverseChilds ctx shaders s childs thisAsset)
      (importMeshes ctx shaders s (meshNodesChilds childs))
      (buildForest s.entries (assetForest s.models.length childs) thisAsset)
  | [], s, thisAsset => by
    intro _
    unfold traverseChilds meshNodesChilds assetForest
    exact ⟨s.placeables, rfl, by rw [buildForest]; rfl⟩
  | child :: rest, s, thisAsset => by
    intro hroom
    have hchild := traverseNodesRecursion_run child s thisAsset (hroom.of_le (by simp))
    unfold traverseChilds meshNodesChilds assetForest
    rw [importMeshes_append, buildForest_append]
    refine hchild.bind fun s1 placeables hs1 hes => ?_
    have hlength := (importMeshes_some _ _ _ hs1).models_length
    have hentries : ImportState.entries { s1 with placeables := placeables } = _ := hes
    have hrest := traverseChilds_run rest { s1 with placeables := placeables } thisAsset (by
      rw [hentries]
      refine Room.buildForest _ _ (hroom.of_le ?_)
      have hone := assetTrees_length_le s.models.length child
      rw [List.length_cons]
      omega)
    rw [hentries] at hrest
    rw [← hlength]
    exact hrest

end

end Run

section Scene

variable {K : Type}

/-- The placeable assets are the tree `t` in pre-order, and along the child lists; an asset is in
one child list, that of its parent, and there once, and no child list outgrew its capacity. -/
structure IsAssetTree (t : RoseTree (AssetLabel K)) (placeables : List (SSPlaceableAsset K)) :
    Prop where
  preorder : placeables.map placeableEntry = layout 0 none t
  along_childs : readTree (placeables.map placeableEntry) placeables.length 0 = some t
  parent : ∀ (c : Nat) (asset : SSPlaceableAsset K), placeables[c]? = some asset → 0 < c →
    ∃ p, asset._parent = some p ∧ p < c
  once : ∀ (c : Nat) (asset : SSPlaceableAsset K), placeables[c]? = some asset →
    ∀ (i : Nat) (parent : SSPlaceableAsset K), placeables[i]? = some parent →
      parent._childs.data.count c = if asset._parent = some i then 1 else 0
  fits : ∀ asset ∈ placeables, asset._childs.getSize ≤ asset._childs.capacity

theorem isAssetTree_of_build {t : RoseTree (AssetLabel K)} {placeables : List (SSPlaceableAsset K)}
    (h : placeables.map placeableEntry = build [] t none) : IsAssetTree t placeables := by
  have hnone : Below ([] : List (Entry (AssetLabel K))) none := fun p hp => by cases hp
  have hlinked : Linked (placeables.map placeableEntry) := by
    rw [h]
    exact linked_nil.build t [] none hnone (Or.inl rfl)
  have hlayout : placeables.map placeableEntry = layout 0 none t := by
    rw [h, build_eq t [] none hnone]
    rfl
  have hparent : ∀ c asset, placeables[c]? = some asset →
      parentOf (placeables.map placeableEntry) c = asset._parent := by
    intro c asset hc
    unfold parentOf
    rw [List.getElem?_map, hc]
    rfl
  refine ⟨hlayout, ?_, fun c asset hc h0 => ?_, fun c asset hc i parent hi => ?_, fun asset _ =>
    asset._childs.size_le⟩
  · refine readTree_layout t 0 none _ ?_ ?_
    · rw [hlayout]
      exact stands_suffix [] _
    · rw [← layout_length t 0 none, ← hlayout, List.length_map]
  · have hlt : c < (placeables.map placeableEntry).length := by
      rw [List.length_map]
      exact (List.getElem?_eq_some_iff.mp hc).1
    obtain ⟨p, hp⟩ := Option.ne_none_iff_exists'.mp (hlinked.rooted c h0 hlt)
    exact ⟨p, by rw [← hparent c asset hc, hp], hlinked.parent_lt c p hp⟩
  · have hlt : c < (placeables.map placeableEntry).length := by
      rw [List.length_map]
      exact (List.getElem?_eq_some_iff.mp hc).1
    have hentry : (placeables.map placeableEntry)[i]? = some (placeableEntry parent) := by
      rw [List.getElem?_map, hi]
      rfl
    have hcount := hlinked.count_childs hentry hlt
    rw [hparent c asset hc] at hcount
    exact hcount

variable [Field K]

/-- The tree of assets of a scene, when `n` models were made before; its root is the `.mdlc` asset,
for the scene's root node. -/
def sceneAssetTree (fileName : String) (n : Nat) (rootNode : FbxNode K) :
    RoseTree (AssetLabel K) :=
  .node
    { assetName := fileName ++ ".mdlc"
      kind := .modelCombination none
      transform := Transform.Identity
      childCnt := rootNode.childs.length }
    (assetForest n rootNode.childs)

/-- The state in which the children of the root node are traversed. -/
def rootState (ctx : ImportContext K) (models : List SSModelAsset)
    (materials : SSMaterialAssetManager) (rootNode : FbxNode K) : ImportState K where
  placeables := [{ _assetName := ctx._fileName ++ ".mdlc"
                   kind := .modelCombination none
                   _transform := Transform.Identity
                   _parent := none
                   _childs := PooledList.new rootNode.childs.length }]
  models := models
  materials := materials

variable [LinearOrder K]

/-- Where the name of the root asset fits, the import of a scene imports its meshes, and adds the
trees of the root node's children. -/
theorem importScene_traversed {ctx : ImportContext K} (shaders : List SSShaderAsset)
    (models : List SSModelAsset) (materials : SSMaterialAssetManager) (rootNode : FbxNode K)
    (hname : FitsAssetName (ctx._fileName ++ ".mdlc")) :
    Traversed (importCurrentSceneToModelAsset ctx shaders models materials rootNode)
      (importMeshes ctx shaders ⟨[], models, materials⟩ (meshNodesChilds rootNode.childs))
      (buildForest (rootState ctx models materials rootNode).entries
        (assetForest models.length rootNode.childs) 0) := by
  have hrun : Traversed
      (traverseChilds ctx shaders (rootState ctx models materials rootNode) rootNode.childs 0)
      _ _ :=
    traverseChilds_run rootNode.childs _ 0 (Room.of_add _ [] _ none)
  have himport : importCurrentSceneToModelAsset ctx shaders models materials rootNode =
      traverseChilds ctx shaders (rootState ctx models materials rootNode) rootNode.childs 0 := by
    unfold importCurrentSceneToModelAsset
    rw [fixedAssetName_of_fits hname]
    rfl
  rw [himport]
  have hmeshes : importMeshes ctx shaders (rootState ctx models materials rootNode)
      (meshNodesChilds rootNode.childs) = (importMeshes ctx shaders ⟨[], models, materials⟩
        (meshNodesChilds rootNode.childs)).map _ :=
    importMeshes_placeables _ ⟨[], models, materials⟩ _
  rw [hmeshes] at hrun
  exact hrun.of_placeables

/-- What an import that ends has done: its meshes were imported, one after the other. -/
theorem importScene_some {ctx : ImportContext K} {shaders : List SSShaderAsset}
    {models : List SSModelAsset} {materials : SSMaterialAssetManager} {rootNode : FbxNode K}
    {s' : ImportState K}
    (h : importCurrentSceneToModelAsset ctx shaders models materials rootNode = some s') :
    FitsAssetName (ctx._fileName ++ ".mdlc") ∧ ∃ s1, importMeshes ctx shaders
        ⟨[], models, materials⟩ (meshNodesChilds rootNode.childs) = some s1 ∧
      s'.models = s1.models ∧ s'.placeables.map placeableEntry =
        build [] (sceneAssetTree ctx._fileName models.length rootNode) none := by
  have hbind := h
  unfold importCurrentSceneToModelAsset at hbind
  obtain ⟨assetName, hname, _⟩ := Option.bind_eq_some_iff.mp hbind
  have hfits := (fixedAssetName_eq_some.mp hname).1
  have hall := importScene_traversed shaders models materials rootNode hfits
  rw [h] at hall
  unfold Traversed at hall
  split at hall
  · cases hall
  · rename_i s1 hmeshes
    obtain ⟨placeables, hresult, hes⟩ := hall
    cases hresult
    refine ⟨hfits, s1, hmeshes, rfl, ?_⟩
    rw [hes, sceneAssetTree, build]
    rfl

/-- The placeable assets of a scene that was imported are its tree. -/
theorem asset_tree_imported {ctx : ImportContext K} {shaders : List SSShaderAsset}
    {models : List SSModelAsset} {materials : SSMaterialAssetManager} {rootNode : FbxNode K}
    {s' : ImportState K}
    (h : importCurrentSceneToModelAsset ctx shaders models materials rootNode = some s') :
    IsAssetTree (sceneAssetTree ctx._fileName models.length rootNode) s'.placeables := by
  obtain ⟨_, s1, _, _, hes⟩ := importScene_some h
  exact isAssetTree_of_build hes

/-- A scene is imported exactly where the name of its root asset fits and its meshes can be imported
one after the other: no asset is pushed to a full child list. -/
theorem importScene_isSome_iff (ctx : ImportContext K) (shaders : List SSShaderAsset)
    (models : List SSModelAsset) (materials : SSMaterialAssetManager) (rootNode : FbxNode K) :
    (importCurrentSceneToModelAsset ctx shaders models materials rootNode).isSome ↔
      FitsAssetName (ctx._fileName ++ ".mdlc") ∧ (importMeshes ctx shaders ⟨[], models, materials⟩
        (meshNodesChilds rootNode.childs)).isSome := by
  constructor
  · intro h
    obtain ⟨s', hs'⟩ := Option.isSome_iff_exists.mp h
    obtain ⟨hname, s1, hmeshes, _⟩ := importScene_some hs'
    exact ⟨hname, Option.isSome_iff_exists.mpr ⟨s1, hmeshes⟩⟩
  · rintro ⟨hname, hmeshes⟩
    obtain ⟨s1, hs1⟩ := Option.isSome_iff_exists.mp hmeshes
    have hall := importScene_traversed shaders models materials rootNode hname
    rw [hs1] at hall
    obtain ⟨placeables, hresult, _⟩ := hall
    exact Option.isSome_iff_exists.mpr ⟨_, hresult⟩

end Scene

end FBXRenderer
