import Mathlib
import FBXRenderer.Engine.Draw
import FBXRenderer.Engine.TransformAlgebra
import FBXRenderer.Importer.SceneTaken

/-!
# FBXRenderer.Engine.DrawScene

What is drawn of an imported scene. A path leads from a mesh node up to a child of the root node;
its world matrix is the product of the matrices along it, the node's own first.

* `traverse_tree`: a tree of placeable assets in pre-order is drawn model by model, each under the
  product of the transforms above it.
* `forestItems_assetForest`: the models of the assets of a scene are the paths of the scene.
* `imported_scene_drawn`: import and drawing together.
-/

namespace FBXRenderer

open SS PreorderList CommandStream ID3D11DeviceContext

section Items

variable {K : Type}

/-- One model and the matrices it is drawn with. -/
structure MeshItem (K : Type) where
  model : Option Nat
  WMatrix : XMMATRIX K
  RotMatrix : XMMATRIX K

variable [Field K] (dx : DirectXMath K)

/-- All sub-geometries of a model. -/
def drawMesh (assets : DrawnAssets K) (item : MeshItem K) : Option (List (Command K)) := do
  let model ← item.model
  let modelAsset ← assets.models[model]?
  let commands ← (List.range modelAsset._geometry.subGeometryNum).mapM
    (SSRenderer.drawSubGeometry dx assets model modelAsset item.WMatrix item.RotMatrix)
  return commands.flatten

def ownItems (kind : PlaceableKind) (W R : XMMATRIX K) : List (MeshItem K) :=
  match kind with
  | .modelCombination model => [⟨model, W, R⟩]
  | .blank => []

mutual

/-- The models of a tree of assets whose root has the matrices `W` and `R`. -/
def treeItems : XMMATRIX K → XMMATRIX K → RoseTree (AssetLabel K) → List (MeshItem K)
  | W, R, .node label childs => ownItems label.kind W R ++ forestItems W R childs

/-- The trees below an asset with the matrices `W` and `R`. -/
def forestItems : XMMATRIX K → XMMATRIX K → List (RoseTree (AssetLabel K)) → List (MeshItem K)
  | _, _, [] => []
  | W, R, .node label childs :: ts =>
    treeItems (dx.XMMatrixMultiply (label.transform.asMatrix dx) W)
        (dx.XMMatrixMultiply (label.transform.Rotation.asMatrix dx) R) (.node label childs) ++
      forestItems W R ts

end

/-- The models that a traversal from the root of a tree comes to. An asset without a parent is not
drawn itself. -/
def traversalItems (parent : Option Nat) (W R : XMMATRIX K) :
    RoseTree (AssetLabel K) → List (MeshItem K)
  | .node label childs =>
    match parent with
    | none => forestItems dx W R childs
    | some _ => treeItems dx W R (.node label childs)

end Items

section Traverse

variable {K : Type} {assets : DrawnAssets K}

theorem entry_some {n : Nat} {e : Entry (AssetLabel K)}
    (h : (assets.placeables.map placeableEntry)[n]? = some e) :
    ∃ asset, assets.placeables[n]? = some asset ∧ placeableEntry asset = e := by
  rw [List.getElem?_map] at h
  exact Option.map_eq_some_iff.mp h

variable [Field K] {dx : DirectXMath K}

theorem drawOwn_of_parent {asset : SSPlaceableAsset K} {p : Nat} (h : asset._parent = some p)
    (W R : XMMATRIX K) :
    SSRenderer.drawOwn dx assets asset W R =
      emitAll (drawMesh dx assets) (ownItems asset.kind W R) := by
  unfold SSRenderer.drawOwn ownItems
  rw [h]
  cases asset.kind with
  | blank => rfl
  | modelCombination model =>
    rw [emitAll_cons]
    cases hdraw : drawMesh dx assets ⟨model, W, R⟩ with
    | none => exact hdraw
    | some commands =>
      refine Eq.trans hdraw ?_
      simp

/-- The loop body over the children of an asset. -/
def drawChild (dx : DirectXMath K) (assets : DrawnAssets K) (fuel : Nat) (W R : XMMATRIX K)
    (item : Nat) : Option (List (Command K)) := do
  let child ← assets.placeables[item]?
  SSRenderer.traverseModelCombinationAndDraw dx assets fuel item
    (dx.XMMatrixMultiply (child._transform.asMatrix dx) W)
    (dx.XMMatrixMultiply (child._transform.Rotation.asMatrix dx) R)

theorem traverse_eq {fuel n : Nat} {asset : SSPlaceableAsset K}
    (h : assets.placeables[n]? = some asset) (W R : XMMATRIX K) :
    SSRenderer.traverseModelCombinationAndDraw dx assets (fuel + 1) n W R =
      (SSRenderer.drawOwn dx assets asset W R).bind fun own =>
        (emitAll (drawChild dx assets fuel W R) asset._childs.data).map (own ++ ·) := by
  unfold SSRenderer.traverseModelCombinationAndDraw emitAll
  simp only [h, Option.bind_eq_bind, Option.bind_some]
  cases SSRenderer.drawOwn dx assets asset W R with
  | none => rfl
  | some own =>
    show Option.bind (List.mapM (drawChild dx assets fuel W R) _) _ = _
    cases List.mapM (drawChild dx assets fuel W R) asset._childs.data with
    | none => rfl
    | some below => rfl

mutual

/-- By induction on the tree: its entries stand in the list from `n` on. -/
theorem traverse_tree : ∀ (t : RoseTree (AssetLabel K)) (n p fuel : Nat) (W R : XMMATRIX K),
    Stands (assets.placeables.map placeableEntry) n (layout n (some p) t) → size t ≤ fuel →
    SSRenderer.traverseModelCombinationAndDraw dx assets fuel n W R =
      emitAll (drawMesh dx assets) (treeItems dx W R t)
  | .node label childs, n, p, fuel, W, R, hstands, hfuel => by
    cases fuel with
    | zero => exact absurd hfuel (by simp [size])
    | succ fuel =>
      rw [layout] at hstands
      rw [size] at hfuel
      obtain ⟨asset, hasset, hentry⟩ := entry_some hstands.1
      have hkind : asset.kind = label.kind := congrArg (fun e => e.label.kind) hentry
      have hparent : asset._parent = some p := congrArg Entry.parent hentry
      have hdata : asset._childs.data = starts (n + 1) childs := congrArg Entry.childs hentry
      have hchilds := traverse_forest childs (n + 1) n fuel W R hstands.2 (by omega)
      rw [traverse_eq hasset, drawOwn_of_parent hparent, hkind, hdata, hchilds, treeItems,
        emitAll_append]

theorem traverse_forest : ∀ (ts : List (RoseTree (AssetLabel K))) (n p fuel : Nat)
    (W R : XMMATRIX K),
    Stands (assets.placeables.map placeableEntry) n (layoutForest n p ts) →
    sizeForest ts ≤ fuel →
    emitAll (drawChild dx assets fuel W R) (starts n ts) =
      emitAll (drawMesh dx assets) (forestItems dx W R ts)
  | [], n, p, fuel, W, R, _, _ => by rw [starts, forestItems, emitAll_nil, emitAll_nil]
  | .node label childs :: ts, n, p, fuel, W, R, hstands, hfuel => by
    rw [sizeForest] at hfuel
    rw [layoutForest] at hstands
    obtain ⟨ht, hts⟩ := stands_append hstands
    rw [layout_length] at hts
    have hhead := traverse_tree (.node label childs) n p fuel
      (dx.XMMatrixMultiply (label.transform.asMatrix dx) W)
      (dx.XMMatrixMultiply (label.transform.Rotation.asMatrix dx) R) ht (by omega)
    have htail := traverse_forest ts (n + size (.node label childs)) p fuel W R hts (by omega)
    have hone : drawChild dx assets fuel W R n = emitAll (drawMesh dx assets)
        (treeItems dx (dx.XMMatrixMultiply (label.transform.asMatrix dx) W)
          (dx.XMMatrixMultiply (label.transform.Rotation.asMatrix dx) R)
          (.node label childs)) := by
      rw [layout] at ht
      obtain ⟨asset, hasset, hentry⟩ := entry_some ht.1
      have htransform : asset._transform = label.transform :=
        congrArg (fun e => e.label.transform) hentry
      rw [← hhead]
      unfold drawChild
      rw [hasset, ← htransform]
      rfl
    rw [starts, forestItems, emitAll_cons, emitAll_append, hone, htail]

end

theorem drawOwn_of_root {asset : SSPlaceableAsset K} (h : asset._parent = none)
    (W R : XMMATRIX K) : SSRenderer.drawOwn dx assets asset W R = some [] := by
  unfold SSRenderer.drawOwn
  rw [h]
  cases asset.kind <;> rfl

/-- A traversal draws model by model. -/
theorem traverse_items (parent : Option Nat) (t : RoseTree (AssetLabel K)) {n fuel : Nat}
    (W R : XMMATRIX K) (hstands : Stands (assets.placeables.map placeableEntry) n
      (layout n parent t)) (hfuel : size t ≤ fuel) :
    SSRenderer.traverseModelCombinationAndDraw dx assets fuel n W R =
      emitAll (drawMesh dx assets) (traversalItems dx parent W R t) := by
  cases t with
  | node label childs =>
    cases parent with
    | some p => exact traverse_tree (.node label childs) n p fuel W R hstands hfuel
    | none =>
      cases fuel with
      | zero => exact absurd hfuel (by simp [size])
      | succ fuel =>
        rw [layout] at hstands
        rw [size] at hfuel
        obtain ⟨asset, hasset, hentry⟩ := entry_some hstands.1
        have hparent : asset._parent = none := congrArg Entry.parent hentry
        have hdata : asset._childs.data = starts (n + 1) childs := congrArg Entry.childs hentry
        rw [traverse_eq hasset, drawOwn_of_root hparent, hdata, Option.bind_some,
          traverse_forest childs (n + 1) n fuel W R hstands.2 (by omega)]
        simp [traversalItems]

end Traverse

section Paths

variable {K : Type}

mutual

/-- The paths to the mesh nodes of a node below `above`, in the order of the traversal. Skeleton
nodes are left out with everything below them. -/
def meshPaths : List (FbxNode K) → FbxNode K → List (List (FbxNode K))
  | above, ⟨name, nodeAttribute, materials, fbxMat, childs⟩ =>
    let here := ⟨name, nodeAttribute, materials, fbxMat, childs⟩ :: above
    match nodeAttribute with
    | some (.eMesh _) => here :: meshPathsChilds here childs
    | some (.eSkeleton _) => []
    | _ => meshPathsChilds here childs

def meshPathsChilds : List (FbxNode K) → List (FbxNode K) → List (List (FbxNode K))
  | _, [] => []
  | above, child :: rest => meshPaths above child ++ meshPathsChilds above rest

end

mutual

/-- Every path ends at its mesh node. -/
theorem meshPaths_nodes : ∀ (node : FbxNode K) (above : List (FbxNode K)),
    (meshPaths above node).map List.head? = (meshNodes node).map fun e => some e.1
  | ⟨name, nodeAttribute, materials, fbxMat, childs⟩, above => by
    unfold meshPaths meshNodes
    cases nodeAttribute with
    | none => exact meshPathsChilds_nodes childs _
    | some attr =>
      cases attr with
      | other => exact meshPathsChilds_nodes childs _
      | eSkeleton limbLength => rfl
      | eMesh fbxMesh =>
        simp only [List.map_cons, List.head?_cons, meshPathsChilds_nodes childs]

theorem meshPathsChilds_nodes : ∀ (childs above : List (FbxNode K)),
    (meshPathsChilds above childs).map List.head? = (meshNodesChilds childs).map fun e => some e.1
  | [], above => rfl
  | child :: rest, above => by
    simp only [meshPathsChilds, meshNodesChilds, List.map_append, meshPaths_nodes child,
      meshPathsChilds_nodes rest]

end

theorem meshPaths_length (above : List (FbxNode K)) (node : FbxNode K) :
    (meshPaths above node).length = (meshNodes node).length := by
  have h := congrArg List.length (meshPaths_nodes node above)
  rwa [List.length_map, List.length_map] at h

mutual

theorem meshNodes_attribute : ∀ (node : FbxNode K), ∀ e ∈ meshNodes node,
    e.1.nodeAttribute = some (.eMesh e.2)
  | ⟨name, nodeAttribute, materials, fbxMat, childs⟩ => by
    have hchilds := meshNodesChilds_attribute childs
    intro e he
    unfold meshNodes at he
    cases nodeAttribute with
    | none => exact hchilds e he
    | some attr =>
      cases attr with
      | other => exact hchilds e he
      | eSkeleton limbLength => cases he
      | eMesh fbxMesh =>
        rcases List.mem_cons.mp he with rfl | he
        · rfl
        · exact hchilds e he

theorem meshNodesChilds_attribute : ∀ (childs : List (FbxNode K)), ∀ e ∈ meshNodesChilds childs,
    e.1.nodeAttribute = some (.eMesh e.2)
  | [] => by
    intro e he
    cases he
  | child :: rest => by
    intro e he
    rw [meshNodesChilds] at he
    rcases List.mem_append.mp he with he | he
    · exact meshNodes_attribute child e he
    · exact meshNodesChilds_attribute rest e he

end

variable [Field K] (dx : DirectXMath K)

/-- Row vectors: the innermost matrix comes first. -/
def worldMatrix (path : List (FbxNode K)) : XMMATRIX K :=
  (path.map fun node => (extractTransformFromNode node .infinite).asMatrix dx).prod

def worldRotation (path : List (FbxNode K)) : XMMATRIX K :=
  (path.map fun node => (extractTransformFromNode node .infinite).Rotation.asMatrix dx).prod

/-- The models made for paths from index `n` on. -/
def pathItems (n : Nat) (paths : List (List (FbxNode K))) : List (MeshItem K) :=
  (paths.zipIdx n).map fun e => ⟨some e.2, worldMatrix dx e.1, worldRotation dx e.1⟩

theorem pathItems_append (n : Nat) (paths paths' : List (List (FbxNode K))) :
    pathItems dx n (paths ++ paths') =
      pathItems dx n paths ++ pathItems dx (n + paths.length) paths' := by
  unfold pathItems
  rw [List.zipIdx_append, List.map_append]

theorem forestItems_append (W R : XMMATRIX K) : ∀ ts ts' : List (RoseTree (AssetLabel K)),
    forestItems dx W R (ts ++ ts') = forestItems dx W R ts ++ forestItems dx W R ts'
  | [], ts' => by rw [List.nil_append, forestItems, List.nil_append]
  | .node label childs :: ts, ts' => by
    rw [List.cons_append, forestItems, forestItems, forestItems_append W R ts ts',
      List.append_assoc]

variable {dx}

theorem worldMatrix_cons (hdx : dx.Lawful) (node : FbxNode K) (above : List (FbxNode K)) :
    dx.XMMatrixMultiply ((extractTransformFromNode node .infinite).asMatrix dx)
      (worldMatrix dx above) = worldMatrix dx (node :: above) := by
  rw [hdx.matrixMultiply, worldMatrix, worldMatrix, List.map_cons, List.prod_cons]

theorem worldRotation_cons (hdx : dx.Lawful) (node : FbxNode K) (above : List (FbxNode K)) :
    dx.XMMatrixMultiply ((extractTransformFromNode node .infinite).Rotation.asMatrix dx)
      (worldRotation dx above) = worldRotation dx (node :: above) := by
  rw [hdx.matrixMultiply, worldRotation, worldRotation, List.map_cons, List.prod_cons]

/-- The tree of one node's asset, from its own items and those below it. -/
theorem forestItems_singleton (hdx : dx.Lawful) (node : FbxNode K) (assetName : String)
    (kind : PlaceableKind) (childs : List (RoseTree (AssetLabel K))) (above : List (FbxNode K)) :
    forestItems dx (worldMatrix dx above) (worldRotation dx above)
        [.node (nodeAssetLabel node assetName kind) childs] =
      ownItems kind (worldMatrix dx (node :: above)) (worldRotation dx (node :: above)) ++
        forestItems dx (worldMatrix dx (node :: above)) (worldRotation dx (node :: above))
          childs := by
  have hlabel : (nodeAssetLabel node assetName kind).transform =
      extractTransformFromNode node .infinite := rfl
  rw [forestItems, forestItems, treeItems, List.append_nil, hlabel, worldMatrix_cons hdx,
    worldRotation_cons hdx]
  rfl

mutual

/-- By induction on the scene: the models are numbered along the paths. -/
theorem forestItems_assetTrees (hdx : dx.Lawful) : ∀ (node : FbxNode K) (n : Nat)
    (above : List (FbxNode K)),
    forestItems dx (worldMatrix dx above) (worldRotation dx above) (assetTrees n node) =
      pathItems dx n (meshPaths above node)
  | ⟨name, nodeAttribute, materials, fbxMat, childs⟩, n, above => by
    have hchilds := forestItems_assetForest hdx childs
    unfold assetTrees meshPaths
    cases nodeAttribute with
    | none =>
      refine (forestItems_singleton hdx _ _ _ _ _).trans ?_
      exact hchilds n _
    | some attr =>
      cases attr with
      | other =>
        refine (forestItems_singleton hdx _ _ _ _ _).trans ?_
        exact hchilds n _
      | eSkeleton limbLength =>
        show forestItems dx _ _ [] = pathItems dx n []
        rw [forestItems]
        rfl
      | eMesh fbxMesh =>
        refine (forestItems_singleton hdx _ _ _ _ _).trans ?_
        rw [hchilds (n + 1) _]
        rfl

theorem forestItems_assetForest (hdx : dx.Lawful) : ∀ (childs : List (FbxNode K)) (n : Nat)
    (above : List (FbxNode K)),
    forestItems dx (worldMatrix dx above) (worldRotation dx above) (assetForest n childs) =
      pathItems dx n (meshPathsChilds above childs)
  | [], n, above => by
    rw [assetForest, forestItems, meshPathsChilds]
    rfl
  | child :: rest, n, above => by
    rw [assetForest, forestItems_append, meshPathsChilds, pathItems_append,
      forestItems_assetTrees hdx child, forestItems_assetForest hdx rest, meshPaths_length]

end

end Paths

section Geometry

variable {K : Type} [Field K] [LinearOrder K] {ctx : ImportContext K}
  {shaders : List SSShaderAsset}

/-- The model has the geometry of the mesh. -/
def HasGeometryOf (ctx : ImportContext K) (node : Option (FbxNode K)) (model : SSModelAsset) :
    Prop :=
  ∃ e fbxMesh, node = some e ∧ e.nodeAttribute = some (.eMesh fbxMesh) ∧
    generateMesh ctx fbxMesh = some model._geometry

theorem importMesh_geometry {s s' : ImportState K} {node : FbxNode K} {fbxMesh : FbxSceneMesh K}
    (h : importMesh ctx shaders s node fbxMesh = some s') :
    ∃ model, s'.models = s.models ++ [model] ∧
      generateMesh ctx fbxMesh = some model._geometry := by
  unfold importMesh at h
  simp only [Option.bind_eq_bind, Option.bind_eq_some_iff] at h
  obtain ⟨geometry, hgeometry, assetName, _, ⟨materials, model⟩, hset, models, hmodels, heq⟩ := h
  obtain ⟨_, rfl⟩ := insertNewModel_eq_some.mp hmodels
  cases heq
  have hgeom : model._geometry = geometry := (setMaterials_some _ _ _ _ _ _ hset).geometry
  refine ⟨_, rfl, ?_⟩
  rw [hgeometry]
  split
  · rw [setMaterial_geometry, hgeom]
  · rw [hgeom]

theorem importMeshes_geometries : ∀ (nodes : List (FbxNode K × FbxSceneMesh K))
    (s s' : ImportState K), importMeshes ctx shaders s nodes = some s' →
    ∃ new, s'.models = s.models ++ new ∧
      List.Forall₂ (fun e model => generateMesh ctx e.2 = some model._geometry) nodes new := by
  intro nodes
  induction nodes with
  | nil =>
    intro s s' h
    cases h
    exact ⟨[], (List.append_nil _).symm, List.Forall₂.nil⟩
  | cons e nodes ih =>
    intro s s' h
    rw [importMeshes_cons] at h
    obtain ⟨s1, h1, h2⟩ := Option.bind_eq_some_iff.mp h
    obtain ⟨model, hmodel, hgeometry⟩ := importMesh_geometry h1
    obtain ⟨new, hnew, hall⟩ := ih s1 s' h2
    refine ⟨model :: new, ?_, List.Forall₂.cons hgeometry hall⟩
    rw [hnew, hmodel, List.append_assoc]
    rfl

/-- The models of a scene, in the order of its paths. -/
theorem models_along_paths {childs : List (FbxNode K)} {s s' : ImportState K}
    (h : importMeshes ctx shaders s (meshNodesChilds childs) = some s')
    (above : List (FbxNode K)) :
    ∃ new, s'.models = s.models ++ new ∧
      List.Forall₂ (fun path model => HasGeometryOf ctx path.head? model)
        (meshPathsChilds above childs) new := by
  obtain ⟨new, hnew, hall⟩ := importMeshes_geometries _ _ _ h
  refine ⟨new, hnew, ?_⟩
  have hattr : List.Forall₂ (fun e model => HasGeometryOf ctx (some e.1) model)
      (meshNodesChilds childs) new := by
    have hboth := (List.forall₂_and_left _ _).mpr ⟨meshNodesChilds_attribute childs, hall⟩
    exact hboth.imp fun e model h => ⟨e.1, e.2, rfl, h.1, h.2⟩
  rw [← List.forall₂_map_left_iff (f := List.head?) (R := HasGeometryOf ctx),
    meshPathsChilds_nodes, List.forall₂_map_left_iff]
  exact hattr

end Geometry

section Scene

variable {K : Type} [Field K] {dx : DirectXMath K}

theorem identity_asMatrix (hdx : dx.Lawful) (hexact : dx.Computes) :
    (Transform.Identity : Transform K).asMatrix dx = 1 ∧
      (Transform.Identity : Transform K).Rotation.asMatrix dx = 1 := by
  have hrot : dx.XMMatrixRotationQuaternion (Quaternion.one : Quaternion K) = 1 := by
    rw [hexact.matrixRotationQuaternion]
    ext i j
    fin_cases i <;> fin_cases j <;> simp [DirectXMath.rotationQuaternion, Quaternion.one]
  refine ⟨?_, hrot⟩
  rw [Transform.asMatrix_eq hdx, Transform.Identity, hrot]
  ext i j
  fin_cases i <;> fin_cases j <;>
    simp [RigidMatrix.scaling, RigidMatrix.translation, Matrix.mul_apply, Fin.sum_univ_four]

variable [LinearOrder K]

/-- A scene that was imported: its meshes were, and its assets are laid out in pre-order. -/
theorem import_some {ctx : ImportContext K} {shaders : List SSShaderAsset}
    {models : List SSModelAsset} {materials : SSMaterialAssetManager} {rootNode : FbxNode K}
    {s' : ImportState K}
    (h : importCurrentSceneToModelAsset ctx shaders models materials rootNode = some s') :
    (∃ s1, importMeshes ctx shaders ⟨[], models, materials⟩ (meshNodesChilds rootNode.childs) =
        some s1 ∧ s'.models = s1.models) ∧
      s'.placeables.map placeableEntry =
        layout 0 none (sceneAssetTree ctx._fileName models.length rootNode) := by
  obtain ⟨_, s1, hmeshes, hmodels, hes⟩ := importScene_some h
  exact ⟨⟨s1, hmeshes, hmodels⟩, (isAssetTree_of_build hes).preorder⟩

/-- Drawing an imported scene issues exactly the commands of its mesh nodes outside skeletons, in
the order of the scene, each with the geometry of its own mesh and under the product of the local
transforms from the node up to the root. -/
theorem imported_scene_drawn (hdx : dx.Lawful) (hexact : dx.Computes) (ctx : ImportContext K)
    (shaders : List SSShaderAsset) (models : List SSModelAsset)
    (materials : SSMaterialAssetManager) (rootNode : FbxNode K) (s' : ImportState K)
    (himport : importCurrentSceneToModelAsset ctx shaders models materials rootNode = some s')
    (assets : DrawnAssets K) (hplaceables : assets.placeables = s'.placeables) :
    SSRenderer.drawModelCombination dx assets 0 =
        emitAll (drawMesh dx assets)
          (pathItems dx models.length (meshPathsChilds [] rootNode.childs)) ∧
      ∃ new, s'.models = models ++ new ∧
        List.Forall₂ (fun path model => HasGeometryOf ctx path.head? model)
          (meshPathsChilds [] rootNode.childs) new := by
  obtain ⟨⟨s1, hmeshes, hmodels⟩, hlayout⟩ := import_some himport
  obtain ⟨hone, hrotOne⟩ := identity_asMatrix hdx hexact
  constructor
  · have hstands : Stands (assets.placeables.map placeableEntry) 0
        (layout 0 none (sceneAssetTree ctx._fileName models.length rootNode)) := by
      rw [hplaceables, hlayout]
      exact stands_suffix [] _
    have hlength : assets.placeables.length =
        size (sceneAssetTree ctx._fileName models.length rootNode) := by
      have h := congrArg List.length hlayout
      rwa [List.length_map, layout_length, ← hplaceables] at h
    have hitems := forestItems_assetForest hdx rootNode.childs models.length []
    have hnil : worldMatrix dx ([] : List (FbxNode K)) = 1 := rfl
    have hnilRot : worldRotation dx ([] : List (FbxNode K)) = 1 := rfl
    rw [hnil, hnilRot] at hitems
    unfold SSRenderer.drawModelCombination
    rw [hone, hrotOne, traverse_items none _ 1 1 hstands hlength.ge]
    exact congrArg _ hitems
  · rw [hmodels]
    exact models_along_paths hmeshes []

end Scene

section Mixed

/-- A material without textures; its stages use the slots 0 and 1, and 1 and 2. -/
def plainMaterial (shader : SSShaderAsset) : SSDrawnMaterial where
  _shader := shader
  buffers := { SSMaterialBuffers.new
                 { VSCBReflectionInfo := fun i => { CBSlotIdx := i }
                   VSConstBufferNum := 2
                   PSCBReflectionInfo := fun i => { CBSlotIdx := (i + 1 : Nat) }
                   PSConstBufferNum := 2 } with
               ConstantBuffers := some
               VSConstantBuffers := some
               PSConstantBuffers := fun i => some (i + 1)
               _materialStage := .GPUBufferInitialized }
  TexturePoolCount := 0
  _textureCache := fun _ => none
  SamplerCount := 0
  _sampleCache := fun _ => none

/-- The assets after an import, with the fallback and one more material. -/
def importedAssets (s : ImportState ℚ) : DrawnAssets ℚ where
  placeables := s.placeables
  models := s.models
  geometryBuffers := fun model => ⟨64, some (2 * model), some (2 * model + 1)⟩
  materials := fun i => if i < 2 then some (plainMaterial pbrShader) else none
  _skeletonAssetCache := none
  _skeletonAnimCache := none
  _globalParamContext := ⟨1, ⟨0, 0, 1, 0⟩, ⟨1, 1, 1, 1⟩, ⟨0, 0, 0, 0⟩⟩
  elapsedTime := 0

theorem imported_scene_drawn_mixed :
    ∃ s', importCurrentSceneToModelAsset sharedContext [pbrShader, pbrSkinnedShader] []
        twoMaterials mixedScene = some s' ∧
      SSRenderer.drawModelCombination (DirectXMath.exact ℚ) (importedAssets s') 0 =
        emitAll (drawMesh (DirectXMath.exact ℚ) (importedAssets s'))
          (pathItems (DirectXMath.exact ℚ) 0 (meshPathsChilds [] mixedScene.childs)) ∧
      ∃ new, s'.models = [] ++ new ∧
        List.Forall₂ (fun path model => HasGeometryOf sharedContext path.head? model)
          (meshPathsChilds [] mixedScene.childs) new := by
  have hsome : (importCurrentSceneToModelAsset sharedContext [pbrShader, pbrSkinnedShader] []
      twoMaterials mixedScene).isSome = true := by decide +kernel
  obtain ⟨s', hs'⟩ := Option.isSome_iff_exists.mp hsome
  exact ⟨s', hs', imported_scene_drawn DirectXMath.exact_lawful DirectXMath.exact_computes
    sharedContext [pbrShader, pbrSkinnedShader] [] twoMaterials mixedScene s' hs'
    (importedAssets s') rfl⟩

/-- The glove below the skeleton is not drawn, the table is. -/
example : ((importCurrentSceneToModelAsset sharedContext [pbrShader, pbrSkinnedShader] []
    twoMaterials mixedScene).bind fun s =>
      (SSRenderer.drawModelCombination (DirectXMath.exact ℚ) (importedAssets s) 0).map
        List.length) = some 14 := by decide +kernel

end Mixed

end FBXRenderer
