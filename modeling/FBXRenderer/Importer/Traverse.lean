import FBXRenderer.Asset.Material
import FBXRenderer.Importer.Geometry

/-!
# FBXRenderer.Importer.Traverse

`TraverseNodesRecursion` and `ImportCurrentSceneToModelAsset` (`SSFBXImporter.cpp`). Assets are
named by their index: placeable assets in the order of their creation, models by their index in the
pool of `SSModelAssetManager`, materials by theirs in the pool of `SSMaterialAssetManager`.

The traversal stops with an assertion at a name that is too long for its array and at a push to the
full pool of geometries or models. A name that a hash map refuses is only reported (the assertion of
`InsertNewGeometry` tests its message, that of `InsertNewModel` is a break point for the debugger,
and both are followed by the return), so the answers of the hash maps play no part. The finished
tree is handed to the manager of the model combinations, whose pool is with the other managers.
-/

namespace FBXRenderer

open SS

structure SSModelAsset where
  _assetName : String
  _geometry : SSGeometryAsset
  _multiMaterialList : Nat → Option Nat

/-- `AssetType::Blank`, or `AssetType::ModelCombination` with its model, if any. -/
inductive PlaceableKind where
  | blank
  | modelCombination (modelAsset : Option Nat)

structure SSPlaceableAsset (K : Type) where
  _assetName : String
  kind : PlaceableKind
  _transform : Transform K
  _parent : Option Nat
  _childs : PooledList Nat

structure ImportState (K : Type) where
  placeables : List (SSPlaceableAsset K)
  models : List SSModelAsset
  materials : SSMaterialAssetManager

/-- The pool capacities of `SSGeometryAssetManager` and `SSModelAssetManager` in
`SSRenderer::Init`. -/
def meshPoolCapacity : Nat := 1000

/-- `InsertNewGeometry` and `InsertNewModel`, the only pushes to the two pools: they hold as many
assets each, and neither grows. `none` is the assertion of `PushBack`. -/
def insertNewModel (models : List SSModelAsset) (newModel : SSModelAsset) :
    Option (List SSModelAsset) :=
  if models.length < meshPoolCapacity then some (models ++ [newModel]) else none

theorem insertNewModel_eq_some {models models' : List SSModelAsset} {newModel : SSModelAsset} :
    insertNewModel models newModel = some models' ↔
      models.length < meshPoolCapacity ∧ models ++ [newModel] = models' := by
  unfold insertNewModel
  split
  · rename_i hlt
    exact ⟨fun h => ⟨hlt, Option.some_inj.mp h⟩, fun h => congrArg some h.2⟩
  · rename_i hlt
    exact iff_of_false (Option.some_ne_none _).symm fun h => hlt h.1

namespace SSModelAsset

/-- `SetMaterial`; an index past the sub-geometry count is only logged. -/
def setMaterial (model : SSModelAsset) (InMaterial matIdx : Nat) : SSModelAsset :=
  if model._geometry.subGeometryNum < matIdx then model
  else { model with
         _multiMaterialList := Function.update model._multiMaterialList matIdx (some InMaterial) }

/-- The materials that are drawn with the model. -/
def UsesMaterial (model : SSModelAsset) (material : Nat) : Prop :=
  ∃ i, i < model._geometry.subGeometryNum ∧ model._multiMaterialList i = some material

end SSModelAsset

/-- The name under which a material was registered. It is put together over `outAssetID[10]`, which
the text of an id overflows from ten characters on (`FbxSurfaceMaterial.NameFits`). -/
def FbxSurfaceMaterial.assetName (material : FbxSurfaceMaterial) : String :=
  material.nameOnly ++ "_" ++ toString (toInt64 material.uniqueID)

/-- The text of the id fits `outAssetID`, and the name `assetName`. -/
def FbxSurfaceMaterial.NameFits (material : FbxSurfaceMaterial) : Prop :=
  (toString (toInt64 material.uniqueID)).utf8ByteSize < 10 ∧ FitsAssetName material.assetName

instance (material : FbxSurfaceMaterial) : Decidable material.NameFits :=
  inferInstanceAs (Decidable (_ ∧ _))

/-- The change that a skinned geometry makes to a material that was found. -/
def fitMaterial (shaders : List SSShaderAsset) (manager : SSMaterialAssetManager)
    (newGeometry : SSGeometryAsset) (modelMaterial : Nat) : Option SSMaterialAssetManager :=
  if newGeometry._meshType = .Skinned then
    manager.changeShader shaders SSShaderAssetManager.SSDefaultPbrSkinnedShaderName modelMaterial
  else some manager

/-- The material loop from index `i` on. -/
def setMaterials (shaders : List SSShaderAsset) :
    List FbxSurfaceMaterial → Nat → SSMaterialAssetManager → SSModelAsset →
      Option (SSMaterialAssetManager × SSModelAsset)
  | [], _, manager, newModel => some (manager, newModel)
  | material :: rest, i, manager, newModel =>
    if material.NameFits then
      match manager.findAssetWithName material.assetName with
      | none =>
        setMaterials shaders rest (i + 1) manager
          (newModel.setMaterial SSMaterialAssetManager.getEmptyAsset i)
      | some modelMaterial => do
        let manager ← fitMaterial shaders manager newModel._geometry modelMaterial
        setMaterials shaders rest (i + 1) manager (newModel.setMaterial modelMaterial i)
    else none

section Traverse

variable {K : Type}

/-- `thisAsset` with its parent, entered in the child list of the parent. -/
def ImportState.attach (s : ImportState K) (thisAsset : SSPlaceableAsset K) (parentAsset : Nat) :
    Option (ImportState K × Nat) := do
  let parent ← s.placeables[parentAsset]?
  let childs ← parent._childs.pushBack s.placeables.length
  some ({ s with
          placeables := s.placeables.set parentAsset { parent with _childs := childs } ++
            [{ thisAsset with _parent := some parentAsset }] }, s.placeables.length)

variable [Field K] [LinearOrder K] (ctx : ImportContext K) (shaders : List SSShaderAsset)

/-- The `eMesh` case: geometry, model and materials. The name of the placeable asset, copied before
the insertions, is shorter than that of the model. -/
def importMesh (s : ImportState K) (node : FbxNode K) (fbxMesh : FbxSceneMesh K) :
    Option (ImportState K) := do
  let newGeometry ← generateMesh ctx fbxMesh
  let assetName ← fixedAssetName (ctx._fileName ++ "_" ++ fbxMesh.nodeName ++ ".mdl")
  let newModel : SSModelAsset :=
    { _assetName := assetName
      _geometry := newGeometry
      _multiMaterialList := fun _ => none }
  let (materials, newModel) ← setMaterials shaders node.materials 0 s.materials newModel
  let newModel :=
    if node.materials.length = 0 then newModel.setMaterial SSMaterialAssetManager.getEmptyAsset 0
    else newModel
  let models ← insertNewModel s.models newModel
  some { s with models := models, materials := materials }

/-- A placeable asset as it is constructed for a node, with the node's transform. -/
def newPlaceable (node : FbxNode K) (assetName : String) (kind : PlaceableKind) :
    SSPlaceableAsset K where
  _assetName := assetName
  kind := kind
  _transform := extractTransformFromNode node .infinite
  _parent := none
  _childs := PooledList.new node.childs.length

/-- The switch on the attribute: the asset of the node, unless it is a skeleton. -/
def importNode (s : ImportState K) (node : FbxNode K) :
    Option (ImportState K × Option (SSPlaceableAsset K)) :=
  match node.nodeAttribute with
  | some (.eMesh fbxMesh) =>
    (importMesh ctx shaders s node fbxMesh).map fun s' =>
      (s', some (newPlaceable node fbxMesh.nodeName (.modelCombination (some s.models.length))))
  | some (.eSkeleton _) => some (s, none)
  | _ => some (s, some (newPlaceable node "" .blank))

mutual

def traverseNodesRecursion :
    ImportState K → FbxNode K → Nat → Option (ImportState K)
  | s, ⟨name, nodeAttribute, materials, fbxMat, childs⟩, parentAsset => do
    let (s, thisAsset) ←
      importNode ctx shaders s ⟨name, nodeAttribute, materials, fbxMat, childs⟩
    match thisAsset with
    | none => some s
    | some thisAsset =>
      let (s, thisIdx) ← s.attach thisAsset parentAsset
      traverseChilds s childs thisIdx

/-- The loop over the children. -/
def traverseChilds : ImportState K → List (FbxNode K) → Nat → Option (ImportState K)
  | s, [], _ => some s
  | s, child :: rest, thisAsset => do
    let s ← traverseNodesRecursion s child thisAsset
    traverseChilds s rest thisAsset

end

/-- The root asset has no model; the root node itself is not traversed. -/
def importCurrentSceneToModelAsset (models : List SSModelAsset)
    (materials : SSMaterialAssetManager) (rootNode : FbxNode K) : Option (ImportState K) := do
  let assetName ← fixedAssetName (ctx._fileName ++ ".mdlc")
  let newModelCombAsset : SSPlaceableAsset K :=
    { _assetName := assetName
      kind := .modelCombination none
      _transform := Transform.Identity
      _parent := none
      _childs := PooledList.new rootNode.childs.length }
  traverseChilds ctx shaders ⟨[newModelCombAsset], models, materials⟩ rootNode.childs 0

end Traverse

end FBXRenderer
