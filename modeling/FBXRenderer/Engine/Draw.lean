import Mathlib
import FBXRenderer.Asset.MaterialBuffers
import FBXRenderer.Asset.SkeletonAnim
import FBXRenderer.Engine.DeviceContext
import FBXRenderer.Importer.Traverse

/-!
# FBXRenderer.Engine.Draw

The drawing functions of `SSRenderer` (`SSRenderer.cpp`): `BindModel` and what it calls, and
`TraverseModelCombinationAndDraw`. They answer with the calls they make on the device context;
`none` is a null pointer that is dereferenced, or an index outside an array.

Binding functions return early when something is not ready, and log it. Their callers go on, so a
draw is issued all the same. The log macros (`SS_CLASS_ERR_LOG`, `SS_CLASS_WARNING_LOG`) end in a
`__debugbreak` in debug builds and are empty in others; it is taken as going on, since every use
here is followed by the `return` that the code means to continue with.
-/

namespace FBXRenderer

open SS ID3D11DeviceContext

def W_TRANSFOMRM_IDX : Nat := 0

def GLOBAL_RENDER_PARAM_IDX : Nat := 1

/-- `SSMaterialAsset` as far as drawing with it is concerned. -/
structure SSDrawnMaterial where
  _shader : SSShaderAsset
  buffers : SSMaterialBuffers
  TexturePoolCount : Nat
  /-- The view of a texture of the cache; `none` is a null pointer in the cache. -/
  _textureCache : Nat → Option Nat
  SamplerCount : Nat
  _sampleCache : Nat → Option Nat

/-- The GPU side of an `SSGeometryAsset`. -/
structure SSGeometryBuffers where
  _eachVertexDataSize : Nat
  _vertexBuffer : Option Nat
  _indexBuffer : Option Nat

/-- `_skeletonAnimCache` as `BindSkeletonAnim` uses it: its buffer, and what it is updated to at a
time. -/
structure SSBoundSkeletonAnim (K : Type) where
  _jointBuffer : Nat
  _jointBufferSRV : Option Nat
  jointsAt : K → Option (Nat → JOINTMATRIX K)

/-- The assets that drawing reaches, and the members of `SSRenderer` it reads. Materials are named
by their index in their manager's pool, models by theirs. -/
structure DrawnAssets (K : Type) where
  placeables : List (SSPlaceableAsset K)
  models : List SSModelAsset
  geometryBuffers : Nat → SSGeometryBuffers
  materials : Nat → Option SSDrawnMaterial
  /-- `_skeletonAssetCache`: the view of its joint buffer. -/
  _skeletonAssetCache : Option (Option Nat)
  _skeletonAnimCache : Option (SSBoundSkeletonAnim K)
  _globalParamContext : GlobalRenderParam K
  elapsedTime : K

namespace SSDrawnMaterial

def isBindingPossible (material : SSDrawnMaterial) : Prop :=
  material.buffers._materialStage = .GPUBufferInitialized

instance (material : SSDrawnMaterial) : Decidable material.isBindingPossible :=
  inferInstanceAs (Decidable (_ = _))

end SSDrawnMaterial

def SSGeometryBuffers.usableOnGPU (geometry : SSGeometryBuffers) : Prop :=
  geometry._vertexBuffer ≠ none

instance (geometry : SSGeometryBuffers) : Decidable geometry.usableOnGPU :=
  inferInstanceAs (Decidable (_ ≠ _))

namespace SSRenderer

section Bind

variable {K : Type}

def bindShader (shaderAsset : SSShaderAsset) : List (Command K) :=
  if shaderAsset._shaderInstanceStage ≠ .Instantiated then []
  else [.IASetInputLayout shaderAsset._assetName, .VSSetShader shaderAsset._assetName,
    .PSSetShader shaderAsset._assetName]

/-- The loop over the textures: `GetBoundTextureAsset(i)->GetSRVpp()`. -/
def bindTextures (materialAsset : SSDrawnMaterial) : Option (List (Command K)) :=
  (List.range materialAsset.TexturePoolCount).mapM fun i =>
    (materialAsset._textureCache i).map fun view => .PSSetShaderResources i (some view)

def bindMaterial (materialAsset : SSDrawnMaterial) : Option (List (Command K)) :=
  if materialAsset.buffers._materialStage = .JustCreated then some []
  else do
    let constantBuffers := materialAsset.buffers.bindMaterial materialAsset._shader._assetName
    let textures ← bindTextures materialAsset
    return bindShader materialAsset._shader ++
      constantBuffers.1.map (fun b => .VSSetConstantBuffers b.1 b.2) ++
      constantBuffers.2.map (fun b => .PSSetConstantBuffers b.1 b.2) ++ textures ++
      [.PSSetSamplers 0 ((List.range materialAsset.SamplerCount).map materialAsset._sampleCache)]

def bindGeometry (geometryAsset : SSGeometryBuffers) : List (Command K) :=
  [.IASetVertexBuffers geometryAsset._vertexBuffer geometryAsset._eachVertexDataSize,
    .IASetIndexBuffer geometryAsset._indexBuffer, .IASetPrimitiveTopology]

def bindSkeleton (skeletonToBind : Option (Option Nat)) : Option (List (Command K)) :=
  skeletonToBind.map fun view => [.VSSetShaderResources 3 view]

def bindSkeletonAnim (skeletonAnimAsset : Option (SSBoundSkeletonAnim K)) (time : K) :
    Option (List (Command K)) := do
  let anim ← skeletonAnimAsset
  let joints ← anim.jointsAt time
  return [.UpdateSubresource anim._jointBuffer (.joints joints),
    .VSSetShaderResources 4 anim._jointBufferSRV]

variable (assets : DrawnAssets K)

/-- `modelToBind->GetMaterial(multiMaterialIdx)`, dereferenced. -/
def materialOf (model : SSModelAsset) (multiMaterialIdx : Nat) : Option SSDrawnMaterial :=
  if multiMaterialIdx < SUBGEOM_COUNT_MAX then
    (model._multiMaterialList multiMaterialIdx).bind assets.materials
  else none

def bindModel (model : Nat) (modelToBind : SSModelAsset) (multiMaterialIdx : Nat) :
    Option (List (Command K)) :=
  if modelToBind._geometry.subGeometryNum ≤ multiMaterialIdx then some []
  else do
    let material ← materialOf assets modelToBind multiMaterialIdx
    if material.isBindingPossible then
      let bound ← bindMaterial material
      if (assets.geometryBuffers model).usableOnGPU then
        return bound ++ bindGeometry (assets.geometryBuffers model)
      else return bound
    else return []

end Bind

section Traverse

variable {K : Type} [Field K] (dx : DirectXMath K) (assets : DrawnAssets K)

/-- `UpdateTransform(WMatrix, RotMatrix)`, with the null pointer that a missing buffer is. -/
def updateTransform (material : SSDrawnMaterial) (WMatrix RotMatrix : XMMATRIX K) :
    Option (Command K) :=
  (material.buffers.ConstantBuffers W_TRANSFOMRM_IDX).map fun buffer =>
    .UpdateSubresource buffer
      (.transform (dx.XMMatrixTranspose WMatrix) (dx.XMMatrixTranspose RotMatrix))

def updateGlobalRenderParam (material : SSDrawnMaterial) (InParam : GlobalRenderParam K) :
    Option (Command K) :=
  (material.buffers.ConstantBuffers GLOBAL_RENDER_PARAM_IDX).map fun buffer =>
    .UpdateSubresource buffer (.globalRenderParam InParam)

/-- The joints that a skinned mesh is drawn with. -/
def bindJoints (modelAsset : SSModelAsset) : Option (List (Command K)) :=
  if modelAsset._geometry._meshType = .Skinned then do
    let skeleton ← bindSkeleton assets._skeletonAssetCache
    let anim ← bindSkeletonAnim assets._skeletonAnimCache (assets.elapsedTime / (2 : Nat))
    return skeleton ++ anim
  else some []

/-- Loop body of `TraverseModelCombinationAndDraw`, for sub-geometry `i`. -/
def drawSubGeometry (model : Nat) (modelAsset : SSModelAsset)
    (transformMatrix rotMatrix : XMMATRIX K) (i : Nat) : Option (List (Command K)) := do
  let bound ← bindModel assets model modelAsset i
  let skin ← bindJoints assets modelAsset
  let material ← materialOf assets modelAsset i
  let param ← updateGlobalRenderParam material assets._globalParamContext
  let transform ← updateTransform dx material transformMatrix rotMatrix
  return bound ++ skin ++ [param, transform,
    .DrawIndexed (modelAsset._geometry.indexDataNum i) (modelAsset._geometry.indexDataStartIndex i)]

/-- The part of `TraverseModelCombinationAndDraw` before its loop over the children. -/
def drawOwn (asset : SSPlaceableAsset K) (transformMatrix rotMatrix : XMMATRIX K) :
    Option (List (Command K)) :=
  match asset.kind, asset._parent with
  | .modelCombination modelAsset, some _ => do
    let model ← modelAsset
    let modelAsset ← assets.models[model]?
    let commands ← (List.range modelAsset._geometry.subGeometryNum).mapM
      (drawSubGeometry dx assets model modelAsset transformMatrix rotMatrix)
    return commands.flatten
  | _, _ => some []

/-- The recursion is given as many levels as there are assets. -/
def traverseModelCombinationAndDraw :
    Nat → Nat → XMMATRIX K → XMMATRIX K → Option (List (Command K))
  | 0, _, _, _ => none
  | fuel + 1, asset, transformMatrix, rotMatrix => do
    let this ← assets.placeables[asset]?
    let own ← drawOwn dx assets this transformMatrix rotMatrix
    let below ← this._childs.data.mapM fun item => do
      let child ← assets.placeables[item]?
      traverseModelCombinationAndDraw fuel item
        (dx.XMMatrixMultiply (child._transform.asMatrix dx) transformMatrix)
        (dx.XMMatrixMultiply (child._transform.Rotation.asMatrix dx) rotMatrix)
    return own ++ below.flatten

/-- The call of `PerFrame`, for the asset of `_mdlcCache` and a new transform. -/
def drawModelCombination (mdlcCache : Nat) : Option (List (Command K)) :=
  traverseModelCombinationAndDraw dx assets assets.placeables.length mdlcCache
    (Transform.Identity.asMatrix dx) ((Transform.Identity : Transform K).Rotation.asMatrix dx)

end Traverse

end SSRenderer

end FBXRenderer
