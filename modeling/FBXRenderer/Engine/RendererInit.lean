import FBXRenderer.Engine.RendererAssets

/-!
# FBXRenderer.Engine.RendererInit

`SSRenderer::Init` with its error paths, and the `CleanUp` that `wWinMain` calls when it fails
(`SSRenderer.cpp`). What the calls into D3D, DXGI, the texture file and the FBX SDK answer is given
by `InitCalls`; breakpoints, ImGui and the sampler pool hold no assets and are left out. A manager
is its pool, or `none` while its `g_instance` is null; `Get` on it is then `none` as well.

* `cleaned_up_iff`: the `CleanUp` after a failed `Init` is in order exactly when it was the import
  of a scene that failed, and the default shader had been instantiated.
-/

namespace FBXRenderer

open SS

def E_INVALIDARG : HRESULT := -2147024809

/-- The calls of the first part of `Init`, in order. -/
structure DeviceCalls where
  createDevice : HRESULT
  createDeviceRetry : HRESULT
  queryDxgiDevice : HRESULT
  getAdapter : HRESULT
  getParent : HRESULT
  hasFactory2 : Bool
  createSwapChainForHwnd : HRESULT
  querySwapChain : HRESULT
  createSwapChain : HRESULT
  getBuffer : HRESULT
  createRenderTargetView : HRESULT
  createTexture2D : HRESULT
  createDepthStencilView : HRESULT

/-- The assets of an FBX file, as the importer makes them. -/
structure SceneAssets where
  materialCount : Nat
  skeleton : Option SSRenderer.SkeletonCalls
  skeletonAnim : Option SSRenderer.SkeletonAnimCalls
  meshes : List SSRenderer.GeometryCalls

/-- `none` is a texture list or an FBX file that cannot be opened. -/
structure InitCalls where
  device : DeviceCalls
  pbrShader : ShaderCalls
  pbrSkinnedShader : ShaderCalls
  textureList : Option (List HRESULT)
  directionMesh : Option SceneAssets
  fbxFile : Option SceneAssets

/-- The managers and the record of their assets. -/
structure SSRenderer where
  shaders : Option (List SSRenderer.ShaderState) := none
  textures : Option (List SSRenderer.TextureState) := none
  materials : Option (List SSRenderer.MaterialState) := none
  skeletons : Option (List SSRenderer.SkeletonState) := none
  skeletonAnims : Option (List SSRenderer.SkeletonAnimState) := none
  geometries : Option (List SSRenderer.GeometryState) := none
  models : Option (List Unit) := none
  modelCombinations : Option (List Unit) := none
  ledger : SSRenderer.Ledger := {}

namespace SSRenderer

/-- How many assets a pool of `Init` can come to hold. -/
def initLimit (k : ManagerKind) : Nat := k.poolLimit k.initCapacity

def skeletonAnimLimit : Nat := PooledList.maxCapacity 100

/-- `Instantiate` of a manager. -/
def instantiate {A : Type} (instance' : Option (List A)) : Option (List A) :=
  some (instance'.getD [])

/-- The device, the swap chain and the render targets. -/
def initDevice (calls : DeviceCalls) : HRESULT :=
  let hr := if calls.createDevice = E_INVALIDARG then calls.createDeviceRetry
    else calls.createDevice
  if FAILED hr then hr
  else
    let hr := if FAILED calls.queryDxgiDevice then calls.queryDxgiDevice
      else if FAILED calls.getAdapter then calls.getAdapter else calls.getParent
    if FAILED hr then hr
    else
      let hr := if calls.hasFactory2 then
          if FAILED calls.createSwapChainForHwnd then calls.createSwapChainForHwnd
          else calls.querySwapChain
        else calls.createSwapChain
      if FAILED hr then hr
      else if FAILED calls.getBuffer then calls.getBuffer
      else if FAILED calls.createRenderTargetView then calls.createRenderTargetView
      else if FAILED calls.createTexture2D then calls.createTexture2D
      else calls.createDepthStencilView

section ShaderManager

/-- `LoadNewShaderTemp`. -/
def loadNewShaderTemp (pbrShader pbrSkinnedShader : ShaderCalls) (pool : List ShaderState) :
    Option (List ShaderState) :=
  insertAllInto (initLimit .shader) pool
    [{ _assetName := SSShaderAssetManager.SSDefaultPbrShaderName, calls := pbrShader },
      { _assetName := SSShaderAssetManager.SSDefaultPbrSkinnedShaderName,
        calls := pbrSkinnedShader }]

def compileAllShader (pool : List ShaderState) (h : Handles) :
    Option (HRESULT × List ShaderState × Handles) :=
  FailFast.update FAILED S_OK ShaderState.compileShader pool h

def instantiateAllShader (pool : List ShaderState) (h : Handles) :
    Option (HRESULT × List ShaderState × Handles) :=
  FailFast.update FAILED S_OK ShaderState.instantiateShader pool h

def releaseAllShader (pool : List ShaderState) (l : Ledger) : Option Ledger :=
  releaseAndDeleteAll .Shader (fun s h => D3DShaderAsset.release s.asset h) pool l

/-- `InitShaderManager`. The second test is on the result of the compilation again, not on the
result of `InstantiateAllShader`. -/
def initShaderManager (r : SSRenderer) (pbrShader pbrSkinnedShader : ShaderCalls) :
    Option (HRESULT × SSRenderer) := do
  let pool ← instantiate r.shaders
  let pool ← loadNewShaderTemp pbrShader pbrSkinnedShader pool
  let (hr, pool, handles) ← compileAllShader pool r.ledger.handles
  let ledger := { r.ledger with handles := handles }
  if FAILED hr then
    let ledger ← releaseAllShader pool ledger
    return (hr, { r with shaders := some pool, ledger := ledger })
  let (_, pool, handles) ← instantiateAllShader pool handles
  let ledger := { ledger with handles := handles }
  if FAILED hr then
    let ledger ← releaseAllShader pool ledger
    return (hr, { r with shaders := some pool, ledger := ledger })
  return (S_OK, { r with shaders := some pool, ledger := ledger })

end ShaderManager

/-- `LoadTextures`. Of the result only the failure is looked at. -/
def loadTextures (pool : List TextureState) (textureList : Option (List HRESULT)) :
    Option (HRESULT × List TextureState) :=
  match textureList with
  | none => some (E_FAIL, pool)
  | some textures => do
    let pool ← insertAllInto (initLimit .texture) pool
      (textures.map fun hr => { createDDSTextureFromFile := hr })
    let (hr, pool, _) ← FailFast.update FAILED S_OK
      (fun t (_ : Unit) => let (hr, t) := t.updateOnGPU; some (hr, t, ())) pool ()
    return (hr, pool)

/-- The constructor of `SSPbrMaterialAsset`. -/
def newPbrMaterial (r : SSRenderer) : Option MaterialState := do
  let pool ← r.shaders
  let shader ← pool.find? fun s => s._assetName == SSShaderAssetManager.SSDefaultPbrShaderName
  return { _shaderReflectionCache := decide (shader.asset._curStage = .Instantiated) }

/-- `InsertNewMaterial` on that many new materials. -/
def insertMaterials : Nat → SSRenderer → Option SSRenderer
  | 0, r => some r
  | count + 1, r => do
    let material ← newPbrMaterial r
    let pool ← r.materials
    let pool ← insertInto (initLimit .material) pool material
    insertMaterials count { r with materials := some pool }

/-- `StoreCurrentFBXModelAssetToAssetManager`: materials, skeleton, animation, and a geometry and a
model for each mesh. Only the root of the model combinations is held by the manager. -/
def storeScene (r : SSRenderer) (scene : SceneAssets) : Option SSRenderer := do
  let r ← insertMaterials scene.materialCount r
  let pool ← r.skeletons
  let skeletons ← insertAllInto (initLimit .skeleton) pool
    (scene.skeleton.toList.map fun c => { toSkeletonCalls := c })
  let pool ← r.skeletonAnims
  let skeletonAnims ← insertAllInto skeletonAnimLimit pool
    (scene.skeletonAnim.toList.map fun c => { toSkeletonAnimCalls := c })
  let pool ← r.geometries
  let geometries ← insertAllInto (initLimit .geometry) pool
    (scene.meshes.map fun c => { toGeometryCalls := c })
  let pool ← r.models
  let models ← insertAllInto (initLimit .model) pool (scene.meshes.map fun _ => ())
  let pool ← r.modelCombinations
  let modelCombinations ← insertInto (initLimit .modelCombination) pool ()
  return { r with
           skeletons := some skeletons
           skeletonAnims := some skeletonAnims
           geometries := some geometries
           models := some models
           modelCombinations := some modelCombinations }

/-- `ImportFBXFileToAssetPool`: the default mesh, then the selected file. -/
def importFBXFileToAssetPool (r : SSRenderer) (directionMesh fbxFile : Option SceneAssets) :
    Option (HRESULT × SSRenderer) :=
  match directionMesh with
  | none => some (E_FAIL, r)
  | some scene => do
    let r ← storeScene r scene
    match fbxFile with
    | none => return (E_FAIL, r)
    | some scene => do
      let r ← storeScene r scene
      return (S_OK, r)

def releaseAllMaterials (pool : List MaterialState) (l : Ledger) : Option Ledger :=
  releaseAndDeleteAll .Material MaterialState.release pool l

/-- The end of `Init`, from `InstantiateAllMaterials` on. -/
def uploadAssets (r : SSRenderer) : Option (HRESULT × SSRenderer) := do
  let pool ← r.materials
  let materials ← pool.mapM MaterialState.instantiate
  let pool ← r.skeletons
  let skeletons ← pool.mapM SkeletonState.instantiateGPUBuffer
  let pool ← r.skeletonAnims
  let skeletonAnims := pool.map SkeletonAnimState.instantiateGPUBuffer
  let pool ← r.geometries
  let (hr, geometries, _) ← FailFast.update FAILED S_OK
    (fun g (_ : Unit) => let (hr, g) := g.updateDataOnGPU; some (hr, g, ())) pool ()
  let r := { r with
             materials := some materials
             skeletons := some skeletons
             skeletonAnims := some skeletonAnims
             geometries := some geometries }
  if FAILED hr then
    let ledger ← releaseAllMaterials materials r.ledger
    return (hr, { r with ledger := ledger })
  return (S_OK, { r with geometries := some (geometries.map GeometryState.releaseSystemData) })

/-- `Init`. -/
def init (r : SSRenderer) (calls : InitCalls) : Option (HRESULT × SSRenderer) := do
  let hr := initDevice calls.device
  if FAILED hr then return (hr, r)
  let (hr, r) ← initShaderManager r calls.pbrShader calls.pbrSkinnedShader
  if FAILED hr then return (hr, r)
  let pool ← instantiate r.textures
  let (hr, textures) ← loadTextures pool calls.textureList
  let r := { r with textures := some textures }
  if FAILED hr then return (hr, r)
  -- `CreateTempMaterials` inserts one
  let r ← insertMaterials 1 { r with materials := instantiate r.materials }
  let r := { r with
             skeletons := instantiate r.skeletons
             skeletonAnims := instantiate r.skeletonAnims
             geometries := instantiate r.geometries
             models := instantiate r.models
             modelCombinations := instantiate r.modelCombinations }
  let (hr, r) ← importFBXFileToAssetPool r calls.directionMesh calls.fbxFile
  if FAILED hr then return (hr, r)
  uploadAssets r

/-- The managers' part of `CleanUp`. -/
def cleanUp (r : SSRenderer) : Option SSRenderer := do
  let pool ← r.modelCombinations
  let l := deleteAll .ModelCombination pool r.ledger
  let pool ← r.models
  let l := deleteAll .Model pool l
  let pool ← r.geometries
  let l := releaseAll .Geometry pool l
  -- the destructor of the manager
  let l := deleteAll .Geometry pool l
  let pool ← r.skeletonAnims
  let l ← releaseAndDeleteAll .SkeletonAnim SkeletonAnimState.releaseGPUBuffer pool l
  let pool ← r.skeletons
  let l ← releaseAndDeleteAll .Skeleton SkeletonState.releaseGPUBuffer pool l
  let pool ← r.materials
  let l ← releaseAllMaterials pool l
  let pool ← r.textures
  let l ← releaseAndDeleteAll .Texture TextureState.releaseGPUData pool l
  let pool ← r.shaders
  let l ← releaseAllShader pool l
  return { ledger := l }

end SSRenderer

end FBXRenderer
