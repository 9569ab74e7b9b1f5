import FBXRenderer.Engine.RendererInit

/-!
# FBXRenderer.Engine.RendererCleanUp

What `SSRenderer::CleanUp` finds after an `Init` that failed.

* `init_outcome`: `Init` fails before the managers are all there, in the import, or in the upload.
* `cleaned_up_iff`: `CleanUp` uses only managers that are there, and every asset is released and
  deleted once, exactly when it was the import that failed and the default shader was instantiated.
  Before the import the last managers are missing; after it `Init` has deleted the materials
  already; and a material without a shader cannot be released.
-/

namespace FBXRenderer
namespace SSRenderer

/-- The size of the pool of the manager for a type. -/
def held (r : SSRenderer) : AssetType → Nat
  | .Geometry => (r.geometries.getD []).length
  | .Shader => (r.shaders.getD []).length
  | .Material => (r.materials.getD []).length
  | .Model => (r.models.getD []).length
  | .ModelCombination => (r.modelCombinations.getD []).length
  | .Texture => (r.textures.getD []).length
  | .Skeleton => (r.skeletons.getD []).length
  | .SkeletonAnim => (r.skeletonAnims.getD []).length

/-- `CleanUp` goes through with the managers that are there, and every asset held by a manager has
then been deleted once, and released once if it has anything to release. -/
def CleansUp (r : SSRenderer) : Prop :=
  ∃ r', cleanUp r = some r' ∧ ∀ (type : AssetType) (i : Nat), i < r.held type →
    r'.ledger.deleted.count (type, i) = 1 ∧
      (type.hasRelease = true → r'.ledger.released.count (type, i) = 1)

/-- The calls of `CompileShader` that must not fail. -/
def ShaderCompiles (calls : ShaderCalls) : Prop :=
  D3DShaderAsset.BlobsMade calls ∧ ¬ D3DShaderAsset.ReflectionFails calls

/-- The calls of `InstantiateShader` that must not fail. -/
def ShaderInstantiates (calls : ShaderCalls) : Prop :=
  ¬ FAILED calls.createVertexShader ∧ ¬ FAILED calls.createPixelShader ∧
    ¬ FAILED calls.createInputLayout

def TexturesLoad (calls : InitCalls) : Prop :=
  ∃ textures, calls.textureList = some textures ∧ ∀ hr ∈ textures, ¬ FAILED hr

/-- The calls of the first part of `Init` that must not fail. -/
def DeviceReady (calls : DeviceCalls) : Prop :=
  (¬ FAILED calls.createDevice ∨
      calls.createDevice = E_INVALIDARG ∧ ¬ FAILED calls.createDeviceRetry) ∧
    (¬ FAILED calls.queryDxgiDevice ∧ ¬ FAILED calls.getAdapter ∧ ¬ FAILED calls.getParent) ∧
    (if calls.hasFactory2 then ¬ FAILED calls.createSwapChainForHwnd ∧ ¬ FAILED calls.querySwapChain
      else ¬ FAILED calls.createSwapChain) ∧
    ¬ FAILED calls.getBuffer ∧ ¬ FAILED calls.createRenderTargetView ∧
    ¬ FAILED calls.createTexture2D ∧ ¬ FAILED calls.createDepthStencilView

/-- Everything before the import succeeds, and one of the two FBX files cannot be loaded. -/
def ImportFails (calls : InitCalls) : Prop :=
  DeviceReady calls.device ∧ ShaderCompiles calls.pbrShader ∧
    ShaderCompiles calls.pbrSkinnedShader ∧ TexturesLoad calls ∧
    (calls.directionMesh = none ∨ calls.fbxFile = none)

/-- Two calls in a row, of which the second is made only when the first succeeds. -/
theorem failed_then_iff (first second : HRESULT) :
    FAILED (if FAILED first then first else second) ↔ FAILED first ∨ FAILED second := by
  split
  · rename_i hfailed
    exact iff_of_true hfailed (Or.inl hfailed)
  · rename_i hok
    exact ⟨Or.inr, fun hor => hor.resolve_left hok⟩

theorem createDevice_failed_iff (calls : DeviceCalls) :
    FAILED (if calls.createDevice = E_INVALIDARG then calls.createDeviceRetry
      else calls.createDevice) ↔
      FAILED calls.createDevice ∧
        (calls.createDevice = E_INVALIDARG → FAILED calls.createDeviceRetry) := by
  have hinvalid : FAILED E_INVALIDARG := by decide
  split
  · rename_i heq
    rw [heq]
    simp [hinvalid]
  · rename_i hne
    simp [hne]

theorem initDevice_failed_iff (calls : DeviceCalls) :
    FAILED (initDevice calls) ↔ ¬ DeviceReady calls := by
  unfold initDevice DeviceReady
  -- from the outside in: a result is tested and returned as a whole
  repeat rw [failed_then_iff]
  rw [createDevice_failed_iff]
  cases calls.hasFactory2 with
  | true =>
    rw [if_pos rfl, if_pos rfl, failed_then_iff]
    tauto
  | false =>
    rw [if_neg Bool.false_ne_true, if_neg Bool.false_ne_true]
    tauto

section Shaders

variable {calls : ShaderCalls} {hr : HRESULT} {asset asset' : D3DShaderAsset} {h h' : Handles}

/-- `Release` does not run into a null pointer. -/
def Releasable (asset : D3DShaderAsset) : Prop :=
  ∀ h, ∃ h', D3DShaderAsset.release asset h = some h'

theorem releasable_of_stage (hstage : asset._curStage = .Compiled) : Releasable asset := by
  intro h
  unfold D3DShaderAsset.release
  rw [hstage]
  exact ⟨_, rfl⟩

/-- A compiled asset, as `InstantiateShader` expects it. -/
def IsCompiled (asset : D3DShaderAsset) : Prop :=
  ∃ v p reflected, asset =
    { VSBlob := some v, PSBlob := some p, _curStage := .Compiled, reflected := reflected }

theorem compileShader_spec (h : D3DShaderAsset.compileShader calls {} h = some (hr, asset, h')) :
    (FAILED hr ↔ ¬ ShaderCompiles calls) ∧ (¬ FAILED hr → IsCompiled asset) := by
  cases D3DShaderAsset.compileShader_outcome h with
  | noBlobs hnot hfailed _ _ =>
    exact ⟨iff_of_true hfailed fun hc => hnot hc.1, fun hok => absurd hfailed hok⟩
  | blobsLeft _ hbad hfailed _ _ =>
    exact ⟨iff_of_true hfailed fun hc => hc.2 hbad, fun hok => absurd hfailed hok⟩
  | compiled hmade hgood _ =>
    exact ⟨iff_of_false not_failed_S_OK fun hnot => hnot ⟨hmade, hgood⟩,
      fun _ => ⟨_, _, _, rfl⟩⟩

theorem instantiateShader_spec (hcompiled : IsCompiled asset)
    (hrun : D3DShaderAsset.instantiateShader calls asset h = some (hr, asset', h')) :
    Releasable asset' ∧ (asset'._curStage = .Instantiated ↔ ShaderInstantiates calls) := by
  obtain ⟨v, p, reflected, rfl⟩ := hcompiled
  cases D3DShaderAsset.instantiateShader_outcome hrun with
  | noShaders hfails _ _ _ hstage _ =>
    refine ⟨releasable_of_stage hstage, ?_⟩
    simp only [hstage, reduceCtorEq, false_iff]
    exact fun hi => hfails.elim hi.1 hi.2.1
  | shadersLeft _ _ hil _ _ _ hstage _ =>
    refine ⟨releasable_of_stage hstage, ?_⟩
    simp only [hstage, reduceCtorEq, false_iff]
    exact fun hi => hi.2.2 hil
  | instantiated hvs hps hil _ =>
    exact ⟨fun h => ⟨_, rfl⟩, iff_of_true rfl ⟨hvs, hps, hil⟩⟩

theorem IsCompiled.stage (hcompiled : IsCompiled asset) : asset._curStage = .Compiled := by
  obtain ⟨v, p, reflected, rfl⟩ := hcompiled
  rfl

variable {pool pool' : List ShaderState}

/-- A shader of the manager after `CompileAllShader` has succeeded. -/
def CompiledFrom (s s' : ShaderState) : Prop :=
  s'._assetName = s._assetName ∧ s'.calls = s.calls ∧ IsCompiled s'.asset

theorem compileAllShader_spec (hnew : ∀ s ∈ pool, s.asset = {})
    (hrun : compileAllShader pool h = some (hr, pool', h')) :
    (FAILED hr ↔ ∃ s ∈ pool, ¬ ShaderCompiles s.calls) ∧
      (¬ FAILED hr → List.Forall₂ CompiledFrom pool pool') := by
  refine FailFast.update_outcome not_failed_S_OK (fun s hs h e s' h' hturn => ?_) hrun
  obtain ⟨asset, hcompile, rfl⟩ := ShaderState.compileShader_some hturn
  rw [hnew s hs] at hcompile
  obtain ⟨hfailed, hok⟩ := compileShader_spec hcompile
  exact ⟨hfailed, fun hne => ⟨rfl, rfl, hok hne⟩⟩

theorem instantiateAllShader_spec {s : ShaderState}
    (hcompiled : ∀ s' ∈ s :: pool, IsCompiled s'.asset)
    (hrun : instantiateAllShader (s :: pool) h = some (hr, pool', h')) :
    (∀ s' ∈ pool', Releasable s'.asset) ∧
      ∃ s' rest, pool' = s' :: rest ∧ s'._assetName = s._assetName ∧
        (s'.asset._curStage = .Instantiated ↔ ShaderInstantiates s.calls) := by
  have hbody : ∀ t ∈ s :: pool, ∀ (h : Handles) (e : HRESULT) (t' : ShaderState) (h' : Handles),
      t.instantiateShader h = some (e, t', h') →
      Releasable t'.asset ∧ t'._assetName = t._assetName ∧
        (t'.asset._curStage = .Instantiated ↔ ShaderInstantiates t.calls) := by
    intro t ht h e t' h' hturn
    obtain ⟨asset, hinst, rfl⟩ := ShaderState.instantiateShader_some hturn
    obtain ⟨hreleasable, hstage⟩ := instantiateShader_spec (hcompiled t ht) hinst
    exact ⟨hreleasable, rfl, hstage⟩
  constructor
  · exact FailFast.update_all (fun t ht => releasable_of_stage (hcompiled t ht).stage)
      (fun t ht h e t' h' hmap => (hbody t ht h e t' h' hmap).1) hrun
  · obtain ⟨e1, s', rest, h1, hmap, rfl, _⟩ := FailFast.update_cons_some hrun
    exact ⟨s', rest, rfl, (hbody s List.mem_cons_self h e1 s' h1 hmap).2⟩

/-- The shaders of the manager once it is initialized. -/
structure ShadersReady (pbrShader : ShaderCalls) (pool : List ShaderState) : Prop where
  releasable : ∀ s ∈ pool, Releasable s.asset
  pbr : ∃ s, pool.find? (fun s => s._assetName == SSShaderAssetManager.SSDefaultPbrShaderName)
      = some s ∧ (s.asset._curStage = .Instantiated ↔ ShaderInstantiates pbrShader)

theorem initShaderManager_spec {r r' : SSRenderer} {pbrShader pbrSkinnedShader : ShaderCalls}
    (hnone : r.shaders = none)
    (hrun : initShaderManager r pbrShader pbrSkinnedShader = some (hr, r')) :
    (FAILED hr ↔ ¬ (ShaderCompiles pbrShader ∧ ShaderCompiles pbrSkinnedShader)) ∧
      r'.modelCombinations = r.modelCombinations ∧
      (¬ FAILED hr → ∃ pool h, ShadersReady pbrShader pool ∧
        r' = { r with shaders := some pool, ledger := { r.ledger with handles := h } }) := by
  unfold initShaderManager at hrun
  obtain ⟨pool0, hpool0, hrun⟩ := Option.bind_eq_some_iff.mp hrun
  rw [hnone] at hpool0
  cases hpool0
  obtain ⟨pool, hload, hrun⟩ := Option.bind_eq_some_iff.mp hrun
  have hpool := insertAllInto_some hload
  rw [Option.getD_none, List.nil_append] at hpool
  obtain ⟨⟨hr1, pool1, h1⟩, hcompile, hrun⟩ := Option.bind_eq_some_iff.mp hrun
  have hnew : ∀ s ∈ pool, s.asset = {} := by
    rw [hpool]
    simp
  obtain ⟨hfailed, hdone⟩ := compileAllShader_spec hnew hcompile
  have hcompiles : FAILED hr1 ↔ ¬ (ShaderCompiles pbrShader ∧ ShaderCompiles pbrSkinnedShader) := by
    rw [hfailed, hpool, not_and_or]
    simp only [List.exists_mem_cons_iff, List.not_mem_nil, false_and, exists_false, or_false]
  simp only at hrun
  split at hrun
  · rename_i hbad
    obtain ⟨l, _, hrun⟩ := Option.bind_eq_some_iff.mp hrun
    cases hrun
    exact ⟨hcompiles, rfl, fun hok => absurd hbad hok⟩
  · rename_i hok
    obtain ⟨⟨hr2, pool2, h2⟩, hinst, hrun⟩ := Option.bind_eq_some_iff.mp hrun
    cases hrun
    refine ⟨iff_of_false not_failed_S_OK fun hnot => hok (hcompiles.mpr hnot), rfl, fun _ => ?_⟩
    have hall := hdone hok
    rw [hpool] at hall
    cases hall with
    | @cons _ s1 _ rest1 hs1 hrest =>
      have hcompiled : ∀ s' ∈ s1 :: rest1, IsCompiled s'.asset := by
        cases hrest with
        | cons hs2 hnil =>
          cases hnil
          simp [hs1.2.2, hs2.2.2]
      obtain ⟨hreleasable, s', rest, rfl, hname, hstage⟩ :=
        instantiateAllShader_spec hcompiled hinst
      refine ⟨_, h2, ⟨hreleasable, s', ?_, ?_⟩, rfl⟩
      · rw [List.find?_cons_of_pos]
        simp [hname, hs1.1]
      · rw [hstage, hs1.2.1]

end Shaders

section Textures

/-- `ReleaseGPUData` finds both pointers set or both null. -/
def TexturesReady (pool : List TextureState) : Prop :=
  ∀ t ∈ pool, t._shaderRes = true → t._shaderRV = true

theorem updateOnGPU_spec (t : TextureState) :
    (FAILED t.updateOnGPU.1 ↔ FAILED t.createDDSTextureFromFile) ∧
      ((t._shaderRes = true → t._shaderRV = true) →
        t.updateOnGPU.2._shaderRes = true → t.updateOnGPU.2._shaderRV = true) := by
  unfold TextureState.updateOnGPU
  split
  · exact ⟨Iff.rfl, id⟩
  · exact ⟨Iff.rfl, fun _ _ => rfl⟩

theorem loadTextures_spec {textureList : Option (List HRESULT)} {hr : HRESULT}
    {pool : List TextureState} (hrun : loadTextures [] textureList = some (hr, pool)) :
    (FAILED hr ↔ ¬ ∃ textures, textureList = some textures ∧ ∀ hr ∈ textures, ¬ FAILED hr) ∧
      TexturesReady pool := by
  cases textureList with
  | none =>
    cases hrun
    exact ⟨iff_of_true failed_E_FAIL (by simp), by simp [TexturesReady]⟩
  | some textures =>
    obtain ⟨pool0, hload, hrun⟩ := Option.bind_eq_some_iff.mp hrun
    have hpool := insertAllInto_some hload
    obtain ⟨⟨hr1, pool1, u⟩, hupdate, hrun⟩ := Option.bind_eq_some_iff.mp hrun
    cases hrun
    have hnew : TexturesReady pool0 := by
      rw [hpool]
      simp [TexturesReady]
    constructor
    · rw [FailFast.update_failed_iff (B := fun t => FAILED t.createDDSTextureFromFile)
        not_failed_S_OK ?_ hupdate, hpool]
      · simp
      · intro t _ u e t' u' hbody
        cases hbody
        exact (updateOnGPU_spec t).1
    · refine FailFast.update_all hnew (fun t ht u e t' u' hbody => ?_) hupdate
      cases hbody
      exact (updateOnGPU_spec t).2 (hnew t ht)

end Textures

section Import

variable {pbrShader : ShaderCalls} {r r' : SSRenderer} {hr : HRESULT}

/-- The managers from the creation of the first material to the end of the import. -/
structure Loaded (pbrShader : ShaderCalls) (r : SSRenderer) : Prop where
  shaders : ∃ pool, r.shaders = some pool ∧ ShadersReady pbrShader pool
  textures : ∃ pool, r.textures = some pool ∧ TexturesReady pool
  materials : ∃ m rest, r.materials = some (m :: rest) ∧
    ∀ x ∈ m :: rest, (x._shaderReflectionCache = true ↔ ShaderInstantiates pbrShader)
  skeletons : ∃ pool, r.skeletons = some pool ∧ ∀ s ∈ pool, s._jointBuffer = false
  skeletonAnims : ∃ pool, r.skeletonAnims = some pool ∧ ∀ s ∈ pool, s._jointBuffer = false
  geometries : ∃ pool, r.geometries = some pool
  models : ∃ pool, r.models = some pool
  modelCombinations : ∃ pool, r.modelCombinations = some pool
  released : r.ledger.released = []
  deleted : r.ledger.deleted = []

theorem newPbrMaterial_spec {pool : List ShaderState} (hshaders : r.shaders = some pool)
    (hready : ShadersReady pbrShader pool) :
    ∃ m, newPbrMaterial r = some m ∧
      (m._shaderReflectionCache = true ↔ ShaderInstantiates pbrShader) := by
  obtain ⟨s, hfind, hstage⟩ := hready.pbr
  refine ⟨⟨decide (s.asset._curStage = .Instantiated)⟩, ?_, ?_⟩
  · unfold newPbrMaterial
    rw [hshaders, Option.bind_eq_bind, Option.bind_some, hfind]
    rfl
  · rw [decide_eq_true_iff, hstage]

theorem insertMaterials_some {count : Nat} {pool : List MaterialState} {m : MaterialState}
    (hm : newPbrMaterial r = some m) (hpool : r.materials = some pool)
    (hrun : insertMaterials count r = some r') :
    r' = { r with materials := some (pool ++ List.replicate count m) } := by
  induction count generalizing r pool with
  | zero =>
    cases hrun
    rw [List.replicate_zero, List.append_nil, ← hpool]
  | succ count ih =>
    unfold insertMaterials at hrun
    rw [hm, hpool] at hrun
    simp only [Option.bind_eq_bind, Option.bind_some] at hrun
    obtain ⟨pool1, hinsert, hrun⟩ := Option.bind_eq_some_iff.mp hrun
    unfold insertInto at hinsert
    split at hinsert
    · cases hinsert
      have hm1 : newPbrMaterial { r with materials := some (pool ++ [m]) } = some m := hm
      rw [ih hm1 rfl hrun, List.append_assoc]
      rfl
    · cases hinsert

/-- The new materials all have the default shader, or none of them has. -/
theorem insertMaterials_spec {count : Nat} {shaders : List ShaderState}
    {pool : List MaterialState} (hrun : insertMaterials count r = some r')
    (hshaders : r.shaders = some shaders) (hready : ShadersReady pbrShader shaders)
    (hpool : r.materials = some pool) :
    ∃ m, (m._shaderReflectionCache = true ↔ ShaderInstantiates pbrShader) ∧
      r' = { r with materials := some (pool ++ List.replicate count m) } := by
  obtain ⟨m, hm, hcache⟩ := newPbrMaterial_spec hshaders hready
  exact ⟨m, hcache, insertMaterials_some hm hpool hrun⟩

/-- The managers when the import begins. -/
theorem Loaded.start {shaders : List ShaderState} {textures : List TextureState}
    {m : MaterialState} {h : Handles} (hshaders : ShadersReady pbrShader shaders)
    (htextures : TexturesReady textures)
    (hcache : m._shaderReflectionCache = true ↔ ShaderInstantiates pbrShader) :
    Loaded pbrShader
      { shaders := some shaders, textures := some textures, materials := some [m]
        skeletons := some [], skeletonAnims := some [], geometries := some []
        models := some [], modelCombinations := some [], ledger := { handles := h } } := by
  constructor
  case shaders => exact ⟨shaders, rfl, hshaders⟩
  case textures => exact ⟨textures, rfl, htextures⟩
  case materials => exact ⟨m, [], rfl, by simpa using hcache⟩
  case skeletons => exact ⟨[], rfl, by simp⟩
  case skeletonAnims => exact ⟨[], rfl, by simp⟩
  case geometries => exact ⟨[], rfl⟩
  case models => exact ⟨[], rfl⟩
  case modelCombinations => exact ⟨[], rfl⟩
  case released => rfl
  case deleted => rfl

theorem Loaded.storeScene (h : Loaded pbrShader r) {scene : SceneAssets}
    (hrun : storeScene r scene = some r') : Loaded pbrShader r' := by
  obtain ⟨shaders, hshaders, hready⟩ := h.shaders
  obtain ⟨m0, rest, hmaterials, hcache⟩ := h.materials
  unfold SSRenderer.storeScene at hrun
  obtain ⟨r1, hinsert, hrun⟩ := Option.bind_eq_some_iff.mp hrun
  obtain ⟨m, hmcache, rfl⟩ := insertMaterials_spec hinsert hshaders hready hmaterials
  obtain ⟨skeletons, hskeletons, hfresh⟩ := h.skeletons
  obtain ⟨skeletonAnims, hanims, hanimsFresh⟩ := h.skeletonAnims
  obtain ⟨geometries, hgeometries⟩ := h.geometries
  obtain ⟨models, hmodels⟩ := h.models
  obtain ⟨combinations, hcombinations⟩ := h.modelCombinations
  simp only [hskeletons, hanims, hgeometries, hmodels, hcombinations, Option.bind_eq_bind,
    Option.bind_some] at hrun
  obtain ⟨skeletons', h1, hrun⟩ := Option.bind_eq_some_iff.mp hrun
  obtain ⟨skeletonAnims', h2, hrun⟩ := Option.bind_eq_some_iff.mp hrun
  obtain ⟨geometries', h3, hrun⟩ := Option.bind_eq_some_iff.mp hrun
  obtain ⟨models', h4, hrun⟩ := Option.bind_eq_some_iff.mp hrun
  obtain ⟨combinations', h5, hrun⟩ := Option.bind_eq_some_iff.mp hrun
  cases hrun
  constructor
  case shaders => exact h.shaders
  case textures => exact h.textures
  case materials =>
    refine ⟨m0, rest ++ List.replicate scene.materialCount m, rfl, ?_⟩
    rw [← List.cons_append, List.forall_mem_append]
    refine ⟨hcache, fun x hx => ?_⟩
    rw [List.eq_of_mem_replicate hx]
    exact hmcache
  case skeletons => exact ⟨skeletons', rfl, forall_insertAllInto h1 hfresh (by simp)⟩
  case skeletonAnims => exact ⟨skeletonAnims', rfl, forall_insertAllInto h2 hanimsFresh (by simp)⟩
  case geometries => exact ⟨geometries', rfl⟩
  case models => exact ⟨models', rfl⟩
  case modelCombinations => exact ⟨combinations', rfl⟩
  case released => exact h.released
  case deleted => exact h.deleted

theorem Loaded.importFBX (h : Loaded pbrShader r) {directionMesh fbxFile : Option SceneAssets}
    (hrun : importFBXFileToAssetPool r directionMesh fbxFile = some (hr, r')) :
    Loaded pbrShader r' ∧ (FAILED hr ↔ directionMesh = none ∨ fbxFile = none) := by
  cases directionMesh with
  | none =>
    cases hrun
    exact ⟨h, iff_of_true failed_E_FAIL (Or.inl rfl)⟩
  | some scene =>
    obtain ⟨r1, h1, hrun⟩ := Option.bind_eq_some_iff.mp hrun
    cases fbxFile with
    | none =>
      cases hrun
      exact ⟨h.storeScene h1, iff_of_true failed_E_FAIL (Or.inr rfl)⟩
    | some scene2 =>
      obtain ⟨r2, h2, hrun⟩ := Option.bind_eq_some_iff.mp hrun
      cases hrun
      exact ⟨(h.storeScene h1).storeScene h2, iff_of_false not_failed_S_OK (by simp)⟩

end Import

section CleanUp

variable {r r' : SSRenderer}

/-- The types in the order in which `CleanUp` deletes their assets. -/
def cleanUpOrder : List AssetType :=
  [.ModelCombination, .Model, .Geometry, .SkeletonAnim, .Skeleton, .Material, .Texture, .Shader]

def assetsOf (r : SSRenderer) (types : List AssetType) : List (AssetType × Nat) :=
  types.flatMap fun type => poolAssets type (r.held type)

theorem count_assetsOf (types : List AssetType) (hnodup : types.Nodup) (type : AssetType)
    (i : Nat) (hi : i < r.held type) :
    (assetsOf r types).count (type, i) = if type ∈ types then 1 else 0 := by
  induction types with
  | nil => simp [assetsOf]
  | cons t types ih =>
    obtain ⟨hnot, hnodup⟩ := List.nodup_cons.mp hnodup
    have htail := ih hnodup
    unfold assetsOf at htail ⊢
    rw [List.flatMap_cons, List.count_append, htail, count_poolAssets]
    by_cases ht : type = t
    · subst ht
      simp [hi, hnot]
    · simp [ht]

/-- A `CleanUp` that goes through: what it records, and that it released the materials. -/
structure CleanUpRun (r r' : SSRenderer) : Prop where
  deleted : r'.ledger.deleted = r.ledger.deleted ++ assetsOf r cleanUpOrder
  released : r'.ledger.released = r.ledger.released ++ assetsOf r (cleanUpOrder.drop 2)
  materials : ∃ pool l l', r.materials = some pool ∧ releaseAllMaterials pool l = some l'

theorem cleanUp_some (h : cleanUp r = some r') : CleanUpRun r r' := by
  unfold cleanUp at h
  obtain ⟨combinations, h1, h⟩ := Option.bind_eq_some_iff.mp h
  obtain ⟨models, h2, h⟩ := Option.bind_eq_some_iff.mp h
  obtain ⟨geometries, h3, h⟩ := Option.bind_eq_some_iff.mp h
  obtain ⟨anims, h4, h⟩ := Option.bind_eq_some_iff.mp h
  obtain ⟨l4, hanims, h⟩ := Option.bind_eq_some_iff.mp h
  obtain ⟨skeletons, h5, h⟩ := Option.bind_eq_some_iff.mp h
  obtain ⟨l5, hskeletons, h⟩ := Option.bind_eq_some_iff.mp h
  obtain ⟨materials, h6, h⟩ := Option.bind_eq_some_iff.mp h
  obtain ⟨l6, hmaterials, h⟩ := Option.bind_eq_some_iff.mp h
  obtain ⟨textures, h7, h⟩ := Option.bind_eq_some_iff.mp h
  obtain ⟨l7, htextures, h⟩ := Option.bind_eq_some_iff.mp h
  obtain ⟨shaders, h8, h⟩ := Option.bind_eq_some_iff.mp h
  obtain ⟨l8, hshaders, h⟩ := Option.bind_eq_some_iff.mp h
  cases h
  obtain ⟨r4, d4⟩ := releaseAndDeleteAll_some hanims
  obtain ⟨r5, d5⟩ := releaseAndDeleteAll_some hskeletons
  obtain ⟨r6, d6⟩ := releaseAndDeleteAll_some hmaterials
  obtain ⟨r7, d7⟩ := releaseAndDeleteAll_some htextures
  obtain ⟨r8, d8⟩ := releaseAndDeleteAll_some hshaders
  refine ⟨?_, ?_, materials, l5, l6, h6, hmaterials⟩
  · simp [d8, d7, d6, d5, d4, deleteAll, releaseAll, assetsOf, cleanUpOrder, held, h1, h2, h3, h4,
      h5, h6, h7, h8]
  · simp [r8, r7, r6, r5, r4, deleteAll, releaseAll, assetsOf, cleanUpOrder, held, h3, h4, h5, h6,
      h7, h8]

variable {pbrShader : ShaderCalls}

/-- After the import `CleanUp` goes through if the default shader is there for the materials. -/
theorem Loaded.cleanUp_returns (h : Loaded pbrShader r) (hpbr : ShaderInstantiates pbrShader) :
    ∃ r', cleanUp r = some r' := by
  obtain ⟨shaders, hshaders, hready⟩ := h.shaders
  obtain ⟨textures, htextures, hloaded⟩ := h.textures
  obtain ⟨m, rest, hmaterials, hcache⟩ := h.materials
  obtain ⟨skeletons, hskeletons, hfresh⟩ := h.skeletons
  obtain ⟨anims, hanims, hanimsFresh⟩ := h.skeletonAnims
  obtain ⟨geometries, hgeometries⟩ := h.geometries
  obtain ⟨models, hmodels⟩ := h.models
  obtain ⟨combinations, hcombinations⟩ := h.modelCombinations
  have h4 : ∀ l, ∃ l', releaseAndDeleteAll .SkeletonAnim SkeletonAnimState.releaseGPUBuffer anims l
      = some l' := fun l => releaseAndDeleteAll_returns fun s hs h => by
    simp [SkeletonAnimState.releaseGPUBuffer, hanimsFresh s hs]
  have h5 : ∀ l, ∃ l', releaseAndDeleteAll .Skeleton SkeletonState.releaseGPUBuffer skeletons l
      = some l' := fun l => releaseAndDeleteAll_returns fun s hs h => by
    simp [SkeletonState.releaseGPUBuffer, hfresh s hs]
  have h6 : ∀ l, ∃ l', releaseAllMaterials (m :: rest) l = some l' :=
    fun l => releaseAndDeleteAll_returns fun x hx h => by
      simp [MaterialState.release, (hcache x hx).mpr hpbr]
  have h7 : ∀ l, ∃ l', releaseAndDeleteAll .Texture TextureState.releaseGPUData textures l
      = some l' := fun l => releaseAndDeleteAll_returns fun t ht h => by
    simpa [TextureState.releaseGPUData] using hloaded t ht
  have h8 : ∀ l, ∃ l', releaseAllShader shaders l = some l' :=
    fun l => releaseAndDeleteAll_returns fun s hs h => hready.releasable s hs h
  unfold cleanUp
  simp only [hshaders, htextures, hmaterials, hskeletons, hanims, hgeometries, hmodels,
    hcombinations, Option.bind_eq_bind, Option.bind_some]
  obtain ⟨l4, e4⟩ := h4 _
  rw [e4, Option.bind_some]
  obtain ⟨l5, e5⟩ := h5 l4
  rw [e5, Option.bind_some]
  obtain ⟨l6, e6⟩ := h6 l5
  rw [e6, Option.bind_some]
  obtain ⟨l7, e7⟩ := h7 l6
  rw [e7, Option.bind_some]
  obtain ⟨l8, e8⟩ := h8 l7
  rw [e8, Option.bind_some]
  exact ⟨_, rfl⟩

/-- A material that was made without a shader cannot be released. -/
theorem Loaded.not_cleanUp (h : Loaded pbrShader r) (hpbr : ¬ ShaderInstantiates pbrShader) :
    cleanUp r = none := by
  obtain ⟨m, rest, hmaterials, hcache⟩ := h.materials
  have hm : ∀ l, releaseAllMaterials (m :: rest) l = none := fun l =>
    releaseAndDeleteAll_none fun h => by
      unfold MaterialState.release
      rw [if_neg fun hset => hpbr ((hcache m List.mem_cons_self).mp hset)]
  cases hclean : cleanUp r with
  | none => rfl
  | some r' =>
    obtain ⟨materials, l, l', hpool, hrelease⟩ := (cleanUp_some hclean).materials
    rw [hmaterials] at hpool
    cases hpool
    rw [hm l] at hrelease
    cases hrelease

/-- After the import `CleanUp` is in order exactly when the default shader is there. -/
theorem Loaded.cleansUp_iff (h : Loaded pbrShader r) :
    CleansUp r ↔ ShaderInstantiates pbrShader := by
  constructor
  · rintro ⟨r', hclean, _⟩
    by_contra hpbr
    rw [h.not_cleanUp hpbr] at hclean
    cases hclean
  · intro hpbr
    obtain ⟨r', hclean⟩ := h.cleanUp_returns hpbr
    have hrun := cleanUp_some hclean
    refine ⟨r', hclean, fun type i hi => ⟨?_, fun htype => ?_⟩⟩
    · rw [hrun.deleted, h.deleted, List.nil_append, count_assetsOf _ (by decide) type i hi]
      cases type <;> rfl
    · rw [hrun.released, h.released, List.nil_append, count_assetsOf _ (by decide) type i hi]
      cases type with
      | Model | ModelCombination => cases htype
      | _ => rfl

/-- The state after an upload that failed: `Init` itself has deleted the materials. -/
def MaterialsDeleted (r : SSRenderer) : Prop :=
  0 < r.held .Material ∧ r.ledger.deleted = poolAssets .Material (r.held .Material)

theorem mapM_instantiate {pool materials : List MaterialState}
    (h : pool.mapM MaterialState.instantiate = some materials) : materials = pool := by
  induction pool generalizing materials with
  | nil =>
    cases h
    rfl
  | cons m rest ih =>
    rw [List.mapM_cons] at h
    obtain ⟨m', hm, h⟩ := Option.bind_eq_some_iff.mp h
    obtain ⟨rest', hrest, h⟩ := Option.bind_eq_some_iff.mp h
    cases h
    unfold MaterialState.instantiate at hm
    split at hm
    · cases hm
      rw [ih hrest]
    · cases hm

theorem Loaded.upload_fails (h : Loaded pbrShader r) {hr : HRESULT}
    (hrun : uploadAssets r = some (hr, r')) (hfailed : FAILED hr) : MaterialsDeleted r' := by
  obtain ⟨m, rest, hmaterials, _⟩ := h.materials
  unfold uploadAssets at hrun
  rw [hmaterials] at hrun
  obtain ⟨pool, hpool, hrun⟩ := Option.bind_eq_some_iff.mp hrun
  cases hpool
  obtain ⟨materials, hinst, hrun⟩ := Option.bind_eq_some_iff.mp hrun
  cases mapM_instantiate hinst
  obtain ⟨skeletons, _, hrun⟩ := Option.bind_eq_some_iff.mp hrun
  obtain ⟨skeletons', _, hrun⟩ := Option.bind_eq_some_iff.mp hrun
  obtain ⟨anims, _, hrun⟩ := Option.bind_eq_some_iff.mp hrun
  obtain ⟨geometries, _, hrun⟩ := Option.bind_eq_some_iff.mp hrun
  obtain ⟨⟨hr1, geometries', u⟩, _, hrun⟩ := Option.bind_eq_some_iff.mp hrun
  simp only at hrun
  split at hrun
  · obtain ⟨l, hrelease, hrun⟩ := Option.bind_eq_some_iff.mp hrun
    cases hrun
    refine ⟨Nat.succ_pos _, ?_⟩
    rw [(releaseAndDeleteAll_some hrelease).2, h.deleted, List.nil_append]
    rfl
  · cases hrun
    exact absurd hfailed not_failed_S_OK

/-- `CleanUp` deletes the materials again. -/
theorem MaterialsDeleted.not_cleansUp (h : MaterialsDeleted r) : ¬ CleansUp r := by
  rintro ⟨r', hclean, hall⟩
  obtain ⟨hpos, hdeleted⟩ := h
  have hcount := (hall .Material 0 hpos).1
  rw [(cleanUp_some hclean).deleted, hdeleted, List.count_append, count_poolAssets,
    if_pos ⟨rfl, hpos⟩, count_assetsOf _ (by decide) .Material 0 hpos] at hcount
  cases hcount

/-- The first manager that `CleanUp` uses is not there. -/
theorem not_cleansUp_of_none (hnone : r.modelCombinations = none) : ¬ CleansUp r := by
  rintro ⟨r', hclean, _⟩
  unfold cleanUp at hclean
  rw [hnone] at hclean
  cases hclean

end CleanUp

section Init

variable {calls : InitCalls} {hr : HRESULT} {r : SSRenderer}

/-- How `Init` can end. -/
inductive InitOutcome (calls : InitCalls) : HRESULT → SSRenderer → Prop where
  | early {e s} : ¬ ImportFails calls → s.modelCombinations = none → InitOutcome calls e s
  | importFailed {e s} : ImportFails calls → Loaded calls.pbrShader s → InitOutcome calls e s
  | uploadFailed {e s} : ¬ ImportFails calls → MaterialsDeleted s → InitOutcome calls e s
  | initialized {e s} : ¬ FAILED e → InitOutcome calls e s

theorem init_outcome (hinit : init {} calls = some (hr, r)) : InitOutcome calls hr r := by
  unfold init at hinit
  simp only at hinit
  split at hinit
  · rename_i hdevice
    cases hinit
    exact .early (fun himport => (initDevice_failed_iff _).mp hdevice himport.1) rfl
  rename_i hdevice
  obtain ⟨⟨hr1, r1⟩, hshaders, hinit⟩ := Option.bind_eq_some_iff.mp hinit
  obtain ⟨hcompile, hnone1, hready⟩ := initShaderManager_spec rfl hshaders
  simp only at hinit
  split at hinit
  · rename_i hfailed
    cases hinit
    exact .early (fun himport => hcompile.mp hfailed ⟨himport.2.1, himport.2.2.1⟩) hnone1
  rename_i hok1
  obtain ⟨pool1, h1, hready1, hr1eq⟩ := hready hok1
  subst hr1eq
  obtain ⟨pool0, hpool0, hinit⟩ := Option.bind_eq_some_iff.mp hinit
  cases hpool0
  obtain ⟨⟨hr2, textures⟩, htextures, hinit⟩ := Option.bind_eq_some_iff.mp hinit
  obtain ⟨htexFailed, htexReady⟩ := loadTextures_spec htextures
  simp only at hinit
  split at hinit
  · rename_i hfailed
    cases hinit
    exact .early (fun himport => htexFailed.mp hfailed himport.2.2.2.1) hnone1
  rename_i hok2
  obtain ⟨r3, hmaterials, hinit⟩ := Option.bind_eq_some_iff.mp hinit
  obtain ⟨m, hcache, hr3⟩ := insertMaterials_spec hmaterials rfl hready1 rfl
  subst hr3
  obtain ⟨⟨hr4, r4⟩, himport, hinit⟩ := Option.bind_eq_some_iff.mp hinit
  obtain ⟨hloaded, himportFailed⟩ := (Loaded.start hready1 htexReady hcache).importFBX himport
  simp only at hinit
  split at hinit
  · rename_i hfailed
    cases hinit
    have hready := not_not.mp (mt (initDevice_failed_iff _).mpr hdevice)
    have hcompiles := not_not.mp (mt hcompile.mpr hok1)
    have htex := not_not.mp (mt htexFailed.mpr hok2)
    exact .importFailed ⟨hready, hcompiles.1, hcompiles.2, htex, himportFailed.mp hfailed⟩ hloaded
  · rename_i hok4
    have hnot : ¬ ImportFails calls := fun himport =>
      hok4 (himportFailed.mpr himport.2.2.2.2)
    by_cases hfailed : FAILED hr
    · exact .uploadFailed hnot (hloaded.upload_fails hinit hfailed)
    · exact .initialized hfailed

/-- After an `Init` that failed, `CleanUp` uses `Get` only on managers that are there and everything
they hold has been released and deleted exactly once, exactly when the import was what failed and
the default shader was instantiated. -/
theorem cleaned_up_iff (calls : InitCalls) (hr : HRESULT) (r : SSRenderer)
    (hinit : init {} calls = some (hr, r)) (hfailed : FAILED hr) :
    CleansUp r ↔ ImportFails calls ∧ ShaderInstantiates calls.pbrShader := by
  cases init_outcome hinit with
  | early hnot hnone =>
    exact iff_of_false (not_cleansUp_of_none hnone) fun h => hnot h.1
  | importFailed himport hloaded =>
    rw [hloaded.cleansUp_iff]
    exact ⟨fun hpbr => ⟨himport, hpbr⟩, fun h => h.2⟩
  | uploadFailed hnot hdeleted =>
    exact iff_of_false hdeleted.not_cleansUp fun h => hnot h.1
  | initialized hok => exact absurd hfailed hok

/-- Nothing fails; both FBX files have a mesh, and one of them an animated skeleton. -/
def allSucceed : InitCalls where
  device :=
    { createDevice := S_OK, createDeviceRetry := S_OK, queryDxgiDevice := S_OK
      getAdapter := S_OK, getParent := S_OK, hasFactory2 := true
      createSwapChainForHwnd := S_OK, querySwapChain := S_OK, createSwapChain := S_OK
      getBuffer := S_OK, createRenderTargetView := S_OK, createTexture2D := S_OK
      createDepthStencilView := S_OK }
  pbrShader := { D3DShaderAsset.layoutFails with createInputLayout := S_OK }
  pbrSkinnedShader := { D3DShaderAsset.layoutFails with createInputLayout := S_OK }
  textureList := some [S_OK, S_OK]
  directionMesh := some ⟨1, none, none, [⟨true, true, S_OK, S_OK⟩]⟩
  fbxFile := some ⟨2, some ⟨3, S_OK, S_OK, S_OK⟩, some ⟨S_OK, S_OK⟩, [⟨true, true, S_OK, S_OK⟩]⟩

theorem cleaned_up_iff_import_fails :
    ∃ r, init {} { allSucceed with fbxFile := none } = some (E_FAIL, r) ∧
      (CleansUp r ↔ ImportFails { allSucceed with fbxFile := none } ∧
        ShaderInstantiates allSucceed.pbrShader) :=
  ⟨_, rfl, cleaned_up_iff { allSucceed with fbxFile := none } E_FAIL _ rfl failed_E_FAIL⟩

/-- The shader file is missing: `CleanUp` starts with a manager that is not there. A vertex buffer
cannot be created: `CleanUp` deletes the materials a second time. -/
theorem not_cleaned_up :
    (∃ r, init {} { allSucceed with
          pbrShader := { D3DShaderAsset.layoutFails with compileVS := E_FAIL } }
        = some (E_FAIL, r) ∧ ¬ CleansUp r) ∧
      ∃ r, init {} { allSucceed with
          fbxFile := some ⟨0, none, none, [⟨true, true, E_FAIL, S_OK⟩]⟩ } = some (E_FAIL, r) ∧
        ¬ CleansUp r := by
  constructor
  · exact ⟨_, rfl, not_cleansUp_of_none rfl⟩
  · exact ⟨_, rfl, MaterialsDeleted.not_cleansUp ⟨by decide, rfl⟩⟩

end Init

end SSRenderer
end FBXRenderer
