import FBXRenderer.Asset.AssetPools
import FBXRenderer.Asset.ShaderAsset

/-!
# FBXRenderer.Engine.RendererAssets

What `SSRenderer::Init` and `SSRenderer::CleanUp` do to the assets of the managers: uploading,
releasing and deleting them. An asset is the pointers these operations look at, together with the
answers of the D3D calls about it. `none` is a pointer that is null or was never set being
dereferenced.

`Ledger` records which assets have been released and deleted; an asset is named by its type and its
place in the pool of its manager. A deleted asset stays in the pool, as the dangling pointer it is.

* `releaseAndDeleteAll_some`, `releaseAndDeleteAll_returns`: the loop that the managers share.
-/

namespace FBXRenderer

/-- The types whose assets have a manager. -/
inductive AssetType where
  | Geometry
  | Shader
  | Material
  | Model
  | ModelCombination
  | Texture
  | Skeleton
  | SkeletonAnim
deriving DecidableEq

/-- Models and model combinations have nothing to release. -/
def AssetType.hasRelease : AssetType → Bool
  | .Model | .ModelCombination => false
  | .Geometry | .Shader | .Material | .Texture | .Skeleton | .SkeletonAnim => true

namespace SSRenderer

structure ShaderState where
  _assetName : String
  calls : ShaderCalls
  asset : D3DShaderAsset := {}

structure TextureState where
  createDDSTextureFromFile : HRESULT
  _shaderRes : Bool := false
  _shaderRV : Bool := false

/-- The reflection pointer is set when the shader was instantiated as the material was made; it has
no initial value. -/
structure MaterialState where
  _shaderReflectionCache : Bool

structure SkeletonCalls where
  boneCount : Nat
  createBuffer : HRESULT
  map : HRESULT
  createShaderResourceView : HRESULT

structure SkeletonState extends SkeletonCalls where
  _jointBuffer : Bool := false
  _jointBufferSRV : Bool := false

structure SkeletonAnimCalls where
  createBuffer : HRESULT
  createShaderResourceView : HRESULT

structure SkeletonAnimState extends SkeletonAnimCalls where
  _jointBuffer : Bool := false
  _jointBufferSRV : Bool := false

/-- The data pointers of an imported geometry, and the creation of its two buffers. -/
structure GeometryCalls where
  _vertexData : Bool
  _indexData : Bool
  createVertexBuffer : HRESULT
  createIndexBuffer : HRESULT

structure GeometryState extends GeometryCalls where
  _vertexBuffer : Bool := false
  _indexBuffer : Bool := false

namespace ShaderState

def compileShader (s : ShaderState) (h : Handles) : Option (HRESULT × ShaderState × Handles) := do
  let (hr, asset, h) ← D3DShaderAsset.compileShader s.calls s.asset h
  return (hr, { s with asset := asset }, h)

def instantiateShader (s : ShaderState) (h : Handles) :
    Option (HRESULT × ShaderState × Handles) := do
  let (hr, asset, h) ← D3DShaderAsset.instantiateShader s.calls s.asset h
  return (hr, { s with asset := asset }, h)

variable {s s' : ShaderState} {h h' : Handles} {hr : HRESULT}

theorem compileShader_some (hrun : s.compileShader h = some (hr, s', h')) :
    ∃ asset, D3DShaderAsset.compileShader s.calls s.asset h = some (hr, asset, h') ∧
      s' = { s with asset := asset } := by
  obtain ⟨⟨hr1, asset, h1⟩, hcompile, heq⟩ := Option.bind_eq_some_iff.mp hrun
  cases heq
  exact ⟨asset, hcompile, rfl⟩

theorem instantiateShader_some (hrun : s.instantiateShader h = some (hr, s', h')) :
    ∃ asset, D3DShaderAsset.instantiateShader s.calls s.asset h = some (hr, asset, h') ∧
      s' = { s with asset := asset } := by
  obtain ⟨⟨hr1, asset, h1⟩, hinst, heq⟩ := Option.bind_eq_some_iff.mp hrun
  cases heq
  exact ⟨asset, hinst, rfl⟩

end ShaderState

namespace TextureState

/-- `UpdateOnGPU`. -/
def updateOnGPU (t : TextureState) : HRESULT × TextureState :=
  if FAILED t.createDDSTextureFromFile then (t.createDDSTextureFromFile, t)
  else (t.createDDSTextureFromFile, { t with _shaderRes := true, _shaderRV := true })

/-- `ReleaseGPUData`. -/
def releaseGPUData (t : TextureState) (h : Handles) : Option Handles :=
  if t._shaderRes && !t._shaderRV then none else some h

end TextureState

namespace MaterialState

/-- `InstantiateSystemBuffer`, `InstantiateGPUBuffer` and `SyncAllGPUBuffer`. -/
def instantiate (m : MaterialState) : Option MaterialState :=
  if m._shaderReflectionCache then some m else none

/-- `Release`. -/
def release (m : MaterialState) (h : Handles) : Option Handles :=
  if m._shaderReflectionCache then some h else none

end MaterialState

namespace SkeletonState

/-- `InstantiateGPUBuffer`. A failing `Map` leaves the buffer without a view; filling the buffer
starts at the first bone. -/
def instantiateGPUBuffer (s : SkeletonState) : Option SkeletonState :=
  if FAILED s.createBuffer then some s
  else if FAILED s.map then some { s with _jointBuffer := true }
  else if s.boneCount = 0 then none
  else some { s with
              _jointBuffer := true
              _jointBufferSRV := decide (¬ FAILED s.createShaderResourceView) }

/-- `ReleaseGPUBuffer`. The loop over the bones only decides whether anything is released. -/
def releaseGPUBuffer (s : SkeletonState) (h : Handles) : Option Handles :=
  if s.boneCount ≠ 0 ∧ s._jointBuffer = true ∧ s._jointBufferSRV = false then none else some h

end SkeletonState

namespace SkeletonAnimState

/-- `InstantiateGPUBuffer`. -/
def instantiateGPUBuffer (s : SkeletonAnimState) : SkeletonAnimState :=
  if FAILED s.createBuffer then s
  else { s with
         _jointBuffer := true
         _jointBufferSRV := decide (¬ FAILED s.createShaderResourceView) }

/-- `ReleaseGPUBuffer`. -/
def releaseGPUBuffer (s : SkeletonAnimState) (h : Handles) : Option Handles :=
  if s._jointBuffer && !s._jointBufferSRV then none else some h

end SkeletonAnimState

namespace GeometryState

/-- `UpdateDataOnGPU`. -/
def updateDataOnGPU (g : GeometryState) : HRESULT × GeometryState :=
  if !g._vertexData then (E_FAIL, g)
  else if FAILED g.createVertexBuffer then (g.createVertexBuffer, g)
  else if !g._indexData then (E_FAIL, { g with _vertexBuffer := true })
  else if FAILED g.createIndexBuffer then (g.createIndexBuffer, { g with _vertexBuffer := true })
  else (g.createIndexBuffer, { g with _vertexBuffer := true, _indexBuffer := true })

/-- `ReleaseSystemData`. -/
def releaseSystemData (g : GeometryState) : GeometryState :=
  { g with _vertexData := false, _indexData := false }

end GeometryState

/-- What has been released and deleted, in order, and the D3D objects of the shaders. -/
structure Ledger where
  handles : Handles := .empty
  released : List (AssetType × Nat) := []
  deleted : List (AssetType × Nat) := []

/-- The assets of a pool of the given size. -/
def poolAssets (type : AssetType) (size : Nat) : List (AssetType × Nat) :=
  (List.range size).map fun i => (type, i)

section Loops

variable {A : Type} (type : AssetType) (release : A → Handles → Option Handles)

/-- `for (item : pool) { item->Release(); delete item; }` from index `i` on. -/
def releaseAndDeleteFrom : List A → Nat → Ledger → Option Ledger
  | [], _, l => some l
  | item :: rest, i, l => do
    let handles ← release item l.handles
    releaseAndDeleteFrom rest (i + 1)
      { handles := handles
        released := l.released ++ [(type, i)]
        deleted := l.deleted ++ [(type, i)] }

def releaseAndDeleteAll (pool : List A) (l : Ledger) : Option Ledger :=
  releaseAndDeleteFrom type release pool 0 l

/-- `for (item : pool) delete item;` -/
def deleteAll (pool : List A) (l : Ledger) : Ledger :=
  { l with deleted := l.deleted ++ poolAssets type pool.length }

/-- `for (item : pool) item->ReleaseGPUData();` of the geometries, which tests both pointers. -/
def releaseAll (pool : List A) (l : Ledger) : Ledger :=
  { l with released := l.released ++ poolAssets type pool.length }

/-- A pool takes an asset as long as it is below its limit (`PoolsHold.room_iff`). -/
def insertInto (limit : Nat) (pool : List A) (newAsset : A) : Option (List A) :=
  if pool.length < limit then some (pool ++ [newAsset]) else none

def insertAllInto (limit : Nat) (pool newAssets : List A) : Option (List A) :=
  newAssets.foldlM (insertInto limit) pool

variable {type release} {pool pool' newAssets : List A} {l l' : Ledger}

theorem releaseAndDeleteFrom_some {i : Nat}
    (h : releaseAndDeleteFrom type release pool i l = some l') :
    l'.released = l.released ++ (List.range' i pool.length).map (type, ·) ∧
      l'.deleted = l.deleted ++ (List.range' i pool.length).map (type, ·) := by
  induction pool generalizing i l with
  | nil =>
    cases h
    simp
  | cons item rest ih =>
    obtain ⟨handles, _, h⟩ := Option.bind_eq_some_iff.mp h
    obtain ⟨hreleased, hdeleted⟩ := ih h
    rw [hreleased, hdeleted]
    simp [List.range'_succ]

/-- What the loop records when it returns. -/
theorem releaseAndDeleteAll_some (h : releaseAndDeleteAll type release pool l = some l') :
    l'.released = l.released ++ poolAssets type pool.length ∧
      l'.deleted = l.deleted ++ poolAssets type pool.length := by
  have hfrom := releaseAndDeleteFrom_some h
  rw [← List.range_eq_range'] at hfrom
  exact hfrom

/-- The loop returns when every release does. -/
theorem releaseAndDeleteAll_returns
    (hreturns : ∀ item ∈ pool, ∀ h, ∃ h', release item h = some h') :
    ∃ l', releaseAndDeleteAll type release pool l = some l' := by
  unfold releaseAndDeleteAll
  generalize 0 = i
  induction pool generalizing i l with
  | nil => exact ⟨l, rfl⟩
  | cons item rest ih =>
    obtain ⟨h', hitem⟩ := hreturns item List.mem_cons_self l.handles
    rw [releaseAndDeleteFrom, hitem]
    exact ih (fun x hx => hreturns x (List.mem_cons_of_mem item hx)) (i + 1)

/-- The loop does not return when the first release does not. -/
theorem releaseAndDeleteAll_none {item : A} {rest : List A}
    (hitem : ∀ h, release item h = none) :
    releaseAndDeleteAll type release (item :: rest) l = none := by
  rw [releaseAndDeleteAll, releaseAndDeleteFrom, hitem]
  rfl

theorem insertAllInto_some {limit : Nat} (h : insertAllInto limit pool newAssets = some pool') :
    pool' = pool ++ newAssets := by
  unfold insertAllInto at h
  induction newAssets generalizing pool with
  | nil =>
    cases h
    rw [List.append_nil]
  | cons newAsset rest ih =>
    obtain ⟨pool1, hinsert, h⟩ := Option.bind_eq_some_iff.mp h
    unfold insertInto at hinsert
    split at hinsert
    · cases hinsert
      rw [ih h, List.append_assoc]
      rfl
    · cases hinsert

theorem forall_insertAllInto {limit : Nat} {P : A → Prop}
    (h : insertAllInto limit pool newAssets = some pool') (hpool : ∀ a ∈ pool, P a)
    (hnew : ∀ a ∈ newAssets, P a) : ∀ a ∈ pool', P a := by
  rw [insertAllInto_some h]
  exact List.forall_mem_append.mpr ⟨hpool, hnew⟩

end Loops

theorem count_poolAssets (type type' : AssetType) (size i : Nat) :
    (poolAssets type' size).count (type, i) = if type = type' ∧ i < size then 1 else 0 := by
  have hmem : (type, i) ∈ poolAssets type' size ↔ type = type' ∧ i < size := by
    simp [poolAssets, and_comm, eq_comm]
  have hnodup : (poolAssets type' size).Nodup :=
    List.nodup_range.map fun a b hab => congrArg Prod.snd hab
  split
  · rename_i hin
    exact List.count_eq_one_of_mem hnodup (hmem.mpr hin)
  · rename_i hout
    exact List.count_eq_zero_of_not_mem fun hin => hout (hmem.mp hin)

end SSRenderer

end FBXRenderer
