import FBXRenderer.Asset.Material
import FBXRenderer.Asset.ShaderReflection
import FBXRenderer.Lib.FailFast
import FBXRenderer.Lib.Handles

/-!
# FBXRenderer.Asset.ShaderAsset

`SSShaderAsset` (`SSShaderAsset.cpp`): `CompileShader`, `InstantiateShader` and `Release` with the
D3D objects they hold. Any D3D call can fail; what the calls answer is given by `ShaderCalls`.
Objects are handles, and a pointer is a handle or null. `none` is a null dereference, a failed
assertion or a write outside a table.

* `released_once_iff`: when `Release` returns, all objects have been released once exactly when no
  reflection call failed after both reflections were made, and the input layout was not the call
  that failed.
-/

namespace FBXRenderer

abbrev HRESULT := Int

def S_OK : HRESULT := 0

def E_FAIL : HRESULT := -2147467259

def FAILED (hr : HRESULT) : Prop := hr < 0

instance : DecidablePred FAILED := fun hr => inferInstanceAs (Decidable (hr < 0))

theorem not_failed_S_OK : ¬ FAILED S_OK := by decide

theorem failed_E_FAIL : FAILED E_FAIL := by decide

inductive D3D_REGISTER_COMPONENT_TYPE where
  | UNKNOWN
  | UINT32
  | SINT32
  | FLOAT32

inductive D3D_SHADER_INPUT_TYPE where
  | TEXTURE
  | SAMPLER
  | other

inductive DXGI_FORMAT where
  | UNKNOWN
  | R32_UINT
  | R32_SINT
  | R32_FLOAT
  | R32G32_UINT
  | R32G32_SINT
  | R32G32_FLOAT
  | R32G32B32_UINT
  | R32G32B32_SINT
  | R32G32B32_FLOAT
  | R32G32B32A32_UINT
  | R32G32B32A32_SINT
  | R32G32B32A32_FLOAT

structure D3D11_SIGNATURE_PARAMETER_DESC where
  SemanticName : String
  SemanticIndex : Nat
  Mask : Nat
  ComponentType : D3D_REGISTER_COMPONENT_TYPE

/-- Without the fields that are the same for every element. -/
structure D3D11_INPUT_ELEMENT_DESC where
  SemanticName : String := ""
  SemanticIndex : Nat := 0
  Format : DXGI_FORMAT := .UNKNOWN
  AlignedByteOffset : Nat := 0

/-- The counts a shader desc holds, whether or not `GetDesc` filled it in. -/
structure D3D11_SHADER_DESC where
  InputParameters : Nat
  ConstantBuffers : Nat
  BoundResources : Nat

/-- The calls about one constant buffer: `GetDesc` and `GetResourceBindingDescByName`. -/
structure ConstantBufferCalls where
  getDesc : HRESULT
  getResourceBindingDescByName : HRESULT
  reported : ReportedBuffer

/-- What the D3D calls about one shader asset answer. -/
structure ShaderCalls where
  compileVS : HRESULT
  compilePS : HRESULT
  reflectVS : HRESULT
  reflectPS : HRESULT
  VSShaderDesc : D3D11_SHADER_DESC
  PSShaderDesc : D3D11_SHADER_DESC
  getInputParameterDesc : Nat → HRESULT × D3D11_SIGNATURE_PARAMETER_DESC
  vsConstantBuffer : Nat → ConstantBufferCalls
  psConstantBuffer : Nat → ConstantBufferCalls
  getResourceBindingDesc : Nat → HRESULT × D3D_SHADER_INPUT_TYPE
  createVertexShader : HRESULT
  createPixelShader : HRESULT
  createInputLayout : HRESULT

def LAYOUT_NUM_MAX : Nat := 32

def LAYOUT_SEMANTIC_NAME_LEN_MAX : Nat := 16

/-- What reflection leaves in the asset. The last two are fields of `ShaderReflection`. -/
structure ReflectedData where
  layoutElemCount : Nat := 0
  LayoutDescArray : Nat → D3D11_INPUT_ELEMENT_DESC := fun _ => {}
  ShaderReflection : SSShaderReflectionForMaterial := {}
  TexturePoolCount : Nat := 0
  SamplerCount : Nat := 0

/-- `SSShaderAsset` with its D3D objects, as it is constructed. -/
structure D3DShaderAsset where
  VSBlob : Option Nat := none
  PSBlob : Option Nat := none
  VertexShader : Option Nat := none
  PixelShader : Option Nat := none
  InputLayout : Option Nat := none
  _curStage : ShaderAssetInstanceStage := .JustCreated
  reflected : ReflectedData := {}

namespace D3DShaderAsset

section Reflection

/-- The format and the size of an element. A component type that is none of the three leaves the
format as it is. -/
def elementFormat (paramDesc : D3D11_SIGNATURE_PARAMETER_DESC) (old : DXGI_FORMAT) :
    DXGI_FORMAT × Nat :=
  if paramDesc.SemanticName = "POSITION" then (.R32G32B32_FLOAT, 16)
  else if paramDesc.Mask = 1 then
    (match paramDesc.ComponentType with
      | .UINT32 => .R32_UINT | .SINT32 => .R32_SINT | .FLOAT32 => .R32_FLOAT | _ => old, 4)
  else if paramDesc.Mask ≤ 3 then
    (match paramDesc.ComponentType with
      | .UINT32 => .R32G32_UINT | .SINT32 => .R32G32_SINT | .FLOAT32 => .R32G32_FLOAT
      | _ => old, 8)
  else if paramDesc.Mask ≤ 7 then
    (match paramDesc.ComponentType with
      | .UINT32 => .R32G32B32_UINT | .SINT32 => .R32G32B32_SINT | .FLOAT32 => .R32G32B32_FLOAT
      | _ => old, 16)
  else if paramDesc.Mask ≤ 15 then
    (match paramDesc.ComponentType with
      | .UINT32 => .R32G32B32A32_UINT | .SINT32 => .R32G32B32A32_SINT
      | .FLOAT32 => .R32G32B32A32_FLOAT | _ => old, 16)
  else (old, 0)

variable (calls : ShaderCalls)

/-- One turn of the input layout loop; the second state is `byteOffset`. -/
def reflectInputParameter (i : Nat) (st : ReflectedData × Nat) :
    Option (HRESULT × ReflectedData × Nat) :=
  let (hr, paramDesc) := calls.getInputParameterDesc i
  if FAILED hr then some (hr, st)
  else if i < LAYOUT_NUM_MAX ∧ paramDesc.SemanticName.utf8ByteSize < LAYOUT_SEMANTIC_NAME_LEN_MAX then
    let (format, size) := elementFormat paramDesc (st.1.LayoutDescArray i).Format
    let elem : D3D11_INPUT_ELEMENT_DESC :=
      { SemanticName := paramDesc.SemanticName
        SemanticIndex := paramDesc.SemanticIndex
        Format := format
        AlignedByteOffset := st.2 }
    some (hr, { st.1 with LayoutDescArray := Function.update st.1.LayoutDescArray i elem },
      toUint32 (st.2 + size : Nat))
  else none

/-- One turn of a constant buffer loop, with the stage's part of it. -/
def reflectConstantBuffer (cb : ConstantBufferCalls)
    (reflect : ReportedBuffer → SSShaderReflectionForMaterial →
      Option SSShaderReflectionForMaterial) (r : ReflectedData) :
    Option (HRESULT × ReflectedData) :=
  if FAILED cb.getDesc then some (cb.getDesc, r)
  else if FAILED cb.getResourceBindingDescByName then some (cb.getResourceBindingDescByName, r)
  else (reflect cb.reported r.ShaderReflection).map fun refl =>
    (cb.getResourceBindingDescByName, { r with ShaderReflection := refl })

/-- One turn of the loop over the bound resources. -/
def reflectResource (i : Nat) (r : ReflectedData) : Option (HRESULT × ReflectedData) :=
  let (hr, type) := calls.getResourceBindingDesc i
  if FAILED hr then some (hr, r)
  else match type with
    | .TEXTURE => some (hr, { r with TexturePoolCount := toUint8 (r.TexturePoolCount + 1 : Nat) })
    | .SAMPLER => some (hr, { r with SamplerCount := toUint8 (r.SamplerCount + 1 : Nat) })
    | .other => some (hr, r)

def reflectInputLayout (r : ReflectedData) : Option (HRESULT × ReflectedData) :=
  let layoutElemCount := toUint8 calls.VSShaderDesc.InputParameters
  (FailFast.loop FAILED S_OK (reflectInputParameter calls) (List.range layoutElemCount)
    ({ r with layoutElemCount := layoutElemCount }, 0)).map fun (hr, st) => (hr, st.1)

def reflectVSConstantBuffers (r : ReflectedData) : Option (HRESULT × ReflectedData) :=
  let VSConstBufferNum := toUint8 calls.VSShaderDesc.ConstantBuffers
  FailFast.loop FAILED S_OK
    (fun i => reflectConstantBuffer (calls.vsConstantBuffer i)
      (SSShaderReflectionForMaterial.reflectVSBuffer i)) (List.range VSConstBufferNum)
    { r with ShaderReflection :=
               { r.ShaderReflection with VSConstBufferNum := VSConstBufferNum } }

def reflectPSConstantBuffers (r : ReflectedData) : Option (HRESULT × ReflectedData) :=
  let PSConstBufferNum := toUint8 calls.PSShaderDesc.ConstantBuffers
  FailFast.loop FAILED S_OK
    (fun i => reflectConstantBuffer (calls.psConstantBuffer i)
      (SSShaderReflectionForMaterial.reflectPSBuffer i)) (List.range PSConstBufferNum)
    { r with ShaderReflection :=
               { r.ShaderReflection with PSConstBufferNum := PSConstBufferNum } }

def reflectResources (r : ReflectedData) : Option (HRESULT × ReflectedData) :=
  FailFast.loop FAILED S_OK (reflectResource calls)
    (List.range calls.PSShaderDesc.BoundResources)
    { r with TexturePoolCount := 0, SamplerCount := 0 }

inductive ReflectionPart where
  | inputLayout
  | vsConstantBuffers
  | psConstantBuffers
  | resources

def reflectPart : ReflectionPart → ReflectedData → Option (HRESULT × ReflectedData)
  | .inputLayout => reflectInputLayout calls
  | .vsConstantBuffers => reflectVSConstantBuffers calls
  | .psConstantBuffers => reflectPSConstantBuffers calls
  | .resources => reflectResources calls

/-- `CompileShader` from the first `GetDesc` on: four loops, left at the first failing call. -/
def reflect (r : ReflectedData) : Option (HRESULT × ReflectedData) :=
  FailFast.loop FAILED S_OK (reflectPart calls)
    [.inputLayout, .vsConstantBuffers, .psConstantBuffers, .resources] r

end Reflection

/-- `CompileShader`. After a failed `D3DReflect` the pointers are left dangling. -/
def compileShader (calls : ShaderCalls) (asset : D3DShaderAsset) (h : Handles) :
    Option (HRESULT × D3DShaderAsset × Handles) := do
  if FAILED calls.compileVS then return (calls.compileVS, asset, h)
  let (VSBlob, h) := h.acquire
  let asset := { asset with VSBlob := some VSBlob }
  if FAILED calls.compilePS then
    return (calls.compilePS, { asset with VSBlob := none }, h.release VSBlob)
  let (PSBlob, h) := h.acquire
  let asset := { asset with PSBlob := some PSBlob }
  if FAILED calls.reflectVS then return (E_FAIL, asset, (h.release VSBlob).release PSBlob)
  if FAILED calls.reflectPS then return (E_FAIL, asset, (h.release VSBlob).release PSBlob)
  let (hr, reflected) ← reflect calls asset.reflected
  let asset := { asset with reflected := reflected }
  if FAILED hr then return (hr, asset, h)
  return (S_OK, { asset with _curStage := .Compiled }, h)

/-- `InstantiateShader`. -/
def instantiateShader (calls : ShaderCalls) (asset : D3DShaderAsset) (h : Handles) :
    Option (HRESULT × D3DShaderAsset × Handles) :=
  match asset._curStage with
  | .JustCreated => some (E_FAIL, asset, h)
  | .Instantiated => some (E_FAIL, asset, h)
  | .Compiled => do
    let VSBlob ← asset.VSBlob
    if FAILED calls.createVertexShader then return (calls.createVertexShader, asset, h)
    let (VertexShader, h) := h.acquire
    let asset := { asset with VertexShader := some VertexShader }
    let PSBlob ← asset.PSBlob
    if FAILED calls.createPixelShader then
      return (calls.createPixelShader, asset, h.release VertexShader)
    let (PixelShader, h) := h.acquire
    let asset := { asset with PixelShader := some PixelShader }
    if FAILED calls.createInputLayout then return (calls.createInputLayout, asset, h)
    let (InputLayout, h) := h.acquire
    return (S_OK,
      { asset with
        InputLayout := some InputLayout
        VSBlob := none
        PSBlob := none
        _curStage := .Instantiated }, (h.release VSBlob).release PSBlob)

/-- `if (p != nullptr) p->Release()`. -/
def releaseIfNotNull (h : Handles) : Option Nat → Handles
  | none => h
  | some p => h.release p

/-- The first case of the switch of `Release`, which falls through to the second. -/
def releaseInstantiated (asset : D3DShaderAsset) (h : Handles) : Option Handles := do
  let InputLayout ← asset.InputLayout
  let VertexShader ← asset.VertexShader
  let PixelShader ← asset.PixelShader
  return ((h.release InputLayout).release VertexShader).release PixelShader

/-- `Release`. No pointer is set to null. -/
def release (asset : D3DShaderAsset) (h : Handles) : Option Handles :=
  match asset._curStage with
  | .Instantiated =>
    (releaseInstantiated asset h).map fun h =>
      releaseIfNotNull (releaseIfNotNull h asset.PSBlob) asset.VSBlob
  | .Compiled => some (releaseIfNotNull (releaseIfNotNull h asset.PSBlob) asset.VSBlob)
  | .JustCreated => some h

/-- `CompileShader`, `InstantiateShader` and `Release` on a new asset. -/
def lifetime (calls : ShaderCalls) : Option Handles := do
  let (_, asset, h) ← compileShader calls {} Handles.empty
  let (_, asset, h) ← instantiateShader calls asset h
  release asset h

section Outcomes

variable {calls : ShaderCalls} {hr : HRESULT} {r r' : ReflectedData}

/-- One of the reflection calls of a part fails. -/
def PartFails (calls : ShaderCalls) : ReflectionPart → Prop
  | .inputLayout => ∃ i, i < toUint8 calls.VSShaderDesc.InputParameters ∧
      FAILED (calls.getInputParameterDesc i).1
  | .vsConstantBuffers => ∃ i, i < toUint8 calls.VSShaderDesc.ConstantBuffers ∧
      (FAILED (calls.vsConstantBuffer i).getDesc ∨
        FAILED (calls.vsConstantBuffer i).getResourceBindingDescByName)
  | .psConstantBuffers => ∃ i, i < toUint8 calls.PSShaderDesc.ConstantBuffers ∧
      (FAILED (calls.psConstantBuffer i).getDesc ∨
        FAILED (calls.psConstantBuffer i).getResourceBindingDescByName)
  | .resources => ∃ i, i < calls.PSShaderDesc.BoundResources ∧
      FAILED (calls.getResourceBindingDesc i).1

/-- One of the calls after the two `D3DReflect` fails. -/
def ReflectionFails (calls : ShaderCalls) : Prop := ∃ part, PartFails calls part

/-- The blobs are compiled and their reflections made. -/
def BlobsMade (calls : ShaderCalls) : Prop :=
  ¬ FAILED calls.compileVS ∧ ¬ FAILED calls.compilePS ∧
    ¬ FAILED calls.reflectVS ∧ ¬ FAILED calls.reflectPS

theorem reflectConstantBuffer_failed_iff {cb : ConstantBufferCalls}
    {reflect : ReportedBuffer → SSShaderReflectionForMaterial →
      Option SSShaderReflectionForMaterial}
    (h : reflectConstantBuffer cb reflect r = some (hr, r')) :
    FAILED hr ↔ FAILED cb.getDesc ∨ FAILED cb.getResourceBindingDescByName := by
  unfold reflectConstantBuffer at h
  split at h
  · rename_i hdesc
    cases h
    exact iff_of_true hdesc (Or.inl hdesc)
  · rename_i hdesc
    split at h
    · rename_i hbind
      cases h
      exact iff_of_true hbind (Or.inr hbind)
    · rename_i hbind
      obtain ⟨refl, _, h⟩ := Option.map_eq_some_iff.mp h
      cases h
      exact iff_of_false hbind (not_or_intro hdesc hbind)

theorem reflectInputParameter_failed_iff {i : Nat} {st st' : ReflectedData × Nat}
    (h : reflectInputParameter calls i st = some (hr, st')) :
    FAILED hr ↔ FAILED (calls.getInputParameterDesc i).1 := by
  unfold reflectInputParameter at h
  simp only at h
  split at h
  · cases h
    rfl
  · split at h
    · cases h
      rfl
    · cases h

theorem reflectResource_failed_iff {i : Nat} (h : reflectResource calls i r = some (hr, r')) :
    FAILED hr ↔ FAILED (calls.getResourceBindingDesc i).1 := by
  unfold reflectResource at h
  simp only at h
  split at h
  · cases h
    rfl
  · cases htype : (calls.getResourceBindingDesc i).2 with
    | TEXTURE | SAMPLER | other =>
      rw [htype] at h
      cases h
      rfl

theorem reflectPart_failed_iff {part : ReflectionPart}
    (h : reflectPart calls part r = some (hr, r')) : FAILED hr ↔ PartFails calls part := by
  cases part with
  | inputLayout =>
    obtain ⟨⟨hr1, st⟩, hloop, heq⟩ := Option.map_eq_some_iff.mp h
    cases heq
    rw [FailFast.loop_failed_iff not_failed_S_OK
      (fun i _ s e s' hbody => reflectInputParameter_failed_iff hbody) hloop]
    simp only [PartFails, List.mem_range]
  | vsConstantBuffers =>
    rw [FailFast.loop_failed_iff not_failed_S_OK
      (fun i _ s e s' hbody => reflectConstantBuffer_failed_iff hbody) h]
    simp only [PartFails, List.mem_range]
  | psConstantBuffers =>
    rw [FailFast.loop_failed_iff not_failed_S_OK
      (fun i _ s e s' hbody => reflectConstantBuffer_failed_iff hbody) h]
    simp only [PartFails, List.mem_range]
  | resources =>
    rw [FailFast.loop_failed_iff not_failed_S_OK
      (fun i _ s e s' hbody => reflectResource_failed_iff hbody) h]
    simp only [PartFails, List.mem_range]

theorem reflect_failed_iff (h : reflect calls r = some (hr, r')) :
    FAILED hr ↔ ReflectionFails calls := by
  rw [FailFast.loop_failed_iff not_failed_S_OK
    (fun part _ s e s' hbody => reflectPart_failed_iff hbody) h]
  constructor
  · rintro ⟨part, _, hfails⟩
    exact ⟨part, hfails⟩
  · rintro ⟨part, hfails⟩
    exact ⟨part, by cases part <;> simp, hfails⟩

/-- How `CompileShader` can leave a new asset, and what becomes of the handles that are out. -/
inductive CompileOutcome (calls : ShaderCalls) (h : Handles) :
    HRESULT → D3DShaderAsset → Handles → Prop where
  | noBlobs {hr asset h'} : ¬ BlobsMade calls → FAILED hr → asset._curStage = .JustCreated →
      (∀ live, h.Outstanding live → h'.Outstanding live) → CompileOutcome calls h hr asset h'
  | blobsLeft {hr asset h' v p} : BlobsMade calls → ReflectionFails calls → FAILED hr →
      asset._curStage = .JustCreated →
      (∀ live, h.Outstanding live → h'.Outstanding (p :: v :: live)) →
      CompileOutcome calls h hr asset h'
  | compiled {h' v p reflected} : BlobsMade calls → ¬ ReflectionFails calls →
      (∀ live, h.Outstanding live → h'.Outstanding (p :: v :: live)) →
      CompileOutcome calls h S_OK
        { VSBlob := some v, PSBlob := some p, _curStage := .Compiled, reflected := reflected } h'

/-- How `InstantiateShader` can leave a compiled asset. -/
inductive InstantiateOutcome (calls : ShaderCalls) (v p : Nat) (h : Handles) :
    HRESULT → D3DShaderAsset → Handles → Prop where
  | noShaders {hr asset h'} : FAILED calls.createVertexShader ∨ FAILED calls.createPixelShader →
      FAILED hr → asset.VSBlob = some v → asset.PSBlob = some p → asset._curStage = .Compiled →
      (∀ live, h.Outstanding (p :: v :: live) → h'.Outstanding (p :: v :: live)) →
      InstantiateOutcome calls v p h hr asset h'
  | shadersLeft {hr asset h' vs ps} : ¬ FAILED calls.createVertexShader →
      ¬ FAILED calls.createPixelShader → FAILED calls.createInputLayout →
      FAILED hr → asset.VSBlob = some v → asset.PSBlob = some p → asset._curStage = .Compiled →
      (∀ live, h.Outstanding (p :: v :: live) → h'.Outstanding (ps :: vs :: p :: v :: live)) →
      InstantiateOutcome calls v p h hr asset h'
  | instantiated {h' vs ps il reflected} : ¬ FAILED calls.createVertexShader →
      ¬ FAILED calls.createPixelShader → ¬ FAILED calls.createInputLayout →
      (∀ live, h.Outstanding (p :: v :: live) → h'.Outstanding (il :: ps :: vs :: live)) →
      InstantiateOutcome calls v p h S_OK
        { VertexShader := some vs, PixelShader := some ps, InputLayout := some il,
          _curStage := .Instantiated, reflected := reflected } h'

/-- What `CompileShader` can do to any asset. -/
inductive CompilesFrom (calls : ShaderCalls) (start : D3DShaderAsset) (h : Handles) :
    HRESULT → D3DShaderAsset → Handles → Prop where
  | noBlobs {hr asset h'} : ¬ BlobsMade calls → FAILED hr → asset._curStage = start._curStage →
      (∀ live, h.Outstanding live → h'.Outstanding live) → CompilesFrom calls start h hr asset h'
  | blobsLeft {hr asset h' v p} : BlobsMade calls → ReflectionFails calls → FAILED hr →
      asset._curStage = start._curStage →
      (∀ live, h.Outstanding live → h'.Outstanding (p :: v :: live)) →
      CompilesFrom calls start h hr asset h'
  | compiled {h' v p reflected} : BlobsMade calls → ¬ ReflectionFails calls →
      (∀ live, h.Outstanding live → h'.Outstanding (p :: v :: live)) →
      CompilesFrom calls start h S_OK
        { start with
          VSBlob := some v, PSBlob := some p, _curStage := .Compiled, reflected := reflected } h'

/-- What `InstantiateShader` can do to any compiled asset. -/
inductive InstantiatesFrom (calls : ShaderCalls) (start : D3DShaderAsset) (h : Handles) :
    HRESULT → D3DShaderAsset → Handles → Prop where
  | noShaders {hr asset h'} : FAILED calls.createVertexShader ∨ FAILED calls.createPixelShader →
      FAILED hr → asset.VSBlob = start.VSBlob → asset.PSBlob = start.PSBlob →
      asset._curStage = start._curStage →
      (∀ live, h.Outstanding live → h'.Outstanding live) →
      InstantiatesFrom calls start h hr asset h'
  | shadersLeft {hr asset h' vs ps} : ¬ FAILED calls.createVertexShader →
      ¬ FAILED calls.createPixelShader → FAILED calls.createInputLayout → FAILED hr →
      asset.VSBlob = start.VSBlob → asset.PSBlob = start.PSBlob →
      asset._curStage = start._curStage →
      (∀ live, h.Outstanding live → h'.Outstanding (ps :: vs :: live)) →
      InstantiatesFrom calls start h hr asset h'
  | instantiated {h' v p vs ps il} : ¬ FAILED calls.createVertexShader →
      ¬ FAILED calls.createPixelShader → ¬ FAILED calls.createInputLayout →
      start.VSBlob = some v → start.PSBlob = some p →
      (∀ live, h.Outstanding (p :: v :: live) → h'.Outstanding (il :: ps :: vs :: live)) →
      InstantiatesFrom calls start h S_OK
        { start with
          VertexShader := some vs, PixelShader := some ps, InputLayout := some il,
          VSBlob := none, PSBlob := none, _curStage := .Instantiated } h'

variable {start asset asset' : D3DShaderAsset} {h h' : Handles} {live : List Nat}

/-- One case for each way out of the function. -/
theorem compileShader_from (hrun : compileShader calls start h = some (hr, asset, h')) :
    CompilesFrom calls start h hr asset h' := by
  unfold compileShader at hrun
  split at hrun
  · rename_i hvs
    cases hrun
    exact .noBlobs (fun hmade => hmade.1 hvs) hvs rfl fun _ hout => hout
  rename_i hvs
  simp only at hrun
  split at hrun
  · rename_i hps
    cases hrun
    exact .noBlobs (fun hmade => hmade.2.1 hps) hps rfl fun _ hout => hout.acquire.release
  rename_i hps
  split at hrun
  · rename_i hrvs
    cases hrun
    exact .noBlobs (fun hmade => hmade.2.2.1 hrvs) failed_E_FAIL rfl
      fun _ hout => (hout.acquire.acquire.release_behind [_]).release
  rename_i hrvs
  split at hrun
  · rename_i hrps
    cases hrun
    exact .noBlobs (fun hmade => hmade.2.2.2 hrps) failed_E_FAIL rfl
      fun _ hout => (hout.acquire.acquire.release_behind [_]).release
  rename_i hrps
  have hmade : BlobsMade calls := ⟨hvs, hps, hrvs, hrps⟩
  obtain ⟨⟨hr1, reflected⟩, hreflect, hrun⟩ := Option.bind_eq_some_iff.mp hrun
  have hfailed := reflect_failed_iff hreflect
  simp only at hrun
  split at hrun
  · rename_i hbad
    cases hrun
    exact .blobsLeft hmade (hfailed.mp hbad) hbad rfl fun _ hout => hout.acquire.acquire
  · rename_i hok
    cases hrun
    exact .compiled hmade (fun hbad => hok (hfailed.mpr hbad)) fun _ hout => hout.acquire.acquire

theorem instantiateShader_from (hstage : start._curStage = .Compiled)
    (hrun : instantiateShader calls start h = some (hr, asset, h')) :
    InstantiatesFrom calls start h hr asset h' := by
  unfold instantiateShader at hrun
  rw [hstage] at hrun
  obtain ⟨v, hv, hrun⟩ := Option.bind_eq_some_iff.mp hrun
  split at hrun
  · rename_i hvs
    cases hrun
    exact .noShaders (Or.inl hvs) hvs rfl rfl rfl fun _ hout => hout
  rename_i hvs
  obtain ⟨p, hp, hrun⟩ := Option.bind_eq_some_iff.mp hrun
  split at hrun
  · rename_i hps
    cases hrun
    exact .noShaders (Or.inr hps) hps rfl rfl hstage.symm fun _ hout => hout.acquire.release
  rename_i hps
  simp only at hrun
  split at hrun
  · rename_i hil
    cases hrun
    exact .shadersLeft hvs hps hil hil rfl rfl hstage.symm fun _ hout => hout.acquire.acquire
  · rename_i hil
    cases hrun
    -- the blobs go, the two shaders and the layout stay
    exact .instantiated hvs hps hil hv hp fun _ hout =>
      (hout.acquire.acquire.acquire.release_behind [_, _, _, _]).release_behind [_, _, _]

theorem compileShader_outcome (hrun : compileShader calls {} h = some (hr, asset, h')) :
    CompileOutcome calls h hr asset h' := by
  cases compileShader_from hrun with
  | noBlobs hnot hfailed hstage hout => exact .noBlobs hnot hfailed hstage hout
  | blobsLeft hmade hbad hfailed hstage hout => exact .blobsLeft hmade hbad hfailed hstage hout
  | compiled hmade hgood hout => exact .compiled hmade hgood hout

theorem instantiateShader_outcome {v p : Nat} {reflected : ReflectedData}
    (hrun : instantiateShader calls
      { VSBlob := some v, PSBlob := some p, _curStage := .Compiled, reflected := reflected } h
        = some (hr, asset, h')) :
    InstantiateOutcome calls v p h hr asset h' := by
  cases instantiateShader_from rfl hrun with
  | noShaders hfails hfailed hvs hps hstage hout =>
    exact .noShaders hfails hfailed hvs hps hstage fun _ => hout _
  | shadersLeft hvsok hpsok hil hfailed hvs hps hstage hout =>
    exact .shadersLeft hvsok hpsok hil hfailed hvs hps hstage fun _ => hout _
  | instantiated hvsok hpsok hil hvs hps hout =>
    cases hvs
    cases hps
    exact .instantiated hvsok hpsok hil hout

/-- `Release` of an asset whose stage is `Compiled`. -/
theorem release_compiled {v p : Nat} (hvs : asset.VSBlob = some v) (hps : asset.PSBlob = some p)
    (hstage : asset._curStage = .Compiled) (hout : h.Outstanding (p :: v :: live)) :
    ∃ h', release asset h = some h' ∧ h'.Outstanding live := by
  unfold release
  rw [hstage, hvs, hps]
  exact ⟨_, rfl, hout.release.release⟩

theorem release_instantiated {vs ps il : Nat} {reflected : ReflectedData}
    (hout : h.Outstanding (il :: ps :: vs :: live)) :
    ∃ h', release
      { VertexShader := some vs, PixelShader := some ps, InputLayout := some il,
        _curStage := .Instantiated, reflected := reflected } h = some h' ∧ h'.Outstanding live :=
  ⟨_, rfl, (hout.release.release_behind [_]).release⟩

/-- No call fails that leaves objects nobody releases: none of the reflection calls, and the input
layout only together with one of the shaders. -/
def LeavesNothing (calls : ShaderCalls) : Prop :=
  BlobsMade calls → ¬ ReflectionFails calls ∧
    (FAILED calls.createInputLayout →
      FAILED calls.createVertexShader ∨ FAILED calls.createPixelShader)

/-- What is left when `Release` returns. -/
theorem lifetime_outstanding (hrun : lifetime calls = some h) :
    ∃ left, h.Outstanding left ∧ (left = [] ↔ LeavesNothing calls) := by
  unfold lifetime at hrun
  obtain ⟨⟨hr1, asset1, h1⟩, hcompile, hrun⟩ := Option.bind_eq_some_iff.mp hrun
  obtain ⟨⟨hr2, asset2, h2⟩, hinst, hrelease⟩ := Option.bind_eq_some_iff.mp hrun
  simp only at hinst hrelease
  have hempty := Handles.outstanding_empty
  cases compileShader_outcome hcompile with
  | noBlobs hnot _ hstage hout =>
    rw [instantiateShader, hstage] at hinst
    cases hinst
    rw [release, hstage] at hrelease
    cases hrelease
    exact ⟨[], hout _ hempty, iff_of_true rfl fun hmade => absurd hmade hnot⟩
  | blobsLeft hmade hbad _ hstage hout =>
    rw [instantiateShader, hstage] at hinst
    cases hinst
    rw [release, hstage] at hrelease
    cases hrelease
    exact ⟨_, hout _ hempty, iff_of_false (List.cons_ne_nil _ _)
      fun hleaves => (hleaves hmade).1 hbad⟩
  | compiled hmade hgood hout =>
    have hblobs := hout _ hempty
    cases instantiateShader_outcome hinst with
    | noShaders hfails _ hvs hps hstage hout =>
      obtain ⟨h', heq, hout'⟩ := release_compiled hvs hps hstage (hout _ hblobs)
      rw [heq] at hrelease
      cases hrelease
      exact ⟨[], hout', iff_of_true rfl fun _ => ⟨hgood, fun _ => hfails⟩⟩
    | shadersLeft hvsok hpsok hil _ hvs hps hstage hout =>
      -- the two shaders are not released in this stage
      have hout' := (hout _ hblobs).perm (List.perm_append_comm_assoc [_, _] [_, _] [])
      obtain ⟨h', heq, hout'⟩ := release_compiled hvs hps hstage hout'
      rw [heq] at hrelease
      cases hrelease
      exact ⟨_, hout', iff_of_false (List.cons_ne_nil _ _) fun hleaves =>
        ((hleaves hmade).2 hil).elim hvsok hpsok⟩
    | instantiated _ _ hilok hout =>
      obtain ⟨h', heq, hout'⟩ := release_instantiated (hout _ hblobs)
      rw [heq] at hrelease
      cases hrelease
      exact ⟨[], hout', iff_of_true rfl fun _ => ⟨hgood, fun hil => absurd hil hilok⟩⟩

/-- In a run of `CompileShader`, `InstantiateShader` and `Release` every D3D object has been
released exactly once when `Release` returns, exactly when none of the calls fails whose error path
forgets what the asset holds. -/
theorem released_once_iff (calls : ShaderCalls) (h : Handles)
    (hreturns : lifetime calls = some h) : h.AllReturnedOnce ↔ LeavesNothing calls := by
  obtain ⟨left, hout, hleft⟩ := lifetime_outstanding hreturns
  rw [hout.allReturnedOnce_iff, hleft]

/-- A shader with two parameters, a buffer for each stage, a texture and a sampler; all calls but
the last succeed. -/
def layoutFails : ShaderCalls where
  compileVS := S_OK
  compilePS := S_OK
  reflectVS := S_OK
  reflectPS := S_OK
  VSShaderDesc := ⟨2, 1, 0⟩
  PSShaderDesc := ⟨0, 1, 2⟩
  getInputParameterDesc := fun i =>
    (S_OK, if i = 0 then ⟨"POSITION", 0, 15, .FLOAT32⟩ else ⟨"TEXCOORD", 0, 3, .FLOAT32⟩)
  vsConstantBuffer := fun _ => ⟨S_OK, S_OK, ⟨"ModelBuffer", 128, 0⟩⟩
  psConstantBuffer := fun _ => ⟨S_OK, S_OK, ⟨"MaterialParam", 48, 2⟩⟩
  getResourceBindingDesc := fun i => (S_OK, if i = 0 then .TEXTURE else .SAMPLER)
  createVertexShader := S_OK
  createPixelShader := S_OK
  createInputLayout := E_FAIL

theorem released_once_iff_layout_fails :
    (Handles.mk 4 [1, 0]).AllReturnedOnce ↔ LeavesNothing layoutFails :=
  released_once_iff layoutFails ⟨4, [1, 0]⟩ rfl

/-- The input layout fails: both shaders stay. A reflection call fails: both blobs stay. -/
theorem not_released_once :
    (∃ h, lifetime layoutFails = some h ∧ ¬ h.AllReturnedOnce) ∧
      ∃ h, lifetime { layoutFails with
          PSShaderDesc := ⟨0, 0, 1⟩
          getResourceBindingDesc := fun _ => (E_FAIL, .TEXTURE) } = some h ∧
        ¬ h.AllReturnedOnce := by
  constructor
  · exact ⟨⟨4, [1, 0]⟩, rfl, fun hall => absurd (hall 2 (by decide)) (by decide)⟩
  · exact ⟨⟨2, []⟩, rfl, fun hall => absurd (hall 0 (by decide)) (by decide)⟩

end Outcomes

end D3DShaderAsset

end FBXRenderer
