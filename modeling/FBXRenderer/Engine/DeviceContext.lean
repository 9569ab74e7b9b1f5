import Mathlib
import FBXRenderer.Asset.Skeleton
import FBXRenderer.Lib.CommandStream

/-!
# FBXRenderer.Engine.DeviceContext

The calls that `SSRenderer` makes on its `ID3D11DeviceContext`, and what D3D11 documents of them: a
`Set` call replaces what its slot holds, an update replaces what a buffer holds, and a draw uses
what is set when it is issued. Buffers, resource views and samplers are named by numbers, the
objects of a shader by the name of their `SSShaderAsset`.

The context is a parameter, and `Documented` its law. A draw is observed as the range of indices
with the state it is issued in.
-/

namespace FBXRenderer

open CommandStream

/-- `GlobalRenderParam`. -/
structure GlobalRenderParam (K : Type) where
  VPMatrix : XMMATRIX K
  SunDirection : Vector4f K
  SunIntensity : Vector4f K
  ViewerPos : Vector4f K

/-- What the renderer writes to a buffer. -/
inductive BufferContents (K : Type) where
  | transform (WMatrix RotMatrix : XMMATRIX K)
  | globalRenderParam (param : GlobalRenderParam K)
  | joints (joints : Nat → JOINTMATRIX K)

namespace ID3D11DeviceContext

inductive Command (K : Type) where
  | IASetInputLayout (shader : String)
  | VSSetShader (shader : String)
  | PSSetShader (shader : String)
  | VSSetConstantBuffers (StartSlot : Nat) (buffer : Option Nat)
  | PSSetConstantBuffers (StartSlot : Nat) (buffer : Option Nat)
  | VSSetShaderResources (StartSlot : Nat) (view : Option Nat)
  | PSSetShaderResources (StartSlot : Nat) (view : Option Nat)
  | PSSetSamplers (StartSlot : Nat) (samplers : List (Option Nat))
  | IASetVertexBuffers (buffer : Option Nat) (stride : Nat)
  | IASetIndexBuffer (buffer : Option Nat)
  | IASetPrimitiveTopology
  /-- `UpdateSubresource`, or a write to the mapped buffer. -/
  | UpdateSubresource (DstResource : Nat) (contents : BufferContents K)
  | DrawIndexed (IndexCount StartIndexLocation : Nat)

structure State (K : Type) where
  inputLayout : Option String
  vertexShader : Option String
  pixelShader : Option String
  vsConstantBuffers : Nat → Option Nat
  psConstantBuffers : Nat → Option Nat
  vsShaderResources : Nat → Option Nat
  psShaderResources : Nat → Option Nat
  psSamplers : Nat → Option Nat
  vertexBuffer : Option Nat
  vertexStride : Nat
  indexBuffer : Option Nat
  triangleList : Bool
  contents : Nat → Option (BufferContents K)

/-- A device context on which nothing was set. -/
def State.cleared (K : Type) : State K where
  inputLayout := none
  vertexShader := none
  pixelShader := none
  vsConstantBuffers := fun _ => none
  psConstantBuffers := fun _ => none
  vsShaderResources := fun _ => none
  psShaderResources := fun _ => none
  psSamplers := fun _ => none
  vertexBuffer := none
  vertexStride := 0
  indexBuffer := none
  triangleList := false
  contents := fun _ => none

structure DrawCall (K : Type) where
  IndexCount : Nat
  StartIndexLocation : Nat
  state : State K

/-- Consecutive slots from `slot` on. -/
def setSlots (table : Nat → Option Nat) : Nat → List (Option Nat) → Nat → Option Nat
  | _, [] => table
  | slot, x :: xs => setSlots (Function.update table slot x) (slot + 1) xs

variable {K : Type}

/-- What is documented of a call, in terms of what is set and what the buffers hold. -/
def step (s : State K) : Command K → State K
  | .IASetInputLayout shader => { s with inputLayout := some shader }
  | .VSSetShader shader => { s with vertexShader := some shader }
  | .PSSetShader shader => { s with pixelShader := some shader }
  | .VSSetConstantBuffers slot buffer =>
    { s with vsConstantBuffers := Function.update s.vsConstantBuffers slot buffer }
  | .PSSetConstantBuffers slot buffer =>
    { s with psConstantBuffers := Function.update s.psConstantBuffers slot buffer }
  | .VSSetShaderResources slot view =>
    { s with vsShaderResources := Function.update s.vsShaderResources slot view }
  | .PSSetShaderResources slot view =>
    { s with psShaderResources := Function.update s.psShaderResources slot view }
  | .PSSetSamplers slot samplers => { s with psSamplers := setSlots s.psSamplers slot samplers }
  | .IASetVertexBuffers buffer stride =>
    { s with vertexBuffer := buffer, vertexStride := stride }
  | .IASetIndexBuffer buffer => { s with indexBuffer := buffer }
  | .IASetPrimitiveTopology => { s with triangleList := true }
  | .UpdateSubresource dst contents =>
    { s with contents := Function.update s.contents dst (some contents) }
  | .DrawIndexed _ _ => s

def observe (s : State K) : Command K → Option (DrawCall K)
  | .DrawIndexed count start => some ⟨count, start, s⟩
  | _ => none

def machine (K : Type) : Machine (State K) (Command K) (DrawCall K) where
  step := step
  observe := observe

end ID3D11DeviceContext

/-- A device context: its calls, and what can be seen of its state. -/
structure ID3D11DeviceContext (σ K : Type) where
  call : σ → ID3D11DeviceContext.Command K → σ
  state : σ → ID3D11DeviceContext.State K

namespace ID3D11DeviceContext

section Context

variable {σ K : Type}

structure Documented (context : ID3D11DeviceContext σ K) : Prop where
  call : ∀ s c, context.state (context.call s c) = step (context.state s) c

/-- The draws that a list of calls makes. -/
def draws (context : ID3D11DeviceContext σ K) (s : σ) (cs : List (Command K)) : List (DrawCall K) :=
  (exec ⟨context.call, fun s c => observe (context.state s) c⟩ s cs).2

theorem Documented.draws_eq {context : ID3D11DeviceContext σ K} (h : context.Documented) (s : σ)
    (cs : List (Command K)) : context.draws s cs = (exec (machine K) (context.state s) cs).2 := by
  rw [exec_view (m := ⟨context.call, fun s c => observe (context.state s) c⟩) context.state h.call
    fun _ _ => rfl]
  rfl

/-- A context that is nothing but what is seen of it. -/
def plain (K : Type) : ID3D11DeviceContext (State K) K := ⟨step, id⟩

theorem plain_documented (K : Type) : (plain K).Documented := ⟨fun _ _ => rfl⟩

end Context

section Slots

theorem setSlots_lt : ∀ (samplers : List (Option Nat)) (table : Nat → Option Nat) (slot i : Nat),
    i < slot → setSlots table slot samplers i = table i := by
  intro samplers
  induction samplers with
  | nil => intro table slot i _; rfl
  | cons x xs ih =>
    intro table slot i hi
    rw [setSlots, ih _ _ _ (by omega), Function.update_of_ne (by omega)]

theorem setSlots_get : ∀ (samplers : List (Option Nat)) (table : Nat → Option Nat)
    (slot i : Nat) (x : Option Nat), samplers[i]? = some x →
    setSlots table slot samplers (slot + i) = x := by
  intro samplers
  induction samplers with
  | nil => intro table slot i x h; simp at h
  | cons y ys ih =>
    intro table slot i x h
    cases i with
    | zero =>
      obtain rfl : y = x := by simpa using h
      rw [setSlots, setSlots_lt _ _ (slot + 1) (slot + 0) (by omega), Nat.add_zero,
        Function.update_self]
    | succ i =>
      have hnext := ih (Function.update table slot y) (slot + 1) i x (by simpa using h)
      rw [setSlots, ← hnext]
      congr 1
      omega

end Slots

end ID3D11DeviceContext

end FBXRenderer
