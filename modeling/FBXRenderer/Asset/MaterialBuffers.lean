import FBXRenderer.Asset.Material
import FBXRenderer.Asset.ShaderReflection
import FBXRenderer.Lib.PartialRun

/-!
# FBXRenderer.Asset.MaterialBuffers

The buffers of an `SSMaterialAsset` (`SSMaterialAsset.cpp`), indexed by slot in `ConstantBuffers`
and `SystemBufferData` and packed stage by stage in `VSConstantBuffers` and `PSConstantBuffers`,
and `SSRenderer::BindMaterial`, which pairs the packed buffers with the reflection tables. The device
is a parameter, with `ID3D11Device.Documented` for one whose memory suffices.

* `SlotsDone.buffersCreated`: one new buffer for each used slot.
* `bound_to_own_slots_iff`: every packed buffer is that of its reflected slot exactly when both
  stages were reported in increasing order of their slots.
* `loops_agree_iff`: the other loops, which stop at the number of used slots, reach all of them
  exactly when the used slots have no gap.
-/

namespace FBXRenderer

open SSShaderReflectionForMaterial

def MATERIAL_PARAM_START_IDX : Nat := 2

inductive MaterialAssetInstanceStage where
  | JustCreated
  | SystemBufferInitialized
  | GPUBufferInitialized
deriving DecidableEq

/-- What a device answers to `CreateBuffer`. Buffers are named by numbers; `none` is a null pointer. -/
structure ID3D11Device (δ : Type) where
  createBuffer : δ → Nat → Option Nat × δ

/-- Every buffer that is asked for is created, and is none of those that were made before. -/
structure ID3D11Device.Documented {δ : Type} (InDevice : ID3D11Device δ) (made : δ → Set Nat) :
    Prop where
  createBuffer : ∀ d ByteWidth, ∃ buffer, (InDevice.createBuffer d ByteWidth).1 = some buffer ∧
    buffer ∉ made d ∧ made (InDevice.createBuffer d ByteWidth).2 = insert buffer (made d)

/-- A device that numbers its buffers. -/
def ID3D11Device.numbering : ID3D11Device Nat := ⟨fun bufferCnt _ => (some bufferCnt, bufferCnt + 1)⟩

theorem ID3D11Device.numbering_documented : numbering.Documented fun bufferCnt =>
    {buffer | buffer < bufferCnt} where
  createBuffer bufferCnt _ := by
    refine ⟨bufferCnt, rfl, Nat.lt_irrefl bufferCnt, Set.ext fun buffer => ?_⟩
    exact Nat.lt_succ_iff_lt_or_eq.trans or_comm

/-- The data members of `SSMaterialAsset` that hold its buffers. -/
structure SSMaterialBuffers where
  SystemBufferData : Nat → Option (List UInt8)
  ConstantBuffers : Nat → Option Nat
  VSConstantBuffers : Nat → Option Nat
  PSConstantBuffers : Nat → Option Nat
  _shaderReflectionCache : SSShaderReflectionForMaterial
  _materialStage : MaterialAssetInstanceStage

/-- `UpdateSubresource` on the buffer of a slot. -/
structure SubresourceUpdate where
  slot : Nat
  pDstResource : Option Nat
  pSrcData : List UInt8

/-- The loop of `InstantiateGPUBuffer` in progress. -/
structure GPUBufferState (δ : Type) where
  material : SSMaterialBuffers
  device : δ
  CurVSCBIdx : Nat
  CurPSCBIdx : Nat

namespace SSMaterialBuffers

/-- A new material with the shader's reflection. -/
def new (refl : SSShaderReflectionForMaterial) : SSMaterialBuffers where
  SystemBufferData := fun _ => none
  ConstantBuffers := fun _ => none
  VSConstantBuffers := fun _ => none
  PSConstantBuffers := fun _ => none
  _shaderReflectionCache := refl
  _materialStage := .JustCreated

/-- The slots from `MATERIAL_PARAM_START_IDX` to the number of used slots. -/
def paramSlots (material : SSMaterialBuffers) : List Nat :=
  List.range' MATERIAL_PARAM_START_IDX
    (material._shaderReflectionCache.EntireConstBufferNum - MATERIAL_PARAM_START_IDX)

/-- `malloc` and `ZeroMemory` for one slot. -/
def instantiateSystemSlot (material : SSMaterialBuffers) (i : Nat) : SSMaterialBuffers :=
  { material with
    SystemBufferData := Function.update material.SystemBufferData i
      (some (List.replicate (material._shaderReflectionCache.EntireCBReflectionInfo i).CBSize 0)) }

def instantiateSystemBuffer (material : SSMaterialBuffers) : SSMaterialBuffers :=
  { material.paramSlots.foldl instantiateSystemSlot material with
    _materialStage := .SystemBufferInitialized }

/-- `StageConstantBuffers[CurIdx++] = ConstantBuffers[i]`, if the stage uses the buffer. -/
def packBuffer (usedByStage : Bool) (table : Nat → Option Nat) (CurIdx : Nat)
    (buffer : Option Nat) : Option ((Nat → Option Nat) × Nat) :=
  if usedByStage then
    if CurIdx < CONSTANT_BUFFER_COUNT_MAX then
      some (Function.update table CurIdx buffer, toUint8 (CurIdx + 1 : Nat))
    else none
  else some (table, CurIdx)

/-- One turn of the loop: `CreateBuffer` for a used slot. -/
def instantiateSlot {δ : Type} (InDevice : ID3D11Device δ) (s : GPUBufferState δ) (i : Nat) :
    Option (GPUBufferState δ) :=
  if i < CONSTANT_BUFFER_COUNT_MAX then
    let info := s.material._shaderReflectionCache.EntireCBReflectionInfo i
    if s.material._shaderReflectionCache.used i then do
      let created := InDevice.createBuffer s.device info.CBSize
      let (VSConstantBuffers, CurVSCBIdx) ←
        packBuffer info.bCBUsedByVSShader s.material.VSConstantBuffers s.CurVSCBIdx created.1
      let (PSConstantBuffers, CurPSCBIdx) ←
        packBuffer info.bCBUsedByPSShader s.material.PSConstantBuffers s.CurPSCBIdx created.1
      some { material := { s.material with
               ConstantBuffers := Function.update s.material.ConstantBuffers i created.1
               VSConstantBuffers := VSConstantBuffers
               PSConstantBuffers := PSConstantBuffers }
             device := created.2
             CurVSCBIdx := CurVSCBIdx
             CurPSCBIdx := CurPSCBIdx }
    else some s
  else none

def instantiateGPUBuffer {δ : Type} (material : SSMaterialBuffers) (InDevice : ID3D11Device δ)
    (device : δ) : Option (SSMaterialBuffers × δ) :=
  ((List.range (material._shaderReflectionCache.ConstBufferSlotMax + 1)).foldlM
      (instantiateSlot InDevice) ⟨material, device, 0, 0⟩).map fun s =>
    ({ s.material with _materialStage := .GPUBufferInitialized }, s.device)

/-- One turn of the loop of `ReleaseGPUBuffer`, with the buffers released so far. -/
def releaseSlot (s : SSMaterialBuffers × List Nat) (i : Nat) : SSMaterialBuffers × List Nat :=
  ({ s.1 with ConstantBuffers := Function.update s.1.ConstantBuffers i none },
    s.2 ++ (s.1.ConstantBuffers i).toList)

/-- The material, and the buffers that were released. -/
def releaseGPUBuffer (material : SSMaterialBuffers) : SSMaterialBuffers × List Nat :=
  (List.range material._shaderReflectionCache.EntireConstBufferNum).foldl releaseSlot
    (material, [])

def syncAllGPUBuffer (material : SSMaterialBuffers) : List SubresourceUpdate :=
  material.paramSlots.filterMap fun i =>
    (material.SystemBufferData i).map fun data => ⟨i, material.ConstantBuffers i, data⟩

/-- The slots and buffers that go to `VSSetConstantBuffers` and to `PSSetConstantBuffers`. -/
def bindMaterial (shaderName : String) (materialAsset : SSMaterialBuffers) :
    List (Nat × Option Nat) × List (Nat × Option Nat) :=
  let refl := materialAsset._shaderReflectionCache
  if materialAsset._materialStage = .JustCreated then ([], [])
  else
    let VSBufferCnt :=
      if shaderName = SSShaderAssetManager.SSDefaultPbrSkinnedShaderName then
        toUint8 ((refl.VSConstBufferNum : Int) - 2)
      else refl.VSConstBufferNum
    ((List.range VSBufferCnt).map fun i =>
        (toUint8 (refl.VSCBReflectionInfo i).CBSlotIdx, materialAsset.VSConstantBuffers i),
      (List.range refl.PSConstBufferNum).map fun i =>
        (toUint8 (refl.PSCBReflectionInfo i).CBSlotIdx, materialAsset.PSConstantBuffers i))

section Instantiate

variable {δ : Type} {InDevice : ID3D11Device δ} {material : SSMaterialBuffers} {device : δ}

/-- The device after the buffers of the slots below `n`. -/
def deviceAt (InDevice : ID3D11Device δ) (material : SSMaterialBuffers) (device : δ) (n : Nat) : δ :=
  (Compact.picked material._shaderReflectionCache.used n).foldl (fun d i =>
    (InDevice.createBuffer d
      (material._shaderReflectionCache.EntireCBReflectionInfo i).CBSize).2) device

/-- The buffer that is created for a used slot. -/
def bufferOf (InDevice : ID3D11Device δ) (material : SSMaterialBuffers) (device : δ) (slot : Nat) :
    Option Nat :=
  (InDevice.createBuffer (deviceAt InDevice material device slot)
    (material._shaderReflectionCache.EntireCBReflectionInfo slot).CBSize).1

theorem deviceAt_succ {n : Nat} (h : material._shaderReflectionCache.used n = true) :
    deviceAt InDevice material device (n + 1) =
      (InDevice.createBuffer (deviceAt InDevice material device n)
        (material._shaderReflectionCache.EntireCBReflectionInfo n).CBSize).2 := by
  unfold deviceAt
  rw [Compact.picked_succ_of_true h, List.foldl_append]
  rfl

/-- The slot is used by the stage with this flag. -/
def usedBy (flag : SSShaderCBReflectionElement → Bool) (material : SSMaterialBuffers)
    (slot : Nat) : Bool :=
  material._shaderReflectionCache.used slot &&
    flag (material._shaderReflectionCache.EntireCBReflectionInfo slot)

/-- The loop after the slots below `n`. -/
structure SlotsDone (InDevice : ID3D11Device δ) (material : SSMaterialBuffers) (device : δ) (n : Nat)
    (s : GPUBufferState δ) : Prop where
  cache : s.material._shaderReflectionCache = material._shaderReflectionCache
  stored : s.device = deviceAt InDevice material device n
  constant : ∀ i, s.material.ConstantBuffers i =
    if i < n ∧ material._shaderReflectionCache.used i = true then
      bufferOf InDevice material device i
    else material.ConstantBuffers i
  vs : Compact.Packed (usedBy (·.bCBUsedByVSShader) material) (bufferOf InDevice material device) n
    s.CurVSCBIdx s.material.VSConstantBuffers
  ps : Compact.Packed (usedBy (·.bCBUsedByPSShader) material) (bufferOf InDevice material device) n
    s.CurPSCBIdx s.material.PSConstantBuffers

/-- A stage's part of one turn. -/
theorem packBuffer_packed {p : Nat → Bool} {g table : Nat → Option Nat} {n c : Nat}
    {buffer : Option Nat} {usedByStage : Bool} (hn : n < CONSTANT_BUFFER_COUNT_MAX)
    (h : Compact.Packed p g n c table) (hp : p n = usedByStage) (hg : g n = buffer) :
    ∃ table' c', packBuffer usedByStage table c buffer = some (table', c') ∧
      Compact.Packed p g (n + 1) c' table' := by
  have hc : c ≤ n := h.count.trans_le Compact.picked_length_le
  unfold packBuffer
  cases usedByStage with
  | true =>
    have hnext : toUint8 (c + 1 : Nat) = c + 1 := by
      unfold toUint8
      unfold CONSTANT_BUFFER_COUNT_MAX at hn
      omega
    rw [if_pos rfl, if_pos (Nat.lt_of_le_of_lt hc hn), hnext, ← hg]
    exact ⟨_, _, rfl, h.put hp⟩
  | false => exact ⟨table, c, rfl, h.skip hp⟩

theorem usedBy_of_used {flag : SSShaderCBReflectionElement → Bool} {slot : Nat}
    (h : material._shaderReflectionCache.used slot = true) :
    usedBy flag material slot =
      flag (material._shaderReflectionCache.EntireCBReflectionInfo slot) := by
  rw [usedBy, h, Bool.true_and]

/-- One turn of the loop. -/
theorem SlotsDone.step {n : Nat} {s : GPUBufferState δ} (hn : n < CONSTANT_BUFFER_COUNT_MAX)
    (h : SlotsDone InDevice material device n s) :
    ∃ s', instantiateSlot InDevice s n = some s' ∧
      SlotsDone InDevice material device (n + 1) s' := by
  unfold instantiateSlot
  rw [if_pos hn, h.cache]
  cases hused : material._shaderReflectionCache.used n with
  | true =>
    have hbuffer : bufferOf InDevice material device n = (InDevice.createBuffer s.device
        (material._shaderReflectionCache.EntireCBReflectionInfo n).CBSize).1 := by
      unfold bufferOf
      rw [h.stored]
    obtain ⟨vsTable, vsIdx, hvs, hvsPacked⟩ :=
      packBuffer_packed hn h.vs (usedBy_of_used hused) hbuffer
    obtain ⟨psTable, psIdx, hps, hpsPacked⟩ :=
      packBuffer_packed hn h.ps (usedBy_of_used hused) hbuffer
    simp only [hvs, hps, if_true, Option.bind_eq_bind, Option.bind_some]
    refine ⟨_, rfl, h.cache, ?_, fun i => ?_, hvsPacked, hpsPacked⟩
    · rw [deviceAt_succ hused, ← h.stored]
    · show Function.update s.material.ConstantBuffers n _ i = _
      rw [Function.update_apply, ← hbuffer, h.constant]
      split
      · rename_i hi
        rw [hi, if_pos ⟨Nat.lt_succ_self n, hused⟩]
      · rename_i hi
        exact if_congr (and_congr_left' (by omega)) rfl rfl
  | false =>
    refine ⟨s, rfl, h.cache, ?_, fun i => ?_, h.vs.skip ?_, h.ps.skip ?_⟩
    · unfold deviceAt
      rw [Compact.picked_succ_of_false hused]
      exact h.stored
    · rw [h.constant]
      refine if_congr ⟨fun hi => ⟨hi.1.trans (Nat.lt_succ_self n), hi.2⟩, fun hi => ?_⟩ rfl rfl
      refine ⟨Nat.lt_of_le_of_ne (Nat.le_of_lt_succ hi.1) fun heq => ?_, hi.2⟩
      rw [heq, hused] at hi
      cases hi.2
    · rw [usedBy, hused, Bool.false_and]
    · rw [usedBy, hused, Bool.false_and]

/-- The loop over the slots below `n`. -/
theorem instantiateSlots_done (InDevice : ID3D11Device δ) (material : SSMaterialBuffers)
    (device : δ) {n : Nat} (hn : n ≤ CONSTANT_BUFFER_COUNT_MAX) :
    ∃ s, (List.range n).foldlM (instantiateSlot InDevice) ⟨material, device, 0, 0⟩ = some s ∧
      SlotsDone InDevice material device n s := by
  induction n with
  | zero =>
    refine ⟨_, rfl, rfl, rfl, fun i => ?_, Compact.packed_zero .., Compact.packed_zero ..⟩
    rw [if_neg fun hi => Nat.not_lt_zero i hi.1]
  | succ n ih =>
    obtain ⟨s, hrun, hs⟩ := ih (Nat.le_of_succ_le hn)
    obtain ⟨s', hstep, hs'⟩ := hs.step hn
    refine ⟨s', ?_, hs'⟩
    rw [PartialRun.foldlM_range_succ, hrun, Option.bind_some, hstep]

theorem instantiateGPUBuffer_done (InDevice : ID3D11Device δ) (material : SSMaterialBuffers)
    (device : δ) (hcount : CountOk material._shaderReflectionCache) :
    ∃ s, material.instantiateGPUBuffer InDevice device =
        some ({ s.material with _materialStage := .GPUBufferInitialized }, s.device) ∧
      SlotsDone InDevice material device (material._shaderReflectionCache.ConstBufferSlotMax + 1)
        s := by
  obtain ⟨s, hrun, hs⟩ := instantiateSlots_done InDevice material device hcount.slotMax_lt
  refine ⟨s, ?_, hs⟩
  unfold instantiateGPUBuffer
  rw [hrun]
  rfl

/-- The buffers that were made between `before` and `after` are one for each used slot. -/
structure BuffersCreated (material material' : SSMaterialBuffers) (before after : Set Nat) :
    Prop where
  fresh : ∀ s, material._shaderReflectionCache.used s = true →
    ∃ b, material'.ConstantBuffers s = some b ∧ b ∉ before ∧ b ∈ after
  distinct : ∀ s t, material._shaderReflectionCache.used s = true →
    material._shaderReflectionCache.used t = true →
      material'.ConstantBuffers s = material'.ConstantBuffers t → s = t
  onto : ∀ b ∈ after, b ∉ before →
    ∃ s, material._shaderReflectionCache.used s = true ∧ material'.ConstantBuffers s = some b
  others : ∀ s, material._shaderReflectionCache.used s = false →
    material'.ConstantBuffers s = material.ConstantBuffers s

section Fresh

variable {made : δ → Set Nat}

/-- Slot by slot one more buffer is there. -/
theorem mem_made_iff (hdevice : InDevice.Documented made) {n b : Nat} :
    b ∈ made (deviceAt InDevice material device n) ↔ b ∈ made device ∨
      ∃ slot < n, material._shaderReflectionCache.used slot = true ∧
        bufferOf InDevice material device slot = some b := by
  induction n with
  | zero => simp [deviceAt, Compact.picked]
  | succ n ih =>
    cases hused : material._shaderReflectionCache.used n with
    | true =>
      obtain ⟨buffer, hbuffer, _, hmade⟩ := hdevice.createBuffer
        (deviceAt InDevice material device n)
        (material._shaderReflectionCache.EntireCBReflectionInfo n).CBSize
      have hof : bufferOf InDevice material device n = some buffer := hbuffer
      rw [deviceAt_succ hused, hmade, Set.mem_insert_iff, ih]
      constructor
      · rintro (rfl | hb | ⟨slot, hlt, hslot⟩)
        · exact .inr ⟨n, Nat.lt_succ_self n, hused, hof⟩
        · exact .inl hb
        · exact .inr ⟨slot, hlt.trans (Nat.lt_succ_self n), hslot⟩
      · rintro (hb | ⟨slot, hlt, hslot, hb⟩)
        · exact .inr (.inl hb)
        · rcases Nat.lt_succ_iff_lt_or_eq.mp hlt with hlt | rfl
          · exact .inr (.inr ⟨slot, hlt, hslot, hb⟩)
          · exact .inl (Option.some_inj.mp (hb.symm.trans hof))
    | false =>
      have hsame : deviceAt InDevice material device (n + 1) =
          deviceAt InDevice material device n := by
        unfold deviceAt
        rw [Compact.picked_succ_of_false hused]
      rw [hsame, ih]
      refine or_congr_right ⟨fun ⟨slot, hlt, hslot⟩ => ⟨slot, by omega, hslot⟩, ?_⟩
      rintro ⟨slot, hlt, hslot, hb⟩
      refine ⟨slot, Nat.lt_of_le_of_ne (Nat.le_of_lt_succ hlt) fun heq => ?_, hslot, hb⟩
      rw [heq, hused] at hslot
      cases hslot

variable (material device) in
theorem bufferOf_fresh (hdevice : InDevice.Documented made) (slot : Nat) :
    ∃ b, bufferOf InDevice material device slot = some b ∧
      b ∉ made (deviceAt InDevice material device slot) := by
  obtain ⟨b, hb, hnew, _⟩ := hdevice.createBuffer (deviceAt InDevice material device slot)
    (material._shaderReflectionCache.EntireCBReflectionInfo slot).CBSize
  exact ⟨b, hb, hnew⟩

theorem bufferOf_ne (hdevice : InDevice.Documented made) {s t : Nat} (hlt : s < t)
    (hs : material._shaderReflectionCache.used s = true) :
    bufferOf InDevice material device s ≠ bufferOf InDevice material device t := by
  intro heq
  obtain ⟨b, hb, hnew⟩ := bufferOf_fresh material device hdevice t
  exact hnew ((mem_made_iff hdevice).mpr (.inr ⟨s, hlt, hs, heq.trans hb⟩))

theorem bufferOf_inj (hdevice : InDevice.Documented made) {s t : Nat}
    (hs : material._shaderReflectionCache.used s = true)
    (ht : material._shaderReflectionCache.used t = true)
    (h : bufferOf InDevice material device s = bufferOf InDevice material device t) : s = t := by
  rcases Nat.lt_trichotomy s t with hlt | heq | hgt
  · exact absurd h (bufferOf_ne hdevice hlt hs)
  · exact heq
  · exact absurd h.symm (bufferOf_ne hdevice hgt ht)

end Fresh

section Done

variable {s : GPUBufferState δ} {made : δ → Set Nat}

theorem SlotsDone.constant_of_used (hcount : CountOk material._shaderReflectionCache)
    (h : SlotsDone InDevice material device
      (material._shaderReflectionCache.ConstBufferSlotMax + 1) s) {slot : Nat}
    (hslot : material._shaderReflectionCache.used slot = true) :
    s.material.ConstantBuffers slot = bufferOf InDevice material device slot := by
  rw [h.constant, if_pos ⟨Nat.lt_succ_of_le (hcount.le_slotMax slot hslot), hslot⟩]

theorem SlotsDone.buffersCreated (hdevice : InDevice.Documented made)
    (hcount : CountOk material._shaderReflectionCache)
    (h : SlotsDone InDevice material device
      (material._shaderReflectionCache.ConstBufferSlotMax + 1) s) :
    BuffersCreated material { s.material with _materialStage := .GPUBufferInitialized }
      (made device) (made s.device) where
  fresh := by
    intro slot hslot
    obtain ⟨b, hb, hnew⟩ := bufferOf_fresh material device hdevice slot
    rw [mem_made_iff hdevice, not_or] at hnew
    refine ⟨b, (h.constant_of_used hcount hslot).trans hb, hnew.1, ?_⟩
    rw [h.stored, mem_made_iff hdevice]
    exact .inr ⟨slot, Nat.lt_succ_of_le (hcount.le_slotMax slot hslot), hslot, hb⟩
  distinct := by
    intro slot slot' hslot hslot' heq
    have heq : s.material.ConstantBuffers slot = s.material.ConstantBuffers slot' := heq
    rw [h.constant_of_used hcount hslot, h.constant_of_used hcount hslot'] at heq
    exact bufferOf_inj hdevice hslot hslot' heq
  onto := by
    intro b hb hold
    rw [h.stored, mem_made_iff hdevice] at hb
    obtain ⟨slot, _, hslot, hbuffer⟩ := hb.resolve_left hold
    exact ⟨slot, hslot, (h.constant_of_used hcount hslot).trans hbuffer⟩
  others := by
    intro slot hslot
    show s.material.ConstantBuffers slot = _
    rw [h.constant, if_neg fun hused => by rw [hslot] at hused; cases hused.2]

end Done

end Instantiate

section Binding

/-- Each of the first `num` entries of a stage's table is the buffer of the slot in `info`. -/
def OwnSlots (material : SSMaterialBuffers) (num : Nat) (info : Nat → SSShaderCBReflectionElement)
    (table : Nat → Option Nat) : Prop :=
  ∀ i, i < num → ∃ slot : Nat, slot < CONSTANT_BUFFER_COUNT_MAX ∧ (info i).CBSlotIdx = slot ∧
    ∃ buffer, material.ConstantBuffers slot = some buffer ∧ table i = some buffer

/-- Every buffer that can be bound is the one of its own slot. -/
def BoundToOwnSlots (material : SSMaterialBuffers) : Prop :=
  OwnSlots material material._shaderReflectionCache.VSConstBufferNum
      material._shaderReflectionCache.VSCBReflectionInfo material.VSConstantBuffers ∧
    OwnSlots material material._shaderReflectionCache.PSConstBufferNum
      material._shaderReflectionCache.PSCBReflectionInfo material.PSConstantBuffers

variable {δ : Type} {InDevice : ID3D11Device δ} {made : δ → Set Nat}
  {material material' : SSMaterialBuffers} {device : δ}

/-- A stage's table has the right buffers exactly when its reflection is in order. -/
theorem ownSlots_iff (hdevice : InDevice.Documented made) {s : GPUBufferState δ}
    (hcount : CountOk material._shaderReflectionCache)
    (hs : SlotsDone InDevice material device
      (material._shaderReflectionCache.ConstBufferSlotMax + 1) s)
    {flag : SSShaderCBReflectionElement → Bool} {c : Nat} {table : Nat → Option Nat}
    (hpacked : Compact.Packed (usedBy flag material) (bufferOf InDevice material device)
      (material._shaderReflectionCache.ConstBufferSlotMax + 1) c table)
    {info : Nat → SSShaderCBReflectionElement} {buffers : List ReportedBuffer}
    (hinfo : ∀ i b, buffers[i]? = some b → (info i).CBSlotIdx = b.slot)
    (hflag : ∀ slot, flag (material._shaderReflectionCache.EntireCBReflectionInfo slot) = true ↔
      slot ∈ buffers.map ReportedBuffer.slot)
    (hused : ∀ slot, slot ∈ buffers.map ReportedBuffer.slot →
      material._shaderReflectionCache.used slot = true)
    (hnodup : (buffers.map ReportedBuffer.slot).Nodup) :
    OwnSlots { s.material with _materialStage := .GPUBufferInitialized } buffers.length info
      table ↔ (buffers.map ReportedBuffer.slot).Pairwise (· < ·) := by
  have husedBy : ∀ slot, usedBy flag material slot = true ↔
      slot ∈ buffers.map ReportedBuffer.slot := fun slot => by
    unfold usedBy
    rw [Bool.and_eq_true, hflag]
    exact ⟨And.right, fun hmem => ⟨hused slot hmem, hmem⟩⟩
  have hmem : ∀ slot, slot ∈ buffers.map ReportedBuffer.slot ↔
      slot < material._shaderReflectionCache.ConstBufferSlotMax + 1 ∧
        usedBy flag material slot = true := fun slot => by
    rw [husedBy]
    exact ⟨fun h => ⟨Nat.lt_succ_of_le (hcount.le_slotMax slot (hused slot h)), h⟩, And.right⟩
  rw [← hpacked.eq_iff hnodup hmem fun i j hi hj =>
    bufferOf_inj hdevice (hused i ((husedBy i).mp hi)) (hused j ((husedBy j).mp hj))]
  constructor
  · intro hown i slot hslot
    rw [List.getElem?_map] at hslot
    obtain ⟨b, hb, rfl⟩ := Option.map_eq_some_iff.mp hslot
    obtain ⟨slot, _, hidx, buffer, hbuffer, htable⟩ := hown i (List.getElem?_eq_some_iff.mp hb).1
    have heq : slot = b.slot := by
      rw [hinfo i b hb] at hidx
      exact (Nat.cast_inj.mp hidx).symm
    subst heq
    have hslot := hused b.slot (List.mem_map_of_mem (List.mem_of_getElem? hb))
    rw [htable, ← hbuffer]
    exact hs.constant_of_used hcount hslot
  · intro heq i hi
    have hb := List.getElem?_eq_getElem hi
    have hslot := hused buffers[i].slot (List.mem_map_of_mem (List.getElem_mem hi))
    obtain ⟨buffer, hbuffer, _⟩ :=
      bufferOf_fresh material device hdevice buffers[i].slot
    refine ⟨buffers[i].slot, hcount.lt_max _ hslot, hinfo i _ hb, buffer,
      (hs.constant_of_used hcount hslot).trans hbuffer, (heq i _ ?_).trans hbuffer⟩
    rw [List.getElem?_map, hb]
    rfl

/-- The binder pairs every packed buffer with its own slot exactly when both stages report their
buffers in increasing order of the slots. -/
theorem bound_to_own_slots_iff (hdevice : InDevice.Documented made)
    {vsBuffers psBuffers : List ReportedBuffer}
    {refl : SSShaderReflectionForMaterial}
    (hvs : (vsBuffers.map ReportedBuffer.slot).Nodup)
    (hps : (psBuffers.map ReportedBuffer.slot).Nodup)
    (hcompile : compileShader vsBuffers psBuffers = some refl) (material : SSMaterialBuffers)
    (hcache : material._shaderReflectionCache = refl) (device : δ) :
    ∃ material' device',
      material.instantiateGPUBuffer InDevice device = some (material', device') ∧
      BuffersCreated material material' (made device) (made device') ∧
      (BoundToOwnSlots material' ↔ (vsBuffers.map ReportedBuffer.slot).Pairwise (· < ·) ∧
        (psBuffers.map ReportedBuffer.slot).Pairwise (· < ·)) := by
  obtain ⟨⟨hvsNum, hpsNum⟩, hrefl⟩ := compileShader_reflected_of_nodup hvs hps hcompile
  rw [← hcache] at hvsNum hpsNum hrefl
  obtain ⟨s, hrun, hs⟩ := instantiateGPUBuffer_done InDevice material device hrefl.count
  refine ⟨_, _, hrun, hs.buffersCreated hdevice hrefl.count, ?_⟩
  unfold BoundToOwnSlots
  rw [hs.cache, hvsNum, hpsNum]
  refine and_congr
    (ownSlots_iff hdevice hrefl.count hs hs.vs hrefl.vsInfo hrefl.vsFlag (fun slot h => ?_) hvs)
    (ownSlots_iff hdevice hrefl.count hs hs.ps hrefl.psInfo hrefl.psFlag (fun slot h => ?_) hps)
  · exact (hrefl.used slot).mpr (Or.inl h)
  · exact (hrefl.used slot).mpr (Or.inr h)

/-- Two stages that share a buffer. -/
theorem bound_to_own_slots_iff_pbr :
    ∃ refl material' device',
      compileShader [⟨"ModelBuffer", 128, 0⟩, ⟨"GlobalRenderParam", 112, 1⟩]
        [⟨"GlobalRenderParam", 112, 1⟩, ⟨"MaterialParam", 48, 2⟩] = some refl ∧
      (new refl).instantiateGPUBuffer .numbering 0 = some (material', device') ∧
      BoundToOwnSlots material' := by
  have hcompile : compileShader [⟨"ModelBuffer", 128, 0⟩, ⟨"GlobalRenderParam", 112, 1⟩]
      [⟨"GlobalRenderParam", 112, 1⟩, ⟨"MaterialParam", 48, 2⟩] = some _ := rfl
  obtain ⟨material', device', hrun, _, hiff⟩ :=
    bound_to_own_slots_iff ID3D11Device.numbering_documented (by decide) (by decide) hcompile
      (new _) rfl 0
  exact ⟨_, material', device', hcompile, hrun, hiff.mpr ⟨by decide, by decide⟩⟩

/-- A vertex stage that declares the buffer of slot 1 before that of slot 0. -/
theorem not_bound_to_own_slots :
    ∃ refl material' device',
      compileShader [⟨"GlobalRenderParam", 112, 1⟩, ⟨"ModelBuffer", 128, 0⟩] [] = some refl ∧
      (new refl).instantiateGPUBuffer .numbering 0 = some (material', device') ∧
      ¬ BoundToOwnSlots material' := by
  refine ⟨_, _, _, rfl, rfl, fun h => ?_⟩
  obtain ⟨slot, _, hidx, buffer, hbuffer, htable⟩ := h.1 0 (by decide)
  -- the first entry is for slot 1 and holds the first buffer, that of slot 0
  have hslot : slot = 1 := (Nat.cast_inj.mp hidx).symm
  rw [hslot] at hbuffer
  have hsecond : some 1 = some buffer := hbuffer
  have hfirst : some 0 = some buffer := htable
  cases hsecond
  cases hfirst

/-- The bound slot and the bound buffer belong together. -/
def BoundOwn (material : SSMaterialBuffers) (binding : Nat × Option Nat) : Prop :=
  ∃ buffer, material.ConstantBuffers binding.1 = some buffer ∧ binding.2 = some buffer

theorem OwnSlots.boundOwn {num cnt : Nat} {info : Nat → SSShaderCBReflectionElement}
    {table : Nat → Option Nat} (h : OwnSlots material num info table) (hcnt : cnt ≤ num) :
    ∀ binding ∈ (List.range cnt).map fun i => (toUint8 (info i).CBSlotIdx, table i),
      BoundOwn material binding := by
  intro binding hbinding
  obtain ⟨i, hi, rfl⟩ := List.mem_map.mp hbinding
  obtain ⟨slot, hlt, hidx, buffer, hbuffer, htable⟩ :=
    h i (Nat.lt_of_lt_of_le (List.mem_range.mp hi) hcnt)
  have hslot : toUint8 (info i).CBSlotIdx = slot := by
    rw [hidx, toUint8]
    unfold CONSTANT_BUFFER_COUNT_MAX at hlt
    omega
  exact ⟨buffer, hslot ▸ hbuffer, htable⟩

/-- `BindMaterial` then binds to a slot the buffer of this slot. The last two entries of the skinned
shader's vertex stage are not bound here. -/
theorem BoundToOwnSlots.bindMaterial {shaderName : String} (h : BoundToOwnSlots material)
    (hskinned : shaderName = SSShaderAssetManager.SSDefaultPbrSkinnedShaderName →
      2 ≤ material._shaderReflectionCache.VSConstBufferNum) :
    (∀ binding ∈ (bindMaterial shaderName material).1, BoundOwn material binding) ∧
      ∀ binding ∈ (bindMaterial shaderName material).2, BoundOwn material binding := by
  unfold SSMaterialBuffers.bindMaterial
  dsimp only
  split
  · exact ⟨fun _ hb => (nomatch hb), fun _ hb => (nomatch hb)⟩
  · refine ⟨h.1.boundOwn ?_, h.2.boundOwn (Nat.le_refl _)⟩
    split
    · rename_i hname
      have htwo := hskinned hname
      unfold toUint8
      omega
    · exact Nat.le_refl _

end Binding

section Loops

variable {δ : Type} {InDevice : ID3D11Device δ} {made : δ → Set Nat} {material : SSMaterialBuffers}
  {device : δ}

/-- The material after the slots below `n` are released. -/
theorem releaseSlots_eq (material : SSMaterialBuffers) (n : Nat) :
    (∀ slot, ((List.range n).foldl releaseSlot (material, [])).1.ConstantBuffers slot =
        if slot < n then none else material.ConstantBuffers slot) ∧
      ∀ buffer, buffer ∈ ((List.range n).foldl releaseSlot (material, [])).2 ↔
        ∃ slot, slot < n ∧ material.ConstantBuffers slot = some buffer := by
  induction n with
  | zero =>
    refine ⟨fun slot => (if_neg (Nat.not_lt_zero slot)).symm, fun buffer => ?_⟩
    exact ⟨fun h => (nomatch h), fun ⟨slot, hslot, _⟩ => absurd hslot (Nat.not_lt_zero slot)⟩
  | succ n ih =>
    obtain ⟨hslots, hreleased⟩ := ih
    rw [List.range_succ, List.foldl_append]
    refine ⟨fun slot => ?_, fun buffer => ?_⟩
    · refine (Function.update_apply ..).trans ?_
      rw [hslots]
      split
      · rename_i heq
        rw [heq, if_pos (Nat.lt_succ_self n)]
      · rename_i hne
        exact if_congr (by omega) rfl rfl
    · refine List.mem_append.trans ?_
      rw [hreleased, hslots, if_neg (Nat.lt_irrefl n), Option.mem_toList]
      constructor
      · rintro (⟨slot, hslot, hbuffer⟩ | hbuffer)
        · exact ⟨slot, hslot.trans (Nat.lt_succ_self n), hbuffer⟩
        · exact ⟨n, Nat.lt_succ_self n, hbuffer⟩
      · rintro ⟨slot, hslot, hbuffer⟩
        rcases Nat.lt_succ_iff_lt_or_eq.mp hslot with hlt | rfl
        · exact Or.inl ⟨slot, hlt, hbuffer⟩
        · exact Or.inr hbuffer

/-- The material after `malloc` for the slots of `slots`. -/
theorem instantiateSystemSlots_eq (slots : List Nat) (material : SSMaterialBuffers) (slot : Nat) :
    (slots.foldl instantiateSystemSlot material).SystemBufferData slot =
      if slot ∈ slots then
        some (List.replicate (material._shaderReflectionCache.EntireCBReflectionInfo slot).CBSize 0)
      else material.SystemBufferData slot := by
  induction slots generalizing material with
  | nil => rfl
  | cons s slots ih =>
    refine (ih _).trans ?_
    by_cases hmem : slot ∈ slots
    · rw [if_pos hmem, if_pos (List.mem_cons_of_mem s hmem)]
      rfl
    · rw [if_neg hmem]
      refine (Function.update_apply ..).trans ?_
      by_cases hs : slot = s
      · rw [if_pos hs, if_pos (List.mem_cons.mpr (Or.inl hs)), hs]
      · rw [if_neg hs, if_neg (List.not_mem_cons_of_ne_of_not_mem hs hmem)]

theorem releaseGPUBuffer_eq (material : SSMaterialBuffers) :
    (∀ slot, material.releaseGPUBuffer.1.ConstantBuffers slot =
        if slot < material._shaderReflectionCache.EntireConstBufferNum then none
        else material.ConstantBuffers slot) ∧
      ∀ buffer, buffer ∈ material.releaseGPUBuffer.2 ↔
        ∃ slot, slot < material._shaderReflectionCache.EntireConstBufferNum ∧
          material.ConstantBuffers slot = some buffer :=
  releaseSlots_eq material _

theorem mem_paramSlots {slot : Nat} : slot ∈ material.paramSlots ↔
    MATERIAL_PARAM_START_IDX ≤ slot ∧
      slot < material._shaderReflectionCache.EntireConstBufferNum := by
  unfold paramSlots
  rw [List.mem_range'_1]
  omega

theorem instantiateSystemBuffer_data (slot : Nat) :
    material.instantiateSystemBuffer.SystemBufferData slot =
      if MATERIAL_PARAM_START_IDX ≤ slot ∧
          slot < material._shaderReflectionCache.EntireConstBufferNum then
        some (List.replicate (material._shaderReflectionCache.EntireCBReflectionInfo slot).CBSize 0)
      else material.SystemBufferData slot := by
  refine (instantiateSystemSlots_eq _ _ _).trans ?_
  exact if_congr mem_paramSlots rfl rfl

theorem mem_syncAllGPUBuffer {slot : Nat} {data : List UInt8}
    (hdata : material.SystemBufferData slot = some data)
    (hslot : slot ∈ material.paramSlots) :
    ⟨slot, material.ConstantBuffers slot, data⟩ ∈ material.syncAllGPUBuffer :=
  List.mem_filterMap.mpr ⟨slot, hslot, by rw [hdata]; rfl⟩

/-- The loops over the slots cover the same ones, those that are used. -/
structure LoopsAgree (InDevice : ID3D11Device δ) (made : δ → Set Nat) (material : SSMaterialBuffers)
    (device : δ) : Prop where
  created : ∃ material' device',
    material.instantiateGPUBuffer InDevice device = some (material', device') ∧
      BuffersCreated material material' (made device) (made device')
  synced : ∀ slot data, MATERIAL_PARAM_START_IDX ≤ slot →
    material._shaderReflectionCache.used slot = true →
      material.SystemBufferData slot = some data →
        ⟨slot, material.ConstantBuffers slot, data⟩ ∈ material.syncAllGPUBuffer
  system : ∀ slot, MATERIAL_PARAM_START_IDX ≤ slot →
    material._shaderReflectionCache.used slot = true →
      material.instantiateSystemBuffer.SystemBufferData slot = some
        (List.replicate (material._shaderReflectionCache.EntireCBReflectionInfo slot).CBSize 0)
  released : ∀ material' device',
    material.instantiateGPUBuffer InDevice device = some (material', device') →
      (∀ buffer ∈ made device', buffer ∉ made device → buffer ∈ material'.releaseGPUBuffer.2) ∧
      ∀ slot, material._shaderReflectionCache.used slot = true →
        material'.releaseGPUBuffer.1.ConstantBuffers slot = none

/-- The used slots are below their number exactly when they have no gap. -/
theorem lt_num_iff {refl : SSShaderReflectionForMaterial} (hcount : CountOk refl) :
    (∀ slot, refl.used slot = true → slot < refl.EntireConstBufferNum) ↔
      ∀ slot, refl.used slot = true → ∀ t, t < slot → refl.used t = true := by
  have hiff := Compact.lt_picked_length_iff refl.used CONSTANT_BUFFER_COUNT_MAX
  rw [← hcount.num] at hiff
  constructor
  · intro h slot hslot
    exact hiff.mp (fun s _ hs => h s hs) slot (hcount.lt_max slot hslot) hslot
  · intro h slot hslot
    exact hiff.mpr (fun s _ hs => h s hs) slot (hcount.lt_max slot hslot) hslot

/-- The loops agree exactly when the used slots have no gap. -/
theorem loops_agree_iff (hdevice : InDevice.Documented made)
    {vsBuffers psBuffers : List ReportedBuffer}
    {refl : SSShaderReflectionForMaterial}
    (hcompile : compileShader vsBuffers psBuffers = some refl) (material : SSMaterialBuffers)
    (hcache : material._shaderReflectionCache = refl) (device : δ) :
    LoopsAgree InDevice made material device ↔
      ∀ slot, refl.used slot = true → ∀ t, t < slot → refl.used t = true := by
  obtain ⟨_, hrefl⟩ := compileShader_reflected hcompile
  have hcount : CountOk material._shaderReflectionCache := hcache ▸ hrefl.count
  obtain ⟨s, hrun, hs⟩ := instantiateGPUBuffer_done InDevice material device hcount
  have hcreated := hs.buffersCreated hdevice hcount
  obtain ⟨hentry, hmem⟩ :=
    releaseGPUBuffer_eq { s.material with _materialStage := .GPUBufferInitialized }
  rw [hs.cache] at hentry hmem
  rw [← hcache, ← lt_num_iff hcount]
  constructor
  · -- an entry that was filled is null only if the release has come to its slot
    intro h slot hslot
    obtain ⟨_, hnull⟩ := h.released _ _ hrun
    obtain ⟨buffer, hbuffer, _⟩ := hcreated.fresh slot hslot
    have hcleared := hnull slot hslot
    rw [hentry] at hcleared
    by_contra hge
    rw [if_neg hge, hbuffer] at hcleared
    cases hcleared
  · intro hlt
    refine ⟨⟨_, _, hrun, hcreated⟩, fun slot data hstart hslot hdata => ?_,
      fun slot hstart hslot => ?_, fun material' device' hrun' => ?_⟩
    · exact mem_syncAllGPUBuffer hdata (mem_paramSlots.mpr ⟨hstart, hlt slot hslot⟩)
    · rw [instantiateSystemBuffer_data, if_pos ⟨hstart, hlt slot hslot⟩]
    · rw [hrun] at hrun'
      cases hrun'
      refine ⟨fun buffer hmade hnew => ?_, fun slot hslot => ?_⟩
      · obtain ⟨slot, hslot, hbuffer⟩ := hcreated.onto buffer hmade hnew
        exact (hmem buffer).mpr ⟨slot, hlt slot hslot, hbuffer⟩
      · rw [hentry, if_pos (hlt slot hslot)]

/-- The slots of the default shader have no gap. -/
theorem loops_agree_iff_pbr :
    ∃ refl, compileShader [⟨"ModelBuffer", 128, 0⟩, ⟨"GlobalRenderParam", 112, 1⟩]
        [⟨"GlobalRenderParam", 112, 1⟩, ⟨"MaterialParam", 48, 2⟩] = some refl ∧
      LoopsAgree .numbering (fun bufferCnt => {buffer | buffer < bufferCnt}) (new refl) 0 := by
  have hcompile : compileShader [⟨"ModelBuffer", 128, 0⟩, ⟨"GlobalRenderParam", 112, 1⟩]
      [⟨"GlobalRenderParam", 112, 1⟩, ⟨"MaterialParam", 48, 2⟩] = some _ := rfl
  obtain ⟨_, hrefl⟩ := compileShader_reflected_of_nodup (by decide) (by decide) hcompile
  have hslots : ∀ s : Nat, s ∈ [0, 1] ∨ s ∈ [1, 2] ↔ s < 3 := fun s => by
    simp only [List.mem_cons, List.not_mem_nil, or_false]
    omega
  refine ⟨_, hcompile, (loops_agree_iff ID3D11Device.numbering_documented hcompile (new _) rfl
    0).mpr fun slot hslot t ht => ?_⟩
  have hlt := (hslots slot).mp ((hrefl.used slot).mp hslot)
  exact (hrefl.used t).mpr ((hslots t).mpr (ht.trans hlt))

/-- Slots 0 and 2: the buffer of slot 2 is created, and not released. -/
theorem not_loops_agree :
    ∃ refl, compileShader [⟨"ModelBuffer", 128, 0⟩] [⟨"MaterialParam", 48, 2⟩] = some refl ∧
      ¬ LoopsAgree .numbering (fun bufferCnt => {buffer | buffer < bufferCnt}) (new refl) 0 := by
  refine ⟨_, rfl, fun h => ?_⟩
  obtain ⟨_, hnull⟩ := h.released _ _ rfl
  have hcleared : some 1 = none := hnull 2 rfl
  cases hcleared

end Loops

end SSMaterialBuffers

end FBXRenderer
