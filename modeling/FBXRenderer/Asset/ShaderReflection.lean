import FBXRenderer.Lib.Compact
import FBXRenderer.NativeKeywords

/-!
# FBXRenderer.Asset.ShaderReflection

`SSShaderReflectionForMaterial` and the constant buffer part of `SSShaderAsset::CompileShader`
(`SSShaderAsset.cpp`). The tables of the two stages are filled in the order in which the buffers are
reported, the merged table by slot. An operation returns `none` where the source fails an assertion
or leaves a table.

* `compileShader_reflected`: what the tables say about the reported buffers.
-/

namespace FBXRenderer

def CONSTANT_BUFFER_COUNT_MAX : Nat := 14

def INVALID_SLOT_IDX : Int := -1

def INVALID_BUFFER_SIZE : Nat := 0

def CONSTANT_BUFFER_NAME_LEN_MAX : Nat := 59

structure SSShaderCBReflectionElement where
  CBSize : Nat := INVALID_BUFFER_SIZE
  CBSlotIdx : Int := INVALID_SLOT_IDX
  bCBUsedByVSShader : Bool := false
  bCBUsedByPSShader : Bool := false
  CBName : String := ""
deriving DecidableEq

structure SSShaderReflectionForMaterial where
  VSCBReflectionInfo : Nat → SSShaderCBReflectionElement := fun _ => {}
  VSConstBufferNum : Nat := 0
  PSCBReflectionInfo : Nat → SSShaderCBReflectionElement := fun _ => {}
  PSConstBufferNum : Nat := 0
  EntireCBReflectionInfo : Nat → SSShaderCBReflectionElement := fun _ => {}
  EntireConstBufferNum : Nat := 0
  ConstBufferSlotMax : Nat := 0

/-- A constant buffer of a stage as its reflection reports it: `GetDesc`, and the bind point that
is found under its name. -/
structure ReportedBuffer where
  Name : String
  Size : Nat
  BindPoint : Nat

/-- The slot as it is stored. -/
def ReportedBuffer.slot (bufferDesc : ReportedBuffer) : Nat :=
  (toInt8 bufferDesc.BindPoint).toNat

theorem ReportedBuffer.slot_lt (bufferDesc : ReportedBuffer) : bufferDesc.slot < 2 ^ 7 := by
  unfold ReportedBuffer.slot toInt8
  omega

namespace SSShaderReflectionForMaterial

/-- The slot is used by one of the stages. -/
def used (refl : SSShaderReflectionForMaterial) (slot : Nat) : Bool :=
  (refl.EntireCBReflectionInfo slot).CBSize != INVALID_BUFFER_SIZE

/-- The first buffer with this slot. -/
def putNew (refl : SSShaderReflectionForMaterial) (SlotIdx : Nat)
    (info : SSShaderCBReflectionElement) : SSShaderReflectionForMaterial :=
  { refl with
    EntireCBReflectionInfo := Function.update refl.EntireCBReflectionInfo SlotIdx info
    ConstBufferSlotMax :=
      if refl.ConstBufferSlotMax < SlotIdx then SlotIdx else refl.ConstBufferSlotMax
    EntireConstBufferNum := toUint8 (refl.EntireConstBufferNum + 1 : Nat) }

/-- A buffer with a slot that is in the table. -/
def putAgain (refl : SSShaderReflectionForMaterial) (SlotIdx : Nat)
    (again : SSShaderCBReflectionElement → SSShaderCBReflectionElement) :
    SSShaderReflectionForMaterial :=
  { refl with
    EntireCBReflectionInfo := Function.update refl.EntireCBReflectionInfo SlotIdx
      (again (refl.EntireCBReflectionInfo SlotIdx)) }

/-- The merged table's part of one turn of the two loops. -/
def enterBuffer (info : SSShaderCBReflectionElement)
    (again : SSShaderCBReflectionElement → SSShaderCBReflectionElement)
    (refl : SSShaderReflectionForMaterial) : Option SSShaderReflectionForMaterial :=
  if info.CBSize = 0 then none
  else if info.CBSlotIdx < 0 ∨ (CONSTANT_BUFFER_COUNT_MAX : Int) ≤ info.CBSlotIdx then none
  else
    let SlotIdx := info.CBSlotIdx.toNat
    if refl.used SlotIdx then some (refl.putAgain SlotIdx again)
    else some (refl.putNew SlotIdx info)

/-- One turn of the loop over the vertex stage. A slot that is in the table is left as it is. -/
def reflectVSBuffer (i : Nat) (bufferDesc : ReportedBuffer)
    (refl : SSShaderReflectionForMaterial) : Option SSShaderReflectionForMaterial :=
  if i < CONSTANT_BUFFER_COUNT_MAX ∧ bufferDesc.Name.utf8ByteSize < CONSTANT_BUFFER_NAME_LEN_MAX then
    let info := { refl.VSCBReflectionInfo i with
                  CBSize := toUint16 bufferDesc.Size
                  CBSlotIdx := toInt8 bufferDesc.BindPoint
                  bCBUsedByVSShader := true
                  CBName := bufferDesc.Name }
    enterBuffer info id
      { refl with VSCBReflectionInfo := Function.update refl.VSCBReflectionInfo i info }
  else none

/-- One turn of the loop over the pixel stage. A slot that is in the table gets its flag. -/
def reflectPSBuffer (i : Nat) (bufferDesc : ReportedBuffer)
    (refl : SSShaderReflectionForMaterial) : Option SSShaderReflectionForMaterial :=
  if i < CONSTANT_BUFFER_COUNT_MAX ∧ bufferDesc.Name.utf8ByteSize < CONSTANT_BUFFER_NAME_LEN_MAX then
    let info := { refl.PSCBReflectionInfo i with
                  CBSize := toUint16 bufferDesc.Size
                  CBSlotIdx := toInt8 bufferDesc.BindPoint
                  bCBUsedByPSShader := true
                  CBName := bufferDesc.Name }
    enterBuffer info (fun entry => { entry with bCBUsedByPSShader := true })
      { refl with PSCBReflectionInfo := Function.update refl.PSCBReflectionInfo i info }
  else none

/-- A stage's loop from index `i` on. -/
def reflectBuffers (reflect : Nat → ReportedBuffer → SSShaderReflectionForMaterial →
      Option SSShaderReflectionForMaterial) :
    List ReportedBuffer → Nat → SSShaderReflectionForMaterial →
      Option SSShaderReflectionForMaterial
  | [], _, refl => some refl
  | bufferDesc :: rest, i, refl => do
    let refl ← reflect i bufferDesc refl
    reflectBuffers reflect rest (i + 1) refl

/-- The constant buffer reflection of `CompileShader`, on a new shader asset. -/
def compileShader (vsBuffers psBuffers : List ReportedBuffer) :
    Option SSShaderReflectionForMaterial := do
  let VSConstBufferNum := toUint8 vsBuffers.length
  let refl ← reflectBuffers reflectVSBuffer (vsBuffers.take VSConstBufferNum) 0
    { VSConstBufferNum := VSConstBufferNum }
  let PSConstBufferNum := toUint8 psBuffers.length
  reflectBuffers reflectPSBuffer (psBuffers.take PSConstBufferNum) 0
    { refl with PSConstBufferNum := PSConstBufferNum }

section Count

/-- The counters of the merged table. -/
structure CountOk (refl : SSShaderReflectionForMaterial) : Prop where
  num : refl.EntireConstBufferNum = (Compact.picked refl.used CONSTANT_BUFFER_COUNT_MAX).length
  lt_max : ∀ s, refl.used s = true → s < CONSTANT_BUFFER_COUNT_MAX
  le_slotMax : ∀ s, refl.used s = true → s ≤ refl.ConstBufferSlotMax
  slotMax_lt : refl.ConstBufferSlotMax < CONSTANT_BUFFER_COUNT_MAX

variable {refl refl' : SSShaderReflectionForMaterial} {info : SSShaderCBReflectionElement}
  {again : SSShaderCBReflectionElement → SSShaderCBReflectionElement}

theorem putNew_entry (refl : SSShaderReflectionForMaterial) (slot : Nat)
    (info : SSShaderCBReflectionElement) (s : Nat) :
    (refl.putNew slot info).EntireCBReflectionInfo s =
      if s = slot then info else refl.EntireCBReflectionInfo s := Function.update_apply ..

theorem putAgain_entry (refl : SSShaderReflectionForMaterial) (slot : Nat)
    (again : SSShaderCBReflectionElement → SSShaderCBReflectionElement) (s : Nat) :
    (refl.putAgain slot again).EntireCBReflectionInfo s =
      if s = slot then again (refl.EntireCBReflectionInfo slot)
      else refl.EntireCBReflectionInfo s := Function.update_apply ..

theorem used_putNew (refl : SSShaderReflectionForMaterial) (slot : Nat) (hsize : info.CBSize ≠ 0)
    (s : Nat) : (refl.putNew slot info).used s = if s = slot then true else refl.used s := by
  unfold used
  rw [putNew_entry]
  split
  · exact bne_iff_ne.mpr hsize
  · rfl

theorem used_putAgain (refl : SSShaderReflectionForMaterial) (slot : Nat)
    (hagain : ∀ e, (again e).CBSize = e.CBSize) (s : Nat) :
    (refl.putAgain slot again).used s = refl.used s := by
  unfold used
  rw [putAgain_entry]
  split
  · rename_i hs
    rw [hs, hagain]
  · rfl

theorem CountOk.putNew (h : CountOk refl) {slot : Nat} (hlt : slot < CONSTANT_BUFFER_COUNT_MAX)
    (hnew : refl.used slot = false) (hsize : info.CBSize ≠ 0) :
    CountOk (refl.putNew slot info) := by
  have hused := used_putNew refl slot hsize
  have hcount : (Compact.picked (refl.putNew slot info).used CONSTANT_BUFFER_COUNT_MAX).length =
      (Compact.picked refl.used CONSTANT_BUFFER_COUNT_MAX).length + 1 :=
    Compact.picked_length_insert hnew (by rw [hused, if_pos rfl])
      (fun i hi => by rw [hused, if_neg hi]) hlt
  have hle : (Compact.picked (refl.putNew slot info).used CONSTANT_BUFFER_COUNT_MAX).length ≤ 14 :=
    Compact.picked_length_le
  refine ⟨?_, fun s hs => ?_, fun s hs => ?_, ?_⟩
  · show toUint8 (refl.EntireConstBufferNum + 1 : Nat) = _
    rw [hcount, ← h.num] at hle ⊢
    unfold toUint8
    omega
  · rw [hused] at hs
    split at hs
    · rename_i heq
      rw [heq]
      exact hlt
    · exact h.lt_max s hs
  · show s ≤ if refl.ConstBufferSlotMax < slot then slot else refl.ConstBufferSlotMax
    rw [hused] at hs
    split at hs
    · split <;> omega
    · have hle := h.le_slotMax s hs
      split <;> omega
  · show (if refl.ConstBufferSlotMax < slot then slot else refl.ConstBufferSlotMax) < _
    split
    · exact hlt
    · exact h.slotMax_lt

theorem CountOk.putAgain (h : CountOk refl) (slot : Nat)
    (hagain : ∀ e, (again e).CBSize = e.CBSize) : CountOk (refl.putAgain slot again) := by
  have hused : (refl.putAgain slot again).used = refl.used :=
    funext (used_putAgain refl slot hagain)
  refine ⟨?_, ?_, ?_, h.slotMax_lt⟩
  · rw [hused]
    exact h.num
  · rw [hused]
    exact h.lt_max
  · rw [hused]
    exact h.le_slotMax

/-- The counters are those of the merged table alone. -/
theorem CountOk.of_merged (h : CountOk refl)
    (hinfo : refl'.EntireCBReflectionInfo = refl.EntireCBReflectionInfo)
    (hnum : refl'.EntireConstBufferNum = refl.EntireConstBufferNum)
    (hmax : refl'.ConstBufferSlotMax = refl.ConstBufferSlotMax) : CountOk refl' := by
  have hused : refl'.used = refl.used := by
    unfold SSShaderReflectionForMaterial.used
    rw [hinfo]
  refine ⟨?_, ?_, ?_, ?_⟩
  · rw [hnum, hused, h.num]
  · rw [hused]
    exact h.lt_max
  · rw [hused, hmax]
    exact h.le_slotMax
  · rw [hmax]
    exact h.slotMax_lt

theorem enterBuffer_cases (h : enterBuffer info again refl = some refl') :
    ∃ slot : Nat, info.CBSlotIdx = slot ∧ slot < CONSTANT_BUFFER_COUNT_MAX ∧ info.CBSize ≠ 0 ∧
      (refl.used slot = true ∧ refl' = refl.putAgain slot again ∨
        refl.used slot = false ∧ refl' = refl.putNew slot info) := by
  unfold enterBuffer at h
  split at h
  · cases h
  · rename_i hsize
    split at h
    · cases h
    · rename_i hrange
      refine ⟨info.CBSlotIdx.toNat, by omega, by omega, hsize, ?_⟩
      dsimp only at h
      split at h
      · rename_i hused
        cases h
        exact Or.inl ⟨hused, rfl⟩
      · rename_i hused
        cases h
        exact Or.inr ⟨Bool.not_eq_true _ ▸ hused, rfl⟩

/-- What entering a buffer does: the entry of its slot is that of the first buffer with this slot,
changed by `again` if there was one. -/
structure Entered (info : SSShaderCBReflectionElement)
    (again : SSShaderCBReflectionElement → SSShaderCBReflectionElement)
    (refl refl' : SSShaderReflectionForMaterial) (slot : Nat)
    (entry : SSShaderCBReflectionElement) : Prop where
  slot_eq : info.CBSlotIdx = slot
  source : refl.used slot = true ∧ entry = again (refl.EntireCBReflectionInfo slot) ∨
    refl.used slot = false ∧ entry = info
  entries : ∀ s, refl'.EntireCBReflectionInfo s =
    if s = slot then entry else refl.EntireCBReflectionInfo s
  used_iff : ∀ s, refl'.used s = true ↔ s = slot ∨ refl.used s = true
  vsTable : refl'.VSCBReflectionInfo = refl.VSCBReflectionInfo
  psTable : refl'.PSCBReflectionInfo = refl.PSCBReflectionInfo
  nums : refl'.VSConstBufferNum = refl.VSConstBufferNum ∧
    refl'.PSConstBufferNum = refl.PSConstBufferNum
  count : CountOk refl → CountOk refl'

theorem enterBuffer_entered (h : enterBuffer info again refl = some refl')
    (hagain : ∀ e, (again e).CBSize = e.CBSize) :
    ∃ slot entry, Entered info again refl refl' slot entry := by
  obtain ⟨slot, hslot, hlt, hsize, ⟨hused, rfl⟩ | ⟨hused, rfl⟩⟩ := enterBuffer_cases h
  · refine ⟨slot, _, hslot, Or.inl ⟨hused, rfl⟩, putAgain_entry refl slot again, fun s => ?_, rfl,
      rfl, ⟨rfl, rfl⟩, fun hc => hc.putAgain slot hagain⟩
    rw [used_putAgain refl slot hagain]
    constructor
    · exact Or.inr
    · rintro (rfl | hs)
      · exact hused
      · exact hs
  · refine ⟨slot, _, hslot, Or.inr ⟨hused, rfl⟩, putNew_entry refl slot info, fun s => ?_, rfl,
      rfl, ⟨rfl, rfl⟩, fun hc => hc.putNew hlt hused hsize⟩
    rw [used_putNew refl slot hsize]
    split
    · rename_i hs
      exact ⟨fun _ => Or.inl hs, fun _ => rfl⟩
    · rename_i hs
      exact ⟨Or.inr, fun hor => hor.resolve_left hs⟩

theorem countOk_new (num : Nat) : CountOk { VSConstBufferNum := num } where
  num := rfl
  lt_max := fun _ hs => nomatch hs
  le_slotMax := fun _ hs => nomatch hs
  slotMax_lt := Nat.succ_pos _

end Count

section Reflected

/-- What the tables say once the buffers `vs` and `ps` are entered. -/
structure Reflected (vs ps : List ReportedBuffer) (refl : SSShaderReflectionForMaterial) :
    Prop where
  count : CountOk refl
  used : ∀ s, refl.used s = true ↔ s ∈ vs.map ReportedBuffer.slot ∨ s ∈ ps.map ReportedBuffer.slot
  vsFlag : ∀ s, (refl.EntireCBReflectionInfo s).bCBUsedByVSShader = true ↔
    s ∈ vs.map ReportedBuffer.slot
  psFlag : ∀ s, (refl.EntireCBReflectionInfo s).bCBUsedByPSShader = true ↔
    s ∈ ps.map ReportedBuffer.slot
  vsInfo : ∀ i b, vs[i]? = some b → (refl.VSCBReflectionInfo i).CBSlotIdx = b.slot
  psInfo : ∀ i b, ps[i]? = some b → (refl.PSCBReflectionInfo i).CBSlotIdx = b.slot
  vsClean : ∀ i, (refl.VSCBReflectionInfo i).bCBUsedByPSShader = false
  psClean : ∀ i, (refl.PSCBReflectionInfo i).bCBUsedByVSShader = false

variable {refl refl' : SSShaderReflectionForMaterial} {vs ps : List ReportedBuffer}

theorem slot_concat {bufferDesc : ReportedBuffer} {slot : Nat}
    (h : toInt8 bufferDesc.BindPoint = slot) (done : List ReportedBuffer) :
    bufferDesc.slot = slot ∧ ∀ s, s ∈ (done ++ [bufferDesc]).map ReportedBuffer.slot ↔
      s ∈ done.map ReportedBuffer.slot ∨ s = slot := by
  have hslot : bufferDesc.slot = slot := by
    unfold ReportedBuffer.slot
    omega
  refine ⟨hslot, fun s => ?_⟩
  rw [List.map_append, List.mem_append, List.map_singleton, List.mem_singleton, hslot]

/-- One more entry of a stage's own table. -/
theorem info_concat {table : Nat → SSShaderCBReflectionElement} {done : List ReportedBuffer}
    {bufferDesc : ReportedBuffer} {info : SSShaderCBReflectionElement}
    (h : ∀ i b, done[i]? = some b → (table i).CBSlotIdx = b.slot)
    (hinfo : info.CBSlotIdx = bufferDesc.slot) :
    ∀ (i : Nat) (b : ReportedBuffer), (done ++ [bufferDesc])[i]? = some b →
      (Function.update table done.length info i).CBSlotIdx = b.slot := by
  intro i b hb
  rcases Nat.lt_trichotomy i done.length with hlt | rfl | hgt
  · rw [List.getElem?_append_left hlt] at hb
    rw [Function.update_of_ne hlt.ne]
    exact h i b hb
  · rw [List.getElem?_concat_length] at hb
    cases hb
    rw [Function.update_self, hinfo]
  · rw [List.getElem?_eq_none (by rw [List.length_append]; exact hgt)] at hb
    cases hb

/-- A stage's own table never gets the flag of the other stage. -/
theorem clean_update {table : Nat → SSShaderCBReflectionElement}
    {flag : SSShaderCBReflectionElement → Bool} (h : ∀ i, flag (table i) = false) {n : Nat}
    {info : SSShaderCBReflectionElement} (hinfo : flag info = false) (i : Nat) :
    flag (Function.update table n info i) = false := by
  rw [Function.update_apply]
  split
  · exact hinfo
  · exact h i

/-- One turn of the loop over the vertex stage. -/
theorem reflectVSBuffer_some {bufferDesc : ReportedBuffer}
    (h : Reflected vs [] refl) (hstep : reflectVSBuffer vs.length bufferDesc refl = some refl') :
    Reflected (vs ++ [bufferDesc]) [] refl' := by
  unfold reflectVSBuffer at hstep
  split at hstep
  · obtain ⟨slot, entry, he⟩ := enterBuffer_entered hstep fun _ => rfl
    obtain ⟨hslot, hmem⟩ := slot_concat he.slot_eq vs
    have hentry : entry.bCBUsedByVSShader = true ∧ entry.bCBUsedByPSShader = false := by
      rcases he.source with ⟨hused, rfl⟩ | ⟨_, rfl⟩
      · have hin : slot ∈ vs.map ReportedBuffer.slot := by simpa using (h.used slot).mp hused
        have hps := h.psFlag slot
        exact ⟨(h.vsFlag slot).mpr hin, by simpa using hps⟩
      · exact ⟨rfl, h.vsClean _⟩
    refine ⟨he.count (h.count.of_merged rfl rfl rfl),
      fun s => ?_, fun s => ?_, fun s => ?_, ?_, ?_, ?_, ?_⟩
    · rw [he.used_iff, hmem]
      have hused := h.used s
      simp only [List.map_nil, List.not_mem_nil, or_false] at hused ⊢
      exact (or_congr_right hused).trans or_comm
    · rw [he.entries, hmem]
      split
      · rename_i hs
        simp [hs, hentry.1]
      · rename_i hs
        simpa [hs] using h.vsFlag s
    · rw [he.entries]
      split
      · simp [hentry.2]
      · exact h.psFlag s
    · rw [he.vsTable]
      exact info_concat h.vsInfo (he.slot_eq.trans (congrArg Nat.cast hslot.symm))
    · rw [he.psTable]
      exact h.psInfo
    · rw [he.vsTable]
      exact clean_update h.vsClean (h.vsClean _)
    · rw [he.psTable]
      exact h.psClean
  · cases hstep

/-- One turn of the loop over the pixel stage. -/
theorem reflectPSBuffer_some {bufferDesc : ReportedBuffer}
    (h : Reflected vs ps refl) (hstep : reflectPSBuffer ps.length bufferDesc refl = some refl') :
    Reflected vs (ps ++ [bufferDesc]) refl' := by
  unfold reflectPSBuffer at hstep
  split at hstep
  · obtain ⟨slot, entry, he⟩ := enterBuffer_entered hstep fun _ => rfl
    obtain ⟨hslot, hmem⟩ := slot_concat he.slot_eq ps
    have hentry : entry.bCBUsedByPSShader = true ∧ (entry.bCBUsedByVSShader = true ↔
        slot ∈ vs.map ReportedBuffer.slot) := by
      rcases he.source with ⟨_, rfl⟩ | ⟨hunused, rfl⟩
      · exact ⟨rfl, h.vsFlag slot⟩
      · -- the first buffer with this slot, so no vertex buffer has it
        have hclean := h.psClean ps.length
        have hunused : refl.used slot = false := hunused
        refine ⟨rfl, fun hflag => ?_, fun hin => ?_⟩
        · rw [hclean] at hflag
          cases hflag
        · have hused := (h.used slot).mpr (Or.inl hin)
          rw [hunused] at hused
          cases hused
    refine ⟨he.count (h.count.of_merged rfl rfl rfl),
      fun s => ?_, fun s => ?_, fun s => ?_, ?_, ?_, ?_, ?_⟩
    · rw [he.used_iff, hmem, or_comm, ← or_assoc]
      exact or_congr_left (h.used s)
    · rw [he.entries]
      split
      · rename_i hs
        rw [hs]
        exact hentry.2
      · exact h.vsFlag s
    · rw [he.entries, hmem]
      split
      · rename_i hs
        simp [hs, hentry.1]
      · rename_i hs
        simpa [hs] using h.psFlag s
    · rw [he.vsTable]
      exact h.vsInfo
    · rw [he.psTable]
      exact info_concat h.psInfo (he.slot_eq.trans (congrArg Nat.cast hslot.symm))
    · rw [he.vsTable]
      exact h.vsClean
    · rw [he.psTable]
      exact clean_update h.psClean (h.psClean _)
  · cases hstep

/-- A stage's loop keeps what each turn keeps. -/
theorem reflectBuffers_some {reflect : Nat → ReportedBuffer → SSShaderReflectionForMaterial →
      Option SSShaderReflectionForMaterial}
    {P : List ReportedBuffer → SSShaderReflectionForMaterial → Prop}
    (hstep : ∀ done b r r', P done r → reflect done.length b r = some r' → P (done ++ [b]) r') :
    ∀ (buffers done : List ReportedBuffer) (r r' : SSShaderReflectionForMaterial), P done r →
      reflectBuffers reflect buffers done.length r = some r' → P (done ++ buffers) r' := by
  intro buffers
  induction buffers with
  | nil =>
    intro done r r' hP h
    cases h
    rw [List.append_nil]
    exact hP
  | cons b rest ih =>
    intro done r r' hP h
    unfold reflectBuffers at h
    obtain ⟨r1, h1, h2⟩ := Option.bind_eq_some_iff.mp h
    have hnext := ih (done ++ [b]) r1 r' (hstep done b r r1 hP h1)
      (by rw [List.length_append]; exact h2)
    rw [List.append_assoc] at hnext
    exact hnext

theorem reflected_new (num : Nat) : Reflected [] [] { VSConstBufferNum := num } where
  count := countOk_new num
  used := by simp [SSShaderReflectionForMaterial.used]
  vsFlag := by simp
  psFlag := by simp
  vsInfo := fun _ _ h => nomatch h
  psInfo := fun _ _ h => nomatch h
  vsClean := fun _ => rfl
  psClean := fun _ => rfl

/-- Neither loop touches the numbers of buffers. -/
def Nums (vsNum psNum : Nat) (refl : SSShaderReflectionForMaterial) : Prop :=
  refl.VSConstBufferNum = vsNum ∧ refl.PSConstBufferNum = psNum

theorem reflectVSBuffer_nums {i : Nat} {b : ReportedBuffer} {vsNum psNum : Nat}
    (hnums : Nums vsNum psNum refl) (h : reflectVSBuffer i b refl = some refl') :
    Nums vsNum psNum refl' := by
  unfold reflectVSBuffer at h
  split at h
  · obtain ⟨slot, entry, he⟩ := enterBuffer_entered h fun _ => rfl
    exact ⟨he.nums.1.trans hnums.1, he.nums.2.trans hnums.2⟩
  · cases h

theorem reflectPSBuffer_nums {i : Nat} {b : ReportedBuffer} {vsNum psNum : Nat}
    (hnums : Nums vsNum psNum refl) (h : reflectPSBuffer i b refl = some refl') :
    Nums vsNum psNum refl' := by
  unfold reflectPSBuffer at h
  split at h
  · obtain ⟨slot, entry, he⟩ := enterBuffer_entered h fun _ => rfl
    exact ⟨he.nums.1.trans hnums.1, he.nums.2.trans hnums.2⟩
  · cases h

theorem Reflected.of_psNum (h : Reflected vs ps refl) (num : Nat) :
    Reflected vs ps { refl with PSConstBufferNum := num } where
  count := h.count.of_merged rfl rfl rfl
  used := h.used
  vsFlag := h.vsFlag
  psFlag := h.psFlag
  vsInfo := h.vsInfo
  psInfo := h.psInfo
  vsClean := h.vsClean
  psClean := h.psClean

/-- The tables of a compiled shader. -/
theorem compileShader_reflected {vsBuffers psBuffers : List ReportedBuffer}
    (h : compileShader vsBuffers psBuffers = some refl) :
    Nums (toUint8 vsBuffers.length) (toUint8 psBuffers.length) refl ∧
      Reflected (vsBuffers.take (toUint8 vsBuffers.length))
        (psBuffers.take (toUint8 psBuffers.length)) refl := by
  unfold compileShader at h
  obtain ⟨r1, h1, h2⟩ := Option.bind_eq_some_iff.mp h
  obtain ⟨hvs, hvsNums⟩ := reflectBuffers_some
    (P := fun done r => Reflected done [] r ∧ Nums (toUint8 vsBuffers.length) 0 r)
    (fun _ _ _ _ hP hstep => ⟨reflectVSBuffer_some hP.1 hstep, reflectVSBuffer_nums hP.2 hstep⟩)
    _ [] _ r1 ⟨reflected_new _, rfl, rfl⟩ h1
  have hps := reflectBuffers_some
    (P := fun done r => Reflected (vsBuffers.take (toUint8 vsBuffers.length)) done r ∧
      Nums (toUint8 vsBuffers.length) (toUint8 psBuffers.length) r)
    (fun _ _ _ _ hP hstep => ⟨reflectPSBuffer_some hP.1 hstep, reflectPSBuffer_nums hP.2 hstep⟩)
    _ [] _ refl ⟨hvs.of_psNum (toUint8 psBuffers.length), hvsNums.1, rfl⟩ h2
  exact ⟨hps.2, hps.1⟩

/-- There are too few slots for a number of buffers that wraps around. -/
theorem toUint8_length {buffers : List ReportedBuffer}
    (h : (buffers.map ReportedBuffer.slot).Nodup) : toUint8 buffers.length = buffers.length := by
  have hsub : buffers.map ReportedBuffer.slot ⊆ List.range (2 ^ 7) := fun s hs => by
    obtain ⟨b, _, rfl⟩ := List.mem_map.mp hs
    exact List.mem_range.mpr b.slot_lt
  have hle := (List.subperm_of_subset h hsub).length_le
  rw [List.length_map, List.length_range] at hle
  unfold toUint8
  omega

/-- The tables of a compiled shader, when the slots of each stage are distinct. -/
theorem compileShader_reflected_of_nodup {vsBuffers psBuffers : List ReportedBuffer}
    (hvs : (vsBuffers.map ReportedBuffer.slot).Nodup)
    (hps : (psBuffers.map ReportedBuffer.slot).Nodup)
    (h : compileShader vsBuffers psBuffers = some refl) :
    Nums vsBuffers.length psBuffers.length refl ∧ Reflected vsBuffers psBuffers refl := by
  have hall := compileShader_reflected h
  rw [toUint8_length hvs, toUint8_length hps, List.take_length, List.take_length] at hall
  exact hall

end Reflected

end SSShaderReflectionForMaterial

end FBXRenderer
