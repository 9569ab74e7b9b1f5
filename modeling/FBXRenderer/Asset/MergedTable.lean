import FBXRenderer.Asset.ShaderReflection

/-!
# FBXRenderer.Asset.MergedTable

The merged table that the two constant buffer loops of `SSShaderAsset::CompileShader` leave, for
any order of the buffers and any slots that are shared, between the stages or within one.

* `FirstCome`: the size of a slot is that of the first buffer entered there, and the largest slot
  is one that was entered; each turn of a loop keeps this.
* `compileShader_isSome_iff`: both loops go through exactly where every name fits `CBName`.
* `merged_table_iff`: then the table is exact.
-/

namespace FBXRenderer
namespace SSShaderReflectionForMaterial

/-- What the loops require of a buffer, besides the room for its name: a slot of the table, and a
size that is not 0 as a `uint16`. -/
structure Reportable (b : ReportedBuffer) : Prop where
  slot : b.BindPoint < CONSTANT_BUFFER_COUNT_MAX
  size : toUint16 b.Size ≠ 0

/-- `strcpy_s` is given the length of the name, not the room in `CBName`. -/
def NameFits (b : ReportedBuffer) : Prop := b.Name.utf8ByteSize < CONSTANT_BUFFER_NAME_LEN_MAX

/-- The buffer that came first among those with this slot. -/
def firstAt (done : List ReportedBuffer) (s : Nat) : Option ReportedBuffer :=
  done.find? fun b => b.BindPoint = s

/-- What the merged table is to say about the reported buffers. -/
structure MergedTable (vs ps : List ReportedBuffer) (refl : SSShaderReflectionForMaterial) :
    Prop where
  used : ∀ s, (refl.EntireCBReflectionInfo s).CBSize ≠ INVALID_BUFFER_SIZE ↔
    s ∈ (vs ++ ps).map ReportedBuffer.BindPoint
  size : ∀ s b, firstAt (vs ++ ps) s = some b →
    (refl.EntireCBReflectionInfo s).CBSize = toUint16 b.Size
  vsFlag : ∀ s, (refl.EntireCBReflectionInfo s).bCBUsedByVSShader = true ↔
    s ∈ vs.map ReportedBuffer.BindPoint
  psFlag : ∀ s, (refl.EntireCBReflectionInfo s).bCBUsedByPSShader = true ↔
    s ∈ ps.map ReportedBuffer.BindPoint
  num : refl.EntireConstBufferNum = ((vs ++ ps).map ReportedBuffer.BindPoint).dedup.length
  slotMax : refl.ConstBufferSlotMax = ((vs ++ ps).map ReportedBuffer.BindPoint).foldr max 0

/-- The merged table after the buffers in `done`. -/
structure FirstCome (done : List ReportedBuffer) (refl : SSShaderReflectionForMaterial) :
    Prop where
  reportable : ∀ b ∈ done, Reportable b
  size : ∀ s, (refl.EntireCBReflectionInfo s).CBSize =
    ((firstAt done s).map fun b => toUint16 b.Size).getD INVALID_BUFFER_SIZE
  slotMax : refl.ConstBufferSlotMax = 0 ∨ refl.used refl.ConstBufferSlotMax = true

section Step

variable {refl refl' : SSShaderReflectionForMaterial} {info : SSShaderCBReflectionElement}
  {again : SSShaderCBReflectionElement → SSShaderCBReflectionElement}
  {done : List ReportedBuffer} {b : ReportedBuffer}

theorem Reportable.toInt8_eq (h : Reportable b) : toInt8 b.BindPoint = b.BindPoint := by
  have hslot := h.slot
  unfold CONSTANT_BUFFER_COUNT_MAX at hslot
  unfold toInt8
  omega

theorem Reportable.slot_eq (h : Reportable b) : b.slot = b.BindPoint := by
  rw [ReportedBuffer.slot, h.toInt8_eq, Int.toNat_natCast]

theorem FirstCome.used_iff (h : FirstCome done refl) (s : Nat) :
    refl.used s = true ↔ ∃ b, firstAt done s = some b := by
  rw [used, bne_iff_ne, h.size s]
  cases hfirst : firstAt done s with
  | none => simp
  | some b =>
    have hb := h.reportable b (List.mem_of_find?_eq_some hfirst)
    simpa [INVALID_BUFFER_SIZE] using hb.size

theorem firstAt_concat (done : List ReportedBuffer) (b : ReportedBuffer) (s : Nat) :
    firstAt (done ++ [b]) s = (firstAt done s).or (if b.BindPoint = s then some b else none) := by
  rw [firstAt, List.find?_append, firstAt, List.find?_singleton]
  simp only [decide_eq_true_eq]

/-- Entering a buffer, by whether its slot was in the table. -/
theorem FirstCome.enter (h : FirstCome done refl) (hb : Reportable b)
    (hsize : info.CBSize = toUint16 b.Size) (hslot : info.CBSlotIdx = toInt8 b.BindPoint)
    (hagain : ∀ e, (again e).CBSize = e.CBSize) (hstep : enterBuffer info again refl = some refl') :
    FirstCome (done ++ [b]) refl' := by
  have hall : ∀ c ∈ done ++ [b], Reportable c :=
    List.forall_mem_append.mpr ⟨h.reportable, List.forall_mem_singleton.mpr hb⟩
  obtain ⟨slot, hidx, _, hne, hcase⟩ := enterBuffer_cases hstep
  have hbslot : b.BindPoint = slot := by
    rw [hslot, hb.toInt8_eq] at hidx
    omega
  obtain ⟨hused, rfl⟩ | ⟨hunused, rfl⟩ := hcase
  · refine ⟨hall, fun s => ?_, ?_⟩
    · have hsame : ((refl.putAgain slot again).EntireCBReflectionInfo s).CBSize =
          (refl.EntireCBReflectionInfo s).CBSize := by
        rw [putAgain_entry]
        split
        · rename_i hs
          rw [hs, hagain]
        · rfl
      rw [hsame, h.size, firstAt_concat, hbslot]
      split
      · rename_i hs
        obtain ⟨c, hc⟩ := (h.used_iff slot).mp hused
        rw [← hs, hc, Option.some_or]
      · rw [Option.or_none]
    · rw [used_putAgain refl slot hagain]
      exact h.slotMax
  · have hfirst : firstAt done slot = none := by
      cases hc : firstAt done slot with
      | none => rfl
      | some c =>
        rw [(h.used_iff slot).mpr ⟨c, hc⟩] at hunused
        cases hunused
    refine ⟨hall, fun s => ?_, ?_⟩
    · rw [putNew_entry, firstAt_concat, hbslot]
      split
      · rename_i hs
        rw [hs, hfirst, if_pos rfl, Option.none_or]
        exact hsize
      · rename_i hs
        rw [if_neg (Ne.symm hs), Option.or_none]
        exact h.size s
    · have hused := used_putNew refl slot hne
      have hmax : (refl.putNew slot info).ConstBufferSlotMax =
        if refl.ConstBufferSlotMax < slot then slot else refl.ConstBufferSlotMax := rfl
      rw [hmax, hused]
      split
      · exact Or.inr (if_pos rfl)
      · refine h.slotMax.imp_right fun hold => ?_
        split
        · rfl
        · exact hold

theorem firstCome_new (num : Nat) : FirstCome [] { VSConstBufferNum := num } where
  reportable := fun _ hb => (List.not_mem_nil hb).elim
  size := fun _ => rfl
  slotMax := Or.inl rfl

/-- The tables of the stages and their numbers play no part. -/
theorem FirstCome.of_merged (h : FirstCome done refl)
    (hinfo : refl'.EntireCBReflectionInfo = refl.EntireCBReflectionInfo)
    (hmax : refl'.ConstBufferSlotMax = refl.ConstBufferSlotMax) : FirstCome done refl' := by
  refine ⟨h.reportable, ?_, ?_⟩
  · rw [hinfo]
    exact h.size
  · rw [used, hinfo, hmax]
    exact h.slotMax

/-- One turn of the loop over the vertex stage. -/
theorem FirstCome.reflectVSBuffer (h : FirstCome done refl) (hb : Reportable b) {i : Nat}
    (hstep : SSShaderReflectionForMaterial.reflectVSBuffer i b refl = some refl') :
    FirstCome (done ++ [b]) refl' := by
  unfold SSShaderReflectionForMaterial.reflectVSBuffer at hstep
  split at hstep
  · refine FirstCome.enter ?_ hb ?_ ?_ ?_ hstep
    · exact h.of_merged rfl rfl
    · rfl
    · rfl
    · exact fun _ => rfl
  · cases hstep

/-- One turn of the loop over the pixel stage. -/
theorem FirstCome.reflectPSBuffer (h : FirstCome done refl) (hb : Reportable b) {i : Nat}
    (hstep : SSShaderReflectionForMaterial.reflectPSBuffer i b refl = some refl') :
    FirstCome (done ++ [b]) refl' := by
  unfold SSShaderReflectionForMaterial.reflectPSBuffer at hstep
  split at hstep
  · refine FirstCome.enter ?_ hb ?_ ?_ ?_ hstep
    · exact h.of_merged rfl rfl
    · rfl
    · rfl
    · exact fun _ => rfl
  · cases hstep

/-- Such a buffer is always entered. -/
theorem enterBuffer_isSome (hb : Reportable b) (hsize : info.CBSize = toUint16 b.Size)
    (hslot : info.CBSlotIdx = toInt8 b.BindPoint) : (enterBuffer info again refl).isSome := by
  have hlt := hb.slot
  rw [hb.toInt8_eq] at hslot
  unfold enterBuffer
  rw [if_neg (by rw [hsize]; exact hb.size), if_neg (by omega)]
  dsimp only
  split <;> rfl

/-- A turn goes through exactly where the name fits. -/
theorem reflectVSBuffer_isSome_iff (i : Nat) (b : ReportedBuffer)
    (refl : SSShaderReflectionForMaterial) (hi : i < CONSTANT_BUFFER_COUNT_MAX)
    (hb : Reportable b) :
    (SSShaderReflectionForMaterial.reflectVSBuffer i b refl).isSome ↔ NameFits b := by
  unfold SSShaderReflectionForMaterial.reflectVSBuffer
  split
  · rename_i hfits
    exact iff_of_true (enterBuffer_isSome hb rfl rfl) hfits.2
  · rename_i hfits
    exact iff_of_false Bool.false_ne_true fun hname => hfits ⟨hi, hname⟩

theorem reflectPSBuffer_isSome_iff (i : Nat) (b : ReportedBuffer)
    (refl : SSShaderReflectionForMaterial) (hi : i < CONSTANT_BUFFER_COUNT_MAX)
    (hb : Reportable b) :
    (SSShaderReflectionForMaterial.reflectPSBuffer i b refl).isSome ↔ NameFits b := by
  unfold SSShaderReflectionForMaterial.reflectPSBuffer
  split
  · rename_i hfits
    exact iff_of_true (enterBuffer_isSome hb rfl rfl) hfits.2
  · rename_i hfits
    exact iff_of_false Bool.false_ne_true fun hname => hfits ⟨hi, hname⟩

end Step

section Loops

variable {refl : SSShaderReflectionForMaterial} {vs ps : List ReportedBuffer}

/-- A loop goes through exactly where all its turns do. -/
theorem reflectBuffers_isSome_iff {reflect : Nat → ReportedBuffer → SSShaderReflectionForMaterial →
      Option SSShaderReflectionForMaterial}
    (hreflect : ∀ i b r, i < CONSTANT_BUFFER_COUNT_MAX → Reportable b →
      ((reflect i b r).isSome ↔ NameFits b)) (buffers : List ReportedBuffer) :
    ∀ (i : Nat) (r : SSShaderReflectionForMaterial), (∀ b ∈ buffers, Reportable b) →
      i + buffers.length ≤ CONSTANT_BUFFER_COUNT_MAX →
      ((reflectBuffers reflect buffers i r).isSome ↔ ∀ b ∈ buffers, NameFits b) := by
  induction buffers with
  | nil =>
    intro i r _ _
    exact iff_of_true rfl fun b hb => (List.not_mem_nil hb).elim
  | cons b rest ih =>
    intro i r hall hlen
    rw [List.length_cons] at hlen
    obtain ⟨hb, hrest⟩ := List.forall_mem_cons.mp hall
    have hfirst := hreflect i b r (by omega) hb
    rw [reflectBuffers, List.forall_mem_cons, ← hfirst]
    cases hr : reflect i b r with
    | none => simp
    | some r' =>
      rw [Option.bind_eq_bind, Option.bind_some, ih (i + 1) r' hrest (by omega)]
      simp

theorem toUint8_length_le (h : vs.length ≤ CONSTANT_BUFFER_COUNT_MAX) :
    toUint8 vs.length = vs.length := by
  unfold CONSTANT_BUFFER_COUNT_MAX at h
  unfold toUint8
  omega

/-- The two loops, for stages without too many buffers. -/
theorem compileShader_eq (hvs : vs.length ≤ CONSTANT_BUFFER_COUNT_MAX)
    (hps : ps.length ≤ CONSTANT_BUFFER_COUNT_MAX) :
    compileShader vs ps = (reflectBuffers reflectVSBuffer vs 0
      { VSConstBufferNum := vs.length }).bind fun refl =>
        reflectBuffers reflectPSBuffer ps 0 { refl with PSConstBufferNum := ps.length } := by
  unfold compileShader
  rw [toUint8_length_le hvs, toUint8_length_le hps]
  dsimp only
  rw [List.take_length, List.take_length]
  rfl

theorem compileShader_isSome_iff (hvs : vs.length ≤ CONSTANT_BUFFER_COUNT_MAX)
    (hps : ps.length ≤ CONSTANT_BUFFER_COUNT_MAX) (hall : ∀ b ∈ vs ++ ps, Reportable b) :
    (compileShader vs ps).isSome ↔ ∀ b ∈ vs ++ ps, NameFits b := by
  obtain ⟨hvsAll, hpsAll⟩ := List.forall_mem_append.mp hall
  have hfirst := reflectBuffers_isSome_iff reflectVSBuffer_isSome_iff vs 0
    { VSConstBufferNum := vs.length } hvsAll (by omega)
  rw [compileShader_eq hvs hps, List.forall_mem_append, ← hfirst]
  cases reflectBuffers reflectVSBuffer vs 0 { VSConstBufferNum := vs.length } with
  | none => simp
  | some r =>
    rw [Option.bind_some,
      reflectBuffers_isSome_iff reflectPSBuffer_isSome_iff ps 0 _ hpsAll (by omega)]
    simp

/-- What both loops leave. -/
theorem compileShader_firstCome (hvs : vs.length ≤ CONSTANT_BUFFER_COUNT_MAX)
    (hps : ps.length ≤ CONSTANT_BUFFER_COUNT_MAX) (hall : ∀ b ∈ vs ++ ps, Reportable b)
    (h : compileShader vs ps = some refl) : FirstCome (vs ++ ps) refl := by
  rw [compileShader_eq hvs hps] at h
  obtain ⟨r, hr, h⟩ := Option.bind_eq_some_iff.mp h
  obtain ⟨hvsAll, hpsAll⟩ := List.forall_mem_append.mp hall
  have hvsLoop := reflectBuffers_some
    (P := fun done r => (∀ b ∈ done, Reportable b) → FirstCome done r)
    (fun done b r r' hP hstep hdone =>
      have hboth := List.forall_mem_append.mp hdone
      (hP hboth.1).reflectVSBuffer (hboth.2 b (List.mem_singleton_self b)) hstep)
    vs [] _ r (fun _ => firstCome_new _) hr
  have hpsLoop := reflectBuffers_some
    (P := fun done r => (∀ b ∈ done, Reportable b) → FirstCome (vs ++ done) r)
    (fun done b r r' hP hstep hdone => by
      have hboth := List.forall_mem_append.mp hdone
      rw [← List.append_assoc]
      exact (hP hboth.1).reflectPSBuffer (hboth.2 b (List.mem_singleton_self b)) hstep)
    ps [] _ refl (fun _ => by
      rw [List.append_nil]
      exact (hvsLoop hvsAll).of_merged rfl rfl) h
  exact hpsLoop hpsAll

/-- Where both loops go through, the table is exact. -/
theorem compileShader_mergedTable (hvs : vs.length ≤ CONSTANT_BUFFER_COUNT_MAX)
    (hps : ps.length ≤ CONSTANT_BUFFER_COUNT_MAX) (hall : ∀ b ∈ vs ++ ps, Reportable b)
    (h : compileShader vs ps = some refl) : MergedTable vs ps refl := by
  have hfirst := compileShader_firstCome hvs hps hall h
  have hreflected := (compileShader_reflected h).2
  rw [toUint8_length_le hvs, toUint8_length_le hps, List.take_length, List.take_length]
    at hreflected
  obtain ⟨hvsAll, hpsAll⟩ := List.forall_mem_append.mp hall
  have hvsSlots : vs.map ReportedBuffer.slot = vs.map ReportedBuffer.BindPoint :=
    List.map_congr_left fun b hb => (hvsAll b hb).slot_eq
  have hpsSlots : ps.map ReportedBuffer.slot = ps.map ReportedBuffer.BindPoint :=
    List.map_congr_left fun b hb => (hpsAll b hb).slot_eq
  have hused : ∀ s, refl.used s = true ↔ s ∈ (vs ++ ps).map ReportedBuffer.BindPoint := by
    intro s
    rw [List.map_append, List.mem_append, ← hvsSlots, ← hpsSlots]
    exact hreflected.used s
  refine ⟨fun s => ?_, fun s b hb => ?_, fun s => ?_, fun s => ?_, ?_, ?_⟩
  · rw [← hused, used, bne_iff_ne]
  · rw [hfirst.size, hb, Option.map_some, Option.getD_some]
  · rw [← hvsSlots]
    exact hreflected.vsFlag s
  · rw [← hpsSlots]
    exact hreflected.psFlag s
  · have hperm : (Compact.picked refl.used CONSTANT_BUFFER_COUNT_MAX).Perm
        ((vs ++ ps).map ReportedBuffer.BindPoint).dedup := by
      refine (List.perm_ext_iff_of_nodup (Compact.picked_pairwise _ _).nodup
        (List.nodup_dedup _)).mpr fun s => ?_
      rw [Compact.mem_picked, List.mem_dedup, ← hused]
      exact and_iff_right_of_imp (hreflected.count.lt_max s)
    rw [hreflected.count.num, hperm.length_eq]
  · refine Nat.le_antisymm ?_ (List.max_le_of_forall_le _ _ fun s hs => ?_)
    · rcases hfirst.slotMax with hzero | hmax
      · rw [hzero]
        exact Nat.zero_le _
      · exact List.le_max_of_le ((hused _).mp hmax) (Nat.le_refl _)
    · exact hreflected.count.le_slotMax s ((hused s).mpr hs)

/-- For all buffers that the assertions let through, the table of both stages is exact as long as
no name runs over the end of `CBName`. -/
theorem merged_table_iff (vs ps : List ReportedBuffer)
    (hvs : vs.length ≤ CONSTANT_BUFFER_COUNT_MAX) (hps : ps.length ≤ CONSTANT_BUFFER_COUNT_MAX)
    (hall : ∀ b ∈ vs ++ ps, Reportable b) :
    (∃ refl, compileShader vs ps = some refl ∧ MergedTable vs ps refl) ↔
      ∀ b ∈ vs ++ ps, NameFits b := by
  rw [← compileShader_isSome_iff hvs hps hall, Option.isSome_iff_exists]
  constructor
  · rintro ⟨refl, h, _⟩
    exact ⟨refl, h⟩
  · rintro ⟨refl, h⟩
    exact ⟨refl, h, compileShader_mergedTable hvs hps hall h⟩

end Loops

/-- The stages of the default shader share slot 0, and the pixel stage reports slot 2 twice. -/
theorem merged_table_iff_shared :
    let vs : List ReportedBuffer := [⟨"ModelBuffer", 128, 0⟩, ⟨"GlobalRenderParam", 112, 1⟩]
    let ps : List ReportedBuffer := [⟨"Settings", 48, 2⟩, ⟨"Again", 16, 2⟩, ⟨"ModelBuffer", 64, 0⟩]
    ∃ refl, compileShader vs ps = some refl ∧ MergedTable vs ps refl := by
  intro vs ps
  refine (merged_table_iff vs ps (by decide) (by decide) fun b hb => ?_).mpr ?_
  · constructor
    · revert b
      decide
    · revert b
      decide
  · unfold NameFits
    decide

/-- A name of 70 letters runs over the element behind its own. -/
def longName : ReportedBuffer := ⟨String.ofList (List.replicate 70 'x'), 64, 0⟩

theorem merged_table_long_name :
    let vs : List ReportedBuffer := [longName, ⟨"B", 64, 1⟩]
    (∀ b ∈ vs, Reportable b) ∧
      ¬ ∃ refl, compileShader vs [] = some refl ∧ MergedTable vs [] refl := by
  intro vs
  constructor
  · intro b hb
    constructor
    · revert b
      decide
    · revert b
      decide
  · rintro ⟨refl, h, _⟩
    have hnone : compileShader vs [] = none := by rfl
    rw [hnone] at h
    cases h

end SSShaderReflectionForMaterial
end FBXRenderer
