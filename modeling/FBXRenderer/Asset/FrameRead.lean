import FBXRenderer.Asset.JointWrites
import FBXRenderer.Asset.KeyPose
import FBXRenderer.Lib.GridWrites

/-!
# FBXRenderer.Asset.FrameRead

Which entries of the animation stack are read at a time. A time is taken modulo the length of the
animation; its frame, the next one and the blend factor come from that.

* `updateGPUBufferFrameState_reads`: at every time from 0 on, frames `k` and `min (k + 1) (F - 1)`
  of the bones are read, and nothing else.
-/

namespace FBXRenderer

open SS

section Clock

variable {K : Type} [Field K] [LinearOrder K] [FloorRing K]

theorem trunc_of_nonneg {x : K} (h : 0 ≤ x) : trunc x = ⌊x⌋ := if_pos h

variable [IsStrictOrderedRing K]

theorem fmod_nonneg {x y : K} (hx : 0 ≤ x) (hy : 0 < y) : 0 ≤ fmod x y := by
  have hfloor : (⌊x / y⌋ : K) ≤ x / y := Int.floor_le _
  have hle : y * ⌊x / y⌋ ≤ x := by
    calc y * ⌊x / y⌋ ≤ y * (x / y) := mul_le_mul_of_nonneg_left hfloor hy.le
      _ = x := mul_div_cancel₀ x hy.ne'
  unfold fmod
  rw [trunc_of_nonneg (div_nonneg hx hy.le)]
  exact sub_nonneg.mpr hle

theorem fmod_lt {x y : K} (hx : 0 ≤ x) (hy : 0 < y) : fmod x y < y := by
  have hfloor : x / y < ⌊x / y⌋ + 1 := Int.lt_floor_add_one _
  have hlt : x < y * ⌊x / y⌋ + y := by
    calc x = y * (x / y) := (mul_div_cancel₀ x hy.ne').symm
      _ < y * (⌊x / y⌋ + 1) := mul_lt_mul_of_pos_left hfloor hy
      _ = y * ⌊x / y⌋ + y := by rw [mul_add, mul_one]
  unfold fmod
  rw [trunc_of_nonneg (div_nonneg hx hy.le)]
  exact sub_lt_iff_lt_add'.mpr hlt

end Clock

namespace SSSkeletonAnimAsset

section Read

variable {K : Type} {asset : SSSkeletonAnimAsset K}

/-- The entries of the bones in frame `k`. -/
def frameEntries (asset : SSSkeletonAnimAsset K) (k b : Nat) : Option (Transform K) :=
  if b < asset.boneCnt then asset._animStack.data[asset.boneCnt * k + b]? else none

theorem entry_lt_length (hfull : asset.StackFull) {k b : Nat} (hk : k < asset._frameCnt)
    (hb : b < asset.boneCnt) : asset.boneCnt * k + b < asset._animStack.data.length := by
  rw [hfull.length]
  exact GridWrites.entry_lt hb hk

theorem frameEntries_isSome (hfull : asset.StackFull) {k b : Nat} (hk : k < asset._frameCnt)
    (hb : b < asset.boneCnt) : (asset.frameEntries k b).isSome := by
  unfold frameEntries
  rw [if_pos hb, List.getElem?_eq_getElem (entry_lt_length hfull hk hb)]
  rfl

/-- For a bone the offset `boneCnt * k` does not wrap. -/
theorem blendList_eq_frameEntries (hfull : asset.StackFull) {k b : Nat}
    (hk : k < asset._frameCnt) (hb : b < asset.boneCnt) :
    asset.blendList k b = asset.frameEntries k b := by
  have hlt := entry_lt_length hfull hk hb
  have hlength := hfull.length_lt
  unfold blendList frameEntries
  rw [if_pos hb, toUint32_natCast (by omega)]

variable [Field K] {dx : DirectXMath K}

/-- The recursion uses the two frames at the bones only. -/
theorem updateJointBufferRecursive_frames {J : Type} (write : Transform K → J) (dataPtr : Nat → J)
    (hfull : asset.StackFull) {k k' : Nat} (hk : k < asset._frameCnt) (hk' : k' < asset._frameCnt)
    (alpha : K) :
    updateJointBufferRecursive dx write dataPtr asset._skeleton._boneList (asset.blendList k)
        (asset.blendList k') Transform.Identity 0 alpha =
      updateJointBufferRecursive dx write dataPtr asset._skeleton._boneList
        (asset.frameEntries k) (asset.frameEntries k') Transform.Identity 0 alpha := by
  refine IndexTree.descend_congr write (fun b hb => ?_) _ _ _ _
  have hlt : b < asset.boneCnt := by
    by_contra hge
    refine hb ?_
    rw [PooledList.get_eq, List.getElem?_eq_none (Nat.le_of_not_lt hge)]
    rfl
  funext t
  unfold blendTransform
  rw [blendList_eq_frameEntries hfull hk hlt, blendList_eq_frameEntries hfull hk' hlt]

/-- Over a bone tree, with an entry for every bone in both frames. -/
theorem updateJointBufferRecursive_ends {J : Type} {bones : PooledList (BoneNode K)}
    (htree : BoneNode.IsTree bones) (write : Transform K → J) (dataPtr : Nat → J)
    {list1 list2 : Nat → Option (Transform K)}
    (hin : ∀ b, b < bones.getSize → (list1 b).isSome ∧ (list2 b).isSome) (alpha : K) :
    (updateJointBufferRecursive dx write dataPtr bones list1 list2 Transform.Identity 0
      alpha).isSome := by
  have hthis : ∀ i, i < bones.getSize → ∀ t, blendTransform dx list1 list2 alpha i t =
      some ((blendTransform dx list1 list2 alpha i t).getD t) := by
    intro i hi t
    obtain ⟨t', ht'⟩ := blendTransform_isSome dx (hin i hi).1 (hin i hi).2 alpha t
    rw [ht']
    rfl
  obtain ⟨joints, hrun, _⟩ := jointBufferRecursive_eq htree hthis write Transform.Identity dataPtr
  exact Option.isSome_of_mem hrun

variable [LinearOrder K] [FloorRing K]

/-- At `time` the entries of the bones in frames `k` and `min (k + 1) (F - 1)` are read, all of them
in the stack, and blended with `alpha`; over a bone tree the run ends. -/
structure FramesRead (dx : DirectXMath K) (asset : SSSkeletonAnimAsset K) (time : K) (k : Nat)
    (alpha : K) : Prop where
  frame : (k : Int) = ⌊fmod time (asset._frameCnt / asset._framePerSec) * asset._framePerSec⌋
  frame_lt : k < asset._frameCnt
  alpha_nonneg : 0 ≤ alpha
  alpha_lt : alpha < 1
  in_stack : ∀ b, b < asset.boneCnt → (asset.frameEntries k b).isSome ∧
    (asset.frameEntries (min (k + 1) (asset._frameCnt - 1)) b).isSome
  reads : ∀ dataPtr, asset.updateGPUBufferFrameState dx dataPtr time =
    updateJointBufferRecursive dx (jointMatrix dx) dataPtr asset._skeleton._boneList
      (asset.frameEntries k) (asset.frameEntries (min (k + 1) (asset._frameCnt - 1)))
      Transform.Identity 0 alpha
  ends : BoneNode.IsTree asset._skeleton._boneList →
    ∀ dataPtr, (asset.updateGPUBufferFrameState dx dataPtr time).isSome

variable [IsStrictOrderedRing K]

/-- The frames and the blend factor that a run at `time` takes. -/
theorem updateFrameState_time {J : Type} (write : Transform K → J) (dataPtr : Nat → J)
    (hcnt : asset._frameCnt < 2 ^ 32) (hrate : 0 < asset._framePerSec) {time : K} {k : Nat}
    (h0 : 0 ≤ fmod time (asset._frameCnt / asset._framePerSec))
    (hk : ⌊fmod time (asset._frameCnt / asset._framePerSec) * asset._framePerSec⌋ = k)
    (hklt : k < asset._frameCnt) :
    updateFrameState dx write asset dataPtr time =
      updateJointBufferRecursive dx write dataPtr asset._skeleton._boneList
        (asset.blendList k) (asset.blendList (min (k + 1) (asset._frameCnt - 1)))
        Transform.Identity 0
        (fmod time (asset._frameCnt / asset._framePerSec) * asset._framePerSec - k) := by
  have hfps : (0 : K) < asset._framePerSec := Nat.cast_pos.mpr hrate
  obtain ⟨t, ht⟩ : ∃ t : K, fmod time (asset._frameCnt / asset._framePerSec) = t := ⟨_, rfl⟩
  rw [ht] at h0 hk ⊢
  have hplace : t / asset.getFrameTimeInterval = t * asset._framePerSec := by
    unfold getFrameTimeInterval
    rw [div_div_eq_mul_div, div_one]
  have htrunc : trunc (t / asset.getFrameTimeInterval) = k := by
    rw [hplace, trunc_of_nonneg (mul_nonneg h0 hfps.le), hk]
  have hidx1 : toUint32 (trunc (t / asset.getFrameTimeInterval)) = k := by
    rw [htrunc, toUint32_natCast (by omega)]
  have hidx2 : (if asset._frameCnt ≤ toUint32 (k + 1 : Nat) then k else toUint32 (k + 1 : Nat)) =
      min (k + 1) (asset._frameCnt - 1) := by
    rw [toUint32_natCast (by omega)]
    split <;> omega
  have halpha : fmod t asset.getFrameTimeInterval / asset.getFrameTimeInterval =
      t * asset._framePerSec - k := by
    have hne : asset.getFrameTimeInterval (K := K) ≠ 0 := (div_pos one_pos hfps).ne'
    unfold fmod
    rw [htrunc, sub_div, hplace, mul_div_cancel_left₀ _ hne, Int.cast_natCast]
  unfold updateFrameState
  have htime : fmod time asset.getFrameTime = t := ht
  simp only [htime, hidx1, hidx2, halpha]

/-- Any time from 0 on falls into a frame. -/
theorem exists_frame {F fps : Nat} (hF : 0 < F) (hrate : 0 < fps) {time : K} (htime : 0 ≤ time) :
    ∃ k : Nat, ⌊fmod time (F / fps) * fps⌋ = k ∧ k < F := by
  have hfps : (0 : K) < fps := Nat.cast_pos.mpr hrate
  have hlength : (0 : K) < F / fps := div_pos (Nat.cast_pos.mpr hF) hfps
  have hplace0 : 0 ≤ fmod time (F / fps) * fps := mul_nonneg (fmod_nonneg htime hlength) hfps.le
  have hplacelt : fmod time (F / fps) * fps < (F : Nat) :=
    (lt_div_iff₀ hfps).mp (fmod_lt htime hlength)
  obtain ⟨k, hk⟩ := Int.eq_ofNat_of_zero_le (Int.floor_nonneg.mpr hplace0)
  have hlt : ⌊fmod time (F / fps) * fps⌋ < (F : Int) :=
    Int.floor_lt.mpr (by rw [Int.cast_natCast]; exact hplacelt)
  exact ⟨k, hk, by omega⟩

theorem updateGPUBufferFrameState_reads (hfull : asset.StackFull) (hbones : 0 < asset.boneCnt)
    (hcnt : 0 < asset._frameCnt) (hrate : 0 < asset._framePerSec) {time : K} (htime : 0 ≤ time) :
    ∃ k alpha, FramesRead dx asset time k alpha := by
  have hcnt32 : asset._frameCnt < 2 ^ 32 := by
    have hle : 1 * asset._frameCnt ≤ asset.boneCnt * asset._frameCnt :=
      Nat.mul_le_mul_right _ hbones
    have hlength := hfull.length
    have hlt := hfull.length_lt
    omega
  obtain ⟨k, hk, hklt⟩ := exists_frame hcnt hrate htime
  have hk'lt : min (k + 1) (asset._frameCnt - 1) < asset._frameCnt := by omega
  have h0 : 0 ≤ fmod time ((asset._frameCnt : K) / asset._framePerSec) :=
    fmod_nonneg htime (div_pos (Nat.cast_pos.mpr hcnt) (Nat.cast_pos.mpr hrate))
  have hreads : ∀ dataPtr, asset.updateGPUBufferFrameState dx dataPtr time = _ := fun dataPtr =>
    (updateFrameState_time (jointMatrix dx) dataPtr hcnt32 hrate h0 hk hklt).trans
      (updateJointBufferRecursive_frames (jointMatrix dx) dataPtr hfull hklt hk'lt _)
  have hin : ∀ b, b < asset.boneCnt → (asset.frameEntries k b).isSome ∧
      (asset.frameEntries (min (k + 1) (asset._frameCnt - 1)) b).isSome := fun b hb =>
    ⟨frameEntries_isSome hfull hklt hb, frameEntries_isSome hfull hk'lt hb⟩
  refine ⟨k, _, hk.symm, hklt, ?_, ?_, hin, hreads, fun htree dataPtr => ?_⟩
  · have hfloor := Int.floor_le
      (fmod time ((asset._frameCnt : K) / asset._framePerSec) * asset._framePerSec)
    rw [hk, Int.cast_natCast] at hfloor
    exact sub_nonneg.mpr hfloor
  · have hfloor := Int.lt_floor_add_one
      (fmod time ((asset._frameCnt : K) / asset._framePerSec) * asset._framePerSec)
    rw [hk, Int.cast_natCast] at hfloor
    exact sub_lt_iff_lt_add'.mpr hfloor
  · rw [hreads]
    exact updateJointBufferRecursive_ends htree _ dataPtr hin _

end Read

end SSSkeletonAnimAsset

end FBXRenderer
