import FBXRenderer.Asset.SkeletonAnim
import FBXRenderer.Importer.ImportSkeleton

/-!
# FBXRenderer.Asset.KeyPose

Sampling an animation at the time of a frame. The blend factor is 0 there, but `Lerp` adds the
difference to its second argument, so positions and scales come from the next frame, composed with
whatever the parent got.

* `sampled_key_pose_iff`: the sampled pose is the key pose of the frame exactly when at every bone
  the transforms of the two frames, put into the parent's key pose, have the same position and
  scale.
-/

namespace FBXRenderer

open SS

section Clock

variable {K : Type} [Field K] [LinearOrder K] [FloorRing K]

theorem trunc_eq_zero {x : K} (h0 : 0 ≤ x) (h1 : x < 1) : trunc x = 0 := by
  unfold trunc
  rw [if_pos h0, Int.floor_eq_zero_iff]
  exact ⟨h0, h1⟩

variable [IsStrictOrderedRing K]

theorem trunc_natCast (n : Nat) : trunc (n : K) = n := by
  unfold trunc
  rw [if_pos (Nat.cast_nonneg n), Int.floor_natCast]

theorem fmod_of_lt {x y : K} (h0 : 0 ≤ x) (h : x < y) : fmod x y = x := by
  have hy : 0 < y := lt_of_le_of_lt h0 h
  unfold fmod
  rw [trunc_eq_zero (div_nonneg h0 hy.le) ((div_lt_one hy).mpr h), Int.cast_zero, mul_zero,
    sub_zero]

/-- A multiple of the modulus. -/
theorem fmod_mul_natCast {y : K} (hy : y ≠ 0) (n : Nat) : fmod (n * y) y = 0 := by
  unfold fmod
  rw [mul_div_cancel_right₀ _ hy, trunc_natCast, Int.cast_natCast, mul_comm, sub_self]

end Clock

namespace SSSkeletonAnimAsset

section Definitions

variable {K : Type} (asset : SSSkeletonAnimAsset K)

/-- The other frame that is read at the time of frame `k`. -/
def nextFrame (k : Nat) : Nat := if k + 1 < asset._frameCnt then k + 1 else k

variable {asset} in
theorem nextFrame_lt {k : Nat} (hk : k < asset._frameCnt) :
    asset.nextFrame k < asset._frameCnt := by
  unfold nextFrame
  split
  · assumption
  · exact hk

variable [Field K] (dx : DirectXMath K)

/-- The transform stored for a bone and a frame. -/
def stored (frameIdx boneIdx : Nat) : Transform K :=
  (asset._animStack.data[asset.boneCnt * frameIdx + boneIdx]?).getD Transform.Identity

/-- The stored transforms of frame `k`, composed from the root down to the bone. -/
def keyPose (k : Nat) : Nat → Transform K :=
  IndexTree.chain (BoneNode.parent asset._skeleton._boneList)
    (fun i t => (asset.stored k i).mul dx t) Transform.Identity

/-- The key pose of the bone above, or the identity for the root. -/
def parentKeyPose (k : Nat) : Nat → Transform K :=
  IndexTree.handed (BoneNode.parent asset._skeleton._boneList)
    (fun i t => (asset.stored k i).mul dx t) Transform.Identity

/-- What the recursion computes for a bone at blend factor 0. -/
def sampledStep (k i : Nat) (t : Transform K) : Transform K where
  Position := ((asset.stored (asset.nextFrame k) i).mul dx t).Position
  Rotation := ((asset.stored k i).mul dx t).Rotation
  Scale := ((asset.stored (asset.nextFrame k) i).mul dx t).Scale

end Definitions

section Sampling

variable {K : Type} [Field K] {dx : DirectXMath K} {asset : SSSkeletonAnimAsset K}

/-- The offset does not wrap, and the entry is there. -/
theorem blendList_eq (hfull : asset.StackFull) {k i : Nat} (hk : k < asset._frameCnt)
    (hi : i < asset.boneCnt) : asset.blendList k i = some (asset.stored k i) := by
  have hrow : asset.boneCnt * k + i < asset._animStack.data.length := by
    have hle : asset.boneCnt * (k + 1) ≤ asset.boneCnt * asset._frameCnt :=
      Nat.mul_le_mul_left _ hk
    rw [hfull.length]
    rw [Nat.mul_succ] at hle
    omega
  have hlt := hfull.length_lt
  unfold blendList stored
  rw [toUint32_natCast (by omega), List.getElem?_eq_getElem hrow]
  rfl

theorem blendTransform_eq (hdx : dx.Lawful) (hfull : asset.StackFull) {k i : Nat}
    (hk : k < asset._frameCnt) (hi : i < asset.boneCnt) (t : Transform K) :
    blendTransform dx (asset.blendList k) (asset.blendList (asset.nextFrame k)) 0 i t =
      some (asset.sampledStep dx k i t) := by
  unfold blendTransform
  rw [blendList_eq hfull hk hi, blendList_eq hfull (nextFrame_lt hk) hi]
  simp only [Option.bind_eq_bind, Option.bind_some, Transform.lerp_zero hdx]
  rfl

/-- The sampled chain is the key pose exactly when at every bone the two frames agree in the
parent's key pose. -/
theorem sampledStep_chain_iff (htree : BoneNode.IsTree asset._skeleton._boneList) (k : Nat) :
    (∀ i, i < asset.boneCnt → IndexTree.chain (BoneNode.parent asset._skeleton._boneList)
        (asset.sampledStep dx k) Transform.Identity i = asset.keyPose dx k i) ↔
      ∀ i, i < asset.boneCnt →
        ((asset.stored (asset.nextFrame k) i).mul dx (asset.parentKeyPose dx k i)).Position =
          ((asset.stored k i).mul dx (asset.parentKeyPose dx k i)).Position ∧
        ((asset.stored (asset.nextFrame k) i).mul dx (asset.parentKeyPose dx k i)).Scale =
          ((asset.stored k i).mul dx (asset.parentKeyPose dx k i)).Scale := by
  refine Iff.trans (IndexTree.chain_agree_iff htree (R := Eq) (fun _ _ h => h.symm)
    (fun _ _ _ h h' => h.trans h') rfl
    fun i _ t u h => congrArg (asset.sampledStep dx k i) h) ?_
  refine forall₂_congr fun i _ => ?_
  unfold sampledStep
  rw [Transform.ext_iff]
  simp only [true_and]
  rfl

variable [LinearOrder K] [IsStrictOrderedRing K] [FloorRing K]

/-- At the time of frame `k` the run reads frames `k` and `nextFrame k` with blend factor 0. -/
theorem updateFrameState_frame {J : Type} (write : Transform K → J) (dataPtr : Nat → J)
    (hrate : 0 < asset._framePerSec) (hcnt : asset._frameCnt < 2 ^ 32) {k : Nat}
    (hk : k < asset._frameCnt) :
    updateFrameState dx write asset dataPtr (k / asset._framePerSec) =
      updateJointBufferRecursive dx write dataPtr asset._skeleton._boneList
        (asset.blendList k) (asset.blendList (asset.nextFrame k)) Transform.Identity 0 0 := by
  have hfps : (0 : K) < asset._framePerSec := Nat.cast_pos.mpr hrate
  have htime : fmod ((k : K) / asset._framePerSec) asset.getFrameTime =
      k / asset._framePerSec := by
    refine fmod_of_lt (div_nonneg (Nat.cast_nonneg k) hfps.le) ?_
    exact (div_lt_div_iff_of_pos_right hfps).mpr (Nat.cast_lt.mpr hk)
  have hidx : toUint32 (trunc ((k : K) / asset._framePerSec / asset.getFrameTimeInterval)) =
      k := by
    unfold getFrameTimeInterval
    rw [div_div_div_cancel_right₀ hfps.ne', div_one, trunc_natCast, toUint32_natCast (by omega)]
  have halpha : fmod ((k : K) / asset._framePerSec) asset.getFrameTimeInterval = 0 := by
    have hne : asset.getFrameTimeInterval (K := K) ≠ 0 := (div_pos one_pos hfps).ne'
    rw [← fmod_mul_natCast hne k]
    unfold getFrameTimeInterval
    rw [mul_one_div]
  have hnext : (if asset._frameCnt ≤ k + 1 then k else k + 1) = asset.nextFrame k := by
    unfold nextFrame
    split <;> split <;> omega
  unfold updateFrameState
  simp only [htime, hidx, halpha, zero_div]
  rw [toUint32_natCast (by omega), hnext]

theorem updateFrameState_eq (hdx : dx.Lawful)
    (htree : BoneNode.IsTree asset._skeleton._boneList) (hfull : asset.StackFull)
    (hrate : 0 < asset._framePerSec) {k : Nat} (hk : k < asset._frameCnt) {J : Type}
    (write : Transform K → J) (dataPtr : Nat → J) :
    ∃ joints,
      updateFrameState dx write asset dataPtr (k / asset._framePerSec) = some joints ∧
      ∀ i, i < asset.boneCnt → joints i = write (IndexTree.chain
        (BoneNode.parent asset._skeleton._boneList) (asset.sampledStep dx k)
        Transform.Identity i) := by
  have hcnt : asset._frameCnt < 2 ^ 32 := by
    have hle : 1 * asset._frameCnt ≤ asset.boneCnt * asset._frameCnt :=
      Nat.mul_le_mul_right _ htree.nonempty
    have hlength := hfull.length
    have hlt := hfull.length_lt
    omega
  rw [updateFrameState_frame write dataPtr hrate hcnt hk]
  obtain ⟨joints, hrun, hin, _⟩ := jointBufferRecursive_eq htree
    (fun i hi t => blendTransform_eq hdx hfull hk hi t) write Transform.Identity dataPtr
  exact ⟨joints, hrun, hin⟩

/-- For every imported skeleton, every full animation stack and every frame `k`: the sampled
transforms at `k / framePerSec` are the key pose of frame `k` exactly when at every bone the
transforms of frame `k` and of the next frame, put into the parent's key pose, have the same
position and scale. -/
theorem sampled_key_pose_iff (hdx : dx.Lawful) {fileName : String} {rootNode : FbxNode K}
    (himport : importCurrentSceneToSkeletonAsset fileName rootNode = some (some asset._skeleton))
    (hfull : asset.StackFull) (hrate : 0 < asset._framePerSec) {k : Nat}
    (hk : k < asset._frameCnt) (dataPtr : Nat → JOINTMATRIX K) :
    ∃ pose joints, asset.sampledPose dx (k / asset._framePerSec) = some pose ∧
      asset.updateGPUBufferFrameState dx dataPtr (k / asset._framePerSec) = some joints ∧
      (∀ i, i < asset.boneCnt → joints i = jointMatrix dx (pose i)) ∧
      ((∀ i, i < asset.boneCnt → pose i = asset.keyPose dx k i) ↔
        ∀ i, i < asset.boneCnt →
          ((asset.stored (asset.nextFrame k) i).mul dx (asset.parentKeyPose dx k i)).Position =
            ((asset.stored k i).mul dx (asset.parentKeyPose dx k i)).Position ∧
          ((asset.stored (asset.nextFrame k) i).mul dx (asset.parentKeyPose dx k i)).Scale =
            ((asset.stored k i).mul dx (asset.parentKeyPose dx k i)).Scale) := by
  have htree := (importCurrentSceneToSkeletonAsset_ok himport).isTree
  obtain ⟨pose, hpose, hposeAt⟩ := updateFrameState_eq hdx htree hfull hrate hk id
    (fun _ => Transform.Identity)
  obtain ⟨joints, hjoints, hjointsAt⟩ := updateFrameState_eq hdx htree hfull hrate hk
    (jointMatrix dx) dataPtr
  refine ⟨pose, joints, hpose, hjoints, ?_, ?_⟩
  · intro i hi
    rw [hjointsAt i hi, hposeAt i hi]
    rfl
  · rw [← sampledStep_chain_iff htree k]
    refine forall₂_congr fun i hi => ?_
    rw [hposeAt i hi]
    rfl

end Sampling

section Leg

/-- A leg that turns from frame 0 to frame 1 and stays where it is. -/
def legFrames : SSSkeletonAnimAsset ℚ where
  _assetName := "leg.ska"
  _skeleton := legSkeleton
  _animStack := PooledList.ofList
    [⟨⟨1, 2, 0, 0⟩, ⟨1, 1, 1, 0⟩, ⟨0, 0, 3 / 5, 4 / 5⟩⟩,
     ⟨⟨0, 3, 0, 0⟩, ⟨1, 1, 1, 0⟩, ⟨5 / 13, 0, 0, 12 / 13⟩⟩,
     ⟨⟨1, 2, 0, 0⟩, ⟨1, 1, 1, 0⟩, ⟨0, 0, 0, 1⟩⟩,
     ⟨⟨0, 3, 0, 0⟩, ⟨1, 1, 1, 0⟩, ⟨0, 4 / 5, 0, 3 / 5⟩⟩]
  _frameCnt := 2
  _framePerSec := 24

theorem legFrames_stackFull : legFrames.StackFull := ⟨rfl, show 4 < 2 ^ 32 by decide⟩

theorem sampled_key_pose_iff_leg :
    let dx := DirectXMath.exact ℚ
    let next := legFrames.stored (legFrames.nextFrame 0)
    ∃ pose joints,
      legFrames.sampledPose dx ((0 : Nat) / legFrames._framePerSec) = some pose ∧
      legFrames.updateGPUBufferFrameState dx (fun _ => ⟨0, 0⟩)
        ((0 : Nat) / legFrames._framePerSec) = some joints ∧
      (∀ i, i < legFrames.boneCnt → joints i = jointMatrix dx (pose i)) ∧
      ((∀ i, i < legFrames.boneCnt → pose i = legFrames.keyPose dx 0 i) ↔
        ∀ i, i < legFrames.boneCnt →
          ((next i).mul dx (legFrames.parentKeyPose dx 0 i)).Position =
              ((legFrames.stored 0 i).mul dx (legFrames.parentKeyPose dx 0 i)).Position ∧
            ((next i).mul dx (legFrames.parentKeyPose dx 0 i)).Scale =
              ((legFrames.stored 0 i).mul dx (legFrames.parentKeyPose dx 0 i)).Scale) :=
  sampled_key_pose_iff DirectXMath.exact_lawful leg_imported legFrames_stackFull (by decide)
    (by decide) _

end Leg

section TwoFrames

/-- One bone that stands at the origin in frame 0 and at `x` in frame 1. -/
def twoFrames (x : ℚ) : SSSkeletonAnimAsset ℚ where
  _assetName := "a.ska"
  _skeleton := oneBoneSkeleton ![1, 1, 1]
  _animStack := PooledList.ofList
    [Transform.Identity, { Transform.Identity with Position := ⟨x, 0, 0, 0⟩ }]
  _frameCnt := 2
  _framePerSec := 24

theorem twoFrames_stackFull (x : ℚ) : (twoFrames x).StackFull := ⟨rfl, show 2 < 2 ^ 32 by decide⟩

/-- At the time of frame 0 the bone is sampled where frame 1 has it. -/
theorem sampled_next_frame :
    ∃ pose, (twoFrames 1).sampledPose (DirectXMath.exact ℚ)
        ((0 : Nat) / (twoFrames 1)._framePerSec) = some pose ∧
      (pose 0).Position.X = 1 ∧
      ((twoFrames 1).keyPose (DirectXMath.exact ℚ) 0 0).Position.X = 0 := by
  have htree : BoneNode.IsTree (twoFrames 1)._skeleton._boneList :=
    (importCurrentSceneToSkeletonAsset_ok (oneBone_imported ![1, 1, 1])).isTree
  obtain ⟨pose, hpose, hposeAt⟩ := updateFrameState_eq DirectXMath.exact_lawful htree
    (twoFrames_stackFull 1) (by decide) (k := 0) (by decide) id (fun _ => Transform.Identity)
  refine ⟨pose, hpose, ?_, ?_⟩
  · rw [hposeAt 0 (by decide), IndexTree.chain_root]
    show (DirectXMath.vector3Rotate ⟨1 * 1, 0 * 1, 0 * 1, 0 * 0⟩ Quaternion.one).X + 0 = (1 : ℚ)
    norm_num [DirectXMath.vector3Rotate, DirectXMath.quaternionMultiply, Quaternion.one]
  · unfold keyPose
    rw [IndexTree.chain_root]
    show (DirectXMath.vector3Rotate ⟨0 * 1, 0 * 1, 0 * 1, 0 * 0⟩ Quaternion.one).X + 0 = (0 : ℚ)
    norm_num [DirectXMath.vector3Rotate, DirectXMath.quaternionMultiply, Quaternion.one]

end TwoFrames

end SSSkeletonAnimAsset

end FBXRenderer
