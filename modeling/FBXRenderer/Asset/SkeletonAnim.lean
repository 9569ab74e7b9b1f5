import FBXRenderer.Asset.Skeleton

/-!
# FBXRenderer.Asset.SkeletonAnim

`SSSkeletonAnimAsset` (`SSSkeletonAnimAsset.cpp`): the stored frames, the sampling at a time and
the bind pose. The clock arithmetic is that of an ordered field with `fmod` and the conversion to
`uint32` on exact values.
-/

namespace FBXRenderer

open SS

structure SSSkeletonAnimAsset (K : Type) where
  _assetName : String
  _skeleton : SSSkeletonAsset K
  _animStack : PooledList (Transform K)
  _frameCnt : Nat
  _framePerSec : Nat

section Clock

variable {K : Type} [Field K] [LinearOrder K] [FloorRing K]

/-- Rounding toward zero, as in a conversion to an integer. -/
def trunc (x : K) : Int := if 0 ≤ x then ⌊x⌋ else ⌈x⌉

def fmod (x y : K) : K := x - y * trunc (x / y)

end Clock

namespace SSSkeletonAnimAsset

section Definitions

variable {K : Type}

def boneCnt (asset : SSSkeletonAnimAsset K) : Nat := asset._skeleton._boneList.getSize

def setAnimStackTransform (asset : SSSkeletonAnimAsset K) (skeletonIdx frameIdx : Nat)
    (InTransform : Transform K) : Option (SSSkeletonAnimAsset K) :=
  (asset._animStack.set (toUint32 (asset.boneCnt * frameIdx + skeletonIdx : Nat)) InTransform).map
    fun animStack => { asset with _animStack := animStack }

/-- The stack holds one transform for every bone and frame; its size is a `uint32`. -/
structure StackFull (asset : SSSkeletonAnimAsset K) : Prop where
  length : asset._animStack.data.length = asset.boneCnt * asset._frameCnt
  length_lt : asset._animStack.data.length < 2 ^ 32

variable [Field K]

/-- The second constructor; the first one looks the skeleton up by its name. -/
def new (assetName : String) (skeleton : SSSkeletonAsset K) (frameCnt framePerSec : Nat) :
    Option (SSSkeletonAnimAsset K) := do
  let newCapacity := toUint32 (skeleton._boneList.getSize * frameCnt : Nat)
  let animStack ← (PooledList.new 0).increaseCapacityAndCopy newCapacity
  let animStack ← animStack.resize Transform.Identity newCapacity
  some { _assetName := assetName
         _skeleton := skeleton
         _animStack := animStack
         _frameCnt := frameCnt
         _framePerSec := framePerSec }

def getFrameTime (asset : SSSkeletonAnimAsset K) : K := asset._frameCnt / asset._framePerSec

def getFrameTimeInterval (asset : SSSkeletonAnimAsset K) : K := 1 / asset._framePerSec

variable (dx : DirectXMath K)

/-- The matrices stored for a bone. -/
def jointMatrix (thisTransform : Transform K) : JOINTMATRIX K where
  PosMatrix := dx.XMMatrixTranspose (thisTransform.asMatrix dx)
  RotMatrix := dx.XMMatrixTranspose (thisTransform.Rotation.asMatrix dx)

def resetJointBufferRecursive (joints : Nat → JOINTMATRIX K) (bones : PooledList (BoneNode K))
    (parentTransform : Transform K) (idx : Nat) : Option (Nat → JOINTMATRIX K) :=
  jointBufferRecursive bones (boneTransform dx bones) (jointMatrix dx) bones.getSize joints
    parentTransform idx

def resetJointBufferState (asset : SSSkeletonAnimAsset K) (dataPtr : Nat → JOINTMATRIX K) :
    Option (Nat → JOINTMATRIX K) :=
  resetJointBufferRecursive dx dataPtr asset._skeleton._boneList Transform.Identity 0

/-- The two frames' transforms in the parent's frame, blended. -/
def blendTransform (transformBlendList1 transformBlendList2 : Nat → Option (Transform K))
    (alpha : K) (idx : Nat) (parentTransform : Transform K) : Option (Transform K) := do
  let transform1 ← transformBlendList1 idx
  let transform2 ← transformBlendList2 idx
  some (SS.lerpTransform dx (transform1.mul dx parentTransform)
    (transform2.mul dx parentTransform) alpha)

/-- `write` is what is stored for `thisTransform`: `jointMatrix` in the source. -/
def updateJointBufferRecursive {J : Type} (write : Transform K → J) (joints : Nat → J)
    (bones : PooledList (BoneNode K))
    (transformBlendList1 transformBlendList2 : Nat → Option (Transform K))
    (parentTransform : Transform K) (idx : Nat) (alpha : K) : Option (Nat → J) :=
  jointBufferRecursive bones (blendTransform dx transformBlendList1 transformBlendList2 alpha)
    write bones.getSize joints parentTransform idx

/-- `_animStack.GetData() + boneCnt * frame`, read at `idx`. -/
def blendList (asset : SSSkeletonAnimAsset K) (blendTransformIdx idx : Nat) :
    Option (Transform K) :=
  asset._animStack.data[toUint32 (asset.boneCnt * blendTransformIdx : Nat) + idx]?

variable [LinearOrder K] [FloorRing K]

/-- The body of `UpdateGPUBufferFrameState`, with what is stored for every bone. -/
def updateFrameState {J : Type} (write : Transform K → J) (asset : SSSkeletonAnimAsset K)
    (dataPtr : Nat → J) (time : K) : Option (Nat → J) :=
  let frameTime := asset.getFrameTime
  let time := fmod time frameTime
  let blendTransformIdx1 := toUint32 (trunc (time / asset.getFrameTimeInterval))
  let blendTransformIdx2 := toUint32 (blendTransformIdx1 + 1 : Nat)
  let blendTransformIdx2 :=
    if asset._frameCnt ≤ blendTransformIdx2 then blendTransformIdx1 else blendTransformIdx2
  let alpha := fmod time asset.getFrameTimeInterval
  let alpha := alpha / asset.getFrameTimeInterval
  updateJointBufferRecursive dx write dataPtr asset._skeleton._boneList
    (asset.blendList blendTransformIdx1) (asset.blendList blendTransformIdx2)
    Transform.Identity 0 alpha

def updateGPUBufferFrameState (asset : SSSkeletonAnimAsset K) (dataPtr : Nat → JOINTMATRIX K)
    (time : K) : Option (Nat → JOINTMATRIX K) :=
  updateFrameState dx (jointMatrix dx) asset dataPtr time

/-- The transforms that the same run makes for the bones. -/
def sampledPose (asset : SSSkeletonAnimAsset K) (time : K) : Option (Nat → Transform K) :=
  updateFrameState dx id asset (fun _ => Transform.Identity) time

end Definitions

section Stack

variable {K : Type}

theorem new_stackFull [Field K] (assetName : String) (skeleton : SSSkeletonAsset K)
    (frameCnt framePerSec : Nat) (h : skeleton._boneList.getSize * frameCnt < 2 ^ 32) :
    ∃ asset, new assetName skeleton frameCnt framePerSec = some asset ∧ asset.StackFull ∧
      asset._skeleton = skeleton ∧ asset._frameCnt = frameCnt ∧
      asset._framePerSec = framePerSec := by
  unfold new
  rw [toUint32_natCast h]
  obtain ⟨l, hl, hdata, hcap⟩ := PooledList.increaseCapacityAndCopy_eq
    (l := (PooledList.new 0 : PooledList (Transform K))) (Nat.zero_le _)
  have hresize : l.resize Transform.Identity (skeleton._boneList.getSize * frameCnt) =
      some _ := dif_pos (by rw [hcap])
  simp only [hl, Option.bind_eq_bind, Option.bind_some, hresize]
  refine ⟨_, rfl, ?_, rfl, rfl, rfl⟩
  have hempty : l.data = [] := hdata
  refine ⟨?_, ?_⟩
  · simp [boneCnt, hempty]
  · simpa [hempty] using h

end Stack

end SSSkeletonAnimAsset

end FBXRenderer
