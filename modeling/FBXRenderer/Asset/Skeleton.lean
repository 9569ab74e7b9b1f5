import FBXRenderer.Container.PooledList
import FBXRenderer.Engine.Transform
import FBXRenderer.Lib.IndexTree

/-!
# FBXRenderer.Asset.Skeleton

`BoneNode`, `SSSkeletonAsset` and the joint matrices that the recursions over the bones write
(`SSSkeletonAsset.cpp`). A recursion over the child lists is `IndexTree.descend`: it runs along the
children with the transform of the parent, and writes one `JOINTMATRIX` for each bone.

* `resetJointBufferRecursive_eq`: on a bone tree the recursion ends, and writes for every bone the
  inverse matrix of its transforms composed up to the root.
-/

namespace FBXRenderer

open SS

/-- `_boneName` is a `FixedStringA<ASSET_NAME_LEN_MAX>`. -/
structure BoneNode (K : Type) where
  _boneName : String
  name_fits : FitsAssetName _boneName
  _transform : Transform K
  _length : K
  _parent : Nat
  _childs : PooledList Nat

structure JOINTMATRIX (K : Type) where
  PosMatrix : XMMATRIX K
  RotMatrix : XMMATRIX K

structure SSSkeletonAsset (K : Type) where
  _assetName : String
  _boneList : PooledList (BoneNode K)

namespace BoneNode

variable {K : Type}

/-- The child lists by bone index. -/
def childs (bones : PooledList (BoneNode K)) (idx : Nat) : List Nat :=
  match bones.data[idx]? with
  | some bone => bone._childs.data
  | none => []

def parent (bones : PooledList (BoneNode K)) (idx : Nat) : Nat :=
  match bones.data[idx]? with
  | some bone => bone._parent
  | none => 0

/-- Child lists and parent indices of the bones are those of one tree, with bone 0 as its root. -/
def IsTree (bones : PooledList (BoneNode K)) : Prop :=
  IndexTree.IsTree bones.getSize (childs bones) (parent bones)

theorem childs_of_get {bones : PooledList (BoneNode K)} {idx : Nat} {bone : BoneNode K}
    (h : bones.data[idx]? = some bone) : childs bones idx = bone._childs.data := by
  unfold childs
  rw [h]

theorem parent_of_get {bones : PooledList (BoneNode K)} {idx : Nat} {bone : BoneNode K}
    (h : bones.data[idx]? = some bone) : parent bones idx = bone._parent := by
  unfold parent
  rw [h]

end BoneNode

section Shape

variable {K J : Type}

/-- The shared shape of the recursions over a bone list: `this` makes a bone's transform from its
index and its parent's transform, `write` is what is stored for it. -/
def jointBufferRecursive (bones : PooledList (BoneNode K))
    (this : Nat → Transform K → Option (Transform K)) (write : Transform K → J) :
    Nat → (Nat → J) → Transform K → Nat → Option (Nat → J) :=
  IndexTree.descend (fun idx => (bones.get idx).map (·._childs.data)) this write

/-- On a tree the recursion started at bone 0 ends and fills the entries of the bones. -/
theorem jointBufferRecursive_eq {bones : PooledList (BoneNode K)} (htree : BoneNode.IsTree bones)
    {this : Nat → Transform K → Option (Transform K)} {step : Nat → Transform K → Transform K}
    (hthis : ∀ i, i < bones.getSize → ∀ t, this i t = some (step i t))
    (write : Transform K → J) (root : Transform K) (joints : Nat → J) :
    ∃ joints', jointBufferRecursive bones this write bones.getSize joints root 0 = some joints' ∧
      (∀ i, i < bones.getSize →
        joints' i = write (IndexTree.chain (BoneNode.parent bones) step root i)) ∧
      ∀ i, bones.getSize ≤ i → joints' i = joints i := by
  refine IndexTree.descend_root htree ?_ hthis write root joints (Nat.le_refl _)
  intro i hi
  have hget : bones.data[i]? = some bones.data[i] := List.getElem?_eq_getElem hi
  rw [PooledList.get_eq, hget, BoneNode.childs_of_get hget]
  rfl

end Shape

section Recursion

variable {K : Type} [Field K] (dx : DirectXMath K)

/-- `bones[idx]._transform * parentTransform`. -/
def boneTransform (bones : PooledList (BoneNode K)) (idx : Nat) (parentTransform : Transform K) :
    Option (Transform K) :=
  (bones.get idx).map fun bone => bone._transform.mul dx parentTransform

/-- The transforms of a bone and of the bones above it, composed. -/
def bindPose (bones : PooledList (BoneNode K)) (idx : Nat) : Transform K :=
  IndexTree.chain (BoneNode.parent bones)
    (fun i t => ((boneTransform dx bones i t).getD t)) Transform.Identity idx

namespace SSSkeletonAsset

def resetJointBufferRecursive (joints : Nat → JOINTMATRIX K) (bones : PooledList (BoneNode K))
    (parentTransform : Transform K) (idx : Nat) : Option (Nat → JOINTMATRIX K) :=
  jointBufferRecursive bones (boneTransform dx bones)
    (fun thisTransform =>
      { PosMatrix := dx.XMMatrixTranspose (thisTransform.asInverseMatrix dx)
        RotMatrix := dx.XMMatrixTranspose (thisTransform.Rotation.asInverseMatrix dx) })
    bones.getSize joints parentTransform idx

/-- The store into the mapped buffer `dataPtr`; the device calls before it succeeded. -/
def instantiateGPUBuffer (skeleton : SSSkeletonAsset K) (dataPtr : Nat → JOINTMATRIX K) :
    Option (Nat → JOINTMATRIX K) :=
  resetJointBufferRecursive dx dataPtr skeleton._boneList Transform.Identity 0

end SSSkeletonAsset

variable {dx}

theorem boneTransform_eq {bones : PooledList (BoneNode K)} {idx : Nat} {bone : BoneNode K}
    (h : bones.data[idx]? = some bone) (t : Transform K) :
    boneTransform dx bones idx t = some (bone._transform.mul dx t) := by
  unfold boneTransform
  rw [PooledList.get_eq, h]
  rfl

/-- On a tree every bone is found, so its transform is the stored one in its parent's frame. -/
theorem boneTransform_getD (dx : DirectXMath K) {bones : PooledList (BoneNode K)} {i : Nat}
    (hi : i < bones.getSize) (t : Transform K) :
    boneTransform dx bones i t = some ((boneTransform dx bones i t).getD t) := by
  rw [boneTransform_eq (List.getElem?_eq_getElem hi)]
  rfl

namespace SSSkeletonAsset

theorem instantiateGPUBuffer_eq (dx : DirectXMath K) (skeleton : SSSkeletonAsset K)
    (htree : BoneNode.IsTree skeleton._boneList) (dataPtr : Nat → JOINTMATRIX K) :
    ∃ joints, skeleton.instantiateGPUBuffer dx dataPtr = some joints ∧
      (∀ i, i < skeleton._boneList.getSize → (joints i).PosMatrix =
        dx.XMMatrixTranspose ((bindPose dx skeleton._boneList i).asInverseMatrix dx)) ∧
      ∀ i, skeleton._boneList.getSize ≤ i → joints i = dataPtr i := by
  obtain ⟨joints, hrun, hin, hout⟩ := jointBufferRecursive_eq htree
    (fun i hi t => boneTransform_getD dx hi t) _ Transform.Identity dataPtr
  exact ⟨joints, hrun, fun i hi => by rw [hin i hi]; rfl, hout⟩

end SSSkeletonAsset

end Recursion

end FBXRenderer
