import FBXRenderer.Asset.BindPose
import FBXRenderer.Importer.SkeletonNodes

/-!
# FBXRenderer.Asset.JointWrites

The stores of the three recursions that fill a mapped joint buffer: `ResetJointBufferRecursive` of
both assets and `UpdateJointBufferRecursive`. Termination and coverage rest on the bone list alone,
so they are one lemma about `jointBufferRecursive`.

* `JointsFilled`: the recursion ends, meets every bone once, and so stores every entry once.
* `jointBufferRecursive_filled`: this holds on every bone list that the importer makes, whatever is
  computed at a bone.
* `joint_buffers_filled`: the three recursions, and what the two resets compute.
-/

namespace FBXRenderer

open SS PreorderList

section Filled

variable {K J : Type}

/-- From bone 0 the recursion ends with the stores of its visits `log`, the visits are the bones in
the order of the list, and entry `i` is what was made for bone `i`, whatever it held before. -/
structure JointsFilled [Field K] (bones : PooledList (BoneNode K))
    (this : Nat → Transform K → Option (Transform K)) (write : Transform K → J)
    (run : (Nat → J) → Option (Nat → J)) (log : List (Nat × Transform K)) : Prop where
  visits : IndexTree.visits (fun idx => (bones.get idx).map (·._childs.data)) this bones.getSize
    Transform.Identity 0 = some log
  once : log.map Prod.fst = List.range bones.getSize
  stores : ∀ joints, run joints = some (IndexTree.replay write joints log)
  filled : ∀ joints, ∀ v ∈ log, IndexTree.replay write joints log v.1 = write v.2
  outside : ∀ joints i, bones.getSize ≤ i → IndexTree.replay write joints log i = joints i

theorem childs_boneEntries (bones : PooledList (BoneNode K)) :
    (fun idx => (bones.get idx).map (·._childs.data)) =
      fun idx => ((boneEntries bones)[idx]?).map Entry.childs := by
  funext idx
  unfold boneEntries
  rw [PooledList.get_eq, List.getElem?_map, Option.map_map]
  rfl

variable [Field K]

/-- A recursion over an imported bone list, with a transform for every bone. -/
theorem jointBufferRecursive_filled {root : FbxNode K} {bones : PooledList (BoneNode K)}
    (hlayout : boneEntries bones = layout 0 none (nodeTree root))
    {this : Nat → Transform K → Option (Transform K)}
    (hthis : ∀ i, i < bones.getSize → ∀ t, ∃ t', this i t = some t') (write : Transform K → J) :
    ∃ log, JointsFilled bones this write (fun joints =>
      jointBufferRecursive bones this write bones.getSize joints Transform.Identity 0) log := by
  have hsize : size (nodeTree root) = bones.getSize := by
    rw [← boneEntries_length, hlayout, layout_length]
  have hstands : Stands (boneEntries bones) 0 (layout 0 none (nodeTree root)) := by
    rw [hlayout]
    exact stands_suffix [] _
  have hvisit : ∀ i, 0 ≤ i → i < 0 + size (nodeTree root) → ∀ t, ∃ t', this i t = some t' :=
    fun i _ hi => hthis i (by omega)
  obtain ⟨log, hlog, honce⟩ := visits_layout (nodeTree root) 0 none bones.getSize
    Transform.Identity hstands hsize.le hvisit
  rw [hsize, ← List.range_eq_range'] at honce
  rw [← childs_boneEntries] at hlog
  have hnodup : (log.map Prod.fst).Nodup := by
    rw [honce]
    exact List.nodup_range
  refine ⟨log, hlog, honce, fun joints => ?_, fun joints v hv => ?_, fun joints i hi => ?_⟩
  · unfold jointBufferRecursive
    rw [IndexTree.descend_eq_visits, hlog]
    rfl
  · exact IndexTree.replay_of_mem write joints hnodup hv
  · refine IndexTree.replay_of_not_mem write joints ?_
    rw [honce, List.mem_range]
    omega

end Filled

section Imported

variable {K : Type} [Field K]

/-- A bone list that the recursion made is laid out as the tree of its root, and is a tree. -/
theorem importBoneToSkeletonRecursion_layout {root : FbxNode K} {bones : PooledList (BoneNode K)}
    (hsize : root.nodes.length ≤ 65535)
    (h : importBoneToSkeletonRecursion (PooledList.new (findFbxNodeWholeChildCnt root)) root 65535 =
      some bones) :
    boneEntries bones = layout 0 none (nodeTree root) ∧ BoneNode.IsTree bones := by
  obtain ⟨hbones, _, _⟩ := importBoneToSkeletonRecursion_made root _ _ _ h
  obtain ⟨boneList, hrun, hlayout, _⟩ := importBoneToSkeletonRecursion_root hbones hsize
  have hcount : findFbxNodeWholeChildCnt root = root.nodes.length := by
    rw [findFbxNodeWholeChildCnt_eq, toUint32_natCast (by omega)]
  have hok := importBoneToSkeletonRecursion_some root _ bones 65535
    (by rw [PooledList.new_capacity]; omega) (Or.inl ⟨rfl, rfl⟩) (fun hne => absurd rfl hne) h
  rw [hcount, hrun] at h
  cases h
  exact ⟨hlayout, hok.ok.isTree⟩

/-- In a reset the transform made for a bone is its bind pose. -/
theorem visits_bindPose (dx : DirectXMath K) {bones : PooledList (BoneNode K)}
    (htree : BoneNode.IsTree bones) {log : List (Nat × Transform K)}
    (h : IndexTree.visits (fun idx => (bones.get idx).map (·._childs.data)) (boneTransform dx bones)
      bones.getSize Transform.Identity 0 = some log) :
    ∀ v ∈ log, v.2 = bindPose dx bones v.1 := by
  unfold bindPose
  refine IndexTree.visits_values htree (fun i hi => ?_) (fun i hi t => boneTransform_getD dx hi t)
    Transform.Identity bones.getSize 0 Transform.Identity log htree.nonempty
    (IndexTree.chain_root (fun i t => (boneTransform dx bones i t).getD t) _).symm h
  have hget : bones.data[i]? = some bones.data[i] := List.getElem?_eq_getElem hi
  rw [PooledList.get_eq, hget, BoneNode.childs_of_get hget]
  rfl

/-- The transforms composed along the parents, one bone at a time. -/
theorem bindPose_composed (dx : DirectXMath K) {bones : PooledList (BoneNode K)}
    (htree : BoneNode.IsTree bones) {i : Nat} {bone : BoneNode K}
    (hbone : bones.data[i]? = some bone) :
    bindPose dx bones i = bone._transform.mul dx
      (if i = 0 then Transform.Identity else bindPose dx bones bone._parent) := by
  obtain ⟨hi, hget⟩ := List.getElem?_eq_some_iff.mp hbone
  rw [bindPose_eq htree hi, hget, ← BoneNode.parent_of_get hbone]
  rfl

/-- What `SSSkeletonAsset` stores for a bone. -/
def inverseJointMatrix (dx : DirectXMath K) (thisTransform : Transform K) : JOINTMATRIX K where
  PosMatrix := dx.XMMatrixTranspose (thisTransform.asInverseMatrix dx)
  RotMatrix := dx.XMMatrixTranspose (thisTransform.Rotation.asInverseMatrix dx)

theorem blendTransform_isSome (dx : DirectXMath K)
    {transformBlendList1 transformBlendList2 : Nat → Option (Transform K)} {idx : Nat}
    (h1 : (transformBlendList1 idx).isSome) (h2 : (transformBlendList2 idx).isSome) (alpha : K)
    (t : Transform K) : ∃ t', SSSkeletonAnimAsset.blendTransform dx transformBlendList1
      transformBlendList2 alpha idx t = some t' := by
  obtain ⟨t1, h1⟩ := Option.isSome_iff_exists.mp h1
  obtain ⟨t2, h2⟩ := Option.isSome_iff_exists.mp h2
  unfold SSSkeletonAnimAsset.blendTransform
  simp only [h1, h2, Option.bind_eq_bind, Option.bind_some, Option.some_inj, exists_eq']

/-- The three recursions, started at bone 0, fill their buffers; the transforms of the two resets
are the bind poses, and these are the bones' transforms composed along their parents. For the
update, both frames have an entry for every bone. -/
structure JointBuffersFilled (dx : DirectXMath K) (bones : PooledList (BoneNode K)) : Prop where
  reset : ∃ log, JointsFilled bones (boneTransform dx bones) (inverseJointMatrix dx)
      (fun joints => SSSkeletonAsset.resetJointBufferRecursive dx joints bones
        Transform.Identity 0) log ∧
    ∀ v ∈ log, v.2 = bindPose dx bones v.1
  animReset : ∃ log, JointsFilled bones (boneTransform dx bones)
      (SSSkeletonAnimAsset.jointMatrix dx)
      (fun joints => SSSkeletonAnimAsset.resetJointBufferRecursive dx joints bones
        Transform.Identity 0) log ∧
    ∀ v ∈ log, v.2 = bindPose dx bones v.1
  update : ∀ (transformBlendList1 transformBlendList2 : Nat → Option (Transform K)) (alpha : K),
    (∀ i, i < bones.getSize →
      (transformBlendList1 i).isSome ∧ (transformBlendList2 i).isSome) →
    ∃ log, JointsFilled bones
      (SSSkeletonAnimAsset.blendTransform dx transformBlendList1 transformBlendList2 alpha)
      (SSSkeletonAnimAsset.jointMatrix dx)
      (fun joints => SSSkeletonAnimAsset.updateJointBufferRecursive dx
        (SSSkeletonAnimAsset.jointMatrix dx) joints bones transformBlendList1
        transformBlendList2 Transform.Identity 0 alpha) log
  composed : ∀ i bone, bones.data[i]? = some bone → bindPose dx bones i =
    bone._transform.mul dx
      (if i = 0 then Transform.Identity else bindPose dx bones bone._parent)

/-- On the bones imported from a tree of at most 65535 nodes every entry of a joint buffer is
stored exactly once. -/
theorem joint_buffers_filled (dx : DirectXMath K) {root : FbxNode K}
    {bones : PooledList (BoneNode K)} (hsize : root.nodes.length ≤ 65535)
    (h : importBoneToSkeletonRecursion (PooledList.new (findFbxNodeWholeChildCnt root)) root 65535 =
      some bones) : bones.getSize = root.nodes.length ∧ JointBuffersFilled dx bones := by
  obtain ⟨hlayout, htree⟩ := importBoneToSkeletonRecursion_layout hsize h
  have hbones : ∀ i, i < bones.getSize → ∀ t, ∃ t', boneTransform dx bones i t = some t' :=
    fun i hi t => ⟨_, boneTransform_getD dx hi t⟩
  refine ⟨?_, ?_, ?_, ?_, ?_⟩
  · rw [← boneEntries_length, hlayout, layout_length, size_nodeTree]
  · obtain ⟨log, hlog⟩ := jointBufferRecursive_filled hlayout hbones (inverseJointMatrix dx)
    exact ⟨log, hlog, visits_bindPose dx htree hlog.visits⟩
  · obtain ⟨log, hlog⟩ := jointBufferRecursive_filled hlayout hbones
      (SSSkeletonAnimAsset.jointMatrix dx)
    exact ⟨log, hlog, visits_bindPose dx htree hlog.visits⟩
  · intro list1 list2 alpha hlists
    exact jointBufferRecursive_filled hlayout
      (fun i hi t => blendTransform_isSome dx (hlists i hi).1 (hlists i hi).2 alpha t) _
  · exact fun i bone hbone => bindPose_composed dx htree hbone

theorem joint_buffers_filled_hand : ∃ bones,
    importBoneToSkeletonRecursion (PooledList.new (findFbxNodeWholeChildCnt handNode)) handNode
      65535 = some bones ∧
    bones.getSize = handNode.nodes.length ∧
      JointBuffersFilled (DirectXMath.exact ℚ) bones := by
  obtain ⟨bones, hrun, _⟩ := importBoneToSkeletonRecursion_root handNode_makesBones (by decide)
  exact ⟨bones, hrun, joint_buffers_filled _ (by decide) hrun⟩

end Imported

end FBXRenderer
