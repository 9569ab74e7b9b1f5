import FBXRenderer.Asset.SkeletonAnim
import FBXRenderer.Importer.ImportSkeleton

/-!
# FBXRenderer.Asset.BindPose

The inverse bind matrices of a skeleton against its bind-pose joint matrices. `AsInverseMatrix`
ends with the scaling itself where the inverse of `AsMatrix` has the inverse scaling, so at every
bone the composed scale is applied twice.

* `bind_pose_iff`: the two matrices of a bone multiply to the identity exactly when every component
  of its composed scale has square 1, and they do so at all bones exactly when every bone's own
  scale has that property.
-/

namespace FBXRenderer

open SS Matrix

section Scale

variable {K : Type} [Field K]

/-- Every component that scales is 1 or -1. -/
def UnitScale (s : Vector4f K) : Prop := s.X ^ 2 = 1 ∧ s.Y ^ 2 = 1 ∧ s.Z ^ 2 = 1

theorem UnitScale.mul_iff {s t : Vector4f K} (ht : UnitScale t) :
    UnitScale (s * t) ↔ UnitScale s := by
  obtain ⟨hx, hy, hz⟩ := ht
  unfold UnitScale
  simp only [Vector4f.mul_X, Vector4f.mul_Y, Vector4f.mul_Z, mul_pow, hx, hy, hz, mul_one]

theorem unitScale_identity : UnitScale (Transform.Identity : Transform K).Scale := by
  simp [UnitScale, Transform.Identity]

/-- As the vertex shader multiplies them: it reads the stored matrices transposed. -/
def bindProduct (inverse joint : JOINTMATRIX K) : XMMATRIX K :=
  inverse.PosMatrixᵀ * joint.PosMatrixᵀ

end Scale

section Pose

variable {K : Type} [Field K] {dx : DirectXMath K} {bones : PooledList (BoneNode K)}

theorem bindPose_eq (htree : BoneNode.IsTree bones) {i : Nat} (hi : i < bones.getSize) :
    bindPose dx bones i = bones.data[i]._transform.mul dx
      (IndexTree.handed (BoneNode.parent bones)
        (fun i t => (boneTransform dx bones i t).getD t) Transform.Identity i) := by
  unfold bindPose
  rw [IndexTree.chain_eq_step htree _ _ hi, boneTransform_eq (List.getElem?_eq_getElem hi)]
  rfl

theorem bindPose_isUnit (hdx : dx.Lawful) (htree : BoneNode.IsTree bones)
    (hunit : ∀ bone ∈ bones.data, bone._transform.Rotation.IsUnit) :
    ∀ i, i < bones.getSize → (bindPose dx bones i).Rotation.IsUnit := by
  refine IndexTree.chain_invariant htree (P := fun t : Transform K => t.Rotation.IsUnit)
    Quaternion.one_isUnit ?_
  intro i hi t ht
  rw [boneTransform_eq (List.getElem?_eq_getElem hi), Option.getD_some, Transform.mul_Rotation]
  exact hdx.quaternionMultiply _ _ (hunit _ (List.getElem_mem hi)) ht

/-- The composed scale of every bone is unit exactly when every bone's own scale is. -/
theorem unitScale_bindPose_iff (dx : DirectXMath K) (htree : BoneNode.IsTree bones) :
    (∀ i, i < bones.getSize → UnitScale (bindPose dx bones i).Scale) ↔
      ∀ bone ∈ bones.data, UnitScale bone._transform.Scale := by
  constructor
  · intro h bone hbone
    obtain ⟨i, hi, rfl⟩ := List.mem_iff_getElem.mp hbone
    have hpose := h i hi
    rw [bindPose_eq htree hi, Transform.mul_Scale] at hpose
    refine (UnitScale.mul_iff ?_).mp hpose
    -- the parent's composed scale, or that of the root transform
    unfold IndexTree.handed
    split
    · exact unitScale_identity
    · rename_i h0
      exact h _ (Nat.lt_trans (htree.parent_lt i (by omega) hi) hi)
  · intro h
    refine IndexTree.chain_invariant htree (P := fun t : Transform K => UnitScale t.Scale)
      unitScale_identity ?_
    intro i hi t ht
    rw [boneTransform_eq (List.getElem?_eq_getElem hi), Option.getD_some, Transform.mul_Scale]
    exact (UnitScale.mul_iff ht).mpr (h _ (List.getElem_mem hi))

theorem SSSkeletonAnimAsset.resetJointBufferState_eq (dx : DirectXMath K)
    (asset : SSSkeletonAnimAsset K)
    (htree : BoneNode.IsTree asset._skeleton._boneList) (dataPtr : Nat → JOINTMATRIX K) :
    ∃ joints, asset.resetJointBufferState dx dataPtr = some joints ∧
      (∀ i, i < asset._skeleton._boneList.getSize →
        joints i = jointMatrix dx (bindPose dx asset._skeleton._boneList i)) ∧
      ∀ i, asset._skeleton._boneList.getSize ≤ i → joints i = dataPtr i :=
  jointBufferRecursive_eq htree (fun _ hi t => boneTransform_getD dx hi t) _ _ _

/-- The two stored matrices of one bone. -/
theorem bindProduct_eq_one_iff (hdx : dx.Lawful) {t : Transform K} (ht : t.Rotation.IsUnit)
    {inverse : JOINTMATRIX K}
    (hinverse : inverse.PosMatrix = dx.XMMatrixTranspose (t.asInverseMatrix dx)) :
    bindProduct inverse (SSSkeletonAnimAsset.jointMatrix dx t) = 1 ↔ UnitScale t.Scale := by
  unfold bindProduct SSSkeletonAnimAsset.jointMatrix UnitScale
  rw [hinverse]
  simp only [hdx.matrixTranspose, Matrix.transpose_transpose]
  exact Transform.asInverseMatrix_mul_asMatrix_eq_one_iff hdx ht

/-- Both buffers of a bone tree with unit rotations. -/
theorem bindProduct_tree (hdx : dx.Lawful) (asset : SSSkeletonAnimAsset K)
    (htree : BoneNode.IsTree asset._skeleton._boneList)
    (hunit : ∀ bone ∈ asset._skeleton._boneList.data, bone._transform.Rotation.IsUnit)
    (dataPtr dataPtr' : Nat → JOINTMATRIX K) :
    ∃ inverse joints, asset._skeleton.instantiateGPUBuffer dx dataPtr = some inverse ∧
      asset.resetJointBufferState dx dataPtr' = some joints ∧
      ∀ i, i < asset._skeleton._boneList.getSize → (bindProduct (inverse i) (joints i) = 1 ↔
        UnitScale (bindPose dx asset._skeleton._boneList i).Scale) := by
  obtain ⟨inverse, hinverse, hpos, _⟩ :=
    asset._skeleton.instantiateGPUBuffer_eq dx htree dataPtr
  obtain ⟨joints, hjoints, hjoint, _⟩ := asset.resetJointBufferState_eq dx htree dataPtr'
  refine ⟨inverse, joints, hinverse, hjoints, fun i hi => ?_⟩
  rw [hjoint i hi]
  exact bindProduct_eq_one_iff hdx (bindPose_isUnit hdx htree hunit i hi) (hpos i hi)

/-- For every imported skeleton with unit rotations: the inverse bind matrix and the bind-pose
joint matrix of a bone multiply to the identity exactly when its composed scale is 1 or -1 on every
axis; at all bones, exactly when every bone's own scale is. -/
theorem bind_pose_iff (hdx : dx.Lawful) {fileName : String} {rootNode : FbxNode K}
    (asset : SSSkeletonAnimAsset K)
    (himport : importCurrentSceneToSkeletonAsset fileName rootNode = some (some asset._skeleton))
    (hunit : ∀ bone ∈ asset._skeleton._boneList.data, bone._transform.Rotation.IsUnit)
    (dataPtr dataPtr' : Nat → JOINTMATRIX K) :
    ∃ inverse joints, asset._skeleton.instantiateGPUBuffer dx dataPtr = some inverse ∧
      asset.resetJointBufferState dx dataPtr' = some joints ∧
      (∀ i, i < asset._skeleton._boneList.getSize → (bindProduct (inverse i) (joints i) = 1 ↔
        UnitScale (bindPose dx asset._skeleton._boneList i).Scale)) ∧
      ((∀ i, i < asset._skeleton._boneList.getSize → bindProduct (inverse i) (joints i) = 1) ↔
        ∀ bone ∈ asset._skeleton._boneList.data, UnitScale bone._transform.Scale) := by
  have htree := (importCurrentSceneToSkeletonAsset_ok himport).isTree
  obtain ⟨inverse, joints, hinverse, hjoints, hiff⟩ :=
    bindProduct_tree hdx asset htree hunit dataPtr dataPtr'
  refine ⟨inverse, joints, hinverse, hjoints, hiff, ?_⟩
  rw [← unitScale_bindPose_iff dx htree]
  exact forall₂_congr hiff

end Pose

section TwoBones

def legAnim : SSSkeletonAnimAsset ℚ where
  _assetName := "leg.ska"
  _skeleton := legSkeleton
  _animStack := PooledList.new 0
  _frameCnt := 0
  _framePerSec := 24

theorem leg_isUnit : ∀ bone ∈ legSkeleton._boneList.data, bone._transform.Rotation.IsUnit := by
  intro bone hbone
  simp only [legSkeleton, PooledList.ofList, List.mem_cons, List.not_mem_nil, or_false] at hbone
  rcases hbone with rfl | rfl
  · norm_num [extractTransformFromNode, hipNode, Quaternion.IsUnit]
  · norm_num [extractTransformFromNode, kneeNode, Quaternion.IsUnit]

theorem bind_pose_iff_leg :
    ∃ inverse joints,
      legAnim._skeleton.instantiateGPUBuffer (DirectXMath.exact ℚ) (fun _ => ⟨0, 0⟩) =
        some inverse ∧
      legAnim.resetJointBufferState (DirectXMath.exact ℚ) (fun _ => ⟨0, 0⟩) = some joints ∧
      (∀ i, i < legAnim._skeleton._boneList.getSize →
        (bindProduct (inverse i) (joints i) = 1 ↔
          UnitScale (bindPose (DirectXMath.exact ℚ) legAnim._skeleton._boneList i).Scale)) ∧
      ((∀ i, i < legAnim._skeleton._boneList.getSize → bindProduct (inverse i) (joints i) = 1) ↔
        ∀ bone ∈ legAnim._skeleton._boneList.data, UnitScale bone._transform.Scale) :=
  bind_pose_iff DirectXMath.exact_lawful legAnim leg_imported leg_isUnit _ _

end TwoBones

section OneBone

def oneBoneAnim (S : Fin 3 → ℚ) : SSSkeletonAnimAsset ℚ where
  _assetName := "a.ska"
  _skeleton := oneBoneSkeleton S
  _animStack := PooledList.new 0
  _frameCnt := 0
  _framePerSec := 24

theorem oneBone_isUnit (S : Fin 3 → ℚ) :
    ∀ bone ∈ (oneBoneAnim S)._skeleton._boneList.data, bone._transform.Rotation.IsUnit := by
  intro bone hbone
  obtain rfl := List.mem_singleton.mp hbone
  simp [extractTransformFromNode, oneBoneScene, Quaternion.one, Quaternion.IsUnit]

/-- A bone scaled by 2 along one axis: the product of its two matrices is not the identity. -/
theorem scaled_bone_not_identity :
    importCurrentSceneToSkeletonAsset "a" (oneBoneScene ![2, 1, 1]) =
      some (some (oneBoneAnim ![2, 1, 1])._skeleton) ∧
    (∀ bone ∈ (oneBoneAnim ![2, 1, 1])._skeleton._boneList.data,
      bone._transform.Rotation.IsUnit ∧ bone._transform.Position.W = 0 ∧
        bone._transform.Scale.X ≠ 0 ∧ bone._transform.Scale.Y ≠ 0 ∧
        bone._transform.Scale.Z ≠ 0) ∧
    ∃ inverse joints,
      (oneBoneAnim ![2, 1, 1])._skeleton.instantiateGPUBuffer (DirectXMath.exact ℚ)
        (fun _ => ⟨0, 0⟩) = some inverse ∧
      (oneBoneAnim ![2, 1, 1]).resetJointBufferState (DirectXMath.exact ℚ)
        (fun _ => ⟨0, 0⟩) = some joints ∧ bindProduct (inverse 0) (joints 0) ≠ 1 := by
  have htree : BoneNode.IsTree (oneBoneAnim ![2, 1, 1])._skeleton._boneList :=
    (importCurrentSceneToSkeletonAsset_ok (oneBone_imported _)).isTree
  obtain ⟨inverse, joints, hinverse, hjoints, hiff⟩ := bindProduct_tree DirectXMath.exact_lawful
    (oneBoneAnim ![2, 1, 1]) htree (oneBone_isUnit _) (fun _ => ⟨0, 0⟩) (fun _ => ⟨0, 0⟩)
  refine ⟨oneBone_imported _, ?_, inverse, joints, hinverse, hjoints, ?_⟩
  · intro bone hbone
    refine ⟨oneBone_isUnit _ bone hbone, ?_⟩
    obtain rfl := List.mem_singleton.mp hbone
    exact ⟨rfl, two_ne_zero, one_ne_zero, one_ne_zero⟩
  · rw [Ne, hiff 0 Nat.one_pos, bindPose_eq htree Nat.one_pos]
    intro h
    -- the composed scale of the root is its own
    have hx : (2 * 1 : ℚ) ^ 2 = 1 := h.1
    norm_num at hx

end OneBone

end FBXRenderer
