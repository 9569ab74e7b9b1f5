import Mathlib
import FBXRenderer.Asset.JointWrites
import FBXRenderer.Asset.KeyPose
import FBXRenderer.Asset.ShaderAsset
import FBXRenderer.Engine.TransformAlgebra
import FBXRenderer.Importer.SkinVertices
import FBXRenderer.Lib.LinearBlend

/-!
# FBXRenderer.Engine.VertexShader

The vertex shader of `SSDefaultPbr.fxh`, with and without `ENABLE_SKINNING`, on the joint buffers
that the assets write, in exact arithmetic. The matrices of a buffer are read column by column, so the shader sees the
transposed ones; a read behind the end of a buffer gives 0. A vertex comes through the input layout
that `CompileShader` makes.

* `skinned_vertex_blends`: at any time of an animation the shader computes the linear blend of the
  sampled pose over the inverses of the bind pose.
* `skinned_bind_pose_plain`: in the bind pose it draws an imported mesh as the plain shader does,
  but for the weights that the import lost.
-/

namespace FBXRenderer

open SS Matrix

section Definitions

variable {K : Type}

structure VS_INPUT (K : Type) where
  Pos : XMVECTOR K
  Normal : XMVECTOR K
  Tangent : XMVECTOR K
  UV0 : Vector2f K
  UV1 : Vector2f K
  jointIndices : Fin VERTEX_SKINNING_BONE_COUNT_MAX → Nat
  jointWeights : Fin VERTEX_SKINNING_BONE_COUNT_MAX → K

structure PS_INPUT (K : Type) where
  Pos : XMVECTOR K
  Normal : Fin 3 → K
  Tangent : XMVECTOR K
  UV0 : Vector2f K
  UV1 : Vector2f K
  WorldPos : Fin 3 → K

/-- The constant buffers, as the shader reads them. -/
structure VSConstants (K : Type) where
  WMatrix : XMMATRIX K
  RotMatrix : XMMATRIX K
  VPMatrix : XMMATRIX K

/-- A bound view of a joint buffer. -/
structure JointView (K : Type) where
  NumElements : Nat
  buffer : Nat → JOINTMATRIX K

def INVALID_IDX : Nat := 2 ^ 32 - 1

/-- The cast of a `float4` to a `float3`. -/
def float3 (v : XMVECTOR K) : Fin 3 → K := fun i => v i.castSucc

variable [Field K]

def JointView.read (view : JointView K) (i : Nat) : JOINTMATRIX K :=
  if i < view.NumElements then
    { PosMatrix := (view.buffer i).PosMatrixᵀ, RotMatrix := (view.buffer i).RotMatrixᵀ }
  else { PosMatrix := 0, RotMatrix := 0 }

/-- The two loops over the bones of a vertex: each adds something up until a bone is missing. -/
def jointLoop {A : Type} [Add A] (jointIndices : Fin VERTEX_SKINNING_BONE_COUNT_MAX → Nat)
    (item : Fin VERTEX_SKINNING_BONE_COUNT_MAX → A) :
    List (Fin VERTEX_SKINNING_BONE_COUNT_MAX) → A → A
  | [], acc => acc
  | i :: rest, acc =>
    if jointIndices i = INVALID_IDX then acc
    else jointLoop jointIndices item rest (acc + item i)

/-- The block of `ENABLE_SKINNING`. -/
def skinning (SkeletonJointInverse CurrentJoint : JointView K) (input : VS_INPUT K) :
    VS_INPUT K :=
  let PosAcc := jointLoop input.jointIndices (fun i =>
    input.jointWeights i •
      (input.Pos ᵥ* (SkeletonJointInverse.read (input.jointIndices i)).PosMatrix ᵥ*
        (CurrentJoint.read (input.jointIndices i)).PosMatrix)) (List.finRange _) 0
  let skinRotMat := jointLoop input.jointIndices (fun i =>
    input.jointWeights i •
      ((SkeletonJointInverse.read (input.jointIndices i)).RotMatrix *
        (CurrentJoint.read (input.jointIndices i)).RotMatrix)) (List.finRange _) 0
  { input with
    Pos := PosAcc
    Normal := input.Normal ᵥ* skinRotMat
    Tangent := input.Tangent ᵥ* skinRotMat }

/-- `VS` without `ENABLE_SKINNING`. -/
def VS (cb : VSConstants K) (input : VS_INPUT K) : PS_INPUT K where
  Pos := input.Pos ᵥ* cb.WMatrix ᵥ* cb.VPMatrix
  Normal := float3 (input.Normal ᵥ* cb.RotMatrix)
  Tangent := input.Tangent ᵥ* cb.RotMatrix
  UV0 := input.UV0
  UV1 := input.UV1
  WorldPos := float3 (input.Pos ᵥ* cb.WMatrix)

/-- `VS` with `ENABLE_SKINNING`. -/
def skinnedVS (SkeletonJointInverse CurrentJoint : JointView K) (cb : VSConstants K)
    (input : VS_INPUT K) : PS_INPUT K :=
  VS cb (skinning SkeletonJointInverse CurrentJoint input)

theorem uv0_lt : 0 < VERTEX_UV_MAP_COUNT_MAX := by decide

theorem uv1_lt : 1 < VERTEX_UV_MAP_COUNT_MAX := by decide

/-- A vertex element as the input assembler hands it to a `float4`: of a format with three
components the fourth is left out, and the shader gets 1 for it. -/
def DXGI_FORMAT.assemble : DXGI_FORMAT → XMVECTOR K → XMVECTOR K
  | .R32G32B32_FLOAT, element => Fin.snoc (float3 element) 1
  | _, element => element

/-- The format that `CompileShader` gives to a `float4` of this name. -/
def float4Format (SemanticName : String) : DXGI_FORMAT :=
  (D3DShaderAsset.elementFormat ⟨SemanticName, 0, 15, .FLOAT32⟩ .UNKNOWN).1

/-- What the input assembler reads of a vertex. The plain layout has no joints. -/
def VS_INPUT.ofDefaultVertex (vertex : SSDefaultVertex K) : VS_INPUT K where
  Pos := (float4Format "POSITION").assemble vertex.Pos.SimdVec
  Normal := (float4Format "NORMAL").assemble vertex.Normal.SimdVec
  Tangent := (float4Format "TANGENT").assemble vertex.Tangent.SimdVec
  UV0 := vertex.Uv ⟨0, uv0_lt⟩
  UV1 := vertex.Uv ⟨1, uv1_lt⟩
  jointIndices _ := INVALID_IDX
  jointWeights _ := 0

/-- The skinned layout goes on with the joints. -/
def VS_INPUT.ofVertex (vertex : SSSkinnedVertex K) : VS_INPUT K :=
  { ofDefaultVertex vertex.toSSDefaultVertex with
    jointIndices := vertex.BoneIdx
    jointWeights := vertex.Weight }

/-- Whatever the fourth component of a position is in the buffer, the shader gets 1. -/
theorem VS_INPUT.ofDefaultVertex_Pos (vertex : SSDefaultVertex K) :
    (ofDefaultVertex vertex).Pos = Fin.snoc (float3 vertex.Pos.SimdVec) 1 := rfl

end Definitions

section Loop

variable {K : Type}

/-- The bones of a vertex up to the first that is missing. -/
def usedSlots (input : VS_INPUT K) : List (Fin VERTEX_SKINNING_BONE_COUNT_MAX) :=
  (List.finRange _).takeWhile fun i => input.jointIndices i ≠ INVALID_IDX

theorem used_of_mem {input : VS_INPUT K} {i : Fin VERTEX_SKINNING_BONE_COUNT_MAX}
    (hi : i ∈ usedSlots input) : input.jointIndices i ≠ INVALID_IDX := by
  unfold usedSlots at hi
  have hslot := List.mem_takeWhile_imp hi
  simpa using hslot

theorem jointLoop_eq {A : Type} [AddMonoid A]
    (jointIndices : Fin VERTEX_SKINNING_BONE_COUNT_MAX → Nat)
    (item : Fin VERTEX_SKINNING_BONE_COUNT_MAX → A)
    (slots : List (Fin VERTEX_SKINNING_BONE_COUNT_MAX)) : ∀ acc : A,
    jointLoop jointIndices item slots acc =
      acc + ((slots.takeWhile fun i => jointIndices i ≠ INVALID_IDX).map item).sum := by
  induction slots with
  | nil => intro acc; simp [jointLoop]
  | cons i rest ih =>
    intro acc
    rw [jointLoop]
    by_cases hi : jointIndices i = INVALID_IDX
    · simp [hi]
    · rw [if_neg hi, ih, List.takeWhile_cons_of_pos (by simpa using hi), List.map_cons,
        List.sum_cons, add_assoc]

/-- Every bone that the shader reads for the vertex is in the buffers. -/
def JointsInRange (count : Nat) (input : VS_INPUT K) : Prop :=
  ∀ i ∈ usedSlots input, input.jointIndices i < count

variable [Field K]

/-- The bones of a vertex for the blend of its positions. -/
def posInfluences (inverse joints : Nat → JOINTMATRIX K) (input : VS_INPUT K) :
    List (LinearBlend.Influence (Fin 4) K) :=
  (usedSlots input).map fun i =>
    { weight := input.jointWeights i
      bind := (inverse (input.jointIndices i)).PosMatrixᵀ
      pose := (joints (input.jointIndices i)).PosMatrixᵀ }

def rotInfluences (inverse joints : Nat → JOINTMATRIX K) (input : VS_INPUT K) :
    List (LinearBlend.Influence (Fin 4) K) :=
  (usedSlots input).map fun i =>
    { weight := input.jointWeights i
      bind := (inverse (input.jointIndices i)).RotMatrixᵀ
      pose := (joints (input.jointIndices i)).RotMatrixᵀ }

/-- The shader's block is a linear blend of positions, and one of directions. -/
theorem skinning_eq {count : Nat} {inverse joints : Nat → JOINTMATRIX K} {input : VS_INPUT K}
    (hrange : JointsInRange count input) :
    skinning ⟨count, inverse⟩ ⟨count, joints⟩ input =
      { input with
        Pos := LinearBlend.blend (posInfluences inverse joints input) input.Pos
        Normal := LinearBlend.blend (rotInfluences inverse joints input) input.Normal
        Tangent := LinearBlend.blend (rotInfluences inverse joints input) input.Tangent } := by
  have hread : ∀ (buffer : Nat → JOINTMATRIX K), ∀ i ∈ usedSlots input,
      (JointView.mk count buffer).read (input.jointIndices i) =
        { PosMatrix := (buffer (input.jointIndices i)).PosMatrixᵀ
          RotMatrix := (buffer (input.jointIndices i)).RotMatrixᵀ } := by
    intro buffer i hi
    exact if_pos (hrange i hi)
  have hpos : LinearBlend.blend (posInfluences inverse joints input) input.Pos =
      ((usedSlots input).map fun i => input.jointWeights i •
        (input.Pos ᵥ* ((JointView.mk count inverse).read (input.jointIndices i)).PosMatrix ᵥ*
          ((JointView.mk count joints).read (input.jointIndices i)).PosMatrix)).sum := by
    unfold LinearBlend.blend posInfluences
    rw [List.map_map]
    refine congrArg List.sum (List.map_congr_left fun i hi => ?_)
    rw [hread inverse i hi, hread joints i hi]
    rfl
  have hrot : LinearBlend.matrix (rotInfluences inverse joints input) =
      ((usedSlots input).map fun i => input.jointWeights i •
        (((JointView.mk count inverse).read (input.jointIndices i)).RotMatrix *
          ((JointView.mk count joints).read (input.jointIndices i)).RotMatrix)).sum := by
    unfold LinearBlend.matrix rotInfluences
    rw [List.map_map]
    refine congrArg List.sum (List.map_congr_left fun i hi => ?_)
    rw [hread inverse i hi, hread joints i hi]
    rfl
  rw [hpos, LinearBlend.blend_eq_matrix, LinearBlend.blend_eq_matrix, hrot]
  unfold skinning
  simp only [jointLoop_eq, zero_add]
  rfl

end Loop

section Pose

variable {K : Type} [Field K] {dx : DirectXMath K} {asset : SSSkeletonAnimAsset K}

/-- Both matrices that the skeleton stores for its bones. -/
theorem instantiateGPUBuffer_joints (dx : DirectXMath K) {skeleton : SSSkeletonAsset K}
    (htree : BoneNode.IsTree skeleton._boneList) (dataPtr : Nat → JOINTMATRIX K) :
    ∃ inverse, skeleton.instantiateGPUBuffer dx dataPtr = some inverse ∧
      ∀ i, i < skeleton._boneList.getSize →
        inverse i = inverseJointMatrix dx (bindPose dx skeleton._boneList i) := by
  obtain ⟨inverse, hrun, hin, _⟩ := jointBufferRecursive_eq htree
    (fun i hi t => boneTransform_getD dx hi t) (inverseJointMatrix dx) Transform.Identity dataPtr
  exact ⟨inverse, hrun, hin⟩

/-- With unit scales the stored inverse is the inverse of the bone's matrix. -/
theorem asInverseMatrix_eq_inv (hdx : dx.Lawful) {t : Transform K} (ht : t.Rotation.IsUnit)
    (hscale : UnitScale t.Scale) : t.asInverseMatrix dx = (t.asMatrix dx)⁻¹ := by
  refine (Matrix.inv_eq_left_inv ?_).symm
  exact (Transform.asInverseMatrix_mul_asMatrix_eq_one_iff hdx ht).mpr hscale

theorem asInverseMatrix_rotation (hdx : dx.Computes) {q : Quaternion K} (hq : q.IsUnit) :
    q.asInverseMatrix dx * q.asMatrix dx = 1 := by
  have hinverse : (DirectXMath.quaternionInverse q).IsUnit := by
    unfold Quaternion.IsUnit at hq ⊢
    simp only [DirectXMath.quaternionInverse, hq, div_one]
    linear_combination hq
  have hone : DirectXMath.rotationQuaternion (Quaternion.one : Quaternion K) = 1 := by
    ext i j
    fin_cases i <;> fin_cases j <;>
      simp [DirectXMath.rotationQuaternion, Quaternion.one]
  unfold Quaternion.asInverseMatrix Quaternion.asMatrix
  rw [hdx.matrixRotationQuaternion, hdx.matrixRotationQuaternion, hdx.quaternionInverse q hq,
    ← DirectXMath.rotationQuaternion_mul hinverse hq, quaternionInverse_mul hq, hone]

section Time

variable [LinearOrder K] [IsStrictOrderedRing K] [FloorRing K]

theorem fmod_mem {x y : K} (hx : 0 ≤ x) (hy : 0 < y) : 0 ≤ fmod x y ∧ fmod x y < y := by
  have hfloor : trunc (x / y) = ⌊x / y⌋ := if_pos (div_nonneg hx hy.le)
  have hmul : y * (x / y) = x := mul_div_cancel₀ x hy.ne'
  have hlow := mul_le_mul_of_nonneg_left (Int.floor_le (x / y)) hy.le
  have hhigh := mul_lt_mul_of_pos_left (Int.lt_floor_add_one (x / y)) hy
  unfold fmod
  rw [hfloor]
  rw [hmul] at hlow hhigh
  rw [mul_add, mul_one] at hhigh
  constructor
  · linarith
  · linarith

/-- The first frame that is read at a time is one of the animation's. -/
theorem frameIdx_lt (hrate : 0 < asset._framePerSec) (hcnt : 0 < asset._frameCnt)
    (hlt : asset._frameCnt < 2 ^ 32) {time : K} (htime : 0 ≤ time) :
    toUint32 (trunc (fmod time asset.getFrameTime / asset.getFrameTimeInterval)) <
      asset._frameCnt := by
  have hfps : (0 : K) < asset._framePerSec := Nat.cast_pos.mpr hrate
  have hframe : (0 : K) < asset.getFrameTime := div_pos (Nat.cast_pos.mpr hcnt) hfps
  obtain ⟨hlow, hhigh⟩ := fmod_mem htime hframe
  have hidx : fmod time asset.getFrameTime / asset.getFrameTimeInterval =
      fmod time asset.getFrameTime * asset._framePerSec := by
    unfold SSSkeletonAnimAsset.getFrameTimeInterval
    rw [one_div, div_inv_eq_mul]
  have hnonneg : 0 ≤ fmod time asset.getFrameTime * (asset._framePerSec : K) :=
    mul_nonneg hlow hfps.le
  have hbound : fmod time asset.getFrameTime * (asset._framePerSec : K) < asset._frameCnt :=
    (lt_div_iff₀ hfps).mp hhigh
  have hfloor : trunc (fmod time asset.getFrameTime * (asset._framePerSec : K)) =
      ((⌊fmod time asset.getFrameTime * (asset._framePerSec : K)⌋.toNat : Nat) : Int) := by
    rw [Int.toNat_of_nonneg (Int.floor_nonneg.mpr hnonneg)]
    exact if_pos hnonneg
  have hnat : ⌊fmod time asset.getFrameTime * (asset._framePerSec : K)⌋.toNat <
      asset._frameCnt := by
    rw [Int.toNat_lt (Int.floor_nonneg.mpr hnonneg), Int.floor_lt]
    exact_mod_cast hbound
  rw [hidx, hfloor, toUint32_natCast (hnat.trans hlt)]
  exact hnat

/-- At any time the update of the joint buffer stores what it computes, and that does not depend on
how it is stored. -/
theorem sampledPose_exists (dx : DirectXMath K)
    (htree : BoneNode.IsTree asset._skeleton._boneList) (hfull : asset.StackFull)
    (hrate : 0 < asset._framePerSec) (hcnt : 0 < asset._frameCnt) {time : K} (htime : 0 ≤ time)
    (dataPtr : Nat → JOINTMATRIX K) :
    ∃ pose joints, asset.sampledPose dx time = some pose ∧
      asset.updateGPUBufferFrameState dx dataPtr time = some joints ∧
      ∀ i, i < asset.boneCnt → joints i = SSSkeletonAnimAsset.jointMatrix dx (pose i) := by
  have hlt : asset._frameCnt < 2 ^ 32 := by
    have hle : 1 * asset._frameCnt ≤ asset.boneCnt * asset._frameCnt :=
      Nat.mul_le_mul_right _ htree.nonempty
    have hlength := hfull.length
    have hsize := hfull.length_lt
    omega
  have hidx := frameIdx_lt hrate hcnt hlt htime
  unfold SSSkeletonAnimAsset.sampledPose SSSkeletonAnimAsset.updateGPUBufferFrameState
    SSSkeletonAnimAsset.updateFrameState SSSkeletonAnimAsset.updateJointBufferRecursive
  simp only
  generalize toUint32 (trunc (fmod time asset.getFrameTime / asset.getFrameTimeInterval)) = idx1
    at hidx ⊢
  generalize fmod (fmod time asset.getFrameTime) asset.getFrameTimeInterval /
    asset.getFrameTimeInterval = alpha
  have hidx2 : (if asset._frameCnt ≤ toUint32 (idx1 + 1 : Nat) then idx1
      else toUint32 (idx1 + 1 : Nat)) < asset._frameCnt := by
    split
    case isTrue => exact hidx
    case isFalse h => exact Nat.lt_of_not_le h
  generalize (if asset._frameCnt ≤ toUint32 (idx1 + 1 : Nat) then idx1
    else toUint32 (idx1 + 1 : Nat)) = idx2 at hidx2 ⊢
  have hthis : ∀ i, i < asset._skeleton._boneList.getSize → ∀ t,
      SSSkeletonAnimAsset.blendTransform dx (asset.blendList idx1) (asset.blendList idx2) alpha
        i t = some ((SSSkeletonAnimAsset.blendTransform dx (asset.blendList idx1)
          (asset.blendList idx2) alpha i t).getD t) := by
    intro i hi t
    have h1 : (asset.blendList idx1 i).isSome := by
      rw [SSSkeletonAnimAsset.blendList_eq hfull hidx hi]
      rfl
    have h2 : (asset.blendList idx2 i).isSome := by
      rw [SSSkeletonAnimAsset.blendList_eq hfull hidx2 hi]
      rfl
    obtain ⟨t', ht'⟩ := blendTransform_isSome dx h1 h2 alpha t
    rw [ht']
    rfl
  obtain ⟨pose, hpose, hposes, _⟩ := jointBufferRecursive_eq htree hthis id Transform.Identity
    fun _ => Transform.Identity
  obtain ⟨joints, hjoints, hstored, _⟩ := jointBufferRecursive_eq htree hthis
    (SSSkeletonAnimAsset.jointMatrix dx) Transform.Identity dataPtr
  refine ⟨pose, joints, hpose, hjoints, fun i hi => ?_⟩
  rw [hstored i hi, hposes i hi]
  rfl

/-- For every imported skeleton whose bones are not scaled, every full animation stack and every
time: what the skinning shader computes from the two buffers is the linear blend of the sampled pose
over the inverses of the bind pose, and the world and the view move the blend as they would move the
bones. -/
theorem skinned_vertex_blends (hdx : dx.Lawful) {fileName : String} {rootNode : FbxNode K}
    (himport : importCurrentSceneToSkeletonAsset fileName rootNode = some (some asset._skeleton))
    (hunit : ∀ bone ∈ asset._skeleton._boneList.data, bone._transform.Rotation.IsUnit)
    (hscale : ∀ bone ∈ asset._skeleton._boneList.data, UnitScale bone._transform.Scale)
    (hfull : asset.StackFull) (hrate : 0 < asset._framePerSec) (hcnt : 0 < asset._frameCnt)
    {time : K} (htime : 0 ≤ time) (dataPtr dataPtr' : Nat → JOINTMATRIX K) :
    ∃ inverse joints pose, asset._skeleton.instantiateGPUBuffer dx dataPtr = some inverse ∧
      asset.updateGPUBufferFrameState dx dataPtr' time = some joints ∧
      asset.sampledPose dx time = some pose ∧
      ∀ (cb : VSConstants K) (input : VS_INPUT K), JointsInRange asset.boneCnt input →
        let bones := (usedSlots input).map fun i =>
          { weight := input.jointWeights i
            bind := ((bindPose dx asset._skeleton._boneList
              (input.jointIndices i)).asMatrix dx)⁻¹
            pose := (pose (input.jointIndices i)).asMatrix dx : LinearBlend.Influence (Fin 4) K }
        let output := skinnedVS ⟨asset.boneCnt, inverse⟩ ⟨asset.boneCnt, joints⟩ cb input
        output.WorldPos =
            float3 (LinearBlend.blend (LinearBlend.moved bones cb.WMatrix) input.Pos) ∧
          output.Pos = LinearBlend.blend
            (LinearBlend.moved (LinearBlend.moved bones cb.WMatrix) cb.VPMatrix) input.Pos := by
  have htree := (importCurrentSceneToSkeletonAsset_ok himport).isTree
  obtain ⟨inverse, hinverse, hinv⟩ := instantiateGPUBuffer_joints dx htree dataPtr
  obtain ⟨pose, joints, hpose, hjoints, hjoint⟩ :=
    sampledPose_exists dx htree hfull hrate hcnt htime dataPtr'
  refine ⟨inverse, joints, pose, hinverse, hjoints, hpose, fun cb input hrange => ?_⟩
  intro bones output
  have hbones : posInfluences inverse joints input = bones := by
    refine List.map_congr_left fun i hi => ?_
    have hi := hrange i hi
    have hrot := bindPose_isUnit hdx htree hunit (input.jointIndices i) hi
    have hscaled := (unitScale_bindPose_iff dx htree).mpr hscale (input.jointIndices i) hi
    rw [hinv _ hi, hjoint _ hi, ← asInverseMatrix_eq_inv hdx hrot hscaled]
    simp only [inverseJointMatrix, SSSkeletonAnimAsset.jointMatrix, hdx.matrixTranspose,
      Matrix.transpose_transpose]
  have hpos : (skinning ⟨asset.boneCnt, inverse⟩ ⟨asset.boneCnt, joints⟩ input).Pos =
      LinearBlend.blend bones input.Pos := by
    rw [skinning_eq hrange, ← hbones]
  constructor
  · rw [LinearBlend.blend_moved, ← hpos]
    rfl
  · rw [LinearBlend.blend_moved, LinearBlend.blend_moved, ← hpos]
    rfl

end Time

end Pose

section Leg

theorem leg_unitScale :
    ∀ bone ∈ legSkeleton._boneList.data, UnitScale bone._transform.Scale := by
  intro bone hbone
  simp only [legSkeleton, PooledList.ofList, List.mem_cons, List.not_mem_nil, or_false] at hbone
  rcases hbone with rfl | rfl
  · exact ⟨one_pow 2, one_pow 2, one_pow 2⟩
  · exact ⟨one_pow 2, one_pow 2, one_pow 2⟩

/-- Halfway between two frames. -/
theorem skinned_vertex_blends_leg :
    let asset := SSSkeletonAnimAsset.legFrames
    ∃ inverse joints pose,
      asset._skeleton.instantiateGPUBuffer (DirectXMath.exact ℚ) (fun _ => ⟨0, 0⟩) = some inverse ∧
      asset.updateGPUBufferFrameState (DirectXMath.exact ℚ) (fun _ => ⟨0, 0⟩) (1 / 48) =
        some joints ∧
      asset.sampledPose (DirectXMath.exact ℚ) (1 / 48) = some pose ∧
      ∀ (cb : VSConstants ℚ) (input : VS_INPUT ℚ), JointsInRange asset.boneCnt input →
        let bones := (usedSlots input).map fun i =>
          { weight := input.jointWeights i
            bind := ((bindPose (DirectXMath.exact ℚ) asset._skeleton._boneList
              (input.jointIndices i)).asMatrix (DirectXMath.exact ℚ))⁻¹
            pose := (pose (input.jointIndices i)).asMatrix (DirectXMath.exact ℚ) :
              LinearBlend.Influence (Fin 4) ℚ }
        let output := skinnedVS ⟨asset.boneCnt, inverse⟩ ⟨asset.boneCnt, joints⟩ cb input
        output.WorldPos =
            float3 (LinearBlend.blend (LinearBlend.moved bones cb.WMatrix) input.Pos) ∧
          output.Pos = LinearBlend.blend
            (LinearBlend.moved (LinearBlend.moved bones cb.WMatrix) cb.VPMatrix) input.Pos :=
  skinned_vertex_blends DirectXMath.exact_lawful leg_imported leg_isUnit leg_unitScale
    SSSkeletonAnimAsset.legFrames_stackFull (by decide) (by decide) (by norm_num) _ _

end Leg

section BindPose

variable {K : Type} [Field K] {dx : DirectXMath K}

/-- Position and directions longer by a factor. -/
def VS_INPUT.scaled (c : K) (input : VS_INPUT K) : VS_INPUT K :=
  { input with Pos := c • input.Pos, Normal := c • input.Normal, Tangent := c • input.Tangent }

/-- In the bind pose the two matrices of a bone cancel, for positions and for directions. -/
theorem skinning_bind_pose (hdx : dx.Lawful) (hcomp : dx.Computes)
    {bones : PooledList (BoneNode K)} (htree : BoneNode.IsTree bones)
    (hunit : ∀ bone ∈ bones.data, bone._transform.Rotation.IsUnit)
    (hscale : ∀ bone ∈ bones.data, UnitScale bone._transform.Scale)
    {inverse joints : Nat → JOINTMATRIX K}
    (hinverse : ∀ i, i < bones.getSize → inverse i = inverseJointMatrix dx (bindPose dx bones i))
    (hjoints : ∀ i, i < bones.getSize →
      joints i = SSSkeletonAnimAsset.jointMatrix dx (bindPose dx bones i)) {input : VS_INPUT K}
    (hrange : JointsInRange bones.getSize input) :
    skinning ⟨bones.getSize, inverse⟩ ⟨bones.getSize, joints⟩ input =
      input.scaled ((usedSlots input).map input.jointWeights).sum := by
  have hpos : ∀ b ∈ posInfluences inverse joints input, b.bind * b.pose = 1 := by
    intro b hb
    obtain ⟨i, hi, rfl⟩ := List.mem_map.mp hb
    have hi := hrange i hi
    have hrot := bindPose_isUnit hdx htree hunit (input.jointIndices i) hi
    have hscaled := (unitScale_bindPose_iff dx htree).mpr hscale (input.jointIndices i) hi
    have hproduct : bindProduct
        (inverseJointMatrix dx (bindPose dx bones (input.jointIndices i)))
        (SSSkeletonAnimAsset.jointMatrix dx (bindPose dx bones (input.jointIndices i))) = 1 :=
      (bindProduct_eq_one_iff hdx hrot rfl).mpr hscaled
    rw [hinverse _ hi, hjoints _ hi]
    exact hproduct
  have hrot : ∀ b ∈ rotInfluences inverse joints input, b.bind * b.pose = 1 := by
    intro b hb
    obtain ⟨i, hi, rfl⟩ := List.mem_map.mp hb
    have hi := hrange i hi
    have hrot := bindPose_isUnit hdx htree hunit (input.jointIndices i) hi
    rw [hinverse _ hi, hjoints _ hi]
    simp only [inverseJointMatrix, SSSkeletonAnimAsset.jointMatrix, hdx.matrixTranspose,
      Matrix.transpose_transpose]
    exact asInverseMatrix_rotation hcomp hrot
  have hposWeight : LinearBlend.weight (posInfluences inverse joints input) =
      ((usedSlots input).map input.jointWeights).sum := by
    unfold LinearBlend.weight posInfluences
    rw [List.map_map]
    rfl
  have hrotWeight : LinearBlend.weight (rotInfluences inverse joints input) =
      ((usedSlots input).map input.jointWeights).sum := by
    unfold LinearBlend.weight rotInfluences
    rw [List.map_map]
    rfl
  rw [skinning_eq hrange, LinearBlend.blend_rest hpos, LinearBlend.blend_rest hrot,
    LinearBlend.blend_rest hrot, hposWeight, hrotWeight]
  rfl

section Imported

variable {names : List String}

/-- A cluster stores the index of a bone that is there. -/
theorem jointIdx_lt {K : Type} {skin : FbxSkin K} (h : BonesFound names skin) {e : Influence K}
    (he : e ∈ skin.influences names) : e.joint < names.length := by
  obtain ⟨c, hc, he⟩ := List.mem_flatMap.mp he
  obtain ⟨_, _, rfl⟩ := List.mem_map.mp he
  have hcount := h.count_lt
  obtain ⟨i, hlt, hi⟩ := findBoneIdx_of_mem (h.found c hc)
  show toUint32 (findBoneIdxWithNameFromSkeleton names c.linkName) < _
  unfold SS_UINT32_MAX at hcount
  rw [hi, toUint32_natCast (by omega)]
  exact hlt

variable [LinearOrder K] {skin : FbxSkin K}

/-- The bones that the shader reads for a vertex after the cluster loop. -/
theorem jointsInRange_vertexRun (hbones : BonesFound names skin) {x : SSSkinnedVertex K}
    (hbone : ∀ i, x.BoneIdx i = SS_UINT32_MAX) (hweight : ∀ i, x.Weight i = 0) {cp : Nat}
    (hfour : (influencesOf (skin.influences names) cp).length ≤ VERTEX_SKINNING_BONE_COUNT_MAX) :
    JointsInRange names.length
      (.ofVertex (vertexRun x (influencesOf (skin.influences names) cp)).1) := by
  have hmem : ∀ e ∈ influencesOf (skin.influences names) cp, e ∈ skin.influences names :=
    fun e he => (List.mem_filter.mp he).1
  have hslots := slotsHold_vertexRun hbone hweight _ hfour
    fun e he => jointIdx_ne hbones (hmem e he)
  intro i hi
  have hvalid := (hslots.valid i).mp (used_of_mem hi)
  have hjoint := List.mem_of_getElem? (bones_vertexRun x _ hfour i hvalid)
  obtain ⟨e, he, heq⟩ := List.mem_map.mp hjoint
  have hlt := jointIdx_lt hbones (hmem e (List.mem_filter.mp he).1)
  rw [heq] at hlt
  exact hlt

variable (similar : SSSkinnedVertex K → SSSkinnedVertex K → Bool) (mesh : FbxGeometry K)
  (sdk : FbxVectors K) (asset : SSSkeletonAnimAsset K) (skin)

/-- From the file to the screen: for every imported skeleton whose bones are not scaled and every
skinned mesh on it, the skinning shader in the bind pose draws each vertex as the plain shader draws
it with position and directions times the weight that reached the vertex, and so alike where the
weights of its control point add up to 1 and none of them came last below the threshold. -/
theorem skinned_bind_pose_plain (hdx : dx.Lawful) (hcomp : dx.Computes) {fileName : String}
    {rootNode : FbxNode K}
    (himport : importCurrentSceneToSkeletonAsset fileName rootNode = some (some asset._skeleton))
    (hunit : ∀ bone ∈ asset._skeleton._boneList.data, bone._transform.Rotation.IsUnit)
    (hscale : ∀ bone ∈ asset._skeleton._boneList.data, UnitScale bone._transform.Scale)
    (hnames : names = asset._skeleton._boneList.data.map (·._boneName))
    (hin : SkinInput mesh.toFbxMesh skin) (hbones : BonesFound names skin)
    (hfour : ∀ cp, (influencesOf (skin.influences names) cp).length ≤
      VERTEX_SKINNING_BONE_COUNT_MAX) (dataPtr dataPtr' : Nat → JOINTMATRIX K) :
    ∃ inverse joints d s, asset._skeleton.instantiateGPUBuffer dx dataPtr = some inverse ∧
      asset.resetJointBufferState dx dataPtr' = some joints ∧
      buildVertices similar mesh.toFbxMesh
        (fun i j => extractSkinnedVertexWithoutSkinData mesh i j sdk) = some d ∧
      clusterLoop mesh.controlPointsCount names skin d = some s ∧
      ∀ cp v, v ∈ (d.controlPointToSSIdxMap cp).data →
        let es := influencesOf (skin.influences names) cp
        ∃ x, s.ssVertexBuffer.get v = some x ∧ ∀ cb : VSConstants K,
          let output := skinnedVS ⟨asset.boneCnt, inverse⟩ ⟨asset.boneCnt, joints⟩ cb (.ofVertex x)
          output = VS cb (.scaled (weightSum es - trailingSum es) (.ofVertex x)) ∧
            (weightSum es = 1 → trailingSum es = 0 → output = VS cb (.ofVertex x)) := by
  have htree := (importCurrentSceneToSkeletonAsset_ok himport).isTree
  obtain ⟨inverse, hinverse, hinv⟩ := instantiateGPUBuffer_joints dx htree dataPtr
  obtain ⟨joints, hjoints, hjoint, _⟩ := asset.resetJointBufferState_eq dx htree dataPtr'
  obtain ⟨d, s, hd, hs, hrep, htracks⟩ := skin_run similar mesh sdk names skin hin
  refine ⟨inverse, joints, d, s, hinverse, hjoints, hd, hs, fun cp v hv => ?_⟩
  intro es
  obtain ⟨x, hbone, hweight, hx⟩ := vertex_run hrep htracks hv
  refine ⟨_, hx, fun cb => ?_⟩
  intro output
  have hcount : names.length = asset._skeleton._boneList.getSize := by
    rw [hnames, List.length_map]
    rfl
  have hrange := jointsInRange_vertexRun hbones hbone hweight (hfour cp)
  rw [hcount] at hrange
  have hsum : ((usedSlots (.ofVertex (vertexRun x es).1)).map
      (VS_INPUT.ofVertex (vertexRun x es).1).jointWeights).sum = weightSum es - trailingSum es := by
    have hslots := slotsHold_vertexRun hbone hweight es (hfour cp) fun e he =>
      jointIdx_ne hbones (List.mem_filter.mp he).1
    rw [← shaderWeightSum_add_trailing hslots (hfour cp), add_sub_cancel_right]
    rfl
  have hskinned : output = VS cb (.scaled (weightSum es - trailingSum es)
      (.ofVertex (vertexRun x es).1)) := by
    have hpose := skinning_bind_pose hdx hcomp htree hunit hscale hinv hjoint hrange
    rw [hsum] at hpose
    exact congrArg (VS cb) hpose
  refine ⟨hskinned, fun hone htrailing => ?_⟩
  rw [hskinned, hone, htrailing, sub_zero]
  simp only [VS_INPUT.scaled, one_smul]
  rfl

end Imported

/-- One control point at the hip, one at the knee, and one between them. -/
def legSkin : FbxSkin ℚ := ⟨[⟨"hip", [(0, 1), (1, 1 / 2)]⟩, ⟨"knee", [(1, 1 / 2), (2, 1)]⟩]⟩

theorem legSkin_length (cp : Nat) :
    (influencesOf (legSkin.influences ["hip", "knee"]) cp).length ≤
      VERTEX_SKINNING_BONE_COUNT_MAX :=
  Nat.le_trans (List.length_filter_le ..) (show 4 ≤ 4 by decide)

theorem skinned_bind_pose_plain_leg :
    ∃ inverse joints d s,
      legSkeleton.instantiateGPUBuffer (DirectXMath.exact ℚ) (fun _ => ⟨0, 0⟩) = some inverse ∧
      legAnim.resetJointBufferState (DirectXMath.exact ℚ) (fun _ => ⟨0, 0⟩) = some joints ∧
      buildVertices (fun _ _ => false) reversedTriangle.toFbxMesh
        (fun i j => extractSkinnedVertexWithoutSkinData reversedTriangle i j ⟨id, ⟨0, 0⟩⟩) =
          some d ∧
      clusterLoop reversedTriangle.controlPointsCount ["hip", "knee"] legSkin d = some s ∧
      ∀ cp v, v ∈ (d.controlPointToSSIdxMap cp).data →
        let es := influencesOf (legSkin.influences ["hip", "knee"]) cp
        ∃ x, s.ssVertexBuffer.get v = some x ∧ ∀ cb : VSConstants ℚ,
          let output := skinnedVS ⟨legAnim.boneCnt, inverse⟩ ⟨legAnim.boneCnt, joints⟩ cb
            (.ofVertex x)
          output = VS cb (.scaled (weightSum es - trailingSum es) (.ofVertex x)) ∧
            (weightSum es = 1 → trailingSum es = 0 → output = VS cb (.ofVertex x)) :=
  skinned_bind_pose_plain legSkin (fun _ _ => false) reversedTriangle ⟨id, ⟨0, 0⟩⟩ legAnim
    DirectXMath.exact_lawful DirectXMath.exact_computes leg_imported leg_isUnit leg_unitScale rfl
    (by unfold SkinInput; decide) ⟨by decide, by decide⟩ legSkin_length _ _

end BindPose

end FBXRenderer
