import FBXRenderer.Engine.DirectXMath

/-!
# FBXRenderer.Engine.Transform

`Transform` (`SSVector.cpp`) with `InverseRigid`, `Lerp` and `Slerp` (`SSStaticMath.cpp`).

* `asMatrix_eq`: `AsMatrix` scales, then rotates, then translates.
* `inverseRigid_two_sided`: `InverseRigid` inverts every rigid matrix.
* `asInverseMatrix_eq`: `AsInverseMatrix` undoes the translation and the rotation, and then scales
  by the same factors again.
* `lerp_zero`: at blend factor 0 `Lerp` takes the rotation of its first argument, and position and
  scale of its second.
-/

namespace FBXRenderer

open Matrix

@[ext]
structure Transform (K : Type) where
  Position : Vector4f K
  Rotation : Quaternion K
  Scale : Vector4f K
deriving DecidableEq

namespace SS

variable {K : Type} [Field K] (dx : DirectXMath K)

def inverseRigid (InMatrix : XMMATRIX K) : XMMATRIX K :=
  let InverseRigid : XMMATRIX K :=
    !![InMatrix 0 0, InMatrix 1 0, InMatrix 2 0, 0;
       InMatrix 0 1, InMatrix 1 1, InMatrix 2 1, 0;
       InMatrix 0 2, InMatrix 1 2, InMatrix 2 2, 0;
       0, 0, 0, 1]
  let translation := dx.XMVector4Transform (InMatrix 3) InverseRigid
  InverseRigid.updateRow 3 ![-translation 0, -translation 1, -translation 2, 1]

def slerp (lhs rhs : Quaternion K) (alpha : K) : Quaternion K :=
  dx.XMQuaternionSlerp lhs rhs alpha

/-- The difference is added to `rhs`. -/
def lerp (lhs rhs : Vector4f K) (alpha : K) : Vector4f K := (rhs - lhs).scale alpha + rhs

def lerpTransform (lhs rhs : Transform K) (alpha : K) : Transform K where
  Position := lerp lhs.Position rhs.Position alpha
  Rotation := slerp dx lhs.Rotation rhs.Rotation alpha
  Scale := lerp lhs.Scale rhs.Scale alpha

end SS

namespace Quaternion

variable {K : Type} (dx : DirectXMath K) (q : Quaternion K)

def asMatrix : XMMATRIX K := dx.XMMatrixRotationQuaternion q

def asInverseMatrix : XMMATRIX K := dx.XMMatrixRotationQuaternion (dx.XMQuaternionInverse q)

def inverse : Quaternion K := dx.XMQuaternionInverse q

end Quaternion

namespace Transform

variable {K : Type} [Field K] (dx : DirectXMath K)

def Identity : Transform K where
  Position := ⟨0, 0, 0, 0⟩
  Rotation := Quaternion.one
  Scale := ⟨1, 1, 1, 0⟩

def asMatrix (t : Transform K) : XMMATRIX K :=
  dx.XMMatrixAffineTransformation t.Scale Vector4f.Zero t.Rotation t.Position

def asInverseMatrix (t : Transform K) : XMMATRIX K :=
  let MScaling := dx.XMMatrixScalingFromVector t.Scale
  let M := dx.XMMatrixRotationQuaternion t.Rotation
  let M := M.updateRow 3 (M 3 + t.Position.SimdVec)
  let M := SS.inverseRigid dx M
  dx.XMMatrixMultiply M MScaling

def inverse (t : Transform K) : Transform K :=
  let InverseRot := t.Rotation.inverse dx
  let InverseScale : Vector4f K := ⟨1 / t.Scale.X, 1 / t.Scale.Y, 1 / t.Scale.Z, 0⟩
  { Position := dx.XMVector3Rotate (-t.Position) InverseRot * InverseScale
    Rotation := InverseRot
    Scale := InverseScale }

/-- `operator*`: this transform inside the frame of `other`. -/
def mul (t other : Transform K) : Transform K where
  Position := dx.XMVector3Rotate (t.Position * other.Scale) other.Rotation + other.Position
  Rotation := dx.XMQuaternionMultiply t.Rotation other.Rotation
  Scale := t.Scale * other.Scale

@[simp] theorem mul_Rotation (t other : Transform K) :
    (mul dx t other).Rotation = dx.XMQuaternionMultiply t.Rotation other.Rotation := rfl

@[simp] theorem mul_Scale (t other : Transform K) :
    (mul dx t other).Scale = t.Scale * other.Scale := rfl

variable {dx}

section Matrices

theorem asMatrix_eq (hdx : dx.Lawful) (t : Transform K) :
    t.asMatrix dx = RigidMatrix.scaling t.Scale.X t.Scale.Y t.Scale.Z *
      dx.XMMatrixRotationQuaternion t.Rotation *
      RigidMatrix.translation t.Position.X t.Position.Y t.Position.Z :=
  hdx.matrixAffineTransformation ..

/-- Transposing the rotation part and rotating the opposite translation back. -/
theorem inverseRigid_eq (hdx : dx.Lawful) {R : XMMATRIX K} (hR : RigidMatrix.IsRotation R)
    (p : Vector4f K) : SS.inverseRigid dx (R.updateRow 3 (R 3 + p.SimdVec)) =
      RigidMatrix.translation (-p.X) (-p.Y) (-p.Z) * Rᵀ := by
  have hrow := hR.row
  have hcol := hR.col
  unfold SS.inverseRigid RigidMatrix.translation Vector4f.SimdVec
  simp only [hdx.vector4Transform]
  ext i j
  fin_cases i <;> fin_cases j <;>
    simp [Matrix.mul_apply, Matrix.vecMul, dotProduct, Fin.sum_univ_four, hcol, hrow] <;> ring

/-- On every rigid motion, with rotations that mirror too, `InverseRigid` is the inverse on both
sides. -/
theorem inverseRigid_two_sided (hdx : dx.Lawful) {M : XMMATRIX K} (hM : RigidMatrix.IsRigid M) :
    M * SS.inverseRigid dx M = 1 ∧ SS.inverseRigid dx M * M = 1 := by
  have hR := hM.isRotation
  have hsum : M = (RigidMatrix.rotationPart M).updateRow 3
      (RigidMatrix.rotationPart M 3 + Vector4f.SimdVec ⟨M 3 0, M 3 1, M 3 2, 0⟩) := by
    have hlast := hM.col 3
    ext i j
    fin_cases i <;> fin_cases j <;>
      simp [RigidMatrix.rotationPart, Vector4f.SimdVec, Matrix.updateRow_apply, hlast]
  have hinverse : SS.inverseRigid dx M =
      RigidMatrix.translation (-M 3 0) (-M 3 1) (-M 3 2) * (RigidMatrix.rotationPart M)ᵀ := by
    conv_lhs => rw [hsum]
    exact inverseRigid_eq hdx hR _
  obtain ⟨hleft, hright⟩ := RigidMatrix.rigid_inverse hR (M 3 0) (M 3 1) (M 3 2)
  rw [← hM.eq_mul, ← hinverse] at hleft hright
  exact ⟨hright, hleft⟩

/-- A third of a turn about the diagonal, and a translation. -/
def turnedAndMoved : XMMATRIX ℚ := !![0, 1, 0, 0; 0, 0, 1, 0; 1, 0, 0, 0; 1, 2, 3, 1]

theorem turnedAndMoved_isRigid : RigidMatrix.IsRigid turnedAndMoved where
  col := by decide
  block := by
    ext i j
    fin_cases i <;> fin_cases j <;>
      simp [turnedAndMoved, Matrix.mul_apply, Fin.sum_univ_three]

theorem inverseRigid_two_sided_turnedAndMoved :
    turnedAndMoved * SS.inverseRigid (DirectXMath.exact ℚ) turnedAndMoved = 1 ∧
      SS.inverseRigid (DirectXMath.exact ℚ) turnedAndMoved * turnedAndMoved = 1 :=
  inverseRigid_two_sided DirectXMath.exact_lawful turnedAndMoved_isRigid

theorem asInverseMatrix_eq (hdx : dx.Lawful) {t : Transform K} (ht : t.Rotation.IsUnit) :
    t.asInverseMatrix dx =
      RigidMatrix.translation (-t.Position.X) (-t.Position.Y) (-t.Position.Z) *
        (dx.XMMatrixRotationQuaternion t.Rotation)ᵀ *
        RigidMatrix.scaling t.Scale.X t.Scale.Y t.Scale.Z := by
  unfold asInverseMatrix
  simp only [hdx.matrixMultiply, hdx.matrixScalingFromVector]
  rw [inverseRigid_eq hdx (hdx.matrixRotationQuaternion _ ht)]

/-- The scaling is applied twice between a rigid motion and its inverse. -/
theorem asInverseMatrix_mul_asMatrix_eq_one_iff (hdx : dx.Lawful) {t : Transform K}
    (ht : t.Rotation.IsUnit) : t.asInverseMatrix dx * t.asMatrix dx = 1 ↔
      t.Scale.X ^ 2 = 1 ∧ t.Scale.Y ^ 2 = 1 ∧ t.Scale.Z ^ 2 = 1 := by
  have hR := hdx.matrixRotationQuaternion _ ht
  obtain ⟨hYX, hXY⟩ := RigidMatrix.rigid_inverse hR t.Position.X t.Position.Y t.Position.Z
  have hprod : t.asInverseMatrix dx * t.asMatrix dx =
      RigidMatrix.translation (-t.Position.X) (-t.Position.Y) (-t.Position.Z) *
        (dx.XMMatrixRotationQuaternion t.Rotation)ᵀ *
        RigidMatrix.scaling (t.Scale.X ^ 2) (t.Scale.Y ^ 2) (t.Scale.Z ^ 2) *
        (dx.XMMatrixRotationQuaternion t.Rotation *
          RigidMatrix.translation t.Position.X t.Position.Y t.Position.Z) := by
    rw [asInverseMatrix_eq hdx ht, asMatrix_eq hdx, pow_two, pow_two, pow_two,
      ← RigidMatrix.scaling_mul]
    simp only [Matrix.mul_assoc]
  rw [hprod, RigidMatrix.conj_eq_one_iff hYX hXY, RigidMatrix.scaling_eq_one_iff]

end Matrices

/-- At blend factor 0 the position and the scale are the second transform's. -/
theorem lerp_zero (hdx : dx.Lawful) (lhs rhs : Transform K) :
    SS.lerpTransform dx lhs rhs 0 = ⟨rhs.Position, lhs.Rotation, rhs.Scale⟩ := by
  have hlerp : ∀ v w : Vector4f K, SS.lerp v w 0 = w := by
    intro v w
    ext <;> simp [SS.lerp]
  unfold SS.lerpTransform SS.slerp
  rw [hlerp, hlerp, hdx.quaternionSlerp]

end Transform

end FBXRenderer
