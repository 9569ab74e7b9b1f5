import FBXRenderer.Engine.Vector
import FBXRenderer.Lib.RigidMatrix

/-!
# FBXRenderer.Engine.DirectXMath

Quaternions, matrices, and the DirectXMath functions that the engine calls. These functions are not
part of the repository: `DirectXMath K` is the record of them, and `DirectXMath.Lawful` what their
documentation says about exact values. `exact` is one such record over any field.

* `exact_lawful`: the formulas of `exact` have the documented properties.
* `rotationQuaternion_mul`: the matrix of a product of quaternions is the product of their matrices.
-/

namespace FBXRenderer

open Matrix

@[ext]
structure Quaternion (K : Type) where
  X : K
  Y : K
  Z : K
  W : K
deriving DecidableEq

/-- Row vectors on the left, as in the source: `M.r[i].m128_f32[j]` is `M i j`. -/
abbrev XMMATRIX (K : Type) : Type := Matrix (Fin 4) (Fin 4) K

abbrev XMVECTOR (K : Type) : Type := Fin 4 → K

def Vector4f.SimdVec {K : Type} (v : Vector4f K) : XMVECTOR K := ![v.X, v.Y, v.Z, v.W]

structure DirectXMath (K : Type) where
  XMQuaternionMultiply : Quaternion K → Quaternion K → Quaternion K
  XMQuaternionInverse : Quaternion K → Quaternion K
  XMQuaternionSlerp : Quaternion K → Quaternion K → K → Quaternion K
  XMVector3Rotate : Vector4f K → Quaternion K → Vector4f K
  XMVector4Transform : XMVECTOR K → XMMATRIX K → XMVECTOR K
  XMMatrixTranspose : XMMATRIX K → XMMATRIX K
  XMMatrixMultiply : XMMATRIX K → XMMATRIX K → XMMATRIX K
  XMMatrixRotationQuaternion : Quaternion K → XMMATRIX K
  XMMatrixScalingFromVector : Vector4f K → XMMATRIX K
  /-- Scaling, rotation origin, rotation, translation. -/
  XMMatrixAffineTransformation :
    Vector4f K → Vector4f K → Quaternion K → Vector4f K → XMMATRIX K

variable {K : Type} [Field K]

def Quaternion.IsUnit (q : Quaternion K) : Prop := q.X ^ 2 + q.Y ^ 2 + q.Z ^ 2 + q.W ^ 2 = 1

/-- `Quaternion()`. -/
def Quaternion.one : Quaternion K := ⟨0, 0, 0, 1⟩

theorem Quaternion.one_isUnit : (Quaternion.one : Quaternion K).IsUnit := by
  simp [Quaternion.IsUnit, Quaternion.one]

namespace DirectXMath

/-- What the documentation says of the functions, for exact components. -/
structure Lawful (dx : DirectXMath K) : Prop where
  quaternionMultiply : ∀ p q, p.IsUnit → q.IsUnit → (dx.XMQuaternionMultiply p q).IsUnit
  /-- The interpolation starts at its first argument. -/
  quaternionSlerp : ∀ p q, dx.XMQuaternionSlerp p q 0 = p
  vector4Transform : ∀ v M, dx.XMVector4Transform v M = v ᵥ* M
  matrixTranspose : ∀ M, dx.XMMatrixTranspose M = Mᵀ
  matrixMultiply : ∀ M N, dx.XMMatrixMultiply M N = M * N
  matrixRotationQuaternion : ∀ q, q.IsUnit →
    RigidMatrix.IsRotation (dx.XMMatrixRotationQuaternion q)
  matrixScalingFromVector : ∀ s,
    dx.XMMatrixScalingFromVector s = RigidMatrix.scaling s.X s.Y s.Z
  matrixAffineTransformation : ∀ s q t, dx.XMMatrixAffineTransformation s Vector4f.Zero q t =
    RigidMatrix.scaling s.X s.Y s.Z * dx.XMMatrixRotationQuaternion q *
      RigidMatrix.translation t.X t.Y t.Z

section Exact

/-- The product `q * p`: the rotation `p` followed by the rotation `q`. -/
def quaternionMultiply (p q : Quaternion K) : Quaternion K where
  X := q.W * p.X + q.X * p.W + q.Y * p.Z - q.Z * p.Y
  Y := q.W * p.Y - q.X * p.Z + q.Y * p.W + q.Z * p.X
  Z := q.W * p.Z + q.X * p.Y - q.Y * p.X + q.Z * p.W
  W := q.W * p.W - q.X * p.X - q.Y * p.Y - q.Z * p.Z

def quaternionInverse (q : Quaternion K) : Quaternion K :=
  let lengthSq := q.X ^ 2 + q.Y ^ 2 + q.Z ^ 2 + q.W ^ 2
  ⟨-q.X / lengthSq, -q.Y / lengthSq, -q.Z / lengthSq, q.W / lengthSq⟩

def rotationQuaternion (q : Quaternion K) : XMMATRIX K :=
  !![1 - 2 * (q.Y ^ 2 + q.Z ^ 2), 2 * (q.X * q.Y + q.Z * q.W), 2 * (q.X * q.Z - q.Y * q.W), 0;
     2 * (q.X * q.Y - q.Z * q.W), 1 - 2 * (q.X ^ 2 + q.Z ^ 2), 2 * (q.Y * q.Z + q.X * q.W), 0;
     2 * (q.X * q.Z + q.Y * q.W), 2 * (q.Y * q.Z - q.X * q.W), 1 - 2 * (q.X ^ 2 + q.Y ^ 2), 0;
     0, 0, 0, 1]

/-- The conjugate, the vector and the rotation multiplied, as in the library. -/
def vector3Rotate (v : Vector4f K) (q : Quaternion K) : Vector4f K :=
  let result := quaternionMultiply
    (quaternionMultiply ⟨-q.X, -q.Y, -q.Z, q.W⟩ ⟨v.X, v.Y, v.Z, 0⟩) q
  ⟨result.X, result.Y, result.Z, result.W⟩

/-- The formulas of the library. For the interpolation it is the one used for equal rotations. -/
def exact (K : Type) [Field K] : DirectXMath K where
  XMQuaternionMultiply := quaternionMultiply
  XMQuaternionInverse := quaternionInverse
  XMQuaternionSlerp p q t :=
    ⟨p.X * (1 - t) + q.X * t, p.Y * (1 - t) + q.Y * t, p.Z * (1 - t) + q.Z * t,
      p.W * (1 - t) + q.W * t⟩
  XMVector3Rotate := vector3Rotate
  XMVector4Transform v M := v ᵥ* M
  XMMatrixTranspose M := Mᵀ
  XMMatrixMultiply M N := M * N
  XMMatrixRotationQuaternion := rotationQuaternion
  XMMatrixScalingFromVector s := RigidMatrix.scaling s.X s.Y s.Z
  XMMatrixAffineTransformation s o q t :=
    RigidMatrix.scaling s.X s.Y s.Z * RigidMatrix.translation (-o.X) (-o.Y) (-o.Z) *
      rotationQuaternion q * RigidMatrix.translation o.X o.Y o.Z *
      RigidMatrix.translation t.X t.Y t.Z

theorem quaternionMultiply_isUnit {p q : Quaternion K} (hp : p.IsUnit) (hq : q.IsUnit) :
    (quaternionMultiply p q).IsUnit := by
  unfold Quaternion.IsUnit quaternionMultiply at *
  -- the length of a product is the product of the lengths
  linear_combination (q.X ^ 2 + q.Y ^ 2 + q.Z ^ 2 + q.W ^ 2) * hp + hq

theorem rotationQuaternion_isRotation {q : Quaternion K} (hq : q.IsUnit) :
    RigidMatrix.IsRotation (rotationQuaternion q) where
  row := rfl
  col := by
    intro i
    fin_cases i <;> rfl
  mul_transpose := by
    unfold Quaternion.IsUnit at hq
    ext i j
    fin_cases i <;> fin_cases j <;>
      simp [rotationQuaternion, Matrix.mul_apply, Fin.sum_univ_four]
    · linear_combination 4 * (q.Y ^ 2 + q.Z ^ 2) * hq
    · linear_combination -4 * q.X * q.Y * hq
    · linear_combination -4 * q.X * q.Z * hq
    · linear_combination -4 * q.X * q.Y * hq
    · linear_combination 4 * (q.X ^ 2 + q.Z ^ 2) * hq
    · linear_combination -4 * q.Y * q.Z * hq
    · linear_combination -4 * q.X * q.Z * hq
    · linear_combination -4 * q.Y * q.Z * hq
    · linear_combination 4 * (q.X ^ 2 + q.Y ^ 2) * hq

theorem exact_lawful : (exact K).Lawful where
  quaternionMultiply _ _ hp hq := quaternionMultiply_isUnit hp hq
  quaternionSlerp p q := by simp [exact]
  vector4Transform _ _ := rfl
  matrixTranspose _ := rfl
  matrixMultiply _ _ := rfl
  matrixRotationQuaternion _ hq := rotationQuaternion_isRotation hq
  matrixScalingFromVector _ := rfl
  matrixAffineTransformation s q t := by
    simp [exact, Vector4f.Zero, RigidMatrix.translation_zero]

/-- The formulas that the documentation gives, for exact components. -/
structure Computes (dx : DirectXMath K) : Prop where
  quaternionMultiply : ∀ p q, dx.XMQuaternionMultiply p q = DirectXMath.quaternionMultiply p q
  quaternionInverse : ∀ q, q.IsUnit → dx.XMQuaternionInverse q = DirectXMath.quaternionInverse q
  vector3Rotate : ∀ v q, dx.XMVector3Rotate v q = DirectXMath.vector3Rotate v q
  matrixRotationQuaternion : ∀ q, dx.XMMatrixRotationQuaternion q = rotationQuaternion q
  matrixAffineTransformation : ∀ s q t, dx.XMMatrixAffineTransformation s Vector4f.Zero q t =
    RigidMatrix.scaling s.X s.Y s.Z * dx.XMMatrixRotationQuaternion q *
      RigidMatrix.translation t.X t.Y t.Z

theorem exact_computes : (exact K).Computes where
  quaternionMultiply _ _ := rfl
  quaternionInverse _ _ := rfl
  vector3Rotate _ _ := rfl
  matrixRotationQuaternion _ := rfl
  matrixAffineTransformation s q t := exact_lawful.matrixAffineTransformation s q t

/-- The rotation matrix of a unit quaternion with all entries of degree two. -/
theorem rotationQuaternion_eq {q : Quaternion K} (hq : q.IsUnit) : rotationQuaternion q =
    !![q.W ^ 2 + q.X ^ 2 - q.Y ^ 2 - q.Z ^ 2, 2 * (q.X * q.Y + q.Z * q.W),
        2 * (q.X * q.Z - q.Y * q.W), 0;
       2 * (q.X * q.Y - q.Z * q.W), q.W ^ 2 - q.X ^ 2 + q.Y ^ 2 - q.Z ^ 2,
        2 * (q.Y * q.Z + q.X * q.W), 0;
       2 * (q.X * q.Z + q.Y * q.W), 2 * (q.Y * q.Z - q.X * q.W),
        q.W ^ 2 - q.X ^ 2 - q.Y ^ 2 + q.Z ^ 2, 0;
       0, 0, 0, 1] := by
  unfold Quaternion.IsUnit at hq
  have hX : 1 - 2 * (q.Y ^ 2 + q.Z ^ 2) = q.W ^ 2 + q.X ^ 2 - q.Y ^ 2 - q.Z ^ 2 := by
    linear_combination -hq
  have hY : 1 - 2 * (q.X ^ 2 + q.Z ^ 2) = q.W ^ 2 - q.X ^ 2 + q.Y ^ 2 - q.Z ^ 2 := by
    linear_combination -hq
  have hZ : 1 - 2 * (q.X ^ 2 + q.Y ^ 2) = q.W ^ 2 - q.X ^ 2 - q.Y ^ 2 + q.Z ^ 2 := by
    linear_combination -hq
  rw [rotationQuaternion, hX, hY, hZ]

/-- The rotation `p` followed by the rotation `q`, on row vectors. -/
theorem rotationQuaternion_mul {p q : Quaternion K} (hp : p.IsUnit) (hq : q.IsUnit) :
    rotationQuaternion (quaternionMultiply p q) = rotationQuaternion p * rotationQuaternion q := by
  rw [rotationQuaternion_eq (quaternionMultiply_isUnit hp hq), rotationQuaternion_eq hp,
    rotationQuaternion_eq hq]
  ext i j
  fin_cases i <;> fin_cases j <;>
    simp [quaternionMultiply, Matrix.mul_apply, Fin.sum_univ_four] <;> ring

end Exact

end DirectXMath

end FBXRenderer
