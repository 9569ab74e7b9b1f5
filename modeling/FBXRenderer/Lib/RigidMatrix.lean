import Mathlib.Data.Matrix.Mul
import Mathlib.LinearAlgebra.Matrix.NonsingularInverse
import Mathlib.Data.Matrix.Diagonal
import Mathlib.LinearAlgebra.Matrix.Notation
import Mathlib.Tactic.FinCases

/-!
# RigidMatrix

4x4 matrices that act on row vectors `(x, y, z, 1)` from the right: translations, rotations
(orthonormal, no translation), and scalings. `conj_eq_one_iff`: between a rigid motion and
its inverse, a product of scalings is the identity exactly when it was the identity before.
`IsRigid.eq_mul`: a rigid motion is a rotation and then a translation.
`affine_mul`: scale, rotate and translate, twice, where the second scaling is uniform.
-/

namespace RigidMatrix

open Matrix

variable {K : Type} [CommRing K]

def translation (x y z : K) : Matrix (Fin 4) (Fin 4) K :=
  !![1, 0, 0, 0; 0, 1, 0, 0; 0, 0, 1, 0; x, y, z, 1]

def scaling (x y z : K) : Matrix (Fin 4) (Fin 4) K := diagonal ![x, y, z, 1]

/-- The last row and the last column are those of the identity, and the rows are orthonormal. -/
structure IsRotation (R : Matrix (Fin 4) (Fin 4) K) : Prop where
  row : R 3 = ![0, 0, 0, 1]
  col : ∀ i, R i 3 = if i = 3 then 1 else 0
  mul_transpose : R * Rᵀ = 1

theorem IsRotation.transpose_mul {R : Matrix (Fin 4) (Fin 4) K} (h : IsRotation R) :
    Rᵀ * R = 1 := mul_eq_one_comm.mp h.mul_transpose

theorem translation_mul (x y z x' y' z' : K) :
    translation x y z * translation x' y' z' = translation (x + x') (y + y') (z + z') := by
  ext i j
  fin_cases i <;> fin_cases j <;> simp [translation, Matrix.mul_apply, Fin.sum_univ_four]

theorem translation_zero : translation (0 : K) 0 0 = 1 := by
  ext i j
  fin_cases i <;> fin_cases j <;> simp [translation]

theorem scaling_mul (x y z x' y' z' : K) :
    scaling x y z * scaling x' y' z' = scaling (x * x') (y * y') (z * z') := by
  unfold scaling
  rw [diagonal_mul_diagonal]
  congr 1
  funext i
  fin_cases i <;> simp

theorem scaling_one : scaling (1 : K) 1 1 = 1 := by
  unfold scaling
  rw [← diagonal_one]
  congr 1
  funext i
  fin_cases i <;> rfl

theorem scaling_eq_one_iff (x y z : K) : scaling x y z = 1 ↔ x = 1 ∧ y = 1 ∧ z = 1 := by
  constructor
  · intro h
    have hx := congrFun (congrFun h 0) 0
    have hy := congrFun (congrFun h 1) 1
    have hz := congrFun (congrFun h 2) 2
    simpa [scaling, and_assoc] using And.intro hx (And.intro hy hz)
  · intro ⟨hx, hy, hz⟩
    rw [hx, hy, hz, scaling_one]

/-- A product between a matrix and its inverse is the identity when the inner one is. -/
theorem conj_eq_one_iff {A X Y : Matrix (Fin 4) (Fin 4) K} (hXY : X * Y = 1) (hYX : Y * X = 1) :
    X * A * Y = 1 ↔ A = 1 := by
  constructor
  · intro h
    calc A = Y * X * A * (Y * X) := by rw [hYX, Matrix.one_mul, Matrix.mul_one]
      _ = Y * (X * A * Y) * X := by simp only [Matrix.mul_assoc]
      _ = 1 := by rw [h, Matrix.mul_one, hYX]
  · intro h
    rw [h, Matrix.mul_one, hXY]

/-- A rotation followed by a translation, and its inverse: the transposed rotation after the
opposite translation. -/
theorem rigid_inverse {R : Matrix (Fin 4) (Fin 4) K} (h : IsRotation R) (x y z : K) :
    translation (-x) (-y) (-z) * Rᵀ * (R * translation x y z) = 1 ∧
      R * translation x y z * (translation (-x) (-y) (-z) * Rᵀ) = 1 := by
  constructor
  · calc translation (-x) (-y) (-z) * Rᵀ * (R * translation x y z)
        = translation (-x) (-y) (-z) * (Rᵀ * R) * translation x y z := by
          simp only [Matrix.mul_assoc]
      _ = 1 := by
          rw [h.transpose_mul, Matrix.mul_one, translation_mul, neg_add_cancel, neg_add_cancel,
            neg_add_cancel, translation_zero]
  · calc R * translation x y z * (translation (-x) (-y) (-z) * Rᵀ)
        = R * (translation x y z * translation (-x) (-y) (-z)) * Rᵀ := by
          simp only [Matrix.mul_assoc]
      _ = 1 := by
          rw [translation_mul, add_neg_cancel, add_neg_cancel, add_neg_cancel, translation_zero,
            Matrix.mul_one, h.mul_transpose]

/-- A rigid motion: the last column is that of the identity, and the rows of the upper left block
are orthonormal. -/
structure IsRigid (M : Matrix (Fin 4) (Fin 4) K) : Prop where
  col : ∀ i, M i 3 = if i = 3 then 1 else 0
  block : M.submatrix Fin.castSucc Fin.castSucc * (M.submatrix Fin.castSucc Fin.castSucc)ᵀ = 1

/-- A rigid motion without its translation. -/
def rotationPart (M : Matrix (Fin 4) (Fin 4) K) : Matrix (Fin 4) (Fin 4) K :=
  M.updateRow (Fin.last 3) ![0, 0, 0, 1]

theorem rotationPart_castSucc (M : Matrix (Fin 4) (Fin 4) K) (i : Fin 3) :
    rotationPart M i.castSucc = M i.castSucc :=
  Matrix.updateRow_ne (Fin.castSucc_lt_last i).ne

theorem rotationPart_last (M : Matrix (Fin 4) (Fin 4) K) : rotationPart M 3 = ![0, 0, 0, 1] :=
  Matrix.updateRow_self

theorem IsRigid.isRotation {M : Matrix (Fin 4) (Fin 4) K} (h : IsRigid M) :
    IsRotation (rotationPart M) := by
  have hcol : ∀ i : Fin 3, M i.castSucc 3 = 0 := fun i =>
    (h.col i.castSucc).trans (if_neg (Fin.castSucc_lt_last i).ne)
  refine ⟨rotationPart_last M, fun i => ?_, ?_⟩
  · induction i using Fin.lastCases with
    | last => exact congrFun (rotationPart_last M) 3
    | cast i => exact (congrFun (rotationPart_castSucc M i) 3).trans (h.col i.castSucc)
  · have hne : ∀ i : Fin 3, (1 : Matrix (Fin 4) (Fin 4) K) i.castSucc (Fin.last 3) = 0 :=
      fun i => Matrix.one_apply_ne (Fin.castSucc_lt_last i).ne
    have hne' : ∀ i : Fin 3, (1 : Matrix (Fin 4) (Fin 4) K) (Fin.last 3) i.castSucc = 0 :=
      fun i => Matrix.one_apply_ne (Fin.castSucc_lt_last i).ne'
    ext i j
    rw [Matrix.mul_apply]
    -- the last row is that of the identity, between the others it is the block
    induction i using Fin.lastCases with
    | last =>
      induction j using Fin.lastCases with
      | last => simp [Fin.sum_univ_four, rotationPart_last]
      | cast j =>
        simp [Fin.sum_univ_four, rotationPart_last, rotationPart_castSucc, hcol, hne']
    | cast i =>
      induction j using Fin.lastCases with
      | last => simp [Fin.sum_univ_four, rotationPart_last, rotationPart_castSucc, hcol, hne]
      | cast j =>
        have hij := congrFun (congrFun h.block i) j
        rw [Matrix.mul_apply, Fin.sum_univ_three] at hij
        simpa [Fin.sum_univ_four, rotationPart_castSucc, hcol, Matrix.one_apply] using hij

/-- A rigid motion is its rotation followed by its translation. -/
theorem IsRigid.eq_mul {M : Matrix (Fin 4) (Fin 4) K} (h : IsRigid M) :
    M = rotationPart M * translation (M 3 0) (M 3 1) (M 3 2) := by
  have hcol := h.col
  ext i j
  fin_cases i <;> fin_cases j <;>
    simp [rotationPart, translation, Matrix.mul_apply, Fin.sum_univ_four, hcol]

/-- A translation through a rotation: the offset is rotated. -/
theorem translation_mul_rotation {R : Matrix (Fin 4) (Fin 4) K} (h : IsRotation R) (x y z : K) :
    translation x y z * R = R * translation (x * R 0 0 + y * R 1 0 + z * R 2 0)
      (x * R 0 1 + y * R 1 1 + z * R 2 1) (x * R 0 2 + y * R 1 2 + z * R 2 2) := by
  have hrow := h.row
  have hcol := h.col
  ext i j
  fin_cases i <;> fin_cases j <;>
    simp [translation, Matrix.mul_apply, Fin.sum_univ_four, hrow, hcol]

/-- A translation through a scaling: the offset is scaled. -/
theorem translation_mul_scaling (x y z a b c : K) :
    translation x y z * scaling a b c = scaling a b c * translation (x * a) (y * b) (z * c) := by
  ext i j
  fin_cases i <;> fin_cases j <;>
    simp [translation, scaling, Matrix.mul_apply, Fin.sum_univ_four]

theorem rotation_mul_scaling {R : Matrix (Fin 4) (Fin 4) K} (h : IsRotation R) (a : K) :
    R * scaling a a a = scaling a a a * R := by
  have hrow := h.row
  have hcol := h.col
  ext i j
  fin_cases i <;> fin_cases j <;>
    simp [scaling, Matrix.mul_apply, Fin.sum_univ_four, hrow, hcol, mul_comm]

/-- Two affine maps after each other, the second with a uniform scaling: the scalings come together
in front, the rotations behind them, and the first offset is scaled and rotated. -/
theorem affine_mul {R R' : Matrix (Fin 4) (Fin 4) K} (h : IsRotation R) (h' : IsRotation R')
    (a b c a' x y z x' y' z' : K) :
    scaling a b c * R * translation x y z * (scaling a' a' a' * R' * translation x' y' z') =
      scaling (a * a') (b * a') (c * a') * (R * R') * translation
        (x * a' * R' 0 0 + y * a' * R' 1 0 + z * a' * R' 2 0 + x')
        (x * a' * R' 0 1 + y * a' * R' 1 1 + z * a' * R' 2 1 + y')
        (x * a' * R' 0 2 + y * a' * R' 1 2 + z * a' * R' 2 2 + z') := by
  have hoffset : translation x y z * (scaling a' a' a' * R') = scaling a' a' a' * R' * translation
      (x * a' * R' 0 0 + y * a' * R' 1 0 + z * a' * R' 2 0)
      (x * a' * R' 0 1 + y * a' * R' 1 1 + z * a' * R' 2 1)
      (x * a' * R' 0 2 + y * a' * R' 1 2 + z * a' * R' 2 2) := by
    rw [← Matrix.mul_assoc, translation_mul_scaling, Matrix.mul_assoc, translation_mul_rotation h',
      Matrix.mul_assoc]
  have hlinear : scaling a b c * R * (scaling a' a' a' * R') =
      scaling (a * a') (b * a') (c * a') * (R * R') := by
    rw [← scaling_mul, Matrix.mul_assoc, ← Matrix.mul_assoc R, rotation_mul_scaling h]
    simp only [Matrix.mul_assoc]
  rw [← translation_mul, ← hlinear]
  calc scaling a b c * R * translation x y z * (scaling a' a' a' * R' * translation x' y' z')
      = scaling a b c * R * (translation x y z * (scaling a' a' a' * R')) *
          translation x' y' z' := by simp only [Matrix.mul_assoc]
    _ = _ := by
        rw [hoffset]
        simp only [Matrix.mul_assoc]

end RigidMatrix
