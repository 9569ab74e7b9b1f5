import Mathlib.Algebra.Order.Field.Basic
import Mathlib.Data.Matrix.Mul
import Mathlib.LinearAlgebra.CrossProduct
import Mathlib.Tactic.FieldSimp
import Mathlib.Tactic.FinCases
import Mathlib.Tactic.Linarith
import Mathlib.Tactic.LinearCombination
import Mathlib.Tactic.Positivity
import Mathlib.Tactic.Ring

/-!
# UnitVector

Vectors of three components over an ordered field, normalized by a square root that is given as a
function.

* `dot_le_one`: the product of two unit vectors is at most 1.
* `half_dot_mem`: between a unit vector and the one halfway to another, it is also not negative.
* `vecMul_dot_self`: orthonormal frames keep lengths; `frame_orthonormal` makes one of two vectors.
-/

namespace UnitVector

open Matrix

variable {K : Type} [Field K]

def normalize (sqrt : K → K) (v : Fin 3 → K) : Fin 3 → K := fun i => v i / sqrt (v ⬝ᵥ v)

theorem normalize_eq (sqrt : K → K) (v : Fin 3 → K) :
    normalize sqrt v = (sqrt (v ⬝ᵥ v))⁻¹ • v := by
  funext i
  rw [normalize, Pi.smul_apply, smul_eq_mul, div_eq_inv_mul]

/-- An orthonormal frame keeps lengths. -/
theorem vecMul_dot_self {frame : Fin 3 → Fin 3 → K}
    (hframe : ∀ i j, frame i ⬝ᵥ frame j = (1 : Matrix (Fin 3) (Fin 3) K) i j) (v : Fin 3 → K) :
    (v ᵥ* Matrix.of frame) ⬝ᵥ (v ᵥ* Matrix.of frame) = v ⬝ᵥ v := by
  have hone : Matrix.of frame * (Matrix.of frame)ᵀ = 1 := by
    ext i j
    exact hframe i j
  rw [← dotProduct_mulVec, ← mulVec_transpose, mulVec_mulVec, hone, one_mulVec]

/-- Two unit vectors at a right angle, and their product, are an orthonormal frame. -/
theorem frame_orthonormal {t n : Fin 3 → K} (ht : t ⬝ᵥ t = 1) (hn : n ⬝ᵥ n = 1)
    (hright : n ⬝ᵥ t = 0) (i j : Fin 3) :
    (![t, crossProduct n t, n] : Fin 3 → Fin 3 → K) i ⬝ᵥ
      (![t, crossProduct n t, n] : Fin 3 → Fin 3 → K) j = (1 : Matrix (Fin 3) (Fin 3) K) i j := by
  have hb : crossProduct n t ⬝ᵥ crossProduct n t = 1 := by
    rw [cross_dot_cross, ht, hn, hright, zero_mul, mul_one, sub_zero]
  have htb : t ⬝ᵥ crossProduct n t = 0 := dot_cross_self n t
  have hnb : n ⬝ᵥ crossProduct n t = 0 := dot_self_cross n t
  have hbt : crossProduct n t ⬝ᵥ t = 0 := (dotProduct_comm _ _).trans htb
  have hbn : crossProduct n t ⬝ᵥ n = 0 := (dotProduct_comm _ _).trans hnb
  have htn : t ⬝ᵥ n = 0 := (dotProduct_comm _ _).trans hright
  fin_cases i <;> fin_cases j
  all_goals simp [ht, hn, hright, hb, htb, hnb, hbt, hbn, htn]

variable [LinearOrder K]

def IsSqrt (sqrt : K → K) : Prop := ∀ x, 0 ≤ x → 0 ≤ sqrt x ∧ sqrt x ^ 2 = x

variable {sqrt : K → K} {v w : Fin 3 → K}

theorem IsSqrt.pos (h : IsSqrt sqrt) {x : K} (hx : 0 < x) : 0 < sqrt x := by
  obtain ⟨hnonneg, hsq⟩ := h x hx.le
  refine lt_of_le_of_ne hnonneg fun hzero => hx.ne ?_
  rw [← hsq, ← hzero, zero_pow two_ne_zero]

/-- A vector that is not 0 gets the length 1. -/
theorem normalize_unit (h : IsSqrt sqrt) (hv : 0 < v ⬝ᵥ v) :
    normalize sqrt v ⬝ᵥ normalize sqrt v = 1 := by
  have hroot := (h.pos hv).ne'
  rw [normalize_eq, smul_dotProduct, dotProduct_smul, smul_eq_mul, smul_eq_mul]
  calc (sqrt (v ⬝ᵥ v))⁻¹ * ((sqrt (v ⬝ᵥ v))⁻¹ * (v ⬝ᵥ v))
      = (sqrt (v ⬝ᵥ v))⁻¹ * ((sqrt (v ⬝ᵥ v))⁻¹ * sqrt (v ⬝ᵥ v) ^ 2) := by rw [(h _ hv.le).2]
    _ = 1 := by field_simp

variable [IsStrictOrderedRing K]

theorem dot_self_nonneg (v : Fin 3 → K) : 0 ≤ v ⬝ᵥ v :=
  Finset.sum_nonneg fun i _ => mul_self_nonneg (v i)

/-- A unit vector is left alone. -/
theorem normalize_of_unit (h : IsSqrt sqrt) (hv : v ⬝ᵥ v = 1) : normalize sqrt v = v := by
  have hone : sqrt (1 : K) = 1 := by
    obtain ⟨hnonneg, hsq⟩ := h 1 zero_le_one
    exact (pow_eq_one_iff_of_nonneg hnonneg two_ne_zero).mp hsq
  rw [normalize_eq, hv, hone, inv_one, one_smul]

/-- The difference of the two has a length. -/
theorem dot_le_one (hv : v ⬝ᵥ v = 1) (hw : w ⬝ᵥ w = 1) : v ⬝ᵥ w ≤ 1 := by
  have hdiff := dot_self_nonneg (v - w)
  rw [sub_dotProduct, dotProduct_sub, dotProduct_sub, hv, hw, dotProduct_comm w v] at hdiff
  linarith

theorem half_dot_mem (h : IsSqrt sqrt) (hv : v ⬝ᵥ v = 1) (hw : w ⬝ᵥ w = 1) (hvw : -1 < v ⬝ᵥ w) :
    0 ≤ v ⬝ᵥ normalize sqrt (v + w) ∧ v ⬝ᵥ normalize sqrt (v + w) ≤ 1 := by
  have hlength : (v + w) ⬝ᵥ (v + w) = 2 * (1 + v ⬝ᵥ w) := by
    rw [add_dotProduct, dotProduct_add, dotProduct_add, hv, hw, dotProduct_comm w v]
    ring
  have hpos : 0 < (v + w) ⬝ᵥ (v + w) := by
    rw [hlength]
    linarith
  refine ⟨?_, dot_le_one hv (normalize_unit h hpos)⟩
  rw [normalize_eq, dotProduct_smul, dotProduct_add v v w, hv, smul_eq_mul]
  exact mul_nonneg (inv_nonneg.mpr (h.pos hpos).le) (by linarith)

end UnitVector
