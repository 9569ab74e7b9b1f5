import Mathlib.Data.Matrix.Mul
import Mathlib.LinearAlgebra.Matrix.NonsingularInverse

/-!
# FBXRenderer.Lib.LinearBlend

Linear blend skinning over row vectors: every bone takes a vector out of its rest frame and into its
posed one, and the results are added up with the weights of the bones.

* `blend_eq_matrix`: a blend is one matrix, the weighted sum of the bones' own.
* `blend_rest`: in the rest pose a blend is the vector times the sum of the weights.
* `blend_moved`: a motion behind every pose is one behind the blend.
-/

namespace LinearBlend

open Matrix

variable {n K : Type} [Fintype n]

/-- A bone of a vertex: out of the rest frame with `bind`, into the posed one with `pose`. -/
structure Influence (n K : Type) where
  weight : K
  bind : Matrix n n K
  pose : Matrix n n K

section Ring

variable [CommRing K] (bones : List (Influence n K))

def blend (v : n → K) : n → K :=
  (bones.map fun b => b.weight • (v ᵥ* b.bind ᵥ* b.pose)).sum

def matrix : Matrix n n K := (bones.map fun b => b.weight • (b.bind * b.pose)).sum

def weight : K := (bones.map Influence.weight).sum

theorem blend_eq_matrix (v : n → K) : blend bones v = v ᵥ* matrix bones := by
  unfold blend matrix
  induction bones with
  | nil => simp
  | cons b bones ih =>
    rw [List.map_cons, List.sum_cons, List.map_cons, List.sum_cons, Matrix.vecMul_add, ih,
      Matrix.vecMul_smul, Matrix.vecMul_vecMul]

/-- The bones with another motion behind their poses. -/
def moved (G : Matrix n n K) : List (Influence n K) :=
  bones.map fun b => { b with pose := b.pose * G }

theorem blend_moved (G : Matrix n n K) (v : n → K) :
    blend (moved bones G) v = blend bones v ᵥ* G := by
  unfold blend moved
  induction bones with
  | nil => simp
  | cons b bones ih =>
    simp only [List.map_cons, List.sum_cons, Matrix.add_vecMul]
    rw [ih, Matrix.smul_vecMul, ← Matrix.vecMul_vecMul]

variable {bones} [DecidableEq n]

theorem matrix_rest (hrest : ∀ b ∈ bones, b.bind * b.pose = 1) :
    matrix bones = weight bones • (1 : Matrix n n K) := by
  unfold matrix weight
  induction bones with
  | nil => simp
  | cons b bones ih =>
    obtain ⟨hb, hbones⟩ := List.forall_mem_cons.mp hrest
    rw [List.map_cons, List.sum_cons, List.map_cons, List.sum_cons, ih hbones, hb, add_smul]

theorem blend_rest (hrest : ∀ b ∈ bones, b.bind * b.pose = 1) (v : n → K) :
    blend bones v = weight bones • v := by
  rw [blend_eq_matrix, matrix_rest hrest, Matrix.vecMul_smul, Matrix.vecMul_one]

end Ring

end LinearBlend
