import Mathlib.Algebra.Group.Defs
import Mathlib.Data.List.TakeWhile

/-!
# NulText

Texts that end with a zero, in arrays of fixed size.

* `put`: writing into an array, with `prefix_put` for what then stands at its start.
* `Holds pool text`: the array starts with the text and its terminator.
* `textOf`, `FirstNul`: the text that a reader finds, and where it ends. `Holds.textOf_eq`,
  `Holds.firstNul` and `FirstNul.holds` say that they are what `Holds` says.
-/

namespace NulText

section Write

variable {α : Type} {pool xs start : List α} {off : Nat}

/-- The array with `xs` written from `off` on. -/
def put (pool : List α) (off : Nat) (xs : List α) : List α :=
  pool.take off ++ (xs ++ pool.drop (off + xs.length))

theorem put_length (h : off + xs.length ≤ pool.length) :
    (put pool off xs).length = pool.length := by
  simp only [put, List.length_append, List.length_take, List.length_drop]
  omega

/-- What is written behind the start of an array stands behind it. -/
theorem prefix_put (hstart : start <+: pool) : start ++ xs <+: put pool start.length xs := by
  refine ⟨pool.drop (start.length + xs.length), ?_⟩
  rw [put, ← List.prefix_iff_eq_take.mp hstart, List.append_assoc]

end Write

variable {α : Type} [Zero α] {pool text : List α} {n : Nat}

structure Holds (pool text : List α) : Prop where
  no_nul : (0 : α) ∉ text
  starts : text ++ [0] <+: pool

/-- The first zero of the array is at `n`. -/
def FirstNul (pool : List α) (n : Nat) : Prop :=
  pool[n]? = some 0 ∧ ∀ i, i < n → pool[i]? ≠ some 0

/-- What is read up to the first zero. -/
def textOf [DecidableEq α] (pool : List α) : List α := pool.takeWhile (· ≠ 0)

theorem Holds.length_lt (h : Holds pool text) : text.length < pool.length := by
  have hlen := h.starts.length_le
  rw [List.length_append, List.length_singleton] at hlen
  exact hlen

theorem Holds.firstNul (h : Holds pool text) : FirstNul pool text.length := by
  obtain ⟨rest, rfl⟩ := h.starts
  constructor
  · simp
  · intro i hi
    rw [List.append_assoc, List.getElem?_append_left hi]
    exact fun hget => h.no_nul (List.mem_of_getElem? hget)

/-- A text read from a place inside it. -/
theorem Holds.drop (h : Holds pool text) (hn : n ≤ text.length) :
    Holds (pool.drop n) (text.drop n) := by
  obtain ⟨rest, rfl⟩ := h.starts
  refine ⟨fun hmem => h.no_nul (List.mem_of_mem_drop hmem), rest, ?_⟩
  rw [List.append_assoc, List.append_assoc, List.drop_append_of_le_length hn]

theorem FirstNul.unique {m : Nat} (hn : FirstNul pool n) (hm : FirstNul pool m) : n = m := by
  rcases Nat.lt_trichotomy n m with h | h | h
  · exact absurd hn.1 (hm.2 n h)
  · exact h
  · exact absurd hm.1 (hn.2 m h)

section Read

variable [DecidableEq α]

theorem Holds.textOf_eq (h : Holds pool text) : textOf pool = text := by
  obtain ⟨rest, rfl⟩ := h.starts
  have hpos : ∀ c ∈ text, decide (c ≠ 0) = true := by
    intro c hc
    exact decide_eq_true fun h0 => h.no_nul (h0 ▸ hc)
  rw [textOf, List.append_assoc, List.takeWhile_append_of_pos hpos]
  simp

theorem nul_not_mem_textOf : (0 : α) ∉ textOf pool := by
  intro h
  have hne := List.mem_takeWhile_imp h
  simp at hne

/-- An array with a zero in it holds what is read from it. -/
theorem FirstNul.holds (h : FirstNul pool n) : Holds pool (textOf pool) := by
  refine ⟨nul_not_mem_textOf, ?_⟩
  have hmem : (0 : α) ∈ pool := List.mem_of_getElem? h.1
  have hdrop : pool.dropWhile (· ≠ 0) ≠ [] := by
    intro hnil
    have hne := List.dropWhile_eq_nil_iff.mp hnil 0 hmem
    simp at hne
  have hsplit := List.takeWhile_append_dropWhile (p := fun c : α => decide (c ≠ 0)) (l := pool)
  cases hrest : pool.dropWhile (· ≠ 0) with
  | nil => exact absurd hrest hdrop
  | cons c rest =>
    have hc : c = 0 := by
      have hnot := List.head_dropWhile_not (fun c : α => decide (c ≠ 0)) hdrop
      simp only [hrest, List.head_cons] at hnot
      simpa using hnot
    subst hc
    refine ⟨rest, ?_⟩
    rw [textOf, List.append_assoc, List.singleton_append, ← hrest]
    exact hsplit

end Read

end NulText
