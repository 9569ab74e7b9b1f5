import Mathlib.Data.List.Basic

/-!
# LastSplit

A list split at the last of the elements that satisfy a predicate, as file names are taken from
paths.

* `splitLast`: the parts before and behind that element. `splitLast_eq`, `splitLast_none`: its
  value from the parts, and where there is no such element. `exists_split`: the parts.
* `behind`, `before`: one of the parts, or the whole list where nothing splits it.
-/

namespace LastSplit

variable {α β : Type} {p : α → Bool} {pre post l : List α} {c : α}

/-- What is before and behind the last element with `p`. -/
def splitLast (p : α → Bool) : List α → Option (List α × List α)
  | [] => none
  | x :: xs =>
    match splitLast p xs with
    | some parts => some (x :: parts.1, parts.2)
    | none => if p x then some ([], xs) else none

/-- The part behind the last element with `p`, the whole list if there is none. -/
def behind (p : α → Bool) (l : List α) : List α := ((splitLast p l).map Prod.snd).getD l

/-- The part before the last element with `p`, the whole list if there is none. -/
def before (p : α → Bool) (l : List α) : List α := ((splitLast p l).map Prod.fst).getD l

theorem splitLast_none (h : ∀ x ∈ l, p x = false) : splitLast p l = none := by
  induction l with
  | nil => rfl
  | cons x xs ih =>
    obtain ⟨hx, hxs⟩ := List.forall_mem_cons.mp h
    simp [splitLast, ih hxs, hx]

/-- By induction on what is before the element. -/
theorem splitLast_eq (hc : p c = true) (hpost : ∀ x ∈ post, p x = false) :
    splitLast p (pre ++ c :: post) = some (pre, post) := by
  induction pre with
  | nil => simp [splitLast, splitLast_none hpost, hc]
  | cons x xs ih => rw [List.cons_append, splitLast, ih]

theorem exists_split (h : ∃ x ∈ l, p x = true) :
    ∃ pre c post, l = pre ++ c :: post ∧ p c = true ∧ ∀ x ∈ post, p x = false := by
  induction l with
  | nil =>
    obtain ⟨x, hx, _⟩ := h
    cases hx
  | cons x xs ih =>
    by_cases hxs : ∃ y ∈ xs, p y = true
    · obtain ⟨pre, c, post, rfl, hc, hpost⟩ := ih hxs
      exact ⟨x :: pre, c, post, rfl, hc, hpost⟩
    · have hpost : ∀ y ∈ xs, p y = false := by
        intro y hy
        exact Bool.eq_false_iff.mpr fun hp => hxs ⟨y, hy, hp⟩
      obtain ⟨y, hy, hpy⟩ := h
      rcases List.mem_cons.mp hy with rfl | hy
      · exact ⟨[], y, xs, rfl, hpy, hpost⟩
      · exact absurd ⟨y, hy, hpy⟩ hxs

theorem behind_eq (hc : p c = true) (hpost : ∀ x ∈ post, p x = false) :
    behind p (pre ++ c :: post) = post := by
  rw [behind, splitLast_eq hc hpost]
  rfl

theorem before_eq (hc : p c = true) (hpost : ∀ x ∈ post, p x = false) :
    before p (pre ++ c :: post) = pre := by
  rw [before, splitLast_eq hc hpost]
  rfl

theorem behind_self (h : ∀ x ∈ l, p x = false) : behind p l = l := by
  rw [behind, splitLast_none h]
  rfl

theorem before_self (h : ∀ x ∈ l, p x = false) : before p l = l := by
  rw [before, splitLast_none h]
  rfl

end LastSplit
