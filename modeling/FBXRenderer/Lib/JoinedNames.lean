import Mathlib.Data.List.Basic

/-!
# FBXRenderer.Lib.JoinedNames

Names joined from two words with a separator between them, which may occur in the words too.

* `join_eq_join_iff`: two names are equal when the words are, or when one first word goes on,
  behind a separator, with what the other second word begins with.
-/

namespace FBXRenderer
namespace JoinedNames

variable {α : Type} (sep : α)

def join (p : List α × List α) : List α := p.1 ++ sep :: p.2

/-- The first word of `p` goes on, behind that of `q`, into the second word of `q`. -/
def Overlaps (p q : List α × List α) : Prop :=
  ∃ w, p.1 = q.1 ++ sep :: w ∧ q.2 = w ++ sep :: p.2

def Clash (p q : List α × List α) : Prop := p = q ∨ Overlaps sep p q ∨ Overlaps sep q p

variable {sep} {p q : List α × List α}

theorem Clash.symm (h : Clash sep p q) : Clash sep q p := by
  obtain rfl | h | h := h
  · exact Or.inl rfl
  · exact Or.inr (Or.inr h)
  · exact Or.inr (Or.inl h)

theorem join_of_overlaps (h : Overlaps sep p q) : join sep p = join sep q := by
  obtain ⟨w, h1, h2⟩ := h
  simp [join, h1, h2]

/-- What two equal names have behind the shorter first word. -/
theorem clash_of_longer {w : List α} (h1 : q.1 = p.1 ++ w) (h2 : sep :: p.2 = w ++ sep :: q.2) :
    Clash sep p q := by
  cases w with
  | nil =>
    left
    rw [List.append_nil] at h1
    exact Prod.ext h1.symm (List.cons.inj h2).2
  | cons a w =>
    right
    right
    obtain ⟨rfl, hrest⟩ := List.cons.inj h2
    exact ⟨w, h1, hrest⟩

theorem join_eq_join_iff : join sep p = join sep q ↔ Clash sep p q := by
  constructor
  · intro h
    obtain ⟨w, h1, h2⟩ | ⟨w, h1, h2⟩ := List.append_eq_append_iff.mp h
    · exact clash_of_longer h1 h2
    · exact (clash_of_longer h1 h2).symm
  · rintro (rfl | h | h)
    · rfl
    · exact join_of_overlaps h
    · exact (join_of_overlaps h).symm

end JoinedNames
end FBXRenderer
