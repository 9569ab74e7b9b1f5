import Mathlib.Data.List.Perm.Basic
import Mathlib.Data.List.Range
import Mathlib.Data.List.Nodup

/-!
# Handles

Handles that are given out one after another and given back in any order, with the record of what
was given back. Nothing stops a handle from being given back twice or never.

`Outstanding h live` says that nothing was given back twice and that `live` is what is still out.
`acquire` and `release` keep it, so a program is followed by what it holds; at the end everything
was given back once exactly when nothing is left (`allReturnedOnce_iff`).
-/

/-- The number of handles given out so far, and the handles given back. -/
structure Handles where
  given : Nat
  returned : List Nat

namespace Handles

def empty : Handles := ⟨0, []⟩

/-- The next handle, and the record after it was given out. -/
def acquire (h : Handles) : Nat × Handles := (h.given, ⟨h.given + 1, h.returned⟩)

def release (h : Handles) (handle : Nat) : Handles := ⟨h.given, h.returned ++ [handle]⟩

/-- Every handle that was given out was given back exactly once. -/
def AllReturnedOnce (h : Handles) : Prop := ∀ i, i < h.given → h.returned.count i = 1

/-- The handles in `live` are out, all others were given back once. -/
def Outstanding (h : Handles) (live : List Nat) : Prop :=
  (h.returned ++ live).Perm (List.range h.given)

variable {h : Handles} {live live' : List Nat} {i : Nat}

theorem outstanding_empty : Outstanding empty [] := List.Perm.refl _

theorem Outstanding.acquire (hout : Outstanding h live) :
    Outstanding h.acquire.2 (h.acquire.1 :: live) := by
  show (h.returned ++ h.given :: live).Perm (List.range (h.given + 1))
  rw [List.range_succ]
  exact List.perm_middle.trans ((hout.cons _).trans (List.perm_append_singleton _ _).symm)

theorem Outstanding.perm (hout : Outstanding h live) (hperm : live.Perm live') :
    Outstanding h live' :=
  (hperm.symm.append_left _).trans hout

theorem Outstanding.release (hout : Outstanding h (i :: live)) :
    Outstanding (h.release i) live := by
  show ((h.returned ++ [i]) ++ live).Perm _
  rw [List.append_assoc]
  exact hout

/-- Nothing outstanding is lost in the books, and nothing is given back on top. -/
theorem Outstanding.length (hout : Outstanding h live) :
    h.returned.length + live.length = h.given := by
  have hlen := List.Perm.length_eq hout
  rwa [List.length_append, List.length_range] at hlen

/-- Handles need not come back in the order in which they were given out. -/
theorem Outstanding.release_behind (newer : List Nat) (hout : Outstanding h (newer ++ i :: live)) :
    Outstanding (h.release i) (newer ++ live) :=
  (hout.perm List.perm_middle).release

theorem Outstanding.nodup (hout : Outstanding h live) : (h.returned ++ live).Nodup :=
  hout.nodup_iff.mpr List.nodup_range

/-- Everything was given back once exactly when nothing is out. -/
theorem Outstanding.allReturnedOnce_iff (hout : Outstanding h live) :
    AllReturnedOnce h ↔ live = [] := by
  constructor
  · intro hall
    by_contra hne
    obtain ⟨i, hi⟩ := List.exists_mem_of_ne_nil live hne
    have hlt : i < h.given := List.mem_range.mp (hout.mem_iff.mp (List.mem_append_right _ hi))
    -- a handle that is out was not given back
    have hnot : i ∉ h.returned := fun hmem => (List.disjoint_of_nodup_append hout.nodup) hmem hi
    have hcount := hall i hlt
    rw [List.count_eq_zero_of_not_mem hnot] at hcount
    omega
  · rintro rfl i hlt
    have hnodup := hout.nodup
    have hmem := hout.mem_iff.mpr (List.mem_range.mpr hlt)
    rw [List.append_nil] at hnodup hmem
    exact List.count_eq_one_of_mem hnodup hmem

/-- What one owner has, and what the owners around it have. -/
theorem flatMap_set {α : Type} (f : α → List Nat) {owners : List α} {k : Nat} {a : α}
    (ha : owners[k]? = some a) : ∃ others, (owners.flatMap f).Perm (f a ++ others) ∧
      ∀ b, ((owners.set k b).flatMap f).Perm (f b ++ others) := by
  obtain ⟨hlt, hget⟩ := List.getElem?_eq_some_iff.mp ha
  have hsplit : owners = owners.take k ++ a :: owners.drop (k + 1) := by
    rw [← hget, List.getElem_cons_drop, List.take_append_drop]
  have hperm : ∀ b, ((owners.take k ++ b :: owners.drop (k + 1)).flatMap f).Perm
      (f b ++ ((owners.take k).flatMap f ++ (owners.drop (k + 1)).flatMap f)) := by
    intro b
    rw [List.flatMap_append, List.flatMap_cons]
    exact List.perm_append_comm_assoc ..
  refine ⟨(owners.take k).flatMap f ++ (owners.drop (k + 1)).flatMap f, ?_, ?_⟩
  · have h := hperm a
    rwa [← hsplit] at h
  · intro b
    rw [List.set_eq_take_append_cons_drop, if_pos hlt]
    exact hperm b

end Handles
