import Mathlib

/-!
# FBXRenderer.Lib.Compact

Packing a table: a loop over the indices below `n` puts what belongs to the selected ones into
another table, one after the other.

* `picked` are the selected indices in increasing order, `Packed` is what the loop keeps.
* `eq_picked_iff`: a list of the same indices is in the order of the loop exactly when it is
  increasing.
-/

namespace Compact

variable {α : Type}

/-- The indices below `n` that `p` selects, in increasing order. -/
def picked (p : Nat → Bool) (n : Nat) : List Nat := (List.range n).filter p

section Picked

variable {p : Nat → Bool} {n : Nat}

theorem mem_picked {i : Nat} : i ∈ picked p n ↔ i < n ∧ p i = true := by
  unfold picked
  rw [List.mem_filter, List.mem_range]

theorem picked_succ_of_true (h : p n = true) : picked p (n + 1) = picked p n ++ [n] := by
  unfold picked
  rw [List.range_succ, List.filter_append, List.filter_singleton, h]
  rfl

theorem picked_succ_of_false (h : p n = false) : picked p (n + 1) = picked p n := by
  unfold picked
  rw [List.range_succ, List.filter_append, List.filter_singleton, h]
  exact List.append_nil _

theorem picked_length_succ (h : p n = true) :
    (picked p (n + 1)).length = (picked p n).length + 1 := by
  rw [picked_succ_of_true h, List.length_append, List.length_singleton]

theorem picked_pairwise (p : Nat → Bool) (n : Nat) : (picked p n).Pairwise (· < ·) :=
  List.pairwise_lt_range.filter p

theorem picked_length_le : (picked p n).length ≤ n :=
  (List.length_filter_le p _).trans_eq List.length_range

theorem picked_length_mono {m : Nat} (h : m ≤ n) : (picked p m).length ≤ (picked p n).length := by
  induction h with
  | refl => exact Nat.le_refl _
  | step _ ih =>
    rename_i k _
    cases hp : p k with
    | true =>
      rw [picked_length_succ hp]
      exact Nat.le_succ_of_le ih
    | false =>
      rw [picked_succ_of_false hp]
      exact ih

/-- A selected index comes after the earlier ones. -/
theorem picked_length_lt {i j : Nat} (hp : p i = true) (h : i < j) :
    (picked p i).length < (picked p j).length := by
  have hmono : (picked p (i + 1)).length ≤ (picked p j).length := picked_length_mono h
  rw [picked_length_succ hp] at hmono
  exact hmono

/-- One more selected index. -/
theorem picked_length_insert {p' : Nat → Bool} {s : Nat} (hp : p s = false) (hp' : p' s = true)
    (hrest : ∀ i, i ≠ s → p' i = p i) (hs : s < n) :
    (picked p' n).length = (picked p n).length + 1 := by
  induction n with
  | zero => exact absurd hs (Nat.not_lt_zero s)
  | succ n ih =>
    rcases Nat.lt_succ_iff_lt_or_eq.mp hs with hlt | rfl
    · have hn := hrest n (by omega)
      cases hpn : p n with
      | true =>
        rw [picked_length_succ hpn, picked_length_succ (hn.trans hpn), ih hlt]
      | false => rw [picked_succ_of_false hpn, picked_succ_of_false (hn.trans hpn), ih hlt]
    · have hsame : picked p' s = picked p s :=
        List.filter_congr fun i hi => hrest i (List.mem_range.mp hi).ne
      rw [picked_length_succ hp', picked_succ_of_false hp, hsame]

/-- The selected indices are below their number exactly when they have no gap. -/
theorem lt_picked_length_iff (p : Nat → Bool) (n : Nat) :
    (∀ s, s < n → p s = true → s < (picked p n).length) ↔
      ∀ s, s < n → p s = true → ∀ t, t < s → p t = true := by
  constructor
  · intro h s hs hps t ht
    -- as many indices below a bound as the bound are all of them
    have hsub : picked p n ⊆ List.range (picked p n).length := fun i hi => by
      obtain ⟨hin, hpi⟩ := mem_picked.mp hi
      exact List.mem_range.mpr (h i hin hpi)
    have hperm : (picked p n).Perm (List.range (picked p n).length) :=
      (List.subperm_of_subset (picked_pairwise p n).nodup hsub).perm_of_length_le
        (by rw [List.length_range])
    have ht' : t ∈ picked p n :=
      hperm.mem_iff.mpr (List.mem_range.mpr (Nat.lt_trans ht (h s hs hps)))
    exact (mem_picked.mp ht').2
  · intro h s hs hps
    have hall : picked p s = List.range s :=
      List.filter_eq_self.mpr fun t ht => h s hs hps t (List.mem_range.mp ht)
    have hlt := picked_length_lt hps hs
    rw [hall, List.length_range] at hlt
    exact hlt

/-- A list of the selected indices is in the order of the loop when it is increasing. -/
theorem eq_picked_iff {xs : List Nat} (hnodup : xs.Nodup)
    (hmem : ∀ i, i ∈ xs ↔ i < n ∧ p i = true) : xs = picked p n ↔ xs.Pairwise (· < ·) := by
  constructor
  · intro h
    rw [h]
    exact picked_pairwise p n
  · intro h
    have hperm : xs.Perm (picked p n) := by
      refine (List.perm_ext_iff_of_nodup hnodup (picked_pairwise p n).nodup).mpr fun i => ?_
      rw [hmem, mem_picked]
    exact hperm.eq_of_pairwise' h (picked_pairwise p n)

end Picked

/-- After the indices below `n`: `c` entries of `table` are filled, with what `g` gives for the
selected indices. -/
structure Packed (p : Nat → Bool) (g : Nat → α) (n c : Nat) (table : Nat → α) : Prop where
  count : c = (picked p n).length
  filled : ∀ j i, (picked p n)[j]? = some i → table j = g i

section Packed

variable {p : Nat → Bool} {g : Nat → α} {n c : Nat} {table : Nat → α}

theorem packed_zero (p : Nat → Bool) (g : Nat → α) (table : Nat → α) :
    Packed p g 0 0 table where
  count := rfl
  filled := fun _ _ h => nomatch h

theorem Packed.skip (h : Packed p g n c table) (hp : p n = false) :
    Packed p g (n + 1) c table where
  count := by rw [picked_succ_of_false hp, h.count]
  filled := by
    rw [picked_succ_of_false hp]
    exact h.filled

theorem Packed.put (h : Packed p g n c table) (hp : p n = true) :
    Packed p g (n + 1) (c + 1) (Function.update table c (g n)) where
  count := by rw [picked_length_succ hp, h.count]
  filled := by
    intro j i hj
    rw [picked_succ_of_true hp] at hj
    rcases Nat.lt_trichotomy j c with hlt | rfl | hgt
    · rw [List.getElem?_append_left (by rw [← h.count]; exact hlt)] at hj
      rw [Function.update_of_ne hlt.ne]
      exact h.filled j i hj
    · rw [h.count, List.getElem?_concat_length] at hj
      cases hj
      exact Function.update_self ..
    · rw [List.getElem?_eq_none (by rw [List.length_append, ← h.count]; exact hgt)] at hj
      cases hj

/-- The filled entries are those of `xs`, position by position, exactly when `xs` is increasing. -/
theorem Packed.eq_iff (h : Packed p g n c table) {xs : List Nat} (hnodup : xs.Nodup)
    (hmem : ∀ i, i ∈ xs ↔ i < n ∧ p i = true)
    (hinj : ∀ i j, p i = true → p j = true → g i = g j → i = j) :
    (∀ j i, xs[j]? = some i → table j = g i) ↔ xs.Pairwise (· < ·) := by
  rw [← eq_picked_iff hnodup hmem]
  constructor
  · intro hall
    have hlength : xs.length = (picked p n).length :=
      ((List.perm_ext_iff_of_nodup hnodup (picked_pairwise p n).nodup).mpr fun i => by
        rw [hmem, mem_picked]).length_eq
    refine List.ext_getElem hlength fun j hj hj' => ?_
    have hget := List.getElem?_eq_getElem hj
    have hget' := List.getElem?_eq_getElem hj'
    refine hinj _ _ ((hmem _).mp (List.getElem_mem hj)).2
      (mem_picked.mp (List.getElem_mem hj')).2 ?_
    rw [← hall j _ hget, ← h.filled j _ hget']
  · rintro rfl
    exact h.filled

end Packed

end Compact
