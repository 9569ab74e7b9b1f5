import Mathlib.Data.List.Induction
import Mathlib.Data.List.Basic
import Mathlib.Data.List.Dedup
import Mathlib.Data.List.Perm.Basic

/-!
# FirstFit

Greedy first-fit clustering over an arbitrary type. Items arrive one by one; an item that fits no
kept item so far is kept itself, any other is given to the first kept item it fits. `fits` need
not be symmetric or transitive.

Where fitting means having the same key, one item is kept for each key (`length_stored`) and items
are in one cluster exactly when their keys agree (`index_eq_index_iff`).

The cluster of an item does not change as more items are kept (`index_stored_append`), and it is
named by an item that was seen (`mem_of_mem_stored`) and that the item fits (`fits_at_index`).
-/

namespace FirstFit

variable {α : Type} (fits : α → α → Bool)

def keep (S : List α) (x : α) : List α :=
  if S.any (fun s => fits s x) then S else S ++ [x]

/-- The kept items after the whole list has arrived. -/
def stored (xs : List α) : List α := xs.foldl (keep fits) []

/-- Position of the first kept item that `x` fits. -/
def index (S : List α) (x : α) : Nat := S.findIdx fun s => fits s x

theorem stored_concat (xs : List α) (x : α) :
    stored fits (xs ++ [x]) = keep fits (stored fits xs) x := by
  simp [stored, List.foldl_append]

theorem keep_of_fit {S : List α} {x : α} (h : index fits S x < S.length) : keep fits S x = S := by
  unfold keep index at *
  rw [List.findIdx_lt_length] at h
  rw [if_pos (List.any_eq_true.mpr h)]

theorem keep_of_no_fit {S : List α} {x : α} (h : ¬ index fits S x < S.length) :
    keep fits S x = S ++ [x] := by
  unfold keep index at *
  rw [List.findIdx_lt_length] at h
  rw [if_neg fun hany => h (List.any_eq_true.mp hany)]

theorem keep_extends (S : List α) (x : α) : S <+: keep fits S x := by
  unfold keep
  split
  · exact List.prefix_rfl
  · exact List.prefix_append S [x]

theorem stored_extends (xs ys : List α) : stored fits xs <+: stored fits (xs ++ ys) := by
  induction ys generalizing xs with
  | nil => simp
  | cons y ys ih =>
    have h1 : stored fits xs <+: stored fits (xs ++ [y]) := by
      rw [stored_concat]; exact keep_extends fits _ _
    have h2 := ih (xs ++ [y])
    rw [List.append_assoc] at h2
    exact h1.trans h2

/-- Only what `fits` says of the kept items matters. -/
theorem index_congr {S : List α} {x : α} {g : α → Bool} (h : ∀ s ∈ S, fits s x = g s) :
    index fits S x = S.findIdx g := by
  unfold index
  induction S with
  | nil => rfl
  | cons s S ih =>
    have hS := ih fun t ht => h t (List.mem_cons_of_mem _ ht)
    rw [List.findIdx_cons, List.findIdx_cons, h s (List.mem_cons_self ..), hS]

theorem index_le_length (S : List α) (x : α) : index fits S x ≤ S.length := List.findIdx_le_length

theorem index_eq_of_prefix {S S' : List α} {x : α} (h : S <+: S')
    (hlt : index fits S x < S.length) : index fits S' x = index fits S x :=
  (List.IsPrefix.findIdx_eq_of_findIdx_lt_length h hlt)

theorem mem_of_mem_stored {s : α} : ∀ {xs : List α}, s ∈ stored fits xs → s ∈ xs := by
  intro xs
  induction xs using List.reverseRecOn with
  | nil => intro h; exact h
  | append_singleton xs x ih =>
    intro h
    rw [stored_concat] at h
    unfold keep at h
    split at h
    · exact List.mem_append_left _ (ih h)
    · rcases List.mem_append.mp h with h1 | h1
      · exact List.mem_append_left _ (ih h1)
      · exact List.mem_append_right _ h1

/-- No kept item fits an earlier one. -/
theorem pairwise_stored (xs : List α) : (stored fits xs).Pairwise fun s x => fits s x = false := by
  induction xs using List.reverseRecOn with
  | nil => exact List.Pairwise.nil
  | append_singleton xs x ih =>
    rw [stored_concat, keep]
    split
    · exact ih
    · rename_i hnone
      refine List.pairwise_append.mpr ⟨ih, List.pairwise_singleton _ x, ?_⟩
      intro s hs y hy
      rw [List.mem_singleton.mp hy, ← Bool.not_eq_true]
      exact fun hfit => hnone (List.any_eq_true.mpr ⟨s, hs, hfit⟩)

theorem length_stored_le (xs : List α) : (stored fits xs).length ≤ xs.length := by
  induction xs using List.reverseRecOn with
  | nil => exact Nat.le_refl 0
  | append_singleton xs x ih =>
    rw [stored_concat, List.length_append]
    unfold keep
    split
    · exact Nat.le_add_right_of_le ih
    · rw [List.length_append]
      exact Nat.add_le_add_right ih _

section Reflexive

variable {fits} (hrefl : ∀ x, fits x x = true)
include hrefl

/-- After `x` has arrived its index is where the search left off. -/
theorem index_keep (S : List α) (x : α) :
    index fits (keep fits S x) x = index fits S x ∧
      index fits (keep fits S x) x < (keep fits S x).length := by
  by_cases h : index fits S x < S.length
  · rw [keep_of_fit fits h]
    exact ⟨rfl, h⟩
  · have hle := index_le_length fits S x
    have heq : index fits S x = S.length := by omega
    rw [keep_of_no_fit fits h]
    have happ : index fits (S ++ [x]) x = S.length := by
      unfold index at *
      rw [List.findIdx_append, if_neg h]
      simp [hrefl]
    rw [happ, heq, List.length_append]
    exact ⟨rfl, Nat.lt_succ_self _⟩

theorem index_lt_of_mem {xs : List α} {x : α} (hx : x ∈ xs) :
    index fits (stored fits xs) x < (stored fits xs).length := by
  obtain ⟨pre, post, rfl⟩ := List.append_of_mem hx
  have h1 := (index_keep hrefl (stored fits pre) x).2
  rw [← stored_concat] at h1
  have hpre := stored_extends fits (pre ++ [x]) post
  rw [List.append_assoc] at hpre
  have h2 := index_eq_of_prefix fits hpre h1
  have hlen := hpre.length_le
  simp only [List.cons_append, List.nil_append] at h2 hlen
  omega

/-- Later items do not move an earlier one. -/
theorem index_stored_append {xs : List α} (ys : List α) {x : α} (hx : x ∈ xs) :
    index fits (stored fits (xs ++ ys)) x = index fits (stored fits xs) x :=
  index_eq_of_prefix fits (stored_extends fits xs ys) (index_lt_of_mem hrefl hx)

theorem fits_at_index {xs : List α} {x : α} (hx : x ∈ xs) :
    ∃ s, (stored fits xs)[index fits (stored fits xs) x]? = some s ∧ fits s x = true := by
  have hlt := index_lt_of_mem hrefl hx
  refine ⟨_, List.getElem?_eq_getElem hlt, ?_⟩
  exact List.findIdx_getElem (w := hlt)

end Reflexive

/-! Items that fit when they have the same key: one item is kept for each key. -/

section Key

variable {β : Type} {fits} {key : α → β} (hfits : ∀ s x, fits s x = true ↔ key s = key x)
include hfits

theorem mem_keys_stored {xs : List α} {b : β} :
    b ∈ (stored fits xs).map key ↔ b ∈ xs.map key := by
  constructor
  · intro hb
    obtain ⟨s, hs, rfl⟩ := List.mem_map.mp hb
    exact List.mem_map_of_mem (mem_of_mem_stored fits hs)
  · intro hb
    obtain ⟨x, hx, rfl⟩ := List.mem_map.mp hb
    obtain ⟨s, hs, hfit⟩ := fits_at_index (fun x => (hfits x x).mpr rfl) hx
    rw [← (hfits s x).mp hfit]
    exact List.mem_map_of_mem (List.mem_of_getElem? hs)

theorem nodup_keys_stored (xs : List α) : ((stored fits xs).map key).Nodup := by
  induction xs using List.reverseRecOn with
  | nil => exact List.nodup_nil
  | append_singleton xs x ih =>
    rw [stored_concat, keep]
    split
    · exact ih
    · rename_i hnone
      rw [List.map_append, List.map_singleton]
      refine List.Nodup.append ih (List.nodup_singleton _) ?_
      intro b hb hbx
      obtain ⟨s, hs, rfl⟩ := List.mem_map.mp hb
      refine hnone (List.any_eq_true.mpr ⟨s, hs, (hfits s x).mpr ?_⟩)
      exact List.mem_singleton.mp hbx

theorem length_stored [DecidableEq β] (xs : List α) :
    (stored fits xs).length = (xs.map key).dedup.length := by
  have hperm : ((stored fits xs).map key).Perm (xs.map key).dedup := by
    rw [List.perm_ext_iff_of_nodup (nodup_keys_stored hfits xs) (List.nodup_dedup _)]
    intro b
    rw [mem_keys_stored hfits, List.mem_dedup]
  rw [← hperm.length_eq, List.length_map]

/-- An item is found where the item of its key is kept. -/
theorem index_eq_iff {xs : List α} {x : α} (hx : x ∈ xs) {k : Nat} :
    index fits (stored fits xs) x = k ↔ ∃ s, (stored fits xs)[k]? = some s ∧ key s = key x := by
  obtain ⟨t, ht, hfit⟩ := fits_at_index (fun x => (hfits x x).mpr rfl) hx
  constructor
  · rintro rfl
    exact ⟨t, ht, (hfits t x).mp hfit⟩
  · rintro ⟨s, hs, hkey⟩
    have hnodup := nodup_keys_stored hfits xs
    have hsame : ((stored fits xs).map key)[index fits (stored fits xs) x]?
        = ((stored fits xs).map key)[k]? := by
      rw [List.getElem?_map, List.getElem?_map, ht, hs, Option.map_some, Option.map_some,
        (hfits t x).mp hfit, hkey]
    have hlt : index fits (stored fits xs) x < ((stored fits xs).map key).length := by
      rw [List.length_map]
      exact (List.getElem?_eq_some_iff.mp ht).1
    exact (List.getElem?_inj hlt hnodup).mp hsame

theorem index_eq_index_iff {xs : List α} {x y : α} (hx : x ∈ xs) (hy : y ∈ xs) :
    index fits (stored fits xs) x = index fits (stored fits xs) y ↔ key x = key y := by
  obtain ⟨t, ht, hfit⟩ := fits_at_index (fun x => (hfits x x).mpr rfl) hy
  rw [index_eq_iff hfits hx]
  constructor
  · rintro ⟨s, hs, hkey⟩
    rw [ht] at hs
    cases hs
    rw [← hkey, (hfits t y).mp hfit]
  · intro hkey
    exact ⟨t, ht, by rw [(hfits t y).mp hfit, hkey]⟩

end Key

/-! The kept items can be searched through the list of the positions of one key. -/

theorem findIdxs_first {p q : α → Bool} {S : List α} {k : Nat}
    (h : (S.findIdxs p).findIdx? (fun n => S[n]?.any q) = some k) :
    (S.findIdxs p)[k]? = some (S.findIdx fun s => p s && q s) ∧
      (S.findIdx fun s => p s && q s) < S.length := by
  obtain ⟨hk, hq, hbefore⟩ := List.findIdx?_eq_some_iff_getElem.mp h
  have hmem : (S.findIdxs p)[k] ∈ S.findIdxs p := List.getElem_mem hk
  obtain ⟨hlt, hp⟩ := List.mem_findIdxs_iff_exists_getElem_pos.mp hmem
  have heq : (S.findIdx fun s => p s && q s) = (S.findIdxs p)[k] := by
    refine (List.findIdx_eq hlt).mpr ⟨?_, ?_⟩
    · rw [List.getElem?_eq_getElem hlt] at hq
      simpa [hp] using hq
    · intro j hj
      by_contra hr
      have hr : p S[j] = true ∧ q S[j] = true := by simpa using hr
      obtain ⟨m, hm, hjm⟩ := List.getElem_of_mem
        (List.mem_findIdxs_iff_exists_getElem_pos.mpr ⟨by omega, hr.1⟩)
      -- the positions increase, so `j` was tried before `k`
      have hmk : m < k := by
        by_contra hge
        rcases Nat.lt_or_eq_of_le (Nat.le_of_not_lt hge) with hlt' | rfl
        · have hsorted : (S.findIdxs p).Pairwise (· < ·) := List.pairwise_findIdxs
          have := List.pairwise_iff_getElem.mp hsorted k m hk hm hlt'
          omega
        · omega
      apply hbefore m hmk
      rw [hjm, List.getElem?_eq_getElem (by omega)]
      exact hr.2
  rw [heq]
  exact ⟨List.getElem?_eq_getElem hk, hlt⟩

/-- The positions of all keys together are all positions. -/
theorem findIdxs_key_perm {key : α → Nat} {n : Nat} {S : List α} (hkey : ∀ s ∈ S, key s < n) :
    ((List.range n).flatMap fun k => S.findIdxs fun s => decide (key s = k)).Perm
      (List.range S.length) := by
  have hmem : ∀ v k, (v ∈ S.findIdxs fun s => decide (key s = k)) ↔
      ∃ h : v < S.length, key S[v] = k := by
    intro v k
    rw [List.mem_findIdxs_iff_exists_getElem_pos]
    simp only [decide_eq_true_eq]
  refine (List.perm_ext_iff_of_nodup ?_ List.nodup_range).mpr fun v => ?_
  · refine List.nodup_flatMap.mpr ⟨fun k _ => List.nodup_findIdxs, ?_⟩
    refine List.nodup_range.pairwise_of_forall_ne fun k _ k' _ hne v hk hk' => hne ?_
    obtain ⟨_, rfl⟩ := (hmem v k).mp hk
    exact ((hmem v k').mp hk').2
  · rw [List.mem_flatMap, List.mem_range]
    constructor
    · rintro ⟨k, _, hv⟩
      exact ((hmem v k).mp hv).1
    · intro hv
      exact ⟨key S[v], List.mem_range.mpr (hkey _ (List.getElem_mem hv)), (hmem v _).mpr ⟨hv, rfl⟩⟩

theorem findIdxs_none {p q : α → Bool} {S : List α}
    (h : (S.findIdxs p).findIdx? (fun n => S[n]?.any q) = none) :
    (S.findIdx fun s => p s && q s) = S.length := by
  refine List.findIdx_eq_length.mpr ?_
  intro s hs
  obtain ⟨n, hn, rfl⟩ := List.getElem_of_mem hs
  by_contra hr
  have hr : p S[n] = true ∧ q S[n] = true := by simpa using hr
  have hmem := List.mem_findIdxs_iff_exists_getElem_pos.mpr ⟨hn, hr.1⟩
  have := List.findIdx?_eq_none_iff.mp h n hmem
  rw [List.getElem?_eq_getElem hn] at this
  simp [hr.2] at this

end FirstFit
