import Mathlib

/-!
# FBXRenderer.Lib.Sampling

A value that changes at any time and is read once per sample.

* Bits: `RisesAt s i` and `FallsAt s i` compare sample `i` with the bit before it. Whatever the
  signal, rises and falls alternate and start with a rise (`edges_alternate`), and the bit is set
  exactly from a rise up to the next fall (`set_iff_since_rise`).
* Positions: a sample that keeps only the last displacement since the sample before loses what the
  displacements before it have moved, `overtaken`. `seen_add_lost` balances the two.
-/

namespace Sampling

section Bits

/-- The bit is set at sample `i` and was not set before it. -/
def RisesAt (s : Nat → Bool) (i : Nat) : Prop := s i = false ∧ s (i + 1) = true

/-- The bit is not set at sample `i` and was set before it. -/
def FallsAt (s : Nat → Bool) (i : Nat) : Prop := s i = true ∧ s (i + 1) = false

/-- Two kinds of events at the samples of a run: never both at once, one of the other kind between
any two of one kind, and one of the first kind before anything of the second. -/
structure Alternate (first second : Nat → Prop) : Prop where
  apart : ∀ i, ¬ (first i ∧ second i)
  starts : ∀ j, second j → ∃ i, i < j ∧ first i
  second_between : ∀ i j, i < j → first i → first j → ∃ k, i < k ∧ k < j ∧ second k
  first_between : ∀ i j, i < j → second i → second j → ∃ k, i < k ∧ k < j ∧ first k

variable {s : Nat → Bool} {i j : Nat}

theorem exists_rise (hij : i ≤ j) (hi : s i = false) (hj : s j = true) :
    ∃ k, i ≤ k ∧ k < j ∧ RisesAt s k := by
  induction j, hij using Nat.le_induction with
  | base => rw [hi] at hj; cases hj
  | succ j hij ih =>
    cases hsj : s j with
    | false => exact ⟨j, hij, Nat.lt_succ_self j, hsj, hj⟩
    | true =>
      obtain ⟨k, hik, hkj, hk⟩ := ih hsj
      exact ⟨k, hik, Nat.lt_succ_of_lt hkj, hk⟩

theorem fallsAt_iff_risesAt_not : FallsAt s i ↔ RisesAt (fun k => !s k) i := by
  simp [FallsAt, RisesAt]

theorem exists_fall (hij : i ≤ j) (hi : s i = true) (hj : s j = false) :
    ∃ k, i ≤ k ∧ k < j ∧ FallsAt s k := by
  have hrise : ∃ k, i ≤ k ∧ k < j ∧ RisesAt (fun k => !s k) k :=
    exists_rise hij (by rw [hi]; rfl) (by rw [hj]; rfl)
  simpa only [fallsAt_iff_risesAt_not] using hrise

/-- Rises and falls among the first `n` samples alternate. -/
theorem edges_alternate (s : Nat → Bool) (h0 : s 0 = false) (n : Nat) :
    Alternate (fun i => i < n ∧ RisesAt s i) (fun i => i < n ∧ FallsAt s i) where
  apart := by
    rintro i ⟨⟨_, hrise, _⟩, _, hfall, _⟩
    rw [hrise] at hfall
    cases hfall
  starts := by
    rintro j ⟨hj, hfall, _⟩
    obtain ⟨k, _, hkj, hk⟩ := exists_rise (Nat.zero_le j) h0 hfall
    exact ⟨k, hkj, hkj.trans hj, hk⟩
  second_between := by
    rintro i j hij ⟨_, _, hi⟩ ⟨hj, hrise, _⟩
    obtain ⟨k, hik, hkj, hk⟩ := exists_fall (Nat.succ_le_of_lt hij) hi hrise
    exact ⟨k, hik, hkj, hkj.trans hj, hk⟩
  first_between := by
    rintro i j hij ⟨_, _, hi⟩ ⟨hj, hfall, _⟩
    obtain ⟨k, hik, hkj, hk⟩ := exists_rise (Nat.succ_le_of_lt hij) hi hfall
    exact ⟨k, hik, hkj, hkj.trans hj, hk⟩

/-- The bit is set at a sample exactly when it rose at this or an earlier one and has not fallen
since. -/
theorem set_iff_since_rise (h0 : s 0 = false) (i : Nat) :
    s (i + 1) = true ↔ ∃ d, d ≤ i ∧ RisesAt s d ∧ ∀ u, d < u → u ≤ i → ¬ FallsAt s u := by
  induction i with
  | zero =>
    constructor
    · intro h
      exact ⟨0, Nat.le_refl 0, ⟨h0, h⟩, fun u hu hu0 => by omega⟩
    · rintro ⟨d, hd, hrise, _⟩
      rw [Nat.le_zero.mp hd] at hrise
      exact hrise.2
  | succ i ih =>
    constructor
    · intro h
      cases hsi : s (i + 1) with
      | false => exact ⟨i + 1, Nat.le_refl _, ⟨hsi, h⟩, fun u hu hui => by omega⟩
      | true =>
        obtain ⟨d, hd, hrise, hno⟩ := ih.mp hsi
        refine ⟨d, Nat.le_succ_of_le hd, hrise, fun u hu hui hfall => ?_⟩
        obtain rfl | hlt := Nat.eq_or_lt_of_le hui
        · rw [hfall.2] at h
          cases h
        · exact hno u hu (Nat.le_of_lt_succ hlt) hfall
    · rintro ⟨d, hd, hrise, hno⟩
      obtain rfl | hlt := Nat.eq_or_lt_of_le hd
      · exact hrise.2
      · have hdi : d ≤ i := Nat.le_of_lt_succ hlt
        have hset : s (i + 1) = true :=
          ih.mpr ⟨d, hdi, hrise, fun u hu hui => hno u hu (Nat.le_succ_of_le hui)⟩
        by_contra hunset
        exact hno (i + 1) hlt (Nat.le_refl _) ⟨hset, Bool.eq_false_iff.mpr hunset⟩

end Bits

section Positions

variable {G : Type} [AddCommGroup G]

/-- The last displacement of a movement through `ps`, none when there is no movement. -/
def lastStep (p : G) : List G → G
  | [] => 0
  | [q] => q - p
  | q :: r :: rest => lastStep q (r :: rest)

/-- What the displacements before the last one add up to. -/
def overtaken (p : G) : List G → G
  | [] => 0
  | [_] => 0
  | q :: r :: rest => (q - p) + overtaken q (r :: rest)

/-- The sum of the last displacements, over the movements between samples. -/
def seen (p : G) : List (List G) → G
  | [] => 0
  | w :: ws => lastStep p w + seen (w.getLastD p) ws

/-- The sum of what is overtaken, over the movements between samples. -/
def lost (p : G) : List (List G) → G
  | [] => 0
  | w :: ws => overtaken p w + lost (w.getLastD p) ws

/-- Where the movements end. -/
def final (p : G) : List (List G) → G
  | [] => p
  | w :: ws => final (w.getLastD p) ws

theorem lastStep_concat (p q : G) (ps : List G) :
    lastStep p (ps ++ [q]) = q - ps.getLastD p := by
  induction ps generalizing p with
  | nil => rfl
  | cons r ps ih =>
    cases ps with
    | nil => rfl
    | cons t ps => exact ih r

theorem lastStep_add_overtaken (p : G) (ps : List G) :
    lastStep p ps + overtaken p ps = ps.getLastD p - p := by
  induction ps generalizing p with
  | nil => simp [lastStep, overtaken]
  | cons q ps ih =>
    cases ps with
    | nil => simp [lastStep, overtaken]
    | cons r ps =>
      have hrest := ih q
      calc lastStep q (r :: ps) + ((q - p) + overtaken q (r :: ps))
          = (lastStep q (r :: ps) + overtaken q (r :: ps)) + (q - p) := by abel
        _ = ((r :: ps).getLastD q - q) + (q - p) := by rw [hrest]
        _ = (r :: ps).getLastD q - p := by abel

/-- Seen and lost motion together are the whole way. -/
theorem seen_add_lost (p : G) (ws : List (List G)) :
    seen p ws + lost p ws = final p ws - p := by
  induction ws generalizing p with
  | nil => simp [seen, lost, final]
  | cons w ws ih =>
    have hrest := ih (w.getLastD p)
    calc lastStep p w + seen (w.getLastD p) ws + (overtaken p w + lost (w.getLastD p) ws)
        = (lastStep p w + overtaken p w)
            + (seen (w.getLastD p) ws + lost (w.getLastD p) ws) := by abel
      _ = (w.getLastD p - p) + (final (w.getLastD p) ws - w.getLastD p) := by
          rw [lastStep_add_overtaken, hrest]
      _ = final (w.getLastD p) ws - p := by abel

/-- The samples see the whole way exactly when nothing is lost. -/
theorem seen_eq_iff (p : G) (ws : List (List G)) :
    seen p ws = final p ws - p ↔ lost p ws = 0 := by
  rw [← seen_add_lost, left_eq_add]

/-- A sample loses nothing of at most one displacement. -/
theorem lost_eq_zero_of_short {p : G} {ws : List (List G)} (h : ∀ w ∈ ws, w.length ≤ 1) :
    lost p ws = 0 := by
  induction ws generalizing p with
  | nil => rfl
  | cons w ws ih =>
    have hrest := ih (p := w.getLastD p) fun v hv => h v (List.mem_cons_of_mem w hv)
    have hw : overtaken p w = 0 := by
      cases w with
      | nil => rfl
      | cons q w =>
        cases w with
        | nil => rfl
        | cons r w =>
          have hlen := h _ (List.mem_cons_self ..)
          simp at hlen
    rw [lost, hw, hrest, add_zero]

end Positions

end Sampling
