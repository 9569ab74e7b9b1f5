import Mathlib.Data.Nat.ModEq

/-!
# FBXRenderer.Lib.Probe

Linear probing in a table of `cap` slots: from a home slot on, slot after slot with wrap-around,
at most `n` of them, until one of them gives a verdict.

`probe_eq_some` and `probe_eq_none` describe the loop by the slots it tries (`slot cap home i`
for `i < n`), also when `n` exceeds `cap` and the loop laps the table.
-/

namespace Probe

/-- The slot tried after `i` steps from `home`. -/
def slot (cap home i : Nat) : Nat := (home + i) % cap

theorem slot_lt {cap : Nat} (hcap : 0 < cap) (home i : Nat) : slot cap home i < cap :=
  Nat.mod_lt _ hcap

theorem slot_zero {cap home : Nat} (h : home < cap) : slot cap home 0 = home :=
  Nat.mod_eq_of_lt h

theorem slot_next (cap home i : Nat) : slot cap ((home + 1) % cap) i = slot cap home (i + 1) := by
  simp only [slot, Nat.mod_add_mod]
  congr 1
  omega

/-- `while (count < n) { verdict of the slot, or count++ and the next slot }`. -/
def probe {β : Type} (cap : Nat) (verdict : Nat → Option β) : Nat → Nat → Option β
  | 0, _ => none
  | n + 1, h =>
    match verdict h with
    | some b => some b
    | none => probe cap verdict n ((h + 1) % cap)

variable {β : Type} {cap : Nat} {verdict : Nat → Option β}

theorem probe_eq_none (hcap : 0 < cap) :
    ∀ (n h : Nat), h < cap →
      (probe cap verdict n h = none ↔ ∀ i, i < n → verdict (slot cap h i) = none) := by
  intro n
  induction n with
  | zero => intro h _; simp [probe]
  | succ n ih =>
    intro h hh
    simp only [probe]
    cases hv : verdict h with
    | some b =>
      simp only [reduceCtorEq, false_iff, not_forall]
      exact ⟨0, by omega, by rw [slot_zero hh, hv]; simp⟩
    | none =>
      simp only []
      rw [ih _ (Nat.mod_lt _ hcap)]
      constructor
      · intro H i hi
        cases i with
        | zero => rw [slot_zero hh, hv]
        | succ i => rw [← slot_next]; exact H i (by omega)
      · intro H i hi
        rw [slot_next]
        exact H (i + 1) (by omega)

/-- A verdict is that of some slot. -/
theorem exists_verdict {b : β} (n : Nat) :
    ∀ {h : Nat}, probe cap verdict n h = some b → ∃ p, verdict p = some b := by
  induction n with
  | zero =>
    intro h hprobe
    cases hprobe
  | succ n ih =>
    intro h hprobe
    unfold probe at hprobe
    split at hprobe
    · rename_i hv
      exact ⟨h, hv.trans hprobe⟩
    · exact ih hprobe

theorem probe_eq_some (hcap : 0 < cap) {b : β} :
    ∀ (n h : Nat), h < cap →
      (probe cap verdict n h = some b ↔
        ∃ i, i < n ∧ verdict (slot cap h i) = some b ∧
          ∀ j, j < i → verdict (slot cap h j) = none) := by
  intro n
  induction n with
  | zero => intro h _; simp [probe]
  | succ n ih =>
    intro h hh
    simp only [probe]
    cases hv : verdict h with
    | some c =>
      simp only [Option.some.injEq]
      constructor
      · rintro rfl
        exact ⟨0, by omega, by rw [slot_zero hh, hv], fun j hj => by omega⟩
      · rintro ⟨i, _, hi, hlt⟩
        cases i with
        | zero => rw [slot_zero hh, hv] at hi; exact Option.some.inj hi
        | succ i =>
          have := hlt 0 (by omega)
          rw [slot_zero hh, hv] at this
          cases this
    | none =>
      simp only []
      rw [ih _ (Nat.mod_lt _ hcap)]
      constructor
      · rintro ⟨i, hi, hb, hlt⟩
        refine ⟨i + 1, by omega, by rw [← slot_next]; exact hb, fun j hj => ?_⟩
        cases j with
        | zero => rw [slot_zero hh, hv]
        | succ j => rw [← slot_next]; exact hlt j (by omega)
      · rintro ⟨i, hi, hb, hlt⟩
        cases i with
        | zero => rw [slot_zero hh, hv] at hb; cases hb
        | succ i =>
          refine ⟨i, by omega, by rw [slot_next]; exact hb, fun j hj => ?_⟩
          rw [slot_next]
          exact hlt (j + 1) (by omega)

end Probe
