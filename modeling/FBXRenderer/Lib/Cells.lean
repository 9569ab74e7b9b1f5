import Mathlib.Data.List.Basic

/-!
# Cells

A list of cells that are worked on one at a time: an operation names a cell by its position, and the
others stay. `step` need not return.

A run does to every cell what the cell's own operations do to it alone (`run_cell`), and it goes
through as soon as every operation names a cell and every cell goes through (`run_isSome`).
-/

namespace Cells

variable {C E : Type} (step : C → E → Option C)

def stepAt (cells : List C) (op : Nat × E) : Option (List C) := do
  let cell ← cells[op.1]?
  let cell' ← step cell op.2
  return cells.set op.1 cell'

def run (cells : List C) (ops : List (Nat × E)) : Option (List C) := ops.foldlM (stepAt step) cells

/-- The operations on one cell, in order. -/
def own (i : Nat) (ops : List (Nat × E)) : List E :=
  ops.filterMap fun op => if op.1 = i then some op.2 else none

theorem own_cons_self (i : Nat) (e : E) (ops : List (Nat × E)) :
    own i ((i, e) :: ops) = e :: own i ops := by
  simp [own]

theorem own_cons_other {i j : Nat} (h : j ≠ i) (e : E) (ops : List (Nat × E)) :
    own i ((j, e) :: ops) = own i ops := by
  simp [own, h]

variable {step}

theorem stepAt_some {cells cells' : List C} {j : Nat} {e : E}
    (h : stepAt step cells (j, e) = some cells') :
    ∃ cell cell', cells[j]? = some cell ∧ step cell e = some cell' ∧
      cells' = cells.set j cell' := by
  unfold stepAt at h
  simp only [Option.bind_eq_bind, Option.bind_eq_some_iff, Option.pure_def,
    Option.some.injEq] at h
  obtain ⟨cell, hcell, cell', hstep, hset⟩ := h
  exact ⟨cell, cell', hcell, hstep, hset.symm⟩

theorem run_cons {cells cells' : List C} {op : Nat × E} {ops : List (Nat × E)}
    (h : run step cells (op :: ops) = some cells') :
    ∃ cells1, stepAt step cells op = some cells1 ∧ run step cells1 ops = some cells' := by
  rw [run, List.foldlM_cons] at h
  exact Option.bind_eq_some_iff.mp h

/-- By induction on the operations, for any cells. -/
theorem run_cell {ops : List (Nat × E)} : ∀ {cells cells' : List C},
    run step cells ops = some cells' → ∀ (i : Nat) (cell : C), cells[i]? = some cell →
      ∃ cell', cells'[i]? = some cell' ∧ (own i ops).foldlM step cell = some cell' := by
  induction ops with
  | nil =>
    intro cells cells' h i cell hcell
    cases h
    exact ⟨cell, hcell, rfl⟩
  | cons op ops ih =>
    intro cells cells' h i cell hcell
    obtain ⟨cells1, hstep, hrest⟩ := run_cons h
    obtain ⟨j, e⟩ := op
    obtain ⟨old, new, hold, hnew, rfl⟩ := stepAt_some hstep
    by_cases hj : j = i
    · subst hj
      rw [hold] at hcell
      cases hcell
      have hlt := (List.getElem?_eq_some_iff.mp hold).1
      obtain ⟨cell', hcell', hrun⟩ := ih hrest j new (List.getElem?_set_self hlt)
      refine ⟨cell', hcell', ?_⟩
      rw [own_cons_self, List.foldlM_cons, hnew]
      exact hrun
    · obtain ⟨cell', hcell', hrun⟩ := ih hrest i cell ((List.getElem?_set_ne hj).trans hcell)
      exact ⟨cell', hcell', by rw [own_cons_other hj]; exact hrun⟩

theorem run_isSome {ops : List (Nat × E)} : ∀ {cells : List C},
    (∀ op ∈ ops, op.1 < cells.length) →
    (∀ (i : Nat) (cell : C), cells[i]? = some cell → ((own i ops).foldlM step cell).isSome) →
      (run step cells ops).isSome := by
  induction ops with
  | nil => intro cells _ _; rfl
  | cons op ops ih =>
    intro cells hlt hall
    obtain ⟨j, e⟩ := op
    have hj : j < cells.length := hlt _ (List.mem_cons_self ..)
    have hfirst := hall j _ (List.getElem?_eq_getElem hj)
    rw [own_cons_self, List.foldlM_cons] at hfirst
    obtain ⟨new, hnew⟩ : ∃ new, step cells[j] e = some new := by
      cases hstep : step cells[j] e with
      | none => rw [hstep] at hfirst; cases hfirst
      | some new => exact ⟨new, rfl⟩
    have hstepAt : stepAt step cells (j, e) = some (cells.set j new) := by
      simp [stepAt, List.getElem?_eq_getElem hj, hnew]
    rw [run, List.foldlM_cons, hstepAt]
    refine ih (fun op hop => ?_) fun i cell hcell => ?_
    · rw [List.length_set]
      exact hlt op (List.mem_cons_of_mem _ hop)
    · by_cases hij : j = i
      · subst hij
        rw [List.getElem?_set_self hj] at hcell
        cases hcell
        rw [hnew] at hfirst
        exact hfirst
      · rw [List.getElem?_set_ne hij] at hcell
        have hother := hall i cell hcell
        rwa [own_cons_other hij] at hother

end Cells
