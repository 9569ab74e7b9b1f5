import Mathlib.Data.Option.Basic

/-!
# FBXRenderer.Lib.PartialRun

Runs of operations that need not return. The operations of a run are given in advance, the states in
between are what the operations make of the first one.

* `Each`: a predicate on every operation and the state it is made in.
* `Each.iff`: two predicates that agree wherever an invariant holds agree over every run that keeps
  the invariant.
* `Each.simulates`: where every operation returns what an abstract one does, so does the run.
* `Each.last`: an invariant that every operation establishes holds in the end.
* `foldlM_concat`, `foldlM_range_succ`: a run of one more operation.
* `foldlM_refines`, `foldl_of_foldlM`: a run with checks and the run without them.
* `foldlM_isSome_iff`: a run returns exactly where all its operations do, if what an operation needs
  is not touched by the others.
-/

namespace FBXRenderer
namespace PartialRun

variable {S Op : Type} {step : S → Op → Option S} {s : S} {ops : List Op}

/-- `P` holds of every operation of the run and the state it is made in. -/
def Each (step : S → Op → Option S) (P : S → Op → Prop) (s : S) : List Op → Prop
  | [] => True
  | op :: ops => P s op ∧ ∀ s', step s op = some s' → Each step P s' ops

section Each

variable {A P Q : S → Op → Prop} {Inv : S → Prop}

/-- By induction on the operations: the states on both sides are the same, and as long as both
predicates hold they keep the invariant. -/
theorem Each.iff (hstep : ∀ s op s', Inv s → A s op → Q s op → step s op = some s' → Inv s')
    (hiff : ∀ s op, Inv s → A s op → (P s op ↔ Q s op)) (hinv : Inv s) (hacc : Each step A s ops) :
    Each step P s ops ↔ Each step Q s ops := by
  induction ops generalizing s with
  | nil => exact Iff.rfl
  | cons op ops ih =>
    have hfirst := hiff s op hinv hacc.1
    have hrest : Q s op → ∀ s', step s op = some s' →
        (Each step P s' ops ↔ Each step Q s' ops) := by
      intro hq s' hs'
      exact ih (hstep s op s' hinv hacc.1 hq hs') (hacc.2 s' hs')
    constructor
    · intro h
      have hq := hfirst.mp h.1
      exact ⟨hq, fun s' hs' => (hrest hq s' hs').mp (h.2 s' hs')⟩
    · intro h
      exact ⟨hfirst.mpr h.1, fun s' hs' => (hrest h.1 s' hs').mpr (h.2 s' hs')⟩

/-- `view` is what the abstract operations work on. -/
theorem Each.simulates {V : Type} {view : S → V} {abstract : V → Op → V}
    (hstep : ∀ s op, P s op → ∃ s', step s op = some s' ∧ view s' = abstract (view s) op)
    (h : Each step P s ops) :
    ∃ s', ops.foldlM step s = some s' ∧ view s' = ops.foldl abstract (view s) := by
  induction ops generalizing s with
  | nil => exact ⟨s, rfl, rfl⟩
  | cons op ops ih =>
    obtain ⟨s1, hs1, hview⟩ := hstep s op h.1
    obtain ⟨s', hrun, hview'⟩ := ih (h.2 s1 hs1)
    refine ⟨s', ?_, ?_⟩
    · rw [List.foldlM_cons, hs1]
      exact hrun
    · rw [hview', hview, List.foldl_cons]

theorem Each.last (hstep : ∀ s op, P s op → ∃ s', step s op = some s' ∧ Inv s') (hinv : Inv s)
    (h : Each step P s ops) : ∃ s', ops.foldlM step s = some s' ∧ Inv s' := by
  induction ops generalizing s with
  | nil => exact ⟨s, rfl, hinv⟩
  | cons op ops ih =>
    obtain ⟨s1, hs1, hinv1⟩ := hstep s op h.1
    obtain ⟨s', hrun, hinv'⟩ := ih hinv1 (h.2 s1 hs1)
    refine ⟨s', ?_, hinv'⟩
    rw [List.foldlM_cons, hs1]
    exact hrun

end Each

section Checks

variable {s' : S}

theorem foldlM_concat (op : Op) :
    (ops ++ [op]).foldlM step s = (ops.foldlM step s).bind fun s => step s op := by
  rw [List.foldlM_append]
  simp

/-- A loop over one more index. -/
theorem foldlM_range_succ (f : S → Nat → Option S) (n : Nat) :
    (List.range (n + 1)).foldlM f s = ((List.range n).foldlM f s).bind fun s => f s n := by
  rw [List.range_succ, foldlM_concat]

theorem foldlM_refines {step' : S → Op → Option S}
    (hstep : ∀ s op s', step s op = some s' → step' s op = some s')
    (h : ops.foldlM step s = some s') : ops.foldlM step' s = some s' := by
  induction ops generalizing s with
  | nil => exact h
  | cons op ops ih =>
    rw [List.foldlM_cons] at h ⊢
    obtain ⟨s1, hs1, hrest⟩ := Option.bind_eq_some_iff.mp h
    exact Option.bind_eq_some_iff.mpr ⟨s1, hstep s op s1 hs1, ih hrest⟩

theorem foldl_of_foldlM {next : S → Op → S}
    (hstep : ∀ s op s', step s op = some s' → s' = next s op)
    (h : ops.foldlM step s = some s') : s' = ops.foldl next s := by
  induction ops generalizing s with
  | nil => exact (Option.some.inj h).symm
  | cons op ops ih =>
    rw [List.foldlM_cons] at h
    obtain ⟨s1, hs1, hrest⟩ := Option.bind_eq_some_iff.mp h
    rw [List.foldl_cons, ← hstep s op s1 hs1]
    exact ih hrest

/-- By induction on the operations, with `Inv` what they leave alone. -/
theorem foldlM_isSome_iff {Inv : S → Prop} {Good : Op → Prop}
    (hgood : ∀ s op, Inv s → ((step s op).isSome ↔ Good op))
    (hstep : ∀ s op s', Inv s → step s op = some s' → Inv s') (hinv : Inv s) :
    (ops.foldlM step s).isSome ↔ ∀ op ∈ ops, Good op := by
  induction ops generalizing s with
  | nil => simp
  | cons op ops ih =>
    have hfirst := hgood s op hinv
    rw [List.foldlM_cons, List.forall_mem_cons, ← hfirst]
    cases hs : step s op with
    | none => simp
    | some s' =>
      have hrest := ih (hstep s op s' hinv hs)
      rw [← hrest]
      simp

theorem foldlM_inv {Inv : S → Prop} (hstep : ∀ s op s', Inv s → step s op = some s' → Inv s')
    (hinv : Inv s) (h : ops.foldlM step s = some s') : Inv s' := by
  induction ops generalizing s with
  | nil =>
    cases h
    exact hinv
  | cons op ops ih =>
    rw [List.foldlM_cons] at h
    obtain ⟨s1, hs1, hrest⟩ := Option.bind_eq_some_iff.mp h
    exact ih (hstep s op s1 hinv hs1) hrest

end Checks

end PartialRun
end FBXRenderer
