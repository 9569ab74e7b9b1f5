import Mathlib.Logic.Function.Basic

/-!
# FBXRenderer.Lib.Dictionary

What a client of a dictionary can observe, and when a run of observations is that of a finite
partial map.

* `Event` is one call with its outcome; `Event.effect` is what it does to the partial map and
  `Event.Allowed` says when that outcome is the right one. A partial map takes every key, so
  `Event.invalid`, the outcome of a refused key, is never right.
* `Conforms d es`: the outcomes `es`, in this order, are those of a partial map that starts as `d`.
* `events` / `Throughout` run an implementation, a step function from a state and a call to the
  next state and an event.

`conforms_iff` is the proof rule: with a simulation relation `R` that good steps keep and that
makes a bad step show a wrong outcome, a run conforms exactly when all its steps are good.
-/

namespace Dictionary

inductive Event (K V : Type) where
  | inserted (k : K) (v : V)
  | present (k : K)
  | full (k : K)
  | erased (k : K)
  | missing (k : K)
  | found (k : K) (v : V)
  | notFound (k : K)
  | invalid (k : K)
deriving DecidableEq

section Spec

variable {K V : Type} [DecidableEq K]

def Event.effect (d : K → Option V) : Event K V → K → Option V
  | .inserted k v => Function.update d k (some v)
  | .erased k => Function.update d k none
  | _ => d

def Event.Allowed (d : K → Option V) : Event K V → Prop
  | .inserted k _ => d k = none
  | .present k => d k ≠ none
  | .full k => d k = none
  | .erased k => d k ≠ none
  | .missing k => d k = none
  | .found k v => d k = some v
  | .notFound k => d k = none
  | .invalid _ => False

instance [DecidableEq V] (d : K → Option V) : (e : Event K V) → Decidable (e.Allowed d)
  | .inserted k _ => inferInstanceAs (Decidable (d k = none))
  | .present k => inferInstanceAs (Decidable (d k ≠ none))
  | .full k => inferInstanceAs (Decidable (d k = none))
  | .erased k => inferInstanceAs (Decidable (d k ≠ none))
  | .missing k => inferInstanceAs (Decidable (d k = none))
  | .found k v => inferInstanceAs (Decidable (d k = some v))
  | .notFound k => inferInstanceAs (Decidable (d k = none))
  | .invalid _ => inferInstanceAs (Decidable False)

omit [DecidableEq K] in
/-- An allowed insertion is one of a key that is not there. -/
theorem Event.Allowed.fresh {d : K → Option V} {e : Event K V} (h : e.Allowed d) {k : K} {v : V}
    (he : e = .inserted k v) : d k = none := by
  subst he
  exact h

def Conforms : (K → Option V) → List (Event K V) → Prop
  | _, [] => True
  | d, e :: es => e.Allowed d ∧ Conforms (e.effect d) es

instance decidableConforms [DecidableEq V] :
    (d : K → Option V) → (es : List (Event K V)) → Decidable (Conforms d es)
  | _, [] => inferInstanceAs (Decidable True)
  | d, e :: es =>
    have := decidableConforms (e.effect d) es
    inferInstanceAs (Decidable (e.Allowed d ∧ Conforms (e.effect d) es))

end Spec

section Run

variable {K V S O : Type} (step : S → O → S × Event K V)

/-- The outcomes a run shows, call by call. -/
def events : S → List O → List (Event K V)
  | _, [] => []
  | s, o :: os => (step s o).2 :: events (step s o).1 os

/-- `Q` holds in every state of the run, the first and the last included. -/
def Throughout (Q : S → Prop) : S → List O → Prop
  | s, [] => Q s
  | s, o :: os => Q s ∧ Throughout Q (step s o).1 os

/-- Every call of the run meets `G` in the state it is made in. -/
def EachStep (G : S → O → Prop) : S → List O → Prop
  | _, [] => True
  | s, o :: os => G s o ∧ EachStep G (step s o).1 os

variable {step} [DecidableEq K] {R : S → (K → Option V) → Prop} {G : S → O → Prop}
  {P : O → Prop}

theorem conforms_iff
    (hgood : ∀ s d o, P o → R s d → G s o →
      (step s o).2.Allowed d ∧ R (step s o).1 ((step s o).2.effect d))
    (hbad : ∀ s d o, P o → R s d → ¬ G s o → ¬ (step s o).2.Allowed d) :
    ∀ (os : List O) (s : S) (d : K → Option V), (∀ o ∈ os, P o) → R s d →
      (Conforms d (events step s os) ↔ EachStep step G s os) := by
  intro os
  induction os with
  | nil => intro s d _ _; simp [events, Conforms, EachStep]
  | cons o os ih =>
    intro s d hP hR
    have hPo : P o := hP o (by simp)
    have hPos : ∀ o ∈ os, P o := fun o' h => hP o' (by simp [h])
    simp only [events, Conforms, EachStep]
    by_cases hg : G s o
    · obtain ⟨hA, hR'⟩ := hgood s d o hPo hR hg
      rw [ih _ _ hPos hR']
      simp [hA, hg]
    · have hA := hbad s d o hPo hR hg
      simp [hA, hg]

theorem throughout_of_eachStep {Q : S → Prop}
    (hgood : ∀ s d o, P o → R s d → G s o →
      (step s o).2.Allowed d ∧ R (step s o).1 ((step s o).2.effect d))
    (hQ : ∀ s d, R s d → Q s) :
    ∀ (os : List O) (s : S) (d : K → Option V), (∀ o ∈ os, P o) → R s d →
      EachStep step G s os → Throughout step Q s os := by
  intro os
  induction os with
  | nil => intro s d _ hR _; exact hQ s d hR
  | cons o os ih =>
    intro s d hP hR hE
    obtain ⟨_, hR'⟩ := hgood s d o (hP o (by simp)) hR hE.1
    exact ⟨hQ s d hR, ih _ _ (fun o' h => hP o' (by simp [h])) hR' hE.2⟩

end Run

end Dictionary
