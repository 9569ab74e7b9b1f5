import Mathlib.Data.List.Basic

/-!
# FailFast

Loops that stop at the first element whose body reports a failure. A body returns a code and the
next state; `none` is a body that does not return.

`loop` threads one state through the list, `update` also replaces the elements it goes through.
-/

namespace FailFast

variable {E α S : Type} (failed : E → Prop) [DecidablePred failed] (done : E)

/-- Over the elements of a list, with `done` when none has failed. -/
def loop (body : α → S → Option (E × S)) : List α → S → Option (E × S)
  | [], s => some (done, s)
  | x :: xs, s => do
    let (e, s) ← body x s
    if failed e then some (e, s) else loop body xs s

/-- The same over elements that the body changes. Those behind a failure stay as they are. -/
def update (body : α → S → Option (E × α × S)) : List α → S → Option (E × List α × S)
  | [], s => some (done, [], s)
  | x :: xs, s => do
    let (e, x, s) ← body x s
    if failed e then some (e, x :: xs, s)
    else do
      let (e, xs, s) ← update body xs s
      some (e, x :: xs, s)

variable {failed done} {body : α → S → Option (E × S)} {xs : List α} {s s' : S} {e : E}

/-- A loop fails exactly when one of its elements does, if that does not depend on the state. -/
theorem loop_failed_iff {B : α → Prop} (hdone : ¬ failed done)
    (hbody : ∀ x ∈ xs, ∀ s e s', body x s = some (e, s') → (failed e ↔ B x))
    (h : loop failed done body xs s = some (e, s')) : failed e ↔ ∃ x ∈ xs, B x := by
  induction xs generalizing s with
  | nil =>
    cases h
    simpa using hdone
  | cons x xs ih =>
    rw [loop, Option.bind_eq_bind, Option.bind_eq_some_iff] at h
    obtain ⟨⟨e1, s1⟩, hx, h⟩ := h
    have hbad := hbody x List.mem_cons_self s e1 s1 hx
    rw [List.exists_mem_cons_iff]
    simp only at h
    split at h
    · rename_i hfailed
      cases h
      exact iff_of_true hfailed (Or.inl (hbad.mp hfailed))
    · rename_i hok
      rw [ih (fun y hy => hbody y (List.mem_cons_of_mem x hy)) h]
      exact ⟨Or.inr, fun hor => hor.resolve_left fun hb => hok (hbad.mpr hb)⟩

section Update

variable {body : α → S → Option (E × α × S)} {x : α} {xs xs' : List α}

/-- The first element is always gone through. -/
theorem update_cons_some (h : update failed done body (x :: xs) s = some (e, xs', s')) :
    ∃ e1 x' rest s1, body x s = some (e1, x', s1) ∧ xs' = x' :: rest ∧
      (failed e1 ∧ e = e1 ∧ rest = xs ∧ s' = s1 ∨
        ¬ failed e1 ∧ update failed done body xs s1 = some (e, rest, s')) := by
  rw [update, Option.bind_eq_bind, Option.bind_eq_some_iff] at h
  obtain ⟨⟨e1, x', s1⟩, hx, h⟩ := h
  simp only at h
  split at h
  · rename_i hfailed
    cases h
    exact ⟨_, x', xs, _, hx, rfl, Or.inl ⟨hfailed, rfl, rfl, rfl⟩⟩
  · rename_i hok
    obtain ⟨⟨e2, rest, s2⟩, hrest, h⟩ := Option.bind_eq_some_iff.mp h
    cases h
    exact ⟨e1, x', rest, s1, hx, rfl, Or.inr ⟨hok, hrest⟩⟩

theorem update_failed_iff {B : α → Prop} (hdone : ¬ failed done)
    (hbody : ∀ x ∈ xs, ∀ s e x' s', body x s = some (e, x', s') → (failed e ↔ B x))
    (h : update failed done body xs s = some (e, xs', s')) : failed e ↔ ∃ x ∈ xs, B x := by
  induction xs generalizing s xs' with
  | nil =>
    cases h
    simpa using hdone
  | cons x xs ih =>
    obtain ⟨e1, x', rest, s1, hx, _, hcase⟩ := update_cons_some h
    have hbad := hbody x List.mem_cons_self s e1 x' s1 hx
    rw [List.exists_mem_cons_iff]
    obtain ⟨hfailed, rfl, _, _⟩ | ⟨hok, hrest⟩ := hcase
    · exact iff_of_true hfailed (Or.inl (hbad.mp hfailed))
    · rw [ih (fun y hy => hbody y (List.mem_cons_of_mem x hy)) hrest]
      exact ⟨Or.inr, fun hor => hor.resolve_left fun hb => hok (hbad.mpr hb)⟩

/-- The element that failed is left as its body made it. -/
theorem update_failed_mem (hdone : ¬ failed done)
    (h : update failed done body xs s = some (e, xs', s')) (hfailed : failed e) :
    ∃ x ∈ xs, ∃ x' ∈ xs', ∃ s1 s2, body x s1 = some (e, x', s2) := by
  induction xs generalizing s xs' with
  | nil =>
    cases h
    exact absurd hfailed hdone
  | cons x xs ih =>
    obtain ⟨e1, x', rest, s1, hx, rfl, hcase⟩ := update_cons_some h
    obtain ⟨_, rfl, _, _⟩ | ⟨_, hrest⟩ := hcase
    · exact ⟨x, List.mem_cons_self, x', List.mem_cons_self, s, s1, hx⟩
    · obtain ⟨y, hy, y', hy', hbody⟩ := ih hrest
      exact ⟨y, List.mem_cons_of_mem x hy, y', List.mem_cons_of_mem x' hy', hbody⟩

/-- What holds of the elements, and of what the bodies make of them, holds of all afterwards. -/
theorem update_all {P : α → Prop} (hstay : ∀ x ∈ xs, P x)
    (hbody : ∀ x ∈ xs, ∀ s e x' s', body x s = some (e, x', s') → P x')
    (h : update failed done body xs s = some (e, xs', s')) : ∀ x ∈ xs', P x := by
  induction xs generalizing s xs' with
  | nil =>
    cases h
    exact hstay
  | cons x xs ih =>
    obtain ⟨e1, x', rest, s1, hx, rfl, hcase⟩ := update_cons_some h
    have hx' := hbody x List.mem_cons_self s e1 x' s1 hx
    have htail := fun y hy => hstay y (List.mem_cons_of_mem x hy)
    refine List.forall_mem_cons.mpr ⟨hx', ?_⟩
    obtain ⟨_, _, rfl, _⟩ | ⟨_, hrest⟩ := hcase
    · exact htail
    · exact ih htail (fun y hy => hbody y (List.mem_cons_of_mem x hy)) hrest

/-- When nothing fails every element is the result of its body. -/
theorem update_done {R : α → α → Prop}
    (hbody : ∀ x ∈ xs, ∀ s e x' s', body x s = some (e, x', s') → ¬ failed e → R x x')
    (h : update failed done body xs s = some (e, xs', s')) (hok : ¬ failed e) :
    List.Forall₂ R xs xs' := by
  induction xs generalizing s xs' with
  | nil =>
    cases h
    exact .nil
  | cons x xs ih =>
    obtain ⟨e1, x', rest, s1, hx, rfl, hcase⟩ := update_cons_some h
    obtain ⟨hfailed, rfl, _, _⟩ | ⟨hok1, hrest⟩ := hcase
    · exact absurd hfailed hok
    · exact .cons (hbody x List.mem_cons_self s e1 x' s1 hx hok1)
        (ih (fun y hy => hbody y (List.mem_cons_of_mem x hy)) hrest)

/-- Which elements let the loop fail, and what they are when none does. -/
theorem update_outcome {B : α → Prop} {R : α → α → Prop} (hdone : ¬ failed done)
    (hbody : ∀ x ∈ xs, ∀ s e x' s', body x s = some (e, x', s') →
      (failed e ↔ B x) ∧ (¬ failed e → R x x'))
    (h : update failed done body xs s = some (e, xs', s')) :
    (failed e ↔ ∃ x ∈ xs, B x) ∧ (¬ failed e → List.Forall₂ R xs xs') := by
  constructor
  · exact update_failed_iff hdone (fun x hx s e x' s' hstep => (hbody x hx s e x' s' hstep).1) h
  · exact update_done (fun x hx s e x' s' hstep => (hbody x hx s e x' s' hstep).2) h

/-- Every element of a result comes from one of the list. -/
theorem exists_source {R : α → α → Prop} (h : List.Forall₂ R xs xs') :
    ∀ y ∈ xs', ∃ x ∈ xs, R x y := by
  induction h with
  | nil => exact fun y hy => (List.not_mem_nil hy).elim
  | cons hxy _ ih =>
    refine List.forall_mem_cons.mpr ⟨⟨_, List.mem_cons_self, hxy⟩, fun y hy => ?_⟩
    obtain ⟨x, hx, hR⟩ := ih y hy
    exact ⟨x, List.mem_cons_of_mem _ hx, hR⟩

end Update

end FailFast
