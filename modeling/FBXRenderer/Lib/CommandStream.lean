import Mathlib

/-!
# FBXRenderer.Lib.CommandStream

Commands for a machine with a state, some of which can be observed in the state they are issued in.

`exec` runs a list of commands and collects the observations. `exec_blocks` is the rule for a list
of items that are turned into one block of commands each: every block starts in the state that the
block before it left. `emitAll` puts the blocks of all items together where making a block can fail.
-/

namespace CommandStream

variable {σ C O : Type}

structure Machine (σ C O : Type) where
  step : σ → C → σ
  observe : σ → C → Option O

/-- The state after the commands, and the observations in their order. -/
def exec (m : Machine σ C O) : σ → List C → σ × List O
  | s, [] => (s, [])
  | s, c :: cs =>
    let rest := exec m (m.step s c) cs
    (rest.1, (m.observe s c).toList ++ rest.2)

variable {m : Machine σ C O}

@[simp] theorem exec_nil (s : σ) : exec m s [] = (s, []) := rfl

theorem exec_append : ∀ (cs cs' : List C) (s : σ), exec m s (cs ++ cs') =
    ((exec m (exec m s cs).1 cs').1, (exec m s cs).2 ++ (exec m (exec m s cs).1 cs').2) := by
  intro cs
  induction cs with
  | nil => intro cs' s; rfl
  | cons c cs ih =>
    intro cs' s
    simp only [List.cons_append, exec, ih, List.append_assoc]

/-- A machine that is seen through a view as another one makes the same observations. -/
theorem exec_view {τ : Type} {m' : Machine τ C O} (view : σ → τ)
    (hstep : ∀ s c, view (m.step s c) = m'.step (view s) c)
    (hobserve : ∀ s c, m.observe s c = m'.observe (view s) c) : ∀ (cs : List C) (s : σ),
    exec m' (view s) cs = (view (exec m s cs).1, (exec m s cs).2) := by
  intro cs
  induction cs with
  | nil => intro s; rfl
  | cons c cs ih =>
    intro s
    simp only [exec]
    rw [← hstep, ih, hobserve]

/-- Commands that are not observed, one after the other. -/
theorem exec_silent : ∀ (cs : List C) (s : σ), (∀ s, ∀ c ∈ cs, m.observe s c = none) →
    exec m s cs = (cs.foldl m.step s, []) := by
  intro cs
  induction cs with
  | nil => intro s _; rfl
  | cons c cs ih =>
    intro s h
    have hhead := h s c (List.mem_cons_self ..)
    rw [exec, ih _ fun s c hc => h s c (List.mem_cons_of_mem _ hc), hhead]
    rfl

section Blocks

variable {ι τ : Type} {block : ι → List C} {next : τ → ι → τ} {stateOf : O → σ}

/-- The state that observation `k` was made from, where every observation is the end of its
block. -/
def stateBefore (stateOf : O → σ) (s : σ) (os : List O) (k : Nat) : σ :=
  (os.take k).foldl (fun _ o => stateOf o) s

/-- The rule for blocks that end with their only observation: observation `k` is made from the state
of the one before, and what the items change in a way of their own is changed by those before item
`k`. -/
theorem exec_blocks {view : σ → τ} {P : σ → ι → O → Prop} {Q : ι → Prop}
    (hblock : ∀ s x, Q x → ∃ o, exec m s (block x) = (stateOf o, [o]) ∧ P s x o ∧
      view (stateOf o) = next (view s) x) :
    ∀ (xs : List ι) (s : σ), (∀ x ∈ xs, Q x) →
      (exec m s (xs.flatMap block)).2.length = xs.length ∧
        ∀ k x o, xs[k]? = some x → (exec m s (xs.flatMap block)).2[k]? = some o →
          let before := stateBefore stateOf s (exec m s (xs.flatMap block)).2 k
          view before = (xs.take k).foldl next (view s) ∧ P before x o := by
  intro xs
  induction xs with
  | nil => exact fun s _ => ⟨rfl, fun k x o hx => by simp at hx⟩
  | cons x xs ih =>
    intro s hQ
    obtain ⟨o, ho, hP, hview⟩ := hblock s x (hQ x (List.mem_cons_self ..))
    obtain ⟨hlength, hall⟩ := ih (stateOf o) fun y hy => hQ y (List.mem_cons_of_mem _ hy)
    rw [List.flatMap_cons, exec_append, ho]
    refine ⟨?_, fun k y o' hy ho' => ?_⟩
    · rw [List.length_append, hlength, List.length_singleton, List.length_cons, Nat.add_comm]
    · cases k with
      | zero =>
        obtain rfl : x = y := by simpa using hy
        obtain rfl : o = o' := by simpa using ho'
        exact ⟨rfl, hP⟩
      | succ k =>
        have hrest := hall k y o' (by simpa using hy) (by simpa using ho')
        rw [hview] at hrest
        exact hrest

end Blocks

section Emit

variable {ι : Type}

/-- The blocks of the items, one behind the other; nothing where one block cannot be made. -/
def emitAll (emit : ι → Option (List C)) (items : List ι) : Option (List C) :=
  (items.mapM emit).map List.flatten

@[simp] theorem emitAll_nil (emit : ι → Option (List C)) : emitAll emit [] = some [] := rfl

theorem emitAll_cons (emit : ι → Option (List C)) (x : ι) (xs : List ι) :
    emitAll emit (x :: xs) =
      (emit x).bind fun block => (emitAll emit xs).map (block ++ ·) := by
  unfold emitAll
  rw [List.mapM_cons]
  cases emit x with
  | none => rfl
  | some block =>
    cases xs.mapM emit with
    | none => rfl
    | some blocks => rfl

theorem emitAll_append (emit : ι → Option (List C)) (xs ys : List ι) :
    emitAll emit (xs ++ ys) =
      (emitAll emit xs).bind fun block => (emitAll emit ys).map (block ++ ·) := by
  induction xs with
  | nil => cases h : emitAll emit ys <;> simp [h]
  | cons x xs ih =>
    rw [List.cons_append, emitAll_cons, emitAll_cons, ih]
    cases emit x with
    | none => rfl
    | some block =>
      cases emitAll emit xs with
      | none => rfl
      | some rest =>
        cases emitAll emit ys with
        | none => rfl
        | some rest' => simp

theorem forall₂_of_mapM {β : Type} {f : ι → Option β} : ∀ {xs : List ι} {ys : List β},
    xs.mapM f = some ys → List.Forall₂ (fun x y => f x = some y) xs ys := by
  intro xs
  induction xs with
  | nil =>
    intro ys h
    cases h
    exact List.Forall₂.nil
  | cons x xs ih =>
    intro ys h
    rw [List.mapM_cons] at h
    obtain ⟨y, hy, hrest⟩ := Option.bind_eq_some_iff.mp h
    obtain ⟨ys', hys, heq⟩ := Option.bind_eq_some_iff.mp hrest
    cases heq
    exact List.Forall₂.cons hy (ih hys)

/-- What is emitted when every block can be made. -/
theorem emitAll_some {emit : ι → Option (List C)} {xs : List ι} {cs : List C}
    (h : emitAll emit xs = some cs) :
    (∀ x ∈ xs, (emit x).isSome) ∧ cs = xs.flatMap fun x => (emit x).getD [] := by
  obtain ⟨blocks, hblocks, rfl⟩ := Option.map_eq_some_iff.mp h
  have hall := forall₂_of_mapM hblocks
  clear h hblocks
  induction hall with
  | nil => exact ⟨by simp, rfl⟩
  | cons hhead _ ih =>
    refine ⟨fun y hy => ?_, ?_⟩
    · rcases List.mem_cons.mp hy with rfl | hy
      · rw [hhead]
        rfl
      · exact ih.1 y hy
    · rw [List.flatten_cons, List.flatMap_cons, hhead, ih.2]
      rfl

theorem emitAll_isSome {emit : ι → Option (List C)} {xs : List ι}
    (h : ∀ x ∈ xs, (emit x).isSome) : (emitAll emit xs).isSome := by
  induction xs with
  | nil => rfl
  | cons x xs ih =>
    obtain ⟨block, hblock⟩ := Option.isSome_iff_exists.mp (h x (List.mem_cons_self ..))
    rw [emitAll_cons, hblock, Option.bind_some, Option.isSome_map]
    exact ih fun y hy => h y (List.mem_cons_of_mem _ hy)

/-- Blocks for the parts of a list that is made part by part. -/
theorem emitAll_parts {κ : Type} {emit : ι → Option (List C)} {parts : κ → Option (List ι)} :
    ∀ keys : List κ, emitAll (fun k => (parts k).bind (emitAll emit)) keys =
      (keys.mapM parts).bind fun items => emitAll emit items.flatten := by
  intro keys
  induction keys with
  | nil => rfl
  | cons k keys ih =>
    rw [emitAll_cons, ih, List.mapM_cons]
    cases parts k with
    | none => rfl
    | some items =>
      simp only [Option.bind_some, Option.bind_eq_bind]
      cases keys.mapM parts with
      | none => cases emitAll emit items <;> rfl
      | some rest => simp only [Option.bind_some, Option.pure_def, List.flatten_cons,
          emitAll_append]

end Emit

end CommandStream
