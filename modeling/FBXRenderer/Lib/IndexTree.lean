import Mathlib.Logic.Function.Basic

/-!
# IndexTree

Trees stored as a list of nodes with child lists, where every child has a larger index than its
parent. `descend` is a recursion over the child lists that hands a value down and writes one entry
of a buffer at every node; it is given fuel, and `descend_root` says that as much fuel as there are
nodes is enough, and that entry `i` then holds what is handed down along the parents of `i`
(`chain`), for every node and nowhere else. `visits` lists the nodes that a descent meets, and
`descend` does the writes of its visits (`descend_eq_visits`).
-/

namespace IndexTree

/-- The value at node `i`: that of the root handed down through `step` along the parents. -/
def chain {T : Type} (parent : Nat → Nat) (step : Nat → T → T) (root : T) (i : Nat) : T :=
  if h : 0 < i ∧ parent i < i then
    have := h.2
    step i (chain parent step root (parent i))
  else step i root
termination_by i

/-- Node 0 is the root, and child lists and parents agree. -/
structure IsTree (n : Nat) (childs : Nat → List Nat) (parent : Nat → Nat) : Prop where
  nonempty : 0 < n
  child : ∀ i c, i < n → c ∈ childs i → i < c ∧ c < n ∧ parent c = i
  parent_lt : ∀ c, 0 < c → c < n → parent c < c
  mem_childs : ∀ c, 0 < c → c < n → c ∈ childs (parent c)

/-- `j` is `i` or below it. -/
inductive Below (childs : Nat → List Nat) : Nat → Nat → Prop
  | self (i : Nat) : Below childs i i
  | down {i c j : Nat} (hc : c ∈ childs i) (h : Below childs c j) : Below childs i j

/-- Hands `value` down from `idx`; `none` is an index without a node, or too little fuel. -/
def descend {T J : Type} (childs : Nat → Option (List Nat)) (value : Nat → T → Option T)
    (write : T → J) : Nat → (Nat → J) → T → Nat → Option (Nat → J)
  | 0, _, _, _ => none
  | fuel + 1, buffer, parent, idx => do
    let this ← value idx parent
    let cs ← childs idx
    cs.foldlM (fun buffer c => descend childs value write fuel buffer this c)
      (Function.update buffer idx (write this))

section Grow

variable {n p : Nat} {childs childs' : Nat → List Nat} {parent parent' : Nat → Nat}

theorem isTree_root (h : childs 0 = []) : IsTree 1 childs parent where
  nonempty := Nat.one_pos
  child := by
    intro i c hi hc
    obtain rfl : i = 0 := by omega
    rw [h] at hc
    cases hc
  parent_lt := by omega
  mem_childs := by omega

/-- A new last node below node `p`. -/
theorem IsTree.push (h : IsTree n childs parent) (hp : p < n)
    (hold : ∀ i, i < n → childs' i = if i = p then childs i ++ [n] else childs i)
    (hnew : childs' n = []) (hparent : ∀ i, i < n → parent' i = parent i)
    (hparent' : parent' n = p) : IsTree (n + 1) childs' parent' where
  nonempty := Nat.succ_pos n
  child := by
    intro i c hi hc
    rcases Nat.lt_succ_iff_lt_or_eq.mp hi with hi | rfl
    · rw [hold i hi] at hc
      have hcases : c ∈ childs i ∨ c = n ∧ i = p := by
        split at hc
        · rename_i hip
          rcases List.mem_append.mp hc with hc | hc
          · exact Or.inl hc
          · exact Or.inr ⟨List.mem_singleton.mp hc, hip⟩
        · exact Or.inl hc
      rcases hcases with hc | ⟨rfl, rfl⟩
      · obtain ⟨hlt, hcn, hpar⟩ := h.child i c hi hc
        exact ⟨hlt, by omega, by rw [hparent c hcn, hpar]⟩
      · exact ⟨hp, by omega, hparent'⟩
    · rw [hnew] at hc
      cases hc
  parent_lt := by
    intro c h0 hc
    rcases Nat.lt_succ_iff_lt_or_eq.mp hc with hc | rfl
    · rw [hparent c hc]
      exact h.parent_lt c h0 hc
    · rw [hparent']
      exact hp
  mem_childs := by
    intro c h0 hc
    rcases Nat.lt_succ_iff_lt_or_eq.mp hc with hc | rfl
    · have hlt := h.parent_lt c h0 hc
      rw [hparent c hc, hold _ (Nat.lt_trans hlt hc)]
      have hmem := h.mem_childs c h0 hc
      split
      · exact List.mem_append_left _ hmem
      · exact hmem
    · rw [hparent', hold p hp, if_pos rfl]
      exact List.mem_append_right _ (List.mem_singleton.mpr rfl)

end Grow

section Chain

variable {T : Type} {n : Nat} {childs : Nat → List Nat} {parent : Nat → Nat}

theorem chain_root (step : Nat → T → T) (root : T) : chain parent step root 0 = step 0 root := by
  rw [chain, dif_neg (fun h => Nat.lt_irrefl 0 h.1)]

theorem chain_child (h : IsTree n childs parent) (step : Nat → T → T) (root : T) {c : Nat}
    (h0 : 0 < c) (hc : c < n) :
    chain parent step root c = step c (chain parent step root (parent c)) := by
  rw [chain, dif_pos ⟨h0, h.parent_lt c h0 hc⟩]

/-- Induction along the parents. -/
theorem induct (h : IsTree n childs parent) {P : Nat → Prop} (root : P 0)
    (child : ∀ c, 0 < c → c < n → P (parent c) → P c) : ∀ i, i < n → P i := by
  intro i
  induction i using Nat.strongRecOn with
  | ind i ih =>
    intro hi
    rcases Nat.eq_zero_or_pos i with rfl | h0
    · exact root
    · have hlt := h.parent_lt i h0 hi
      exact child i h0 hi (ih (parent i) hlt (Nat.lt_trans hlt hi))

/-- What is preserved by every step holds along the whole chain. -/
theorem chain_invariant (h : IsTree n childs parent) {P : T → Prop} {step : Nat → T → T} {root : T}
    (hroot : P root) (hstep : ∀ i, i < n → ∀ t, P t → P (step i t)) :
    ∀ i, i < n → P (chain parent step root i) := by
  refine induct h ?_ ?_
  · rw [chain_root]
    exact hstep 0 h.nonempty root hroot
  · intro c h0 hc ih
    rw [chain_child h step root h0 hc]
    exact hstep c hc _ ih

/-- What node `i` is handed: the value at its parent, or the root value. -/
def handed (parent : Nat → Nat) (step : Nat → T → T) (root : T) (i : Nat) : T :=
  if i = 0 then root else chain parent step root (parent i)

theorem chain_eq_step (h : IsTree n childs parent) (step : Nat → T → T) (root : T) {i : Nat}
    (hi : i < n) : chain parent step root i = step i (handed parent step root i) := by
  unfold handed
  rcases Nat.eq_zero_or_pos i with rfl | h0
  · rw [if_pos rfl, chain_root]
  · rw [if_neg (by omega), chain_child h step root h0 hi]

/-- Two ways to step agree everywhere when they agree at every node on what one of them hands
down, for an agreement `R` that the other keeps. -/
theorem chain_agree_iff (h : IsTree n childs parent) {R : T → T → Prop}
    (hsymm : ∀ t u, R t u → R u t) (htrans : ∀ t u v, R t u → R u v → R t v)
    {step step' : Nat → T → T} {root : T} (hroot : R root root)
    (hstep : ∀ i, i < n → ∀ t u, R t u → R (step i t) (step i u)) :
    (∀ i, i < n → R (chain parent step root i) (chain parent step' root i)) ↔
      ∀ i, i < n →
        R (step i (handed parent step' root i)) (step' i (handed parent step' root i)) := by
  -- at one node, once the values handed to it agree
  have hnode : ∀ i, i < n → R (handed parent step root i) (handed parent step' root i) →
      (R (chain parent step root i) (chain parent step' root i) ↔
        R (step i (handed parent step' root i)) (step' i (handed parent step' root i))) := by
    intro i hi hh
    have hcongr := hstep i hi _ _ hh
    rw [chain_eq_step h step root hi, chain_eq_step h step' root hi]
    exact ⟨fun hr => htrans _ _ _ (hsymm _ _ hcongr) hr, fun hr => htrans _ _ _ hcongr hr⟩
  have hhanded0 : R (handed parent step root 0) (handed parent step' root 0) := by
    simpa [handed] using hroot
  have hhanded : ∀ c, 0 < c → R (chain parent step root (parent c))
      (chain parent step' root (parent c)) →
      R (handed parent step root c) (handed parent step' root c) := by
    intro c h0 hr
    unfold handed
    rwa [if_neg (by omega), if_neg (by omega)]
  constructor
  · intro hall i hi
    refine (hnode i hi ?_).mp (hall i hi)
    rcases Nat.eq_zero_or_pos i with rfl | h0
    · exact hhanded0
    · exact hhanded i h0 (hall _ (Nat.lt_trans (h.parent_lt i h0 hi) hi))
  · intro hall
    refine induct h ((hnode 0 h.nonempty hhanded0).mpr (hall 0 h.nonempty)) ?_
    intro c h0 hc ih
    exact (hnode c hc (hhanded c h0 ih)).mpr (hall c hc)

theorem below_trans {i j k : Nat} (h : Below childs i j) (h' : Below childs j k) :
    Below childs i k := by
  induction h with
  | self => exact h'
  | down hc _ ih => exact Below.down hc (ih h')

theorem below_root (h : IsTree n childs parent) : ∀ i, i < n → Below childs 0 i := by
  refine induct h (Below.self 0) ?_
  intro c h0 hc ih
  exact below_trans ih (Below.down (h.mem_childs c h0 hc) (Below.self c))

end Chain

section Descend

variable {T J : Type} {n : Nat} {childs : Nat → List Nat} {parent : Nat → Nat}

/-- What one descent from `idx` leaves in the buffer. -/
structure Written (childs : Nat → List Nat) (n idx : Nat) (content : Nat → J)
    (before after : Nat → J) : Prop where
  below : ∀ i, Below childs idx i → after i = content i
  others : ∀ i, after i = before i ∨ after i = content i
  outside : ∀ i, n ≤ i → after i = before i

/-- The loop over the children, once each child's descent is known. -/
theorem childs_written {run : (Nat → J) → Nat → Option (Nat → J)} {content : Nat → J} :
    ∀ (cs : List Nat) (buffer : Nat → J),
      (∀ c ∈ cs, ∀ b, ∃ b', run b c = some b' ∧ Written childs n c content b b') →
      ∃ b', cs.foldlM run buffer = some b' ∧
        (∀ c ∈ cs, ∀ i, Below childs c i → b' i = content i) ∧
        (∀ i, b' i = buffer i ∨ b' i = content i) ∧ ∀ i, n ≤ i → b' i = buffer i := by
  intro cs
  induction cs with
  | nil =>
    intro buffer _
    exact ⟨buffer, rfl, fun c hc => absurd hc (List.not_mem_nil), fun _ => Or.inl rfl,
      fun _ _ => rfl⟩
  | cons c cs ih =>
    intro buffer h
    obtain ⟨b1, hb1, hw1⟩ := h c (List.mem_cons_self ..) buffer
    obtain ⟨b2, hb2, hbelow, hothers, hout⟩ := ih b1 fun c' hc' => h c' (List.mem_cons_of_mem _ hc')
    refine ⟨b2, ?_, ?_, ?_, ?_⟩
    · rw [List.foldlM_cons, hb1]
      exact hb2
    · intro c' hc' i hi
      rcases List.mem_cons.mp hc' with rfl | hc'
      · -- written by this child and not undone by the later ones
        rcases hothers i with he | he
        · rw [he]; exact hw1.below i hi
        · exact he
      · exact hbelow c' hc' i hi
    · intro i
      rcases hothers i with he | he
      · rw [he]; exact hw1.others i
      · exact Or.inr he
    · intro i hi
      rw [hout i hi, hw1.outside i hi]

theorem descend_written (h : IsTree n childs parent) {childs' : Nat → Option (List Nat)}
    (hchilds : ∀ i, i < n → childs' i = some (childs i)) {value : Nat → T → Option T}
    {step : Nat → T → T} (hvalue : ∀ i, i < n → ∀ t, value i t = some (step i t)) (write : T → J)
    (root : T) : ∀ (fuel idx : Nat) (buffer : Nat → J) (t : T), idx < n → n - idx ≤ fuel →
      step idx t = chain parent step root idx →
      ∃ b', descend childs' value write fuel buffer t idx = some b' ∧
        Written childs n idx (fun i => write (chain parent step root i)) buffer b' := by
  intro fuel
  induction fuel with
  | zero =>
    intro idx _ _ hidx hfuel
    omega
  | succ fuel ih =>
    intro idx buffer t hidx hfuel ht
    have hchild : ∀ c ∈ childs idx, ∀ b, ∃ b',
        descend childs' value write fuel b (step idx t) c = some b' ∧
          Written childs n c (fun i => write (chain parent step root i)) b b' := by
      intro c hc b
      obtain ⟨hlt, hcn, hp⟩ := h.child idx c hidx hc
      refine ih c b (step idx t) hcn (by omega) ?_
      rw [chain_child h step root (by omega) hcn, hp, ht]
    obtain ⟨b', hb', hbelow, hothers, hout⟩ := childs_written (childs idx)
      (Function.update buffer idx (write (step idx t))) hchild
    have hself : Function.update buffer idx (write (step idx t)) idx =
        write (chain parent step root idx) := by rw [Function.update_self, ht]
    refine ⟨b', ?_, ?_, ?_, ?_⟩
    · unfold descend
      rw [hvalue idx hidx, hchilds idx hidx]
      exact hb'
    · intro i hi
      cases hi with
      | self =>
        rcases hothers idx with he | he
        · rw [he, hself]
        · exact he
      | down hc hi => exact hbelow _ hc i hi
    · intro i
      rcases hothers i with he | he
      · by_cases hi : i = idx
        · subst hi
          exact Or.inr (he.trans hself)
        · exact Or.inl (he.trans (Function.update_of_ne hi ..))
      · exact Or.inr he
    · intro i hi
      rw [hout i hi, Function.update_of_ne (by omega)]

/-- From the root, with as much fuel as nodes: every entry below `n` is written with the value
handed down along its parents, and no other entry changes. -/
theorem descend_root (h : IsTree n childs parent) {childs' : Nat → Option (List Nat)}
    (hchilds : ∀ i, i < n → childs' i = some (childs i)) {value : Nat → T → Option T}
    {step : Nat → T → T} (hvalue : ∀ i, i < n → ∀ t, value i t = some (step i t)) (write : T → J)
    (root : T) (buffer : Nat → J) {fuel : Nat} (hfuel : n ≤ fuel) :
    ∃ b', descend childs' value write fuel buffer root 0 = some b' ∧
      (∀ i, i < n → b' i = write (chain parent step root i)) ∧ ∀ i, n ≤ i → b' i = buffer i := by
  obtain ⟨b', hb', hw⟩ := descend_written h hchilds hvalue write root fuel 0 buffer root h.nonempty
    (by omega) (chain_root step root).symm
  exact ⟨b', hb', fun i hi => hw.below i (below_root h i hi), hw.outside⟩

end Descend

section Congr

variable {T J : Type}

/-- A descent uses the values of the indices that have a node, and no others. -/
theorem descend_congr {childs : Nat → Option (List Nat)} {value value' : Nat → T → Option T}
    (write : T → J) (h : ∀ i, childs i ≠ none → value i = value' i) :
    ∀ (fuel : Nat) (buffer : Nat → J) (parent : T) (idx : Nat),
      descend childs value write fuel buffer parent idx =
        descend childs value' write fuel buffer parent idx := by
  intro fuel
  induction fuel with
  | zero => intro buffer parent idx; rfl
  | succ fuel ih =>
    intro buffer parent idx
    unfold descend
    cases hcs : childs idx with
    | none =>
      -- without a node the run fails in both
      simp only [Option.bind_eq_bind, Option.bind_none, Option.bind_fun_none]
    | some cs =>
      rw [h idx (by rw [hcs]; exact Option.some_ne_none cs)]
      simp only [ih]

end Congr

section Visits

variable {T J : Type}

/-- The nodes that `descend` meets, in the order of their writes, with what is handed to them. -/
def visits (childs : Nat → Option (List Nat)) (value : Nat → T → Option T) :
    Nat → T → Nat → Option (List (Nat × T))
  | 0, _, _ => none
  | fuel + 1, parent, idx => do
    let this ← value idx parent
    let cs ← childs idx
    let below ← cs.mapM fun c => visits childs value fuel this c
    some ((idx, this) :: below.flatten)

/-- The buffer after a list of writes. -/
def replay (write : T → J) (buffer : Nat → J) (log : List (Nat × T)) : Nat → J :=
  log.foldl (fun b v => Function.update b v.1 (write v.2)) buffer

theorem replay_append (write : T → J) (buffer : Nat → J) (log log' : List (Nat × T)) :
    replay write buffer (log ++ log') = replay write (replay write buffer log) log' :=
  List.foldl_append

/-- Writes to other entries leave entry `i` as it is. -/
theorem replay_of_not_mem (write : T → J) {log : List (Nat × T)} {i : Nat} :
    ∀ (buffer : Nat → J), i ∉ log.map Prod.fst → replay write buffer log i = buffer i := by
  induction log with
  | nil => intro buffer _; rfl
  | cons v log ih =>
    intro buffer hi
    rw [List.map_cons, List.mem_cons, not_or] at hi
    exact (ih _ hi.2).trans (Function.update_of_ne hi.1 ..)

/-- Where no entry is written twice, every write stays. -/
theorem replay_of_mem (write : T → J) {log : List (Nat × T)} {v : Nat × T} :
    ∀ (buffer : Nat → J), (log.map Prod.fst).Nodup → v ∈ log →
      replay write buffer log v.1 = write v.2 := by
  induction log with
  | nil =>
    intro buffer _ hv
    cases hv
  | cons w log ih =>
    intro buffer hnodup hv
    rw [List.map_cons, List.nodup_cons] at hnodup
    rcases List.mem_cons.mp hv with rfl | hv
    · exact (replay_of_not_mem write _ hnodup.1).trans (Function.update_self ..)
    · exact ih _ hnodup.2 hv

/-- The loop over the children, once each child's descent is known by its visits. -/
theorem childs_visits {run : (Nat → J) → Nat → Option (Nat → J)}
    {visit : Nat → Option (List (Nat × T))} {write : T → J}
    (h : ∀ c b, run b c = (visit c).map (replay write b)) :
    ∀ (cs : List Nat) (buffer : Nat → J), cs.foldlM run buffer =
      (cs.mapM visit).map fun logs => replay write buffer logs.flatten := by
  intro cs
  induction cs with
  | nil => intro buffer; rfl
  | cons c cs ih =>
    intro buffer
    rw [List.foldlM_cons, List.mapM_cons, h]
    cases visit c with
    | none => rfl
    | some log =>
      simp only [Option.map_some, Option.bind_eq_bind, Option.bind_some, ih]
      cases cs.mapM visit with
      | none => rfl
      | some logs =>
        simp only [Option.map_some, Option.bind_some, Option.pure_def, List.flatten_cons,
          replay_append]

/-- `descend` does the writes of its visits, in their order, and no others. -/
theorem descend_eq_visits (childs : Nat → Option (List Nat)) (value : Nat → T → Option T)
    (write : T → J) : ∀ (fuel : Nat) (buffer : Nat → J) (parent : T) (idx : Nat),
      descend childs value write fuel buffer parent idx =
        (visits childs value fuel parent idx).map (replay write buffer) := by
  intro fuel
  induction fuel with
  | zero => intro buffer parent idx; rfl
  | succ fuel ih =>
    intro buffer parent idx
    unfold descend visits
    cases value idx parent with
    | none => rfl
    | some this =>
      cases childs idx with
      | none => rfl
      | some cs =>
        simp only [Option.bind_eq_bind, Option.bind_some]
        rw [childs_visits fun c b => ih b this c]
        cases cs.mapM fun c => visits childs value fuel this c with
        | none => rfl
        | some logs => rfl

theorem visited_child {visit : Nat → Option (List (Nat × T))} :
    ∀ {cs : List Nat} {logs : List (List (Nat × T))}, cs.mapM visit = some logs →
      ∀ {log}, log ∈ logs → ∃ c ∈ cs, visit c = some log := by
  intro cs
  induction cs with
  | nil =>
    intro logs h log hlog
    cases h
    cases hlog
  | cons c cs ih =>
    intro logs h log hlog
    simp only [List.mapM_cons, Option.bind_eq_bind, Option.bind_eq_some_iff, Option.pure_def,
      Option.some_inj] at h
    obtain ⟨first, hfirst, rest, hrest, rfl⟩ := h
    rcases List.mem_cons.mp hlog with rfl | hlog
    · exact ⟨c, List.mem_cons_self .., hfirst⟩
    · obtain ⟨c', hc', hvisit⟩ := ih hrest hlog
      exact ⟨c', List.mem_cons_of_mem _ hc', hvisit⟩

/-- On a tree every node is met with what is handed down along its parents. -/
theorem visits_values {n : Nat} {childs : Nat → List Nat} {parent : Nat → Nat}
    (h : IsTree n childs parent) {childs' : Nat → Option (List Nat)}
    (hchilds : ∀ i, i < n → childs' i = some (childs i)) {value : Nat → T → Option T}
    {step : Nat → T → T} (hvalue : ∀ i, i < n → ∀ t, value i t = some (step i t)) (root : T) :
    ∀ (fuel idx : Nat) (t : T) (log : List (Nat × T)), idx < n →
      step idx t = chain parent step root idx → visits childs' value fuel t idx = some log →
      ∀ v ∈ log, v.2 = chain parent step root v.1 := by
  intro fuel
  induction fuel with
  | zero =>
    intro idx t log _ _ hlog
    cases hlog
  | succ fuel ih =>
    intro idx t log hidx ht hlog
    unfold visits at hlog
    simp only [hvalue idx hidx, hchilds idx hidx, Option.bind_eq_bind, Option.bind_some,
      Option.bind_eq_some_iff, Option.some_inj] at hlog
    obtain ⟨logs, hlogs, rfl⟩ := hlog
    intro v hv
    rcases List.mem_cons.mp hv with rfl | hv
    · exact ht
    · obtain ⟨log, hmem, hv⟩ := List.mem_flatten.mp hv
      -- the log of one child
      obtain ⟨c, hc, hlog⟩ := visited_child hlogs hmem
      obtain ⟨hlt, hcn, hp⟩ := h.child idx c hidx hc
      refine ih c (step idx t) log hcn ?_ hlog v hv
      rw [chain_child h step root (by omega) hcn, hp, ht]

theorem mapM_mono {f g : Nat → Option (List (Nat × T))}
    (h : ∀ c log, f c = some log → g c = some log) :
    ∀ {cs : List Nat} {logs : List (List (Nat × T))}, cs.mapM f = some logs →
      cs.mapM g = some logs := by
  intro cs
  induction cs with
  | nil => intro logs hlogs; exact hlogs
  | cons c cs ih =>
    intro logs hlogs
    simp only [List.mapM_cons, Option.bind_eq_bind, Option.bind_eq_some_iff] at hlogs ⊢
    obtain ⟨log, hlog, rest, hrest, heq⟩ := hlogs
    exact ⟨log, h c log hlog, rest, ih hrest, heq⟩

/-- A descent that ends meets the same with a value for more nodes. -/
theorem visits_mono {childs : Nat → Option (List Nat)} {value value' : Nat → T → Option T}
    (h : ∀ i t y, value i t = some y → value' i t = some y) :
    ∀ (fuel : Nat) (t : T) (idx : Nat) (log : List (Nat × T)),
      visits childs value fuel t idx = some log → visits childs value' fuel t idx = some log := by
  intro fuel
  induction fuel with
  | zero => intro t idx log hlog; exact hlog
  | succ fuel ih =>
    intro t idx log hlog
    unfold visits at hlog ⊢
    simp only [Option.bind_eq_bind, Option.bind_eq_some_iff] at hlog ⊢
    obtain ⟨this, hthis, cs, hcs, below, hbelow, heq⟩ := hlog
    exact ⟨this, h _ _ _ hthis, cs, hcs, below, mapM_mono (fun c log => ih this c log) hbelow, heq⟩

/-- What is met at a node was made by `value` there. -/
theorem visits_made {childs : Nat → Option (List Nat)} {value : Nat → T → Option T} :
    ∀ (fuel : Nat) (t : T) (idx : Nat) (log : List (Nat × T)),
      visits childs value fuel t idx = some log → ∀ v ∈ log, ∃ t', value v.1 t' = some v.2 := by
  intro fuel
  induction fuel with
  | zero => intro t idx log hlog; cases hlog
  | succ fuel ih =>
    intro t idx log hlog v hv
    unfold visits at hlog
    simp only [Option.bind_eq_bind, Option.bind_eq_some_iff, Option.some_inj] at hlog
    obtain ⟨this, hthis, cs, hcs, below, hbelow, rfl⟩ := hlog
    rcases List.mem_cons.mp hv with rfl | hv
    · exact ⟨t, hthis⟩
    · obtain ⟨log, hmem, hv⟩ := List.mem_flatten.mp hv
      obtain ⟨c, -, hlog⟩ := visited_child hbelow hmem
      exact ih this c log hlog v hv

end Visits

end IndexTree
