import Mathlib

/-!
# FBXRenderer.Lib.LinkedChain

Doubly linked chains over an arbitrary type of nodes.

* `Chained L as`: neighbours in `as` point at each other. It is kept when a node is linked in
  (`Chained.insert`) or taken out (`Chained.remove`), whatever the links of other nodes are.
* `walk` collects what a traversal meets, `advance` goes a number of steps. Along a chain between
  two end nodes they meet the nodes in order (`walk_next`, `advance_next`), and in reverse order
  along the other link (`walk_prev`).
-/

namespace LinkedChain

variable {α : Type}

/-- The link fields of all nodes. -/
structure Links (α : Type) where
  next : α → Option α
  prev : α → Option α

/-- The two nodes point at each other. -/
def Links.Joined (L : Links α) (a b : α) : Prop := L.next a = some b ∧ L.prev b = some a

def Chained (L : Links α) (as : List α) : Prop := as.IsChain L.Joined

/-- The links read the other way round. -/
def Links.flip (L : Links α) : Links α := ⟨L.prev, L.next⟩

section Change

variable {L L' : Links α} {as bs : List α} {p n q : α}

/-- Only the links between the nodes of a chain matter. -/
theorem Chained.congr (h : Chained L as) (hnext : ∀ a ∈ as.dropLast, L'.next a = L.next a)
    (hprev : ∀ a ∈ as.tail, L'.prev a = L.prev a) : Chained L' as := by
  induction as with
  | nil => exact List.IsChain.nil
  | cons a as ih =>
    cases as with
    | nil => exact List.IsChain.singleton a
    | cons b as =>
      obtain ⟨⟨hn, hp⟩, hrest⟩ := List.isChain_cons_cons.mp h
      refine List.isChain_cons_cons.mpr ⟨⟨?_, ?_⟩, ?_⟩
      · rw [hnext a (by simp), hn]
      · rw [hprev b (by simp), hp]
      · refine ih hrest (fun c hc => hnext c ?_) (fun c hc => hprev c ?_)
        · rw [List.dropLast_cons_cons]
          exact List.mem_cons_of_mem a hc
        · exact List.mem_cons_of_mem b hc

/-- Two chains with joined ends are one. -/
theorem chained_append (hp : as.getLast? = some p) (hq : bs.head? = some q) :
    Chained L (as ++ bs) ↔ Chained L as ∧ Chained L bs ∧ L.Joined p q := by
  unfold Chained
  rw [List.isChain_append, hp, hq]
  simp

/-- The parts of a chain before and behind a place where links are rewritten. -/
theorem chained_parts (hp : as.getLast? = some p) (hq : bs.head? = some q)
    (hnodup : (as ++ bs).Nodup) (hn : n ∉ as ++ bs) (has : Chained L as) (hbs : Chained L bs)
    (hnext : ∀ a, a ≠ p → a ≠ n → L'.next a = L.next a)
    (hprev : ∀ a, a ≠ q → a ≠ n → L'.prev a = L.prev a) : Chained L' as ∧ Chained L' bs := by
  obtain ⟨pre, rfl⟩ := List.getLast?_eq_some_iff.mp hp
  obtain ⟨post, rfl⟩ := List.head?_eq_some_iff.mp hq
  simp only [List.append_assoc, List.cons_append, List.nil_append] at hnodup hn
  have hdisj := List.nodup_append.mp hnodup
  have htail := List.nodup_cons.mp hdisj.2.1
  have hrest := List.nodup_cons.mp htail.2
  have hmem : ∀ a, a = n → a ∉ pre ++ p :: q :: post := by
    rintro a rfl
    exact hn
  constructor
  · refine has.congr (fun a ha => hnext a ?_ ?_) (fun a ha => hprev a ?_ ?_)
    · rw [List.dropLast_concat] at ha
      exact hdisj.2.2 a ha p (List.mem_cons_self ..)
    · rw [List.dropLast_concat] at ha
      exact fun h => hmem a h (List.mem_append_left _ ha)
    · rintro rfl
      have ha := List.mem_of_mem_tail ha
      obtain ha | ha := List.mem_append.mp ha
      · exact hdisj.2.2 a ha a (by simp) rfl
      · rw [List.mem_singleton.mp ha] at htail
        exact htail.1 (List.mem_cons_self ..)
    · intro h
      have ha := List.mem_of_mem_tail ha
      refine hmem a h ?_
      obtain ha | ha := List.mem_append.mp ha
      · exact List.mem_append_left _ ha
      · rw [List.mem_singleton.mp ha]
        simp
  · refine hbs.congr (fun a ha => hnext a ?_ ?_) (fun a ha => hprev a ?_ ?_)
    · rintro rfl
      exact htail.1 (List.mem_of_mem_dropLast ha)
    · intro h
      exact hmem a h
        (List.mem_append_right _ (List.mem_cons_of_mem _ (List.mem_of_mem_dropLast ha)))
    · rintro rfl
      exact hrest.1 ha
    · intro h
      exact hmem a h (List.mem_append_right _ (by simp [show a ∈ post from ha]))

/-- A new node linked in between two neighbours. -/
theorem Chained.insert (h : Chained L (as ++ bs)) (hp : as.getLast? = some p)
    (hq : bs.head? = some q) (hnodup : (as ++ bs).Nodup) (hn : n ∉ as ++ bs)
    (hpn : L'.Joined p n) (hnq : L'.Joined n q)
    (hnext : ∀ a, a ≠ p → a ≠ n → L'.next a = L.next a)
    (hprev : ∀ a, a ≠ q → a ≠ n → L'.prev a = L.prev a) : Chained L' (as ++ n :: bs) := by
  obtain ⟨has, hbs, _⟩ := (chained_append hp hq).mp h
  obtain ⟨has', hbs'⟩ := chained_parts hp hq hnodup hn has hbs hnext hprev
  have hnbs : Chained L' ([n] ++ bs) :=
    (chained_append rfl hq).mpr ⟨List.IsChain.singleton n, hbs', hnq⟩
  exact (chained_append hp rfl).mpr ⟨has', hnbs, hpn⟩

/-- A node taken out from between its neighbours. -/
theorem Chained.remove (h : Chained L (as ++ n :: bs)) (hp : as.getLast? = some p)
    (hq : bs.head? = some q) (hnodup : (as ++ n :: bs).Nodup) (hpq : L'.Joined p q)
    (hnext : ∀ a, a ≠ p → a ≠ n → L'.next a = L.next a)
    (hprev : ∀ a, a ≠ q → a ≠ n → L'.prev a = L.prev a) : Chained L' (as ++ bs) := by
  obtain ⟨has, hnbs, _⟩ := (chained_append hp rfl).mp h
  have hsplit : Chained L ([n] ++ bs) := hnbs
  obtain ⟨_, hbs, _⟩ := (chained_append rfl hq).mp hsplit
  have hperm : (as ++ n :: bs).Perm (n :: (as ++ bs)) := List.perm_middle
  obtain ⟨hn, hnodup'⟩ := List.nodup_cons.mp (hperm.nodup_iff.mp hnodup)
  obtain ⟨has', hbs'⟩ := chained_parts hp hq hnodup' hn has hbs hnext hprev
  exact (chained_append hp hq).mpr ⟨has', hbs', hpq⟩

theorem Chained.flip (h : Chained L as) : Chained L.flip as.reverse := by
  unfold Chained
  rw [List.isChain_reverse]
  exact List.IsChain.imp (fun _ _ hab => ⟨hab.2, hab.1⟩) h

end Change

section Walk

/-- The nodes that a traversal meets before it reaches `stop`. -/
def walk [DecidableEq α] (next : α → Option α) (stop : α) : Nat → Option α → Option (List α)
  | fuel + 1, some a => if a = stop then some [] else (walk next stop fuel (next a)).map (a :: ·)
  | _, _ => none

/-- Where a number of steps lead; `none` when a step starts at no node. -/
def advance (next : α → Option α) : Nat → Option α → Option (Option α)
  | 0, a => some a
  | k + 1, some a => advance next k (next a)
  | _ + 1, none => none

variable {L : Links α}

theorem walk_next [DecidableEq α] {as : List α} {stop : α} (hstop : stop ∉ as) : ∀ {first : α},
    Chained L (first :: as ++ [stop]) →
      walk L.next stop (as.length + 1) (L.next first) = some as := by
  induction as with
  | nil =>
    intro first h
    obtain ⟨hjoin, _⟩ := List.isChain_cons_cons.mp h
    rw [hjoin.1]
    simp [walk]
  | cons a as ih =>
    intro first h
    obtain ⟨hjoin, hrest⟩ := List.isChain_cons_cons.mp h
    have hne : a ≠ stop := fun he => hstop (he ▸ List.mem_cons_self ..)
    rw [hjoin.1, List.length_cons, walk, if_neg hne,
      ih (fun hs => hstop (List.mem_cons_of_mem a hs)) hrest, Option.map_some]

theorem walk_prev [DecidableEq α] {as : List α} {first stop : α} (hfirst : first ∉ as)
    (h : Chained L (first :: as ++ [stop])) :
    walk L.prev first (as.length + 1) (L.prev stop) = some as.reverse := by
  have hflip : Chained L.flip (stop :: as.reverse ++ [first]) := by
    simpa using h.flip
  have hwalk := walk_next (fun hmem => hfirst (List.mem_reverse.mp hmem)) hflip
  rwa [List.length_reverse] at hwalk

theorem advance_next {as : List α} {stop : α} : ∀ {first : α} {k : Nat}, k ≤ as.length →
    Chained L (first :: as ++ [stop]) →
      advance L.next k (L.next first) = some ((as ++ [stop])[k]?) := by
  induction as with
  | nil =>
    intro first k hk h
    obtain ⟨hjoin, _⟩ := List.isChain_cons_cons.mp h
    rw [Nat.le_zero.mp hk, advance, hjoin.1]
    rfl
  | cons a as ih =>
    intro first k hk h
    obtain ⟨hjoin, hrest⟩ := List.isChain_cons_cons.mp h
    cases k with
    | zero =>
      rw [advance, hjoin.1]
      rfl
    | succ k =>
      rw [hjoin.1, advance, ih (Nat.le_of_succ_le_succ hk) hrest]
      rfl

end Walk

end LinkedChain
