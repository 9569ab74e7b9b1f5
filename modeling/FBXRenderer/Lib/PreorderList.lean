import FBXRenderer.Lib.IndexTree

/-!
# PreorderList

Trees written into a list of entries in pre-order. An entry has a label, the index of its parent
and the list of the indices of its children; `build` adds the nodes one by one, each at the end of
the list and in the child list of its parent (`add`).

* `build_eq`: what `build` leaves is the `layout` of the tree, and nothing else changes but the
  child list of the parent.
* `Linked` is what a single `add` keeps: parents come first, and a child list is the increasing list
  of the entries with that parent.
* `readTree_layout`: reading along the child lists gives the tree back.
* `visits_layout`: a descent along the child lists meets the entries in the order of the list, each
  once.
-/

namespace PreorderList

inductive RoseTree (α : Type) where
  | node (label : α) (childs : List (RoseTree α))

structure Entry (α : Type) where
  label : α
  parent : Option Nat
  childs : List Nat

variable {α : Type}

mutual

def size : RoseTree α → Nat
  | .node _ childs => sizeForest childs + 1

def sizeForest : List (RoseTree α) → Nat
  | [] => 0
  | t :: ts => size t + sizeForest ts

end

mutual

/-- The labels in pre-order. -/
def labels : RoseTree α → List α
  | .node a childs => a :: labelsForest childs

def labelsForest : List (RoseTree α) → List α
  | [] => []
  | t :: ts => labels t ++ labelsForest ts

end

/-- The indices of the roots of a forest that is laid out from index `n` on. -/
def starts : Nat → List (RoseTree α) → List Nat
  | _, [] => []
  | n, t :: ts => n :: starts (n + size t) ts

mutual

/-- The entries of a tree whose root has index `n`. -/
def layout : Nat → Option Nat → RoseTree α → List (Entry α)
  | n, parent, .node a childs => ⟨a, parent, starts (n + 1) childs⟩ :: layoutForest (n + 1) n childs

def layoutForest : Nat → Nat → List (RoseTree α) → List (Entry α)
  | _, _, [] => []
  | n, p, t :: ts => layout n (some p) t ++ layoutForest (n + size t) p ts

end

/-- More children at the end of the child list. -/
def Entry.addChilds (e : Entry α) (cs : List Nat) : Entry α := { e with childs := e.childs ++ cs }

/-- The children entered at their parent, if there is one. -/
def enter (es : List (Entry α)) (parent : Option Nat) (cs : List Nat) : List (Entry α) :=
  match parent with
  | none => es
  | some p => es.modify p (·.addChilds cs)

/-- A new last entry below `parent`. -/
def add (es : List (Entry α)) (a : α) (parent : Option Nat) : List (Entry α) :=
  enter es parent [es.length] ++ [⟨a, parent, []⟩]

mutual

def build : List (Entry α) → RoseTree α → Option Nat → List (Entry α)
  | es, .node a childs, parent => buildForest (add es a parent) childs es.length

def buildForest : List (Entry α) → List (RoseTree α) → Nat → List (Entry α)
  | es, [], _ => es
  | es, t :: ts, p => buildForest (build es t (some p)) ts p

end

section Layout

mutual

theorem labels_length : ∀ t : RoseTree α, (labels t).length = size t
  | .node _ childs => by simp only [labels, size, List.length_cons, labelsForest_length childs]

theorem labelsForest_length : ∀ ts : List (RoseTree α), (labelsForest ts).length = sizeForest ts
  | [] => rfl
  | t :: ts => by
    simp only [labelsForest, sizeForest, List.length_append, labels_length t,
      labelsForest_length ts]

end

mutual

theorem layout_labels : ∀ (t : RoseTree α) (n : Nat) (parent : Option Nat),
    (layout n parent t).map Entry.label = labels t
  | .node _ childs, n, parent => by
    simp only [layout, labels, List.map_cons, layoutForest_labels childs]

theorem layoutForest_labels : ∀ (ts : List (RoseTree α)) (n p : Nat),
    (layoutForest n p ts).map Entry.label = labelsForest ts
  | [], _, _ => rfl
  | t :: ts, n, p => by
    simp only [layoutForest, labelsForest, List.map_append, layout_labels t,
      layoutForest_labels ts]

end

@[simp] theorem layout_length (t : RoseTree α) (n : Nat) (parent : Option Nat) :
    (layout n parent t).length = size t := by
  rw [← List.length_map (f := Entry.label), layout_labels, labels_length]

end Layout

section Build

theorem modify_append_left {es es' : List (Entry α)} {p : Nat} (h : p < es.length)
    (f : Entry α → Entry α) : (es ++ es').modify p f = es.modify p f ++ es' := by
  apply List.ext_getElem?
  intro i
  rcases Nat.lt_or_ge i es.length with hi | hi
  · rw [List.getElem?_modify, List.getElem?_append_left hi,
      List.getElem?_append_left (by simpa using hi), List.getElem?_modify]
  · rw [List.getElem?_modify_ne _ _ (by omega), List.getElem?_append_right hi,
      List.getElem?_append_right (by simpa using hi), List.length_modify]

theorem modify_append_length (es : List (Entry α)) (e : Entry α) (f : Entry α → Entry α) :
    (es ++ [e]).modify es.length f = es ++ [f e] := by
  induction es with
  | nil => rfl
  | cons e' es ih =>
    rw [List.cons_append, List.length_cons, List.modify_succ_cons, ih, List.cons_append]

@[simp] theorem enter_length (es : List (Entry α)) (parent : Option Nat) (cs : List Nat) :
    (enter es parent cs).length = es.length := by
  cases parent with
  | none => rfl
  | some p => exact List.length_modify ..

/-- The parent is an entry of the list. -/
def Below (es : List (Entry α)) (parent : Option Nat) : Prop := ∀ p, parent = some p → p < es.length

mutual

/-- A tree is added at the end and entered at its parent. -/
theorem build_eq : ∀ (t : RoseTree α) (es : List (Entry α)) (parent : Option Nat), Below es parent →
    build es t parent = enter es parent [es.length] ++ layout es.length parent t
  | .node a childs, es, parent, h => by
    have hlength : (add es a parent).length = es.length + 1 := by simp [add]
    rw [build, buildForest_eq childs (add es a parent) es.length (by omega), hlength, layout]
    have hlast := modify_append_length (enter es parent [es.length]) ⟨a, parent, []⟩
      (·.addChilds (starts (es.length + 1) childs))
    rw [enter_length] at hlast
    show List.modify _ _ _ ++ _ = _
    rw [add, hlast, List.append_assoc]
    rfl

theorem buildForest_eq : ∀ (ts : List (RoseTree α)) (es : List (Entry α)) (p : Nat), p < es.length →
    buildForest es ts p =
      enter es (some p) (starts es.length ts) ++ layoutForest es.length p ts
  | [], es, p, h => by
    have hid : (fun e : Entry α => e.addChilds []) = id := by
      funext e
      simp [Entry.addChilds]
    rw [buildForest, layoutForest, starts, enter, hid, List.modify_id, List.append_nil]
  | t :: ts, es, p, h => by
    have hbuild := build_eq t es (some p) (fun q hq => by cases hq; exact h)
    have hlength : (build es t (some p)).length = es.length + size t := by
      rw [hbuild]
      simp
    have hmodify : ∀ cs cs' : List Nat, (es.modify p (·.addChilds cs)).modify p (·.addChilds cs') =
        es.modify p (·.addChilds (cs ++ cs')) := by
      intro cs cs'
      rw [List.modify_modify_eq]
      congr 1
      funext e
      simp [Entry.addChilds]
    rw [buildForest, buildForest_eq ts _ p (by omega), hlength, hbuild, layoutForest, starts]
    simp only [enter]
    rw [modify_append_left (by simpa using h), hmodify, List.append_assoc]
    rfl

end

end Build

section Links

/-- The parent of entry `i`. -/
def parentOf (es : List (Entry α)) (i : Nat) : Option Nat := (es[i]?).bind Entry.parent

/-- Entry 0 is the only root, parents come before their children, and the child list of an entry is
the increasing list of the entries with that parent. -/
structure Linked (es : List (Entry α)) : Prop where
  rooted : ∀ i, 0 < i → i < es.length → parentOf es i ≠ none
  parent_lt : ∀ i p, parentOf es i = some p → p < i
  childs_eq : ∀ i e, es[i]? = some e →
    e.childs = (List.range es.length).filter fun c => parentOf es c = some i

theorem enter_getElem? (es : List (Entry α)) (parent : Option Nat) (cs : List Nat) (i : Nat) :
    (enter es parent cs)[i]? =
      (es[i]?).map fun e => if parent = some i then e.addChilds cs else e := by
  cases parent with
  | none => simp [enter]
  | some p =>
    rw [enter, List.getElem?_modify]
    simp only [Option.some_inj, Option.map_eq_map]

theorem add_getElem?_lt {es : List (Entry α)} {i : Nat} (hi : i < es.length) (a : α)
    (parent : Option Nat) : (add es a parent)[i]? =
      (es[i]?).map fun e => if parent = some i then e.addChilds [es.length] else e := by
  rw [add, List.getElem?_append_left (by simpa using hi), enter_getElem?]

theorem add_getElem?_length (es : List (Entry α)) (a : α) (parent : Option Nat) :
    (add es a parent)[es.length]? = some ⟨a, parent, []⟩ := by
  rw [add, List.getElem?_append_right (by simp)]
  simp

@[simp] theorem add_length (es : List (Entry α)) (a : α) (parent : Option Nat) :
    (add es a parent).length = es.length + 1 := by simp [add]

/-- The child list of the parent, which `cnt` gives so many places, has room for `k` more. -/
def Room (cnt : α → Nat) (es : List (Entry α)) (parent : Option Nat) (k : Nat) : Prop :=
  ∀ p, parent = some p → ∃ e, es[p]? = some e ∧ e.childs.length + k ≤ cnt e.label

theorem Room.of_le {cnt : α → Nat} {es : List (Entry α)} {parent : Option Nat} {k k' : Nat}
    (h : Room cnt es parent k) (hle : k' ≤ k) : Room cnt es parent k' := by
  rintro p hp
  obtain ⟨e, he, hroom⟩ := h p hp
  exact ⟨e, he, by omega⟩

/-- A new entry has all its places left. -/
theorem Room.of_add (cnt : α → Nat) (es : List (Entry α)) (a : α) (parent : Option Nat) :
    Room cnt (add es a parent) (some es.length) (cnt a) := by
  rintro p hp
  cases hp
  exact ⟨_, add_getElem?_length es a parent, Nat.le_of_eq (Nat.zero_add _)⟩

/-- A child takes one place in the child list of its parent. -/
theorem Room.build {cnt : α → Nat} {es : List (Entry α)} {p k : Nat}
    (h : Room cnt es (some p) (k + 1)) (t : RoseTree α) :
    Room cnt (build es t (some p)) (some p) k := by
  rintro q hq
  cases hq
  obtain ⟨e, he, hroom⟩ := h p rfl
  have hp : p < es.length := (List.getElem?_eq_some_iff.mp he).1
  refine ⟨e.addChilds [es.length], ?_, ?_⟩
  · rw [build_eq t es (some p) (fun q hq => by cases hq; exact hp),
      List.getElem?_append_left (by simpa using hp), enter_getElem?, he, Option.map_some,
      if_pos rfl]
  · show (e.childs ++ [es.length]).length + k ≤ cnt e.label
    rw [List.length_append, List.length_singleton]
    omega

theorem buildForest_append : ∀ (ts ts' : List (RoseTree α)) (es : List (Entry α)) (p : Nat),
    buildForest es (ts ++ ts') p = buildForest (buildForest es ts p) ts' p
  | [], _, _, _ => by rw [buildForest, List.nil_append]
  | t :: ts, ts', es, p => by
    rw [List.cons_append, buildForest, buildForest, buildForest_append ts ts']

/-- A forest takes one place for each of its trees. -/
theorem Room.buildForest {cnt : α → Nat} {p k : Nat} : ∀ (ts : List (RoseTree α))
    (es : List (Entry α)), Room cnt es (some p) (ts.length + k) →
    Room cnt (buildForest es ts p) (some p) k
  | [], es, h => by
    rw [PreorderList.buildForest]
    exact h.of_le (Nat.le_add_left ..)
  | t :: ts, es, h => by
    rw [PreorderList.buildForest]
    refine Room.buildForest ts _ (Room.build (h.of_le ?_) t)
    rw [List.length_cons]
    omega

theorem parentOf_add_lt {es : List (Entry α)} {i : Nat} (hi : i < es.length) (a : α)
    (parent : Option Nat) : parentOf (add es a parent) i = parentOf es i := by
  unfold parentOf
  rw [add_getElem?_lt hi]
  cases es[i]? with
  | none => rfl
  | some e =>
    show Entry.parent (if parent = some i then e.addChilds [es.length] else e) = e.parent
    split <;> rfl

theorem parentOf_add_length (es : List (Entry α)) (a : α) (parent : Option Nat) :
    parentOf (add es a parent) es.length = parent := by
  unfold parentOf
  rw [add_getElem?_length]
  rfl

/-- The step of every walk over the links: one more entry. -/
theorem Linked.add {es : List (Entry α)} (h : Linked es) (a : α) {parent : Option Nat}
    (hbelow : Below es parent) (hroot : es = [] ∨ parent ≠ none) : Linked (add es a parent) := by
  have hfilter : ∀ i, (List.range (es.length + 1)).filter
      (fun c => parentOf (PreorderList.add es a parent) c = some i) =
      (List.range es.length).filter (fun c => parentOf es c = some i) ++
        if parent = some i then [es.length] else [] := by
    intro i
    rw [List.range_succ, List.filter_append]
    congr 1
    · refine List.filter_congr fun c hc => ?_
      rw [parentOf_add_lt (List.mem_range.mp hc)]
    · by_cases hp : parent = some i
      · simp [parentOf_add_length, hp]
      · simp [parentOf_add_length, hp]
  refine ⟨fun i h0 hi => ?_, fun i p hp => ?_, fun i e he => ?_⟩
  · rw [add_length] at hi
    rcases Nat.lt_succ_iff_lt_or_eq.mp hi with hi | rfl
    · rw [parentOf_add_lt hi]
      exact h.rooted i h0 hi
    · rw [parentOf_add_length]
      rcases hroot with rfl | hroot
      · exact absurd h0 (Nat.lt_irrefl 0)
      · exact hroot
  · rcases Nat.lt_trichotomy i es.length with hi | rfl | hi
    · rw [parentOf_add_lt hi] at hp
      exact h.parent_lt i p hp
    · rw [parentOf_add_length] at hp
      exact hbelow p hp
    · unfold parentOf at hp
      rw [List.getElem?_eq_none (by rw [add_length]; exact hi)] at hp
      cases hp
  · rw [add_length, hfilter]
    rcases Nat.lt_trichotomy i es.length with hi | rfl | hi
    · rw [add_getElem?_lt hi, Option.map_eq_some_iff] at he
      obtain ⟨e', he', rfl⟩ := he
      rw [← h.childs_eq i e' he']
      split
      · rfl
      · exact (List.append_nil _).symm
    · -- the new entry has no children, and nothing before it has it as its parent
      rw [add_getElem?_length] at he
      cases he
      have hnone : parent ≠ some es.length := fun hp => Nat.lt_irrefl _ (hbelow _ hp)
      rw [if_neg hnone, List.append_nil]
      refine (List.filter_eq_nil_iff.mpr fun c hc => ?_).symm
      intro hp
      have hlt := h.parent_lt c es.length (of_decide_eq_true hp)
      have hc := List.mem_range.mp hc
      omega
    · rw [List.getElem?_eq_none (by rw [add_length]; exact hi)] at he
      cases he

theorem linked_nil : Linked ([] : List (Entry α)) where
  rooted := fun i _ hi => absurd hi (Nat.not_lt_zero i)
  parent_lt := fun _ _ hp => nomatch hp
  childs_eq := fun _ _ he => nomatch he

theorem build_length {es : List (Entry α)} {t : RoseTree α} {parent : Option Nat}
    (h : Below es parent) : (build es t parent).length = es.length + size t := by
  rw [build_eq t es parent h]
  simp

mutual

theorem Linked.build : ∀ (t : RoseTree α) (es : List (Entry α)) (parent : Option Nat), Linked es →
    Below es parent → (es = [] ∨ parent ≠ none) → Linked (build es t parent)
  | .node a childs, es, parent, h, hbelow, hroot => by
    rw [PreorderList.build]
    exact Linked.buildForest childs _ es.length (h.add a hbelow hroot) (by simp)

theorem Linked.buildForest : ∀ (ts : List (RoseTree α)) (es : List (Entry α)) (p : Nat), Linked es →
    p < es.length → Linked (buildForest es ts p)
  | [], es, p, h, _ => by
    rw [PreorderList.buildForest]
    exact h
  | t :: ts, es, p, h, hp => by
    have hbelow : Below es (some p) := fun q hq => by cases hq; exact hp
    rw [PreorderList.buildForest]
    refine Linked.buildForest ts _ p (Linked.build t es (some p) h hbelow (Or.inr nofun)) ?_
    rw [build_length hbelow]
    omega

end

/-- An entry that is not the root is in exactly one child list, that of its parent, and there
once. -/
theorem Linked.count_childs {es : List (Entry α)} (h : Linked es) {i c : Nat} {e : Entry α}
    (he : es[i]? = some e) (hc : c < es.length) :
    e.childs.count c = if parentOf es c = some i then 1 else 0 := by
  rw [h.childs_eq i e he]
  split
  · rename_i hp
    rw [List.count_filter (by simpa using hp), List.count_range, if_pos hc]
  · rename_i hp
    refine List.count_eq_zero.mpr fun hmem => hp ?_
    simpa using (List.mem_filter.mp hmem).2

end Links

section Stands

/-- The entries `L` stand in `es` from index `n` on. -/
def Stands (es : List (Entry α)) : Nat → List (Entry α) → Prop
  | _, [] => True
  | n, e :: L => es[n]? = some e ∧ Stands es (n + 1) L

theorem stands_append {es : List (Entry α)} : ∀ {L L' : List (Entry α)} {n : Nat},
    Stands es n (L ++ L') → Stands es n L ∧ Stands es (n + L.length) L' := by
  intro L
  induction L with
  | nil =>
    intro L' n h
    exact ⟨trivial, h⟩
  | cons e L ih =>
    intro L' n h
    obtain ⟨hL, hL'⟩ := ih h.2
    refine ⟨⟨h.1, hL⟩, ?_⟩
    have hn : n + 1 + L.length = n + (e :: L).length := by
      rw [List.length_cons]
      omega
    rw [← hn]
    exact hL'

theorem stands_suffix (es : List (Entry α)) : ∀ (L : List (Entry α)),
    Stands (es ++ L) es.length L := by
  intro L
  induction L generalizing es with
  | nil => trivial
  | cons e L ih =>
    refine ⟨by simp, ?_⟩
    have hstands := ih (es ++ [e])
    rw [List.append_assoc, List.length_append] at hstands
    exact hstands

/-- The tree that is found from index `i` along the child lists. -/
def readTree (es : List (Entry α)) : Nat → Nat → Option (RoseTree α)
  | 0, _ => none
  | fuel + 1, i => do
    let e ← es[i]?
    let childs ← e.childs.mapM (readTree es fuel)
    some (.node e.label childs)

mutual

theorem readTree_layout {es : List (Entry α)} : ∀ (t : RoseTree α) (n : Nat) (parent : Option Nat)
    (fuel : Nat), Stands es n (layout n parent t) → size t ≤ fuel → readTree es fuel n = some t
  | .node a childs, n, parent, fuel, h, hfuel => by
    cases fuel with
    | zero => exact absurd hfuel (by simp [size])
    | succ fuel =>
      rw [layout] at h
      rw [size] at hfuel
      have hchilds := readForest_layout childs (n + 1) n fuel h.2 (by omega)
      unfold readTree
      simp only [h.1, Option.bind_eq_bind, Option.bind_some, hchilds]

theorem readForest_layout {es : List (Entry α)} : ∀ (ts : List (RoseTree α)) (n p fuel : Nat),
    Stands es n (layoutForest n p ts) → sizeForest ts ≤ fuel →
    (starts n ts).mapM (readTree es fuel) = some ts
  | [], n, p, fuel, _, _ => rfl
  | t :: ts, n, p, fuel, h, hfuel => by
    rw [sizeForest] at hfuel
    rw [layoutForest] at h
    obtain ⟨ht, hts⟩ := stands_append h
    rw [layout_length] at hts
    have hhead := readTree_layout t n (some p) fuel ht (by omega)
    have htail := readForest_layout ts (n + size t) p fuel hts (by omega)
    rw [starts, List.mapM_cons, hhead]
    simp only [Option.bind_eq_bind, Option.bind_some, htail, Option.pure_def]

end

variable {T : Type}

mutual

/-- A descent into a tree that stands at `n` meets its entries from `n` on, one after the other. -/
theorem visits_layout {es : List (Entry α)} {value : Nat → T → Option T} :
    ∀ (t : RoseTree α) (n : Nat) (parent : Option Nat) (fuel : Nat) (x : T),
      Stands es n (layout n parent t) → size t ≤ fuel →
      (∀ i, n ≤ i → i < n + size t → ∀ x, ∃ y, value i x = some y) →
      ∃ log, IndexTree.visits (fun i => (es[i]?).map Entry.childs) value fuel x n = some log ∧
        log.map Prod.fst = List.range' n (size t)
  | .node a childs, n, parent, fuel, x, h, hfuel, hvalue => by
    cases fuel with
    | zero => exact absurd hfuel (by simp [size])
    | succ fuel =>
      rw [layout] at h
      rw [size] at hfuel hvalue ⊢
      obtain ⟨y, hy⟩ := hvalue n (Nat.le_refl _) (by omega) x
      obtain ⟨logs, hlogs, hmap⟩ := visitsForest_layout childs (n + 1) n fuel y h.2 (by omega)
        (fun i hi hi' => hvalue i (by omega) (by omega))
      refine ⟨(n, y) :: logs.flatten, ?_, ?_⟩
      · unfold IndexTree.visits
        simp only [hy, h.1, Option.map_some, Option.bind_eq_bind, Option.bind_some, hlogs]
      · rw [List.map_cons, hmap, List.range'_succ]

theorem visitsForest_layout {es : List (Entry α)} {value : Nat → T → Option T} :
    ∀ (ts : List (RoseTree α)) (n p fuel : Nat) (x : T),
      Stands es n (layoutForest n p ts) → sizeForest ts ≤ fuel →
      (∀ i, n ≤ i → i < n + sizeForest ts → ∀ x, ∃ y, value i x = some y) →
      ∃ logs, (starts n ts).mapM (fun c => IndexTree.visits
          (fun i => (es[i]?).map Entry.childs) value fuel x c) = some logs ∧
        logs.flatten.map Prod.fst = List.range' n (sizeForest ts)
  | [], n, p, fuel, x, _, _, _ => ⟨[], rfl, rfl⟩
  | t :: ts, n, p, fuel, x, h, hfuel, hvalue => by
    rw [sizeForest] at hfuel hvalue ⊢
    rw [layoutForest] at h
    obtain ⟨ht, hts⟩ := stands_append h
    rw [layout_length] at hts
    obtain ⟨log, hlog, hmap⟩ := visits_layout t n (some p) fuel x ht (by omega)
      (fun i hi hi' => hvalue i hi (by omega))
    obtain ⟨logs, hlogs, hmaps⟩ := visitsForest_layout ts (n + size t) p fuel x hts (by omega)
      (fun i hi hi' => hvalue i (by omega) (by omega))
    refine ⟨log :: logs, ?_, ?_⟩
    · rw [starts, List.mapM_cons, hlog]
      simp only [Option.bind_eq_bind, Option.bind_some, hlogs, Option.pure_def]
    · rw [List.flatten_cons, List.map_append, hmap, hmaps, List.range'_append_1]

end

end Stands

end PreorderList
