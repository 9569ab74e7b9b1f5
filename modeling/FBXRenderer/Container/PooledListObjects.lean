import Mathlib.Data.List.ReduceOption
import FBXRenderer.Lib.Handles
import FBXRenderer.Lib.PartialRun

/-!
# FBXRenderer.Container.PooledListObjects

The element objects in the storage of `SS::PooledList<T>`: when they are constructed, where they
are, and when they are destroyed. A list has a block of raw places; a destructor that has run leaves
the bytes of its object in their place.

* `ListObject.Holds`: the first `_size` places of a list are its elements.
* `ListHeap`: all lists of a program, and the books on their elements (`Handles`). `Booked` says
  that every element was destroyed once or is held by one list.
* `operator=(PooledList&&)` has no `return`, so a call of it has no defined result.
  `Booked.moveAssignBody_kept_iff`: its statements run one destructor and free the block, so even
  with the `return` they would keep the books only onto a list without a block, or onto another one
  with one element.
* `run_kept_iff`: a run keeps the books exactly where all its operations do.
-/

namespace FBXRenderer
namespace SS

/-- An object of type `T` in a list, with a number of its own. -/
structure Element (T : Type) where
  id : Nat
  value : T
deriving DecidableEq

/-- A list with its storage: null, or a block of places that may not have been written yet. -/
structure ListObject (T : Type) where
  _size : Nat
  _capacity : Nat
  _data : Option (List (Option (Element T)))
deriving DecidableEq

section Places

variable {T : Type}

/-- `new(_data + i) T(value)`. -/
def constructAt (h : Handles) (places : List (Option (Element T))) (i : Nat) (value : T) :
    Option (Handles × List (Option (Element T))) :=
  if i < places.length then some (h.acquire.2, places.set i (some ⟨h.acquire.1, value⟩)) else none

/-- `_data[i].~T()`, on whatever object the bytes are of. -/
def destroyAt (h : Handles) (places : List (Option (Element T))) (i : Nat) : Option Handles :=
  places[i]?.join.map fun e => h.release e.id

/-- `n` turns of a loop that constructs an object from `value i` at place `i`. -/
def constructLoop (value : Nat → Option T) :
    Handles → List (Option (Element T)) → Nat → Nat →
      Option (Handles × List (Option (Element T)))
  | h, places, _, 0 => some (h, places)
  | h, places, i, n + 1 => do
    let (h, places) ← constructAt h places i (← value i)
    constructLoop value h places (i + 1) n

/-- `n` turns of a loop that destroys the object at place `i`. -/
def destroyLoop (places : List (Option (Element T))) : Handles → Nat → Nat → Option Handles
  | h, _, 0 => some h
  | h, i, n + 1 => do
    let h ← destroyAt h places i
    destroyLoop places h (i + 1) n

/-- `delete _data`: the destructor of one object, and nothing for the null pointer. -/
def deleteData (h : Handles) : Option (List (Option (Element T))) → Option Handles
  | none => some h
  | some places => destroyAt h places 0

end Places

namespace ListObject

variable {T : Type}

/-- The places of the block; there is none behind the null pointer. -/
def places (l : ListObject T) : List (Option (Element T)) := l._data.getD []

def elements (l : ListObject T) : List (Element T) := (l.places.take l._size).reduceOption

/-- `PooledList(capacity)`. -/
def new (capacity : Nat) : ListObject T where
  _size := 0
  _capacity := capacity
  _data := if capacity ≠ 0 then some (List.replicate capacity none) else none

/-- What a list that was moved from is left with. -/
def moved : ListObject T := ⟨0, 0, none⟩

/-- `operator[]`. -/
def get (l : ListObject T) (idx : Nat) : Option T :=
  if idx < l._capacity then l.places[idx]?.join.map Element.value else none

/-- `PooledList(const PooledList&)`. -/
def copy (h : Handles) (origin : ListObject T) : Option (Handles × ListObject T) := do
  let places := List.replicate origin._capacity none
  let (h, places) ← constructLoop origin.get h places 0 origin._size
  some (h, ⟨origin._size, origin._capacity, some places⟩)

def pushBack (newData : T) (h : Handles) (l : ListObject T) : Option (Handles × ListObject T) :=
  if l._size < l._capacity then do
    let (h, places) ← constructAt h l.places l._size newData
    some (h, { l with _size := l._size + 1, _data := some places })
  else none

def resize (default : T) (newSize : Nat) (h : Handles) (l : ListObject T) :
    Option (Handles × ListObject T) :=
  if newSize ≤ l._capacity then do
    let (h, places) ← constructLoop (fun _ => some default) h l.places l._size (newSize - l._size)
    let h ← destroyLoop places h newSize (l._size - newSize)
    some (h, { l with _size := newSize, _data := l._data.map fun _ => places })
  else none

def clear (h : Handles) (l : ListObject T) : Option (Handles × ListObject T) := do
  let h ← destroyLoop l.places h 0 l._size
  some (h, { l with _size := 0 })

/-- `memcpy` of the old capacity into the new block; the places behind it stay raw. -/
def increaseCapacityAndCopy (newCapacity : Nat) (h : Handles) (l : ListObject T) :
    Option (Handles × ListObject T) :=
  if l._capacity ≤ newCapacity then
    some (h, { l with
      _capacity := newCapacity
      _data := some (l.places.take l._capacity ++
        List.replicate (newCapacity - l._capacity) none) })
  else none

/-- `~PooledList`. -/
def destruct (h : Handles) (l : ListObject T) : Option Handles := destroyLoop l.places h 0 l._size

end ListObject

/-- The lists of a program, `none` where one has been destroyed, and the books on the elements. -/
structure ListHeap (T : Type) where
  handles : Handles
  lists : List (Option (ListObject T))

namespace ListHeap

variable {T : Type}

def empty : ListHeap T := ⟨Handles.empty, []⟩

def list (m : ListHeap T) (i : Nat) : Option (ListObject T) := m.lists[i]?.join

def put (m : ListHeap T) (i : Nat) (o : Option (ListObject T)) : ListHeap T :=
  { m with lists := m.lists.set i o }

/-- A write to the fields of one list. -/
def modify (m : ListHeap T) (i : Nat) (f : ListObject T → ListObject T) : ListHeap T :=
  m.put i ((m.list i).map f)

/-- An operation on one list. -/
def on (m : ListHeap T) (this : Nat)
    (f : Handles → ListObject T → Option (Handles × ListObject T)) : Option (ListHeap T) := do
  let l ← m.list this
  let (h, l) ← f m.handles l
  some { m.put this (some l) with handles := h }

/-- `PooledList(PooledList&&)`. -/
def moveConstruct (m : ListHeap T) (origin : Nat) : Option (ListHeap T) := do
  let o ← m.list origin
  let this : ListObject T := ⟨o._size, o._capacity, o._data⟩
  let m := m.modify origin fun _ => ListObject.moved
  some { m with lists := m.lists ++ [some this] }

/-- The statements of `operator=(PooledList&&)`: `this` and `origin` may be one list. -/
def moveAssignBody (m : ListHeap T) (this origin : Nat) : Option (ListHeap T) := do
  let o ← m.list origin
  let m := m.modify this fun l => { l with _size := o._size, _capacity := o._capacity }
  let l ← m.list this
  let h ← deleteData m.handles l._data
  let o ← m.list origin
  let m := m.modify this fun l => { l with _data := o._data }
  let m := m.modify origin fun _ => ListObject.moved
  some { m with handles := h }

/-- `operator=(PooledList&&)`. Its type asks for a `PooledList&`, and behind its statements there is
a TODO in place of the `return`: control runs off the end, which has no defined outcome. -/
def moveAssign (m : ListHeap T) (this origin : Nat) : Option (ListHeap T) :=
  (m.moveAssignBody this origin).bind fun _ => none

inductive Op (T : Type) where
  | construct (capacity : Nat)
  | copyConstruct (origin : Nat)
  | moveConstruct (origin : Nat)
  | moveAssign (this origin : Nat)
  | pushBack (this : Nat) (newData : T)
  | resize (this newSize : Nat)
  | clear (this : Nat)
  | increaseCapacityAndCopy (this newCapacity : Nat)
  | destruct (this : Nat)

/-- One operation; a list that is constructed comes behind the others. -/
def step (default : T) (m : ListHeap T) : Op T → Option (ListHeap T)
  | .construct capacity => some { m with lists := m.lists ++ [some (ListObject.new capacity)] }
  | .copyConstruct origin => do
    let (h, l) ← (← m.list origin).copy m.handles
    some { lists := m.lists ++ [some l], handles := h }
  | .moveConstruct origin => m.moveConstruct origin
  | .moveAssign this origin => m.moveAssign this origin
  | .pushBack this newData => m.on this (ListObject.pushBack newData)
  | .resize this newSize => m.on this (ListObject.resize default newSize)
  | .clear this => m.on this ListObject.clear
  | .increaseCapacityAndCopy this newCapacity =>
    m.on this (ListObject.increaseCapacityAndCopy newCapacity)
  | .destruct this => do
    let h ← (← m.list this).destruct m.handles
    some { m.put this none with handles := h }

end ListHeap

section Loops

variable {T : Type} {h : Handles} {live : List Nat}

/-- The numbers of some elements. -/
def ids (xs : List (Element T)) : List Nat := xs.map Element.id

@[simp] theorem ids_nil : ids ([] : List (Element T)) = [] := rfl

@[simp] theorem ids_append (xs ys : List (Element T)) : ids (xs ++ ys) = ids xs ++ ids ys :=
  List.map_append

theorem constructAt_spec (h : Handles) (xs : List (Element T)) (r : Option (Element T))
    (raw : List (Option (Element T))) (v : T) : ∃ e : Element T,
      constructAt h (xs.map some ++ r :: raw) xs.length v =
        some (h.acquire.2, (xs ++ [e]).map some ++ raw) ∧
      ∀ live, h.Outstanding live → h.acquire.2.Outstanding (e.id :: live) := by
  refine ⟨⟨h.acquire.1, v⟩, ?_, fun live hlive => hlive.acquire⟩
  have hlt : xs.length < (xs.map some ++ r :: raw).length := by simp
  rw [constructAt, if_pos hlt, List.set_append_right _ _ (by simp)]
  simp

/-- The loop fills raw places with new objects, by induction on the number of turns. -/
theorem constructLoop_spec (value : Nat → Option T) {n : Nat} :
    ∀ (h : Handles) (xs : List (Element T)) {raw : List (Option (Element T))},
      n ≤ raw.length → (∀ k, k < n → (value (xs.length + k)).isSome) →
      ∃ h' ys, constructLoop value h (xs.map some ++ raw) xs.length n =
          some (h', (xs ++ ys).map some ++ raw.drop n) ∧ ys.length = n ∧
        ∀ live, h.Outstanding live → h'.Outstanding (ids ys ++ live) := by
  induction n with
  | zero =>
    intro h xs raw _ _
    exact ⟨h, [], by simp [constructLoop], rfl, fun live hlive => hlive⟩
  | succ n ih =>
    intro h xs raw hn hvalue
    cases raw with
    | nil => cases hn
    | cons r raw =>
      obtain ⟨v, hv⟩ := Option.isSome_iff_exists.mp (hvalue 0 (Nat.succ_pos n))
      rw [Nat.add_zero] at hv
      obtain ⟨e, hset, he⟩ := constructAt_spec h xs r raw v
      have hlen : (xs ++ [e]).length = xs.length + 1 := by simp
      have hvalue' : ∀ k, k < n → (value ((xs ++ [e]).length + k)).isSome := by
        intro k hk
        rw [hlen, Nat.add_assoc, Nat.add_comm 1 k]
        exact hvalue (k + 1) (Nat.succ_lt_succ hk)
      obtain ⟨h', ys, heq, hys, hout⟩ :=
        ih h.acquire.2 (xs ++ [e]) (Nat.le_of_succ_le_succ hn) hvalue'
      rw [hlen] at heq
      refine ⟨h', e :: ys, ?_, by rw [List.length_cons, hys], ?_⟩
      · simp only [constructLoop, hv, hset, heq, Option.bind_eq_bind, Option.bind_some]
        simp
      · intro live hlive
        have hperm : (ids ys ++ e.id :: live).Perm (ids (e :: ys) ++ live) := List.perm_middle
        exact (hout _ (he live hlive)).perm hperm

/-- The loop destroys the objects `ys`, by induction on them. -/
theorem destroyLoop_spec {places : List (Option (Element T))} {raw : List (Option (Element T))}
    {ys : List (Element T)} : ∀ {h : Handles} {xs : List (Element T)},
      places = (xs ++ ys).map some ++ raw →
      ∃ h', destroyLoop places h xs.length ys.length = some h' ∧
        ∀ live, h.Outstanding (ids ys ++ live) → h'.Outstanding live := by
  induction ys with
  | nil =>
    intro h xs _
    exact ⟨h, rfl, fun live hlive => hlive⟩
  | cons y ys ih =>
    intro h xs hplaces
    have hget : places[xs.length]?.join = some y := by
      rw [hplaces]
      simp
    have hnext : places = ((xs ++ [y]) ++ ys).map some ++ raw := by
      rw [hplaces, List.append_assoc, List.singleton_append]
    have hlen : (xs ++ [y]).length = xs.length + 1 := by simp
    obtain ⟨h', heq, hout⟩ := ih (h := h.release y.id) hnext
    rw [hlen] at heq
    refine ⟨h', ?_, ?_⟩
    · rw [List.length_cons, destroyLoop, destroyAt, hget, Option.map_some, Option.bind_eq_bind,
        Option.bind_some, heq]
    · intro live hlive
      exact hout live hlive.release

end Loops

namespace ListObject

variable {T : Type} {h : Handles} {l : ListObject T} {xs : List (Element T)}

/-- The list holds the elements `xs`, and behind them its block has room up to the capacity. -/
structure Holds (l : ListObject T) (xs : List (Element T)) : Prop where
  size_eq : l._size = xs.length
  places_eq : ∃ raw, l.places = xs.map some ++ raw
  capacity_eq : l.places.length = l._capacity

/-- An operation on one list keeps the books on whatever else is out. -/
def Keeps (f : Handles → ListObject T → Option (Handles × ListObject T)) (h : Handles)
    (l : ListObject T) (xs : List (Element T)) : Prop :=
  ∃ h' l' xs', f h l = some (h', l') ∧ l'.Holds xs' ∧
    ∀ live, h.Outstanding (ids xs ++ live) → h'.Outstanding (ids xs' ++ live)

theorem Holds.split (hl : l.Holds xs) :
    ∃ raw, l.places = xs.map some ++ raw ∧ xs.length + raw.length = l._capacity := by
  obtain ⟨raw, hplaces⟩ := hl.places_eq
  have hlen := congrArg List.length hplaces
  rw [List.length_append, List.length_map, hl.capacity_eq] at hlen
  exact ⟨raw, hplaces, hlen.symm⟩

theorem holds_mk (xs : List (Element T)) {raw : List (Option (Element T))} {capacity : Nat}
    (hcap : xs.length + raw.length = capacity) :
    (⟨xs.length, capacity, some (xs.map some ++ raw)⟩ : ListObject T).Holds xs where
  size_eq := rfl
  places_eq := ⟨raw, rfl⟩
  capacity_eq := by simp [places, hcap]

theorem holds_new (capacity : Nat) : (new capacity : ListObject T).Holds [] where
  size_eq := rfl
  places_eq := ⟨_, (List.nil_append _).symm⟩
  capacity_eq := by
    by_cases hzero : capacity = 0
    · simp [new, places, hzero]
    · simp [new, places, hzero]

theorem holds_moved : (moved : ListObject T).Holds [] := holds_new 0

/-- Other contents in the same block, or in the same null pointer. -/
theorem Holds.refill (hl : l.Holds xs) {ys : List (Element T)} {raw : List (Option (Element T))}
    (hcap : ys.length + raw.length = l._capacity) : (⟨ys.length, l._capacity,
      l._data.map fun _ => ys.map some ++ raw⟩ : ListObject T).Holds ys := by
  cases hdata : l._data with
  | some block => exact holds_mk ys hcap
  | none =>
    have hzero : l._capacity = 0 := by
      rw [← hl.capacity_eq, places, hdata]
      rfl
    have hys : ys = [] := List.length_eq_zero_iff.mp (by omega)
    subst hys
    rw [hzero]
    exact holds_moved

theorem Holds.elements_eq (hl : l.Holds xs) : l.elements = xs := by
  obtain ⟨raw, hplaces⟩ := hl.places_eq
  have htake : l.places.take l._size = xs.map some := by
    rw [hplaces, hl.size_eq]
    simp
  rw [elements, htake]
  simp [List.reduceOption, List.filterMap_map]

theorem Holds.get_isSome (hl : l.Holds xs) {k : Nat} (hk : k < xs.length) : (l.get k).isSome := by
  obtain ⟨raw, hplaces, hlen⟩ := hl.split
  have hlt : k < l._capacity := by omega
  rw [get, if_pos hlt, hplaces, List.getElem?_append_left (by simpa using hk), List.getElem?_map,
    List.getElem?_eq_getElem hk]
  rfl

theorem Holds.copy_spec (hl : l.Holds xs) : ∃ h' l' xs', l.copy h = some (h', l') ∧
    l'.Holds xs' ∧ ∀ live, h.Outstanding live → h'.Outstanding (ids xs' ++ live) := by
  obtain ⟨raw, hplaces, hlen⟩ := hl.split
  have hsize : xs.length ≤ (List.replicate l._capacity (none : Option (Element T))).length := by
    rw [List.length_replicate]
    omega
  have hvalue : ∀ k, k < xs.length → (l.get (([] : List (Element T)).length + k)).isSome := by
    intro k hk
    simpa using hl.get_isSome hk
  obtain ⟨h', ys, heq, hys, hout⟩ := constructLoop_spec l.get h [] hsize hvalue
  rw [List.map_nil, List.nil_append, List.nil_append, List.length_nil] at heq
  have hcopy : ys.length + ((List.replicate l._capacity (none : Option (Element T))).drop
      xs.length).length = l._capacity := by
    rw [List.length_drop, List.length_replicate]
    omega
  refine ⟨h', _, ys, ?_, holds_mk ys hcopy, hout⟩
  rw [copy, hl.size_eq, heq, hys]
  rfl

theorem Holds.pushBack_spec (hl : l.Holds xs) (hroom : l._size < l._capacity) (newData : T) :
    Keeps (pushBack newData) h l xs := by
  obtain ⟨raw, hplaces, hlen⟩ := hl.split
  have hsize := hl.size_eq
  cases raw with
  | nil =>
    rw [List.length_nil] at hlen
    omega
  | cons r raw =>
    obtain ⟨e, hset, he⟩ := constructAt_spec h xs r raw newData
    have hcap : (xs ++ [e]).length + raw.length = l._capacity := by
      simp only [List.length_append, List.length_cons, List.length_nil] at hlen ⊢
      omega
    refine ⟨h.acquire.2, _, xs ++ [e], ?_, holds_mk _ hcap, ?_⟩
    · rw [pushBack, if_pos hroom, hplaces, hsize, hset]
      simp
    · intro live hlive
      have hperm : (e.id :: (ids xs ++ live)).Perm (ids (xs ++ [e]) ++ live) := by
        rw [ids_append, List.append_assoc]
        exact List.perm_middle.symm
      exact (he _ hlive).perm hperm

/-- Growing and shrinking are two cases: the other loop makes no turn. -/
theorem Holds.resize_spec (hl : l.Holds xs) {newSize : Nat} (hsize : newSize ≤ l._capacity)
    (default : T) : Keeps (resize default newSize) h l xs := by
  obtain ⟨raw, hplaces, hlen⟩ := hl.split
  have hsize' := hl.size_eq
  by_cases hgrow : l._size ≤ newSize
  · have hn : newSize - xs.length ≤ raw.length := by omega
    obtain ⟨h', ys, heq, hys, hout⟩ :=
      constructLoop_spec (fun _ => some default) h xs hn (fun _ _ => rfl)
    have hlen' : (xs ++ ys).length = newSize := by
      rw [List.length_append]
      omega
    have hcap : (xs ++ ys).length + (raw.drop (newSize - xs.length)).length = l._capacity := by
      rw [List.length_drop]
      omega
    have hnone : l._size - newSize = 0 := by omega
    refine ⟨h', _, xs ++ ys, ?_, hl.refill hcap, ?_⟩
    · rw [resize, if_pos hsize, hplaces, hnone, hsize', heq, hlen']
      rfl
    · intro live hlive
      have hperm : (ids ys ++ (ids xs ++ live)).Perm (ids (xs ++ ys) ++ live) := by
        rw [ids_append, ← List.append_assoc]
        exact List.perm_append_comm.append_right _
      exact (hout _ hlive).perm hperm
  · have hcut : l.places = (xs.take newSize ++ xs.drop newSize).map some ++ raw := by
      rw [List.take_append_drop, hplaces]
    obtain ⟨h', heq, hout⟩ := destroyLoop_spec (h := h) hcut
    have htake : (xs.take newSize).length = newSize := by
      rw [List.length_take]
      omega
    have hdrop : (xs.drop newSize).length = l._size - newSize := by
      rw [List.length_drop, hsize']
    rw [htake, hdrop] at heq
    have hplaces' : l.places =
        (xs.take newSize).map some ++ ((xs.drop newSize).map some ++ raw) := by
      rw [hcut, List.map_append, List.append_assoc]
    have hcap : (xs.take newSize).length + ((xs.drop newSize).map some ++ raw).length =
        l._capacity := by
      rw [List.length_append, List.length_map, hdrop]
      omega
    have hnone : newSize - l._size = 0 := by omega
    refine ⟨h', _, xs.take newSize, ?_, hl.refill hcap, ?_⟩
    · simp only [resize, if_pos hsize, hnone, constructLoop, heq, htake, ← hplaces',
        Option.bind_eq_bind, Option.bind_some]
    · intro live hlive
      have hperm : (ids xs ++ live).Perm
          (ids (xs.drop newSize) ++ (ids (xs.take newSize) ++ live)) := by
        rw [← List.append_assoc, ← ids_append]
        conv_lhs => rw [← List.take_append_drop newSize xs]
        exact (List.perm_append_comm.map Element.id).append_right _
      exact hout _ (hlive.perm hperm)

theorem Holds.destruct_spec (hl : l.Holds xs) : ∃ h', l.destruct h = some h' ∧
    ∀ live, h.Outstanding (ids xs ++ live) → h'.Outstanding live := by
  obtain ⟨raw, hplaces, _⟩ := hl.split
  have hloop : l.places = (([] : List (Element T)) ++ xs).map some ++ raw := hplaces
  obtain ⟨h', heq, hout⟩ := destroyLoop_spec (h := h) hloop
  refine ⟨h', ?_, hout⟩
  rw [destruct, hl.size_eq]
  exact heq

/-- The loop of `Clear` is the one of the destructor. -/
theorem Holds.clear_spec (hl : l.Holds xs) : Keeps clear h l xs := by
  obtain ⟨h', heq, hout⟩ := hl.destruct_spec (h := h)
  refine ⟨h', { l with _size := 0 }, [], ?_, ⟨rfl, ⟨_, (List.nil_append _).symm⟩, hl.capacity_eq⟩,
    hout⟩
  rw [destruct] at heq
  rw [clear, heq]
  rfl

theorem Holds.increaseCapacityAndCopy_spec (hl : l.Holds xs) {newCapacity : Nat}
    (hcap : l._capacity ≤ newCapacity) : Keeps (increaseCapacityAndCopy newCapacity) h l xs := by
  obtain ⟨raw, hplaces, hlen⟩ := hl.split
  have hcopied : l.places.take l._capacity ++ List.replicate (newCapacity - l._capacity) none =
      xs.map some ++ (raw ++ List.replicate (newCapacity - l._capacity) none) := by
    rw [List.take_of_length_le hl.capacity_eq.le, hplaces, List.append_assoc]
  have hcap' : xs.length +
      (raw ++ List.replicate (newCapacity - l._capacity) (none : Option (Element T))).length =
        newCapacity := by
    rw [List.length_append, List.length_replicate]
    omega
  refine ⟨h, _, xs, ?_, holds_mk xs hcap', fun live hlive => hlive⟩
  rw [increaseCapacityAndCopy, if_pos hcap, hcopied, hl.size_eq]

theorem Holds.nil_of_null (hl : l.Holds xs) (hdata : l._data = none) : xs = [] := by
  obtain ⟨raw, hplaces, _⟩ := hl.split
  have hzero : l.places = [] := by
    rw [places, hdata]
    rfl
  rw [hzero] at hplaces
  cases xs with
  | nil => rfl
  | cons x xs => cases hplaces

/-- The destructor that `delete _data` runs is the one that is due, if the list has one element. -/
theorem Holds.deleteData_spec (hl : l.Holds xs) (hone : l._data = none ∨ l._size = 1) :
    ∃ h', deleteData h l._data = some h' ∧
      ∀ live, h.Outstanding (ids xs ++ live) → h'.Outstanding live := by
  obtain ⟨raw, hplaces, hlen⟩ := hl.split
  cases hdata : l._data with
  | none =>
    rw [hl.nil_of_null hdata]
    exact ⟨h, rfl, fun live hlive => hlive⟩
  | some block =>
    have hsize : xs.length = 1 := by
      rw [hdata] at hone
      rw [← hl.size_eq]
      exact hone.resolve_left (Option.some_ne_none _)
    obtain ⟨e, rfl⟩ := List.length_eq_one_iff.mp hsize
    have hblock : block = [some e] ++ raw := by
      rw [places, hdata] at hplaces
      exact hplaces
    refine ⟨h.release e.id, ?_, fun live hlive => hlive.release⟩
    rw [deleteData, destroyAt, hblock]
    rfl

/-- In any case it is one destructor, of some object. -/
theorem deleteData_some {h' : Handles} {block : List (Option (Element T))}
    (hdelete : deleteData h (some block) = some h') : ∃ id, h' = h.release id := by
  rw [deleteData, destroyAt, Option.map_eq_some_iff] at hdelete
  obtain ⟨e, _, he⟩ := hdelete
  exact ⟨e.id, he.symm⟩

end ListObject

namespace ListHeap

variable {T : Type} {m m' : ListHeap T} {this origin i j : Nat} {l t o : ListObject T}

theorem getElem?_of_list (hl : m.list i = some l) : m.lists[i]? = some (some l) :=
  Option.join_eq_some_iff.mp hl

theorem list_put_self (hl : m.list i = some l) (o : Option (ListObject T)) :
    (m.put i o).list i = o := by
  have hlt := (List.getElem?_eq_some_iff.mp (getElem?_of_list hl)).1
  rw [list, put, List.getElem?_set_self hlt]
  rfl

theorem list_put_ne (hne : i ≠ j) (o : Option (ListObject T)) : (m.put i o).list j = m.list j := by
  rw [list, put, List.getElem?_set_ne hne]
  rfl

theorem put_put (a b : Option (ListObject T)) : (m.put i a).put i b = m.put i b := by
  rw [put, put, put, List.set_set]

theorem modify_eq (hl : m.list i = some l) (f : ListObject T → ListObject T) :
    m.modify i f = m.put i (some (f l)) := by
  rw [modify, hl, Option.map_some]

section MoveAssign

/-- Two different lists. -/
theorem moveAssignBody_ne (ht : m.list this = some t) (ho : m.list origin = some o)
    (hne : this ≠ origin) : m.moveAssignBody this origin = (deleteData m.handles t._data).map
      fun h => { (m.put this (some o)).put origin (some .moved) with handles := h } := by
  have horigin : ∀ a, (m.put this a).list origin = some o := by
    intro a
    rw [list_put_ne hne, ho]
  unfold moveAssignBody
  simp only [ho, modify_eq ht, list_put_self ht, horigin, Option.bind_eq_bind, Option.bind_some]
  rw [modify_eq (list_put_self ht _), put_put, modify_eq (horigin _)]
  exact Option.map_eq_bind.symm

/-- One list: its block is gone, and so are the fields that said so. -/
theorem moveAssignBody_self (ht : m.list this = some t) : m.moveAssignBody this this =
    (deleteData m.handles t._data).map
      fun h => { m.put this (some .moved) with handles := h } := by
  unfold moveAssignBody
  simp only [ht, modify_eq ht, list_put_self ht, Option.bind_eq_bind, Option.bind_some]
  rw [modify_eq (list_put_self ht _), put_put, modify_eq (list_put_self ht _), put_put]
  exact Option.map_eq_bind.symm

theorem moveAssign_eq_none (m : ListHeap T) (this origin : Nat) :
    m.moveAssign this origin = none :=
  Option.bind_fun_none _

end MoveAssign

/-- The elements that one list holds. -/
def elements (m : ListHeap T) (i : Nat) : List (Element T) := (m.list i).elim [] ListObject.elements

def idsOf (o : Option (ListObject T)) : List Nat := o.elim [] fun l => ids l.elements

/-- Every element that was constructed was destroyed once or is held by one list, once. -/
def Accounted (m : ListHeap T) : Prop := m.handles.Outstanding (m.lists.flatMap idsOf)

/-- The invariant of a run. -/
structure Booked (m : ListHeap T) : Prop where
  sound : ∀ l, some l ∈ m.lists → ∃ xs, l.Holds xs
  accounted : m.Accounted

section Owners

variable {xs ys : List (Element T)}

theorem Booked.holds (hm : m.Booked) (hl : m.list i = some l) : ∃ xs, l.Holds xs :=
  hm.sound l (List.mem_of_getElem? (getElem?_of_list hl))

theorem idsOf_holds (hl : l.Holds xs) : idsOf (some l) = ids xs := by
  rw [← hl.elements_eq]
  rfl

theorem idsOf_moved : idsOf (some (ListObject.moved : ListObject T)) = [] :=
  idsOf_holds ListObject.holds_moved

theorem elements_eq (hl : m.list i = some l) : m.elements i = l.elements := by
  rw [elements, hl, Option.elim_some]

/-- What the other lists hold. -/
theorem others (hl : m.list i = some l) : ∃ rest,
    (m.lists.flatMap idsOf).Perm (idsOf (some l) ++ rest) ∧
      ∀ o, ((m.put i o).lists.flatMap idsOf).Perm (idsOf o ++ rest) :=
  Handles.flatMap_set idsOf (getElem?_of_list hl)

theorem sound_put (hm : ∀ l, some l ∈ m.lists → ∃ xs, l.Holds xs) {o : Option (ListObject T)}
    (ho : ∀ l, o = some l → ∃ xs, l.Holds xs) :
    ∀ l, some l ∈ (m.put i o).lists → ∃ xs, l.Holds xs := by
  intro l hmem
  obtain hmem | heq := List.mem_or_eq_of_mem_set hmem
  · exact hm l hmem
  · exact ho l heq.symm

theorem sound_append (hm : ∀ l, some l ∈ m.lists → ∃ xs, l.Holds xs) (hl : l.Holds xs) :
    ∀ l', some l' ∈ m.lists ++ [some l] → ∃ xs, l'.Holds xs := by
  intro l' hmem
  obtain hmem | heq := List.mem_append.mp hmem
  · exact hm l' hmem
  · rw [List.mem_singleton, Option.some.injEq] at heq
    exact ⟨xs, heq ▸ hl⟩

theorem flatMap_append_one (o : Option (ListObject T)) :
    ((m.lists ++ [o]).flatMap idsOf).Perm (idsOf o ++ m.lists.flatMap idsOf) := by
  rw [List.flatMap_append, List.flatMap_singleton]
  exact List.perm_append_comm

/-- One operation on one list. -/
theorem Booked.on_spec (hm : m.Booked) (hl : m.list this = some l) (hxs : l.Holds xs)
    {f : Handles → ListObject T → Option (Handles × ListObject T)}
    (hf : ListObject.Keeps f m.handles l xs) : ∃ m', m.on this f = some m' ∧ m'.Booked := by
  obtain ⟨h', l', xs', heq, hl', hout⟩ := hf
  obtain ⟨rest, hold, hnew⟩ := others hl
  refine ⟨{ m.put this (some l') with handles := h' }, ?_, ⟨?_, ?_⟩⟩
  · rw [on, hl, Option.bind_eq_bind, Option.bind_some, heq]
    rfl
  · refine sound_put hm.sound ?_
    rintro l'' hl''
    cases hl''
    exact ⟨xs', hl'⟩
  · have haccounted := Handles.Outstanding.perm hm.accounted hold
    rw [idsOf_holds hxs] at haccounted
    have hafter := (hout _ haccounted).perm
      (((hnew (some l')).trans (by rw [idsOf_holds hl'])).symm)
    exact hafter

/-- One more list, with elements of its own. -/
theorem Booked.append (hm : m.Booked) (hl : l.Holds xs) {h' : Handles}
    (hout : ∀ live, m.handles.Outstanding live → h'.Outstanding (ids xs ++ live)) :
    (⟨h', m.lists ++ [some l]⟩ : ListHeap T).Booked where
  sound := sound_append hm.sound hl
  accounted := by
    have hperm := flatMap_append_one (m := m) (some l)
    rw [idsOf_holds hl] at hperm
    exact (hout _ hm.accounted).perm hperm.symm

theorem Booked.destruct_spec (hm : m.Booked) (hl : m.list this = some l) :
    ∃ h', l.destruct m.handles = some h' ∧
      ({ m.put this none with handles := h' } : ListHeap T).Booked := by
  obtain ⟨xs, hxs⟩ := hm.holds hl
  obtain ⟨h', heq, hout⟩ := hxs.destruct_spec (h := m.handles)
  obtain ⟨rest, hold, hnew⟩ := others hl
  rw [idsOf_holds hxs] at hold
  refine ⟨h', heq, ⟨sound_put hm.sound (fun _ hl => by cases hl), ?_⟩⟩
  exact (hout _ (Handles.Outstanding.perm hm.accounted hold)).perm (hnew none).symm

/-- A list that is taken over by a new one. -/
theorem Booked.moveConstruct_spec (hm : m.Booked) (ho : m.list origin = some o) :
    ∃ m', m.moveConstruct origin = some m' ∧ m'.Booked ∧ m'.elements origin = [] ∧
      m'.elements m.lists.length = m.elements origin := by
  obtain ⟨xs, hxs⟩ := hm.holds ho
  obtain ⟨rest, hold, hnew⟩ := others ho
  have hlt := (List.getElem?_eq_some_iff.mp (getElem?_of_list ho)).1
  have hput := hnew (some .moved)
  rw [idsOf_holds hxs] at hold
  rw [idsOf_moved, List.nil_append] at hput
  refine ⟨⟨m.handles, (m.put origin (some .moved)).lists ++ [some o]⟩, ?_, ⟨?_, ?_⟩, ?_, ?_⟩
  · rw [moveConstruct, ho, Option.bind_eq_bind, Option.bind_some, modify_eq ho]
    rfl
  · refine sound_append (sound_put hm.sound ?_) hxs
    rintro l hl
    cases hl
    exact ⟨[], ListObject.holds_moved⟩
  · have hperm := flatMap_append_one (m := m.put origin (some .moved)) (some o)
    rw [idsOf_holds hxs] at hperm
    have hafter := hperm.trans (hput.append_left _)
    exact Handles.Outstanding.perm hm.accounted (hold.trans hafter.symm)
  · rw [elements, list, List.getElem?_append_left (by simpa [put] using hlt), put,
      List.getElem?_set_self hlt]
    exact ListObject.holds_moved.elements_eq
  · have hlen : (m.put origin (some .moved)).lists.length = m.lists.length := List.length_set
    rw [elements_eq ho, elements, list, List.getElem?_append_right hlen.le, hlen, Nat.sub_self]
    rfl

/-- The books around two lists when one has taken over the other. -/
theorem moved_owned (ht : m.list this = some t) (ho : m.list origin = some o)
    (hne : this ≠ origin) : ∃ rest, (m.lists.flatMap idsOf).Perm (idsOf (some t) ++ rest) ∧
      (((m.put this (some o)).put origin (some .moved)).lists.flatMap idsOf).Perm rest := by
  have ho' : (m.put this (some o)).list origin = some o := by
    rw [list_put_ne hne, ho]
  obtain ⟨rest, hold, hnew⟩ := others ht
  obtain ⟨rest', hold', hnew'⟩ := others ho'
  have hsame : rest'.Perm rest :=
    (List.perm_append_left_iff _).mp (hold'.symm.trans (hnew (some o)))
  have hput := hnew' (some .moved)
  rw [idsOf_moved, List.nil_append] at hput
  exact ⟨rest, hold, hput.trans hsame⟩

theorem holds_of_moved : ∀ l, some (.moved : ListObject T) = some l → ∃ xs, l.Holds xs := by
  rintro l hl
  cases hl
  exact ⟨[], ListObject.holds_moved⟩

/-- Onto itself only a null pointer is safe. -/
theorem Booked.moveAssignBody_self_spec (hm : m.Booked) (ht : m.list this = some t)
    (hnull : t._data = none) :
    ∃ m', m.moveAssignBody this this = some m' ∧ m'.Booked ∧ m'.elements this = [] ∧
      m'.elements this = m.elements this := by
  obtain ⟨xs, hxs⟩ := hm.holds ht
  obtain ⟨h', hdelete, hout⟩ := hxs.deleteData_spec (h := m.handles) (Or.inl hnull)
  have hnil := hxs.nil_of_null hnull
  subst hnil
  obtain ⟨rest, hold, hnew⟩ := others ht
  have hput := hnew (some .moved)
  rw [idsOf_holds hxs] at hold
  rw [idsOf_moved] at hput
  have hempty := (elements_eq (list_put_self ht (some .moved))).trans
    ListObject.holds_moved.elements_eq
  refine ⟨{ m.put this (some .moved) with handles := h' }, ?_, ⟨?_, ?_⟩, hempty, ?_⟩
  · rw [moveAssignBody_self ht, hdelete, Option.map_some]
  · exact sound_put hm.sound holds_of_moved
  · exact (hout _ (Handles.Outstanding.perm hm.accounted hold)).perm hput.symm
  · rw [elements_eq ht, hxs.elements_eq]
    exact hempty

theorem Booked.moveAssignBody_ne_spec (hm : m.Booked) (ht : m.list this = some t)
    (ho : m.list origin = some o) (hne : this ≠ origin)
    (hsafe : t._data = none ∨ t._size = 1) :
    ∃ m', m.moveAssignBody this origin = some m' ∧ m'.Booked ∧ m'.elements origin = [] ∧
      m'.elements this = m.elements origin := by
  obtain ⟨xs, hxs⟩ := hm.holds ht
  obtain ⟨ys, hys⟩ := hm.holds ho
  obtain ⟨h', hdelete, hout⟩ := hxs.deleteData_spec (h := m.handles) hsafe
  obtain ⟨rest, hold, hput⟩ := moved_owned ht ho hne
  rw [idsOf_holds hxs] at hold
  have ho' : (m.put this (some o)).list origin = some o := by
    rw [list_put_ne hne, ho]
  have horigin := list_put_self ho' (some .moved)
  have hthis : ((m.put this (some o)).put origin (some .moved)).list this = some o := by
    rw [list_put_ne (Ne.symm hne), list_put_self ht]
  refine ⟨{ (m.put this (some o)).put origin (some .moved) with handles := h' },
    ?_, ⟨?_, ?_⟩, ?_, ?_⟩
  · rw [moveAssignBody_ne ht ho hne, hdelete, Option.map_some]
  · refine sound_put (sound_put hm.sound ?_) holds_of_moved
    rintro l hl
    cases hl
    exact ⟨ys, hys⟩
  · exact (hout _ (Handles.Outstanding.perm hm.accounted hold)).perm hput.symm
  · exact (elements_eq horigin).trans ListObject.holds_moved.elements_eq
  · exact (elements_eq hthis).trans (elements_eq ho).symm

theorem Booked.moveAssignBody_spec (hm : m.Booked) (ht : m.list this = some t)
    (ho : m.list origin = some o)
    (hsafe : t._data = none ∨ (this ≠ origin ∧ t._size = 1)) :
    ∃ m', m.moveAssignBody this origin = some m' ∧ m'.Booked ∧ m'.elements origin = [] ∧
      m'.elements this = m.elements origin := by
  by_cases hne : this = origin
  · subst hne
    exact hm.moveAssignBody_self_spec ht (hsafe.resolve_right fun h => h.1 rfl)
  · exact hm.moveAssignBody_ne_spec ht ho hne (hsafe.imp_right And.right)

/-- Onto itself, a list with a block has one element less than destructors that were run. -/
theorem Booked.not_kept_self (hm : m.Booked) (ht : m.list this = some t)
    {block : List (Option (Element T))} (hdata : t._data = some block)
    (hstep : m.moveAssignBody this this = some m') (haccounted : m'.Accounted) :
    m'.elements this ≠ m.elements this := by
  intro hmoved
  obtain ⟨xs, hxs⟩ := hm.holds ht
  rw [moveAssignBody_self ht, hdata, Option.map_eq_some_iff] at hstep
  obtain ⟨h', hdelete, rfl⟩ := hstep
  obtain ⟨id, rfl⟩ := ListObject.deleteData_some hdelete
  have hself := list_put_self ht (some .moved)
  have hnil : xs = [] := by
    rw [← hxs.elements_eq, ← elements_eq ht, ← hmoved]
    exact (elements_eq hself).trans ListObject.holds_moved.elements_eq
  obtain ⟨rest, hold, hnew⟩ := others ht
  have hput := hnew (some .moved)
  rw [idsOf_holds hxs, hnil] at hold
  rw [idsOf_moved] at hput
  have hbefore := Handles.Outstanding.length hm.accounted
  have hafter := Handles.Outstanding.length haccounted
  have hlen := hold.length_eq
  have hlen' := hput.length_eq
  simp only [put, Handles.release, List.length_append, List.length_cons, List.length_nil,
    ids_nil] at hafter hbefore hlen hlen'
  omega

/-- Anything else that returns loses an element, or destroys one that is not there: the numbers of
elements before and after do not fit. -/
theorem Booked.moveAssignBody_safe (hm : m.Booked) (ht : m.list this = some t)
    (ho : m.list origin = some o) (hstep : m.moveAssignBody this origin = some m')
    (haccounted : m'.Accounted) (hmoved : m'.elements this = m.elements origin) :
    t._data = none ∨ (this ≠ origin ∧ t._size = 1) := by
  obtain ⟨xs, hxs⟩ := hm.holds ht
  cases hdata : t._data with
  | none => exact Or.inl rfl
  | some block =>
    right
    have hne : this ≠ origin := by
      rintro rfl
      exact hm.not_kept_self ht hdata hstep haccounted hmoved
    rw [moveAssignBody_ne ht ho hne, hdata, Option.map_eq_some_iff] at hstep
    obtain ⟨h', hdelete, rfl⟩ := hstep
    obtain ⟨id, rfl⟩ := ListObject.deleteData_some hdelete
    obtain ⟨rest, hold, hput⟩ := moved_owned ht ho hne
    rw [idsOf_holds hxs] at hold
    have hbefore := Handles.Outstanding.length hm.accounted
    have hafter := Handles.Outstanding.length haccounted
    have hlen := hold.length_eq
    have hlen' := hput.length_eq
    refine ⟨hne, ?_⟩
    rw [hxs.size_eq]
    simp only [put, ids, Handles.release, List.length_append, List.length_cons, List.length_nil,
      List.length_map] at hafter hbefore hlen hlen'
    omega

/-- What the statements of a move assignment do, before control runs off the end. -/
theorem Booked.moveAssignBody_kept_iff (hm : m.Booked) (ht : m.list this = some t)
    (ho : m.list origin = some o) :
    (∃ m', m.moveAssignBody this origin = some m' ∧ m'.Accounted ∧ m'.elements origin = [] ∧
      m'.elements this = m.elements origin) ↔ t._data = none ∨ (this ≠ origin ∧ t._size = 1) := by
  constructor
  · rintro ⟨m', hstep, haccounted, _, htarget⟩
    exact hm.moveAssignBody_safe ht ho hstep haccounted htarget
  · intro hsafe
    obtain ⟨m', heq, hm', hsource, htarget⟩ := hm.moveAssignBody_spec ht ho hsafe
    exact ⟨m', heq, hm'.accounted, hsource, htarget⟩

end Owners

section Runs

open PartialRun

/-- The lists are there, and the assertions of `PushBack` and `Resize` hold. -/
def Accepts (m : ListHeap T) : Op T → Prop
  | .construct _ => True
  | .copyConstruct origin | .moveConstruct origin => ∃ o, m.list origin = some o
  | .moveAssign this origin => (∃ t, m.list this = some t) ∧ ∃ o, m.list origin = some o
  | .pushBack this _ => ∃ l, m.list this = some l ∧ l._size < l._capacity
  | .resize this newSize => ∃ l, m.list this = some l ∧ newSize ≤ l._capacity
  | .clear this | .increaseCapacityAndCopy this _ | .destruct this => ∃ l, m.list this = some l

/-- The source of a move is left empty, and the target has what was in it. -/
def Moves (m : ListHeap T) (m' : ListHeap T) : Op T → Prop
  | .moveConstruct origin =>
    m'.elements origin = [] ∧ m'.elements m.lists.length = m.elements origin
  | .moveAssign this origin =>
    m'.elements origin = [] ∧ m'.elements this = m.elements origin
  | _ => True

/-- The operation returns, every element is accounted for, and a move moves. -/
def Kept (default : T) (m : ListHeap T) (op : Op T) : Prop :=
  ∃ m', m.step default op = some m' ∧ m'.Accounted ∧ m.Moves m' op

/-- There is no move assignment, and a block is only exchanged for one that is not smaller. -/
def Safe (m : ListHeap T) : Op T → Prop
  | .moveAssign _ _ => False
  | .increaseCapacityAndCopy this newCapacity =>
    ∀ l, m.list this = some l → l._capacity ≤ newCapacity
  | _ => True

variable {default : T} {op : Op T}

/-- One step, by the operation. -/
theorem Booked.step_spec (hm : m.Booked) (hacc : m.Accepts op) (hsafe : m.Safe op) :
    ∃ m', m.step default op = some m' ∧ m'.Booked ∧ m.Moves m' op := by
  cases op with
  | construct capacity =>
    have h := hm.append (ListObject.holds_new capacity) (fun _ hlive => hlive)
    exact ⟨_, rfl, h, trivial⟩
  | copyConstruct origin =>
    obtain ⟨o, ho⟩ := hacc
    obtain ⟨xs, hxs⟩ := hm.holds ho
    obtain ⟨h', l', xs', heq, hl', hout⟩ := hxs.copy_spec (h := m.handles)
    refine ⟨_, ?_, hm.append hl' hout, trivial⟩
    rw [step, ho, Option.bind_eq_bind, Option.bind_some, heq]
    rfl
  | moveConstruct origin =>
    obtain ⟨o, ho⟩ := hacc
    obtain ⟨m', heq, hm', hsource, htarget⟩ := hm.moveConstruct_spec ho
    exact ⟨m', heq, hm', hsource, htarget⟩
  | moveAssign this origin => exact hsafe.elim
  | pushBack this newData =>
    obtain ⟨l, hl, hroom⟩ := hacc
    obtain ⟨xs, hxs⟩ := hm.holds hl
    obtain ⟨m', heq, hm'⟩ := hm.on_spec hl hxs (hxs.pushBack_spec hroom newData)
    exact ⟨m', heq, hm', trivial⟩
  | resize this newSize =>
    obtain ⟨l, hl, hsize⟩ := hacc
    obtain ⟨xs, hxs⟩ := hm.holds hl
    obtain ⟨m', heq, hm'⟩ := hm.on_spec hl hxs (hxs.resize_spec hsize default)
    exact ⟨m', heq, hm', trivial⟩
  | clear this =>
    obtain ⟨l, hl⟩ := hacc
    obtain ⟨xs, hxs⟩ := hm.holds hl
    obtain ⟨m', heq, hm'⟩ := hm.on_spec hl hxs hxs.clear_spec
    exact ⟨m', heq, hm', trivial⟩
  | increaseCapacityAndCopy this newCapacity =>
    obtain ⟨l, hl⟩ := hacc
    obtain ⟨xs, hxs⟩ := hm.holds hl
    obtain ⟨m', heq, hm'⟩ := hm.on_spec hl hxs (hxs.increaseCapacityAndCopy_spec (hsafe l hl))
    exact ⟨m', heq, hm', trivial⟩
  | destruct this =>
    obtain ⟨l, hl⟩ := hacc
    obtain ⟨h', heq, hm'⟩ := hm.destruct_spec hl
    refine ⟨_, ?_, hm', trivial⟩
    rw [step, hl, Option.bind_eq_bind, Option.bind_some, heq]
    rfl

/-- Only the two operations without a check of their own can go wrong. -/
theorem Booked.kept_iff (hm : m.Booked) (hacc : m.Accepts op) :
    m.Kept default op ↔ m.Safe op := by
  constructor
  · rintro ⟨m', hstep, haccounted, hmoves⟩
    cases op with
    | moveAssign this origin =>
      rw [step, moveAssign_eq_none] at hstep
      cases hstep
    | increaseCapacityAndCopy this newCapacity =>
      intro l hl
      by_contra hsmall
      rw [step, on, hl, Option.bind_eq_bind, Option.bind_some,
        ListObject.increaseCapacityAndCopy, if_neg hsmall] at hstep
      cases hstep
    | _ => exact trivial
  · intro hsafe
    obtain ⟨m', hstep, hm', hmoves⟩ := hm.step_spec hacc hsafe
    exact ⟨m', hstep, hm'.accounted, hmoves⟩

theorem booked_empty : (empty : ListHeap T).Booked :=
  ⟨fun _ hl => (List.not_mem_nil hl).elim, Handles.outstanding_empty⟩

/-- With all lists destroyed nothing is out. -/
theorem Accounted.allReturnedOnce (hm : m.Accounted) (hall : ∀ o ∈ m.lists, o = none) :
    m.handles.AllReturnedOnce := by
  refine (Handles.Outstanding.allReturnedOnce_iff hm).mpr ?_
  rw [List.flatMap_eq_nil_iff]
  intro o ho
  rw [hall o ho]
  rfl

/-- Over a run every element is accounted for and every move moves exactly where each operation is
safe, and then all elements have been destroyed once when all lists have been. -/
theorem run_kept_iff (default : T) (ops : List (Op T))
    (hacc : Each (step default) Accepts empty ops) :
    (Each (step default) (Kept default) empty ops ↔ Each (step default) Safe empty ops) ∧
    (Each (step default) Safe empty ops → ∃ m', ops.foldlM (step default) empty = some m' ∧
      ((∀ o ∈ m'.lists, o = none) → m'.handles.AllReturnedOnce)) := by
  have hstep : ∀ (m : ListHeap T) op m', m.Booked → m.Accepts op → m.Safe op →
      m.step default op = some m' → m'.Booked := by
    intro m op m' hm hacc hsafe hstep
    obtain ⟨m'', heq, hm'', _⟩ := hm.step_spec hacc hsafe
    rw [hstep, Option.some.injEq] at heq
    exact heq ▸ hm''
  have hiff : Each (step default) (Kept default) empty ops ↔
      Each (step default) Safe empty ops :=
    Each.iff hstep (fun _ _ hm hacc => hm.kept_iff hacc) booked_empty hacc
  refine ⟨hiff, ?_⟩
  intro hsafe
  have hkept : ∀ (m : ListHeap T) op, m.Kept default op →
      ∃ m', m.step default op = some m' ∧ m'.Accounted := by
    rintro m op ⟨m', heq, haccounted, _⟩
    exact ⟨m', heq, haccounted⟩
  obtain ⟨m', hrun, hm'⟩ := Each.last hkept booked_empty.accounted (hiff.mpr hsafe)
  exact ⟨m', hrun, fun hall => hm'.allReturnedOnce hall⟩

/-- A list with one element is moved out of, grows, is copied, and all lists are destroyed. -/
theorem run_kept_iff_move :
    let ops : List (Op Nat) := [.construct 1, .pushBack 0 5, .moveConstruct 0,
      .increaseCapacityAndCopy 1 2, .pushBack 1 6, .copyConstruct 1, .resize 2 1, .destruct 1,
      .destruct 0, .destruct 2]
    (Each (step 0) (Kept 0) empty ops ↔ Each (step 0) Safe empty ops) ∧
    (Each (step 0) Safe empty ops → ∃ m', ops.foldlM (step 0) empty = some m' ∧
      ((∀ o ∈ m'.lists, o = none) → m'.handles.AllReturnedOnce)) := by
  refine run_kept_iff 0 _ ⟨trivial, fun m1 h1 => ?_⟩
  cases h1
  refine ⟨⟨_, rfl, by decide⟩, fun m2 h2 => ?_⟩
  cases h2
  refine ⟨⟨_, rfl⟩, fun m3 h3 => ?_⟩
  cases h3
  refine ⟨⟨_, rfl⟩, fun m4 h4 => ?_⟩
  cases h4
  refine ⟨⟨_, rfl, by decide⟩, fun m5 h5 => ?_⟩
  cases h5
  refine ⟨⟨_, rfl⟩, fun m6 h6 => ?_⟩
  cases h6
  refine ⟨⟨_, rfl, by decide⟩, fun m7 h7 => ?_⟩
  cases h7
  refine ⟨⟨_, rfl⟩, fun m8 h8 => ?_⟩
  cases h8
  refine ⟨⟨_, rfl⟩, fun m9 h9 => ?_⟩
  cases h9
  exact ⟨⟨_, rfl⟩, fun m10 _ => trivial⟩

/-- Onto a list with two elements: the call has no defined result, and its statements leave the
second element without a destructor to the end of both lists. -/
theorem moveAssign_loses_element : ∃ m m' m'' : ListHeap Nat,
    [Op.construct 2, .pushBack 0 5, .pushBack 0 6, .construct 0].foldlM (step 0) empty = some m ∧
      m.Accepts (.moveAssign 0 1) ∧ ¬ m.Kept 0 (.moveAssign 0 1) ∧
      m.moveAssignBody 0 1 = some m' ∧
      [Op.destruct 1, .destruct 0].foldlM (step 0) m' = some m'' ∧
      (∀ o ∈ m''.lists, o = none) ∧ ¬ m''.handles.AllReturnedOnce := by
  refine ⟨_, _, _, rfl, ⟨⟨_, rfl⟩, _, rfl⟩, ?_, rfl, rfl, by decide, ?_⟩
  · rintro ⟨m', hstep, _⟩
    cases hstep
  · intro hall
    have hcount := hall 1 (by decide)
    revert hcount
    decide

end Runs

end ListHeap

end SS
end FBXRenderer
