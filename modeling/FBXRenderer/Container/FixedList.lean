import Mathlib
import FBXRenderer.Lib.Lifetimes
import FBXRenderer.Lib.PartialRun

/-!
# FBXRenderer.Container.FixedList

`SS::FixedList<T, CAPACITY>` (`FixedList.h`): a list in a block of raw bytes of its own, with the
record of the objects that it constructs and destroys there (`Lifetimes`).

* `resize` constructs `_data + _size` in every turn of its loop, where `PooledList::Resize` has
  `_data + i`.
* `Tidy`: constructions and destructions alternate at each slot, and the live slots are those below
  `_size`. `follows_iff`: from there a step keeps it, with the content that the step is for, exactly
  if it grows the list by at most one.
* `run_lifetimes_iff`: so do runs, up to the destructor.
-/

namespace FBXRenderer
namespace SS

open Lifetimes

/-- `_pool` holds what was constructed last at each place. -/
structure FixedList (T : Type) (CAPACITY : Nat) where
  _pool : List (Option T)
  _size : Nat
  events : List Event
  pool_length : _pool.length = CAPACITY

namespace FixedList

open PartialRun

variable {T : Type} {CAPACITY : Nat}

def new (CAPACITY : Nat) : FixedList T CAPACITY where
  _pool := List.replicate CAPACITY none
  _size := 0
  events := []
  pool_length := List.length_replicate

/-- `new(_data + i) T(value)`. -/
def constructAt (l : FixedList T CAPACITY) (i : Nat) (value : T) : Option (FixedList T CAPACITY) :=
  if i < CAPACITY then
    some { l with
      _pool := l._pool.set i (some value)
      events := l.events ++ [construct i]
      pool_length := by rw [List.length_set, l.pool_length] }
  else none

/-- `_data[i].~T()`; the bytes stay. -/
def destroyAt (l : FixedList T CAPACITY) (i : Nat) : Option (FixedList T CAPACITY) :=
  if i < CAPACITY then some { l with events := l.events ++ [destroy i] } else none

/-- The destructor loop over the given places. -/
def destroyLoop (l : FixedList T CAPACITY) (places : List Nat) : Option (FixedList T CAPACITY) :=
  places.foldlM destroyAt l

def setSize (l : FixedList T CAPACITY) (size : Nat) : FixedList T CAPACITY :=
  { l with _size := size }

/-- What the argument of `PushBack` refers to. -/
inductive Arg (T : Type) where
  | outside (value : T)
  | element (idx : Nat)

/-- `operator[]`, where an object was constructed. -/
def get (l : FixedList T CAPACITY) (idx : Nat) : Option T := l._pool[idx]?.join

/-- The value that `T(newData)` copies. -/
def read (l : FixedList T CAPACITY) : Arg T → Option T
  | .outside value => some value
  | .element idx => l.get idx

/-- `PushBack(const T&)`. -/
def pushBack (l : FixedList T CAPACITY) (newData : Arg T) : Option (FixedList T CAPACITY) := do
  let value ← l.read newData
  let l' ← l.constructAt l._size value
  some (l'.setSize (l._size + 1))

/-- What `T(T&&)` leaves behind of an element of the list. -/
def moveFrom (movedFrom : T → T) (l : FixedList T CAPACITY) : Arg T → FixedList T CAPACITY
  | .outside _ => l
  | .element idx => { l with
      _pool := l._pool.modify idx (Option.map movedFrom)
      pool_length := by rw [List.length_modify, l.pool_length] }

/-- `PushBack(T&&)`. -/
def pushBackMove (movedFrom : T → T) (l : FixedList T CAPACITY) (newData : Arg T) :
    Option (FixedList T CAPACITY) := do
  let value ← l.read newData
  let l' ← (l.moveFrom movedFrom newData).constructAt l._size value
  some (l'.setSize (l._size + 1))

/-- `Resize`. The place that the first loop constructs at is not the one that it counts. -/
def resize (default : T) (l : FixedList T CAPACITY) (newSize : Nat) :
    Option (FixedList T CAPACITY) := do
  let l' ← (List.range' l._size (newSize - l._size)).foldlM
    (fun l _i => l.constructAt l._size default) l
  let l' ← l'.destroyLoop (List.range' newSize (l._size - newSize))
  some (l'.setSize newSize)

def clear (l : FixedList T CAPACITY) : Option (FixedList T CAPACITY) := do
  let l' ← l.destroyLoop (List.range l._size)
  some (l'.setSize 0)

/-- `~FixedList`. -/
def destruct (l : FixedList T CAPACITY) : Option (FixedList T CAPACITY) :=
  l.destroyLoop (List.range l._size)

inductive Op (T : Type) where
  | pushBack (newData : Arg T)
  | pushBackMove (newData : Arg T)
  | resize (newSize : Nat)
  | clear

section Run

variable (default : T) (movedFrom : T → T)

def step (l : FixedList T CAPACITY) : Op T → Option (FixedList T CAPACITY)
  | .pushBack newData => l.pushBack newData
  | .pushBackMove newData => l.pushBackMove movedFrom newData
  | .resize newSize => l.resize default newSize
  | .clear => l.clear

/-- The assertions of an operation; what a reference refers to must exist. -/
def Accepts (l : FixedList T CAPACITY) : Op T → Prop
  | .pushBack (.outside _) | .pushBackMove (.outside _) => l._size < CAPACITY
  | .pushBack (.element idx) | .pushBackMove (.element idx) => l._size < CAPACITY ∧ idx < l._size
  | .resize newSize => newSize ≤ CAPACITY
  | .clear => True

/-- The objects that the list counts as its own. -/
def elements (l : FixedList T CAPACITY) : List (Option T) := l._pool.take l._size

/-- The content after an operation, as a sequence. -/
def seqStep (xs : List (Option T)) : Op T → List (Option T)
  | .pushBack (.outside value) | .pushBackMove (.outside value) => xs ++ [some value]
  | .pushBack (.element idx) => xs ++ [xs[idx]?.join]
  | .pushBackMove (.element idx) => xs.modify idx (Option.map movedFrom) ++ [xs[idx]?.join]
  | .resize newSize =>
    xs.take newSize ++ List.replicate (newSize - xs.length) (some default)
  | .clear => []

/-- Constructions and destructions alternate at each slot, and the live slots are those below
`_size`. -/
structure Tidy (l : FixedList T CAPACITY) : Prop where
  sound : Sound l.events
  live_iff : ∀ slot, Live l.events slot ↔ slot < l._size
  size_le : l._size ≤ CAPACITY
  constructed : ∀ x ∈ l.elements, x.isSome

/-- The operation returns, the list it leaves is tidy, and it holds what the operation is for. -/
def Follows (l : FixedList T CAPACITY) (op : Op T) : Prop :=
  ∃ l', step default movedFrom l op = some l' ∧ l'.Tidy ∧
    l'.elements = seqStep default movedFrom l.elements op

/-- `Resize` adds at most one object. -/
def GrowsByOne (l : FixedList T CAPACITY) : Op T → Prop
  | .resize newSize => newSize ≤ l._size + 1
  | .pushBack _ | .pushBackMove _ | .clear => True

end Run

section Steps

variable {l l' : FixedList T CAPACITY} {default : T} {movedFrom : T → T} {n : Nat}

theorem tidy_new : (new CAPACITY : FixedList T CAPACITY).Tidy where
  sound := sound_nil
  live_iff slot := iff_of_false not_live_nil (Nat.not_lt_zero slot)
  size_le := Nat.zero_le _
  constructed := nofun

theorem elements_length (htidy : l.Tidy) : l.elements.length = l._size := by
  rw [elements, List.length_take, l.pool_length, Nat.min_eq_left htidy.size_le]

theorem elements_getElem? {idx : Nat} (h : idx < l._size) : l.elements[idx]? = l._pool[idx]? :=
  List.getElem?_take_of_lt h

theorem Tidy.get_isSome (htidy : l.Tidy) {idx : Nat} (h : idx < l._size) :
    ∃ value, l.get idx = some value ∧ l.elements[idx]?.join = some value := by
  have hlt : idx < l.elements.length := by rw [elements_length htidy]; exact h
  obtain ⟨value, hvalue⟩ := Option.isSome_iff_exists.mp
    (htidy.constructed _ (List.getElem_mem hlt))
  have hget : l.elements[idx]? = some (some value) := by
    rw [List.getElem?_eq_getElem hlt, hvalue]
  refine ⟨value, ?_, by rw [hget]; rfl⟩
  rw [get, ← elements_getElem? h, hget]
  rfl

/-- The next slot: it is not live, and behind the construction it is the last of the elements. -/
theorem Tidy.construct (htidy : l.Tidy) (hroom : l._size < CAPACITY) (value : T) :
    ∃ l', l.constructAt l._size value = some l' ∧ (l'.setSize (l._size + 1)).Tidy ∧
      (l'.setSize (l._size + 1)).elements = l.elements ++ [some value] := by
  have hlen : l._size < l._pool.length := by rw [l.pool_length]; exact hroom
  have helements : (l._pool.set l._size (some value)).take (l._size + 1)
      = l.elements ++ [some value] := by
    rw [List.take_add_one, List.take_set_of_le (Nat.le_refl _), List.getElem?_set_self hlen]
    rfl
  rw [constructAt, if_pos hroom]
  refine ⟨_, rfl, ⟨?_, fun slot => ?_, hroom, ?_⟩, helements⟩
  · refine sound_construct_iff.mpr ⟨htidy.sound, ?_⟩
    rw [htidy.live_iff]
    exact Nat.lt_irrefl _
  · show Live (l.events ++ [Lifetimes.construct l._size]) slot ↔ slot < l._size + 1
    rw [live_construct_iff, htidy.live_iff]
    omega
  · intro x hx
    have hmem : x ∈ l.elements ++ [some value] := helements ▸ hx
    rcases List.mem_append.mp hmem with hmem | hmem
    · exact htidy.constructed x hmem
    · rw [List.mem_singleton.mp hmem]
      rfl

theorem destroyLoop_eq {places : List Nat} (h : ∀ i ∈ places, i < CAPACITY) :
    l.destroyLoop places = some { l with events := l.events ++ places.map destroy } := by
  induction places generalizing l with
  | nil => simp [destroyLoop]
  | cons i places ih =>
    obtain ⟨hi, hplaces⟩ := List.forall_mem_cons.mp h
    have hrest := ih hplaces (l := { l with events := l.events ++ [destroy i] })
    rw [List.append_assoc] at hrest
    rw [destroyLoop, List.foldlM_cons, destroyAt, if_pos hi]
    exact hrest

/-- The elements from `n` on are destroyed, each once. -/
theorem Tidy.destroyFrom (htidy : l.Tidy) (hn : n ≤ l._size) :
    ∃ l', l.destroyLoop (List.range' n (l._size - n)) = some l' ∧ (l'.setSize n).Tidy ∧
      (l'.setSize n).elements = l.elements.take n := by
  have hmem : ∀ i, i ∈ List.range' n (l._size - n) ↔ n ≤ i ∧ i < l._size := by
    intro i
    rw [List.mem_range'_1]
    omega
  have hlive : ∀ i ∈ List.range' n (l._size - n), Live l.events i := fun i hi =>
    (htidy.live_iff i).mpr ((hmem i).mp hi).2
  obtain ⟨hsound, hafter⟩ := htidy.sound.destroyAll List.nodup_range' hlive
  have helements : l._pool.take n = l.elements.take n := by
    rw [elements, List.take_take, Nat.min_eq_left hn]
  have hinside : ∀ i ∈ List.range' n (l._size - n), i < CAPACITY := fun i hi =>
    Nat.lt_of_lt_of_le ((hmem i).mp hi).2 htidy.size_le
  refine ⟨_, destroyLoop_eq hinside, ⟨hsound, fun slot => ?_, ?_, ?_⟩, helements⟩
  · refine (hafter slot).trans ?_
    rw [hmem, htidy.live_iff]
    show _ ↔ slot < n
    omega
  · exact Nat.le_trans hn htidy.size_le
  · intro x hx
    have hx' : x ∈ l.elements.take n := helements ▸ hx
    exact htidy.constructed x (List.mem_of_mem_take hx')

theorem Tidy.moveFrom_element (movedFrom : T → T) (htidy : l.Tidy) (idx : Nat) :
    (l.moveFrom movedFrom (.element idx)).Tidy ∧
      (l.moveFrom movedFrom (.element idx)).elements
        = l.elements.modify idx (Option.map movedFrom) := by
  have helements : (l._pool.modify idx (Option.map movedFrom)).take l._size
      = l.elements.modify idx (Option.map movedFrom) :=
    List.take_modify _ _ _ _
  refine ⟨⟨htidy.sound, htidy.live_iff, htidy.size_le, fun x hx => ?_⟩, helements⟩
  have hx' : x ∈ l.elements.modify idx (Option.map movedFrom) := helements ▸ hx
  obtain ⟨i, hi⟩ := List.mem_iff_getElem?.mp hx'
  rw [List.getElem?_modify] at hi
  obtain ⟨y, hy, rfl⟩ := Option.map_eq_some_iff.mp hi
  have hsome := htidy.constructed y (List.mem_of_getElem? hy)
  split
  · rw [Option.isSome_map]
    exact hsome
  · exact hsome

/-- `PushBack` of either kind; `taken` is the list after its argument has been read. -/
theorem follows_pushed {op : Op T} {taken : FixedList T CAPACITY} (value : T)
    (htidy : taken.Tidy) (hsize : taken._size = l._size) (hroom : l._size < CAPACITY)
    (hstep : step default movedFrom l op
      = (taken.constructAt l._size value).bind fun l' => some (l'.setSize (l._size + 1)))
    (hseq : seqStep default movedFrom l.elements op = taken.elements ++ [some value]) :
    Follows default movedFrom l op := by
  obtain ⟨l', hconstruct, htidy', helements⟩ := htidy.construct (hsize ▸ hroom) value
  rw [hsize] at hconstruct htidy' helements
  refine ⟨_, ?_, htidy', helements.trans hseq.symm⟩
  rw [hstep, hconstruct]
  rfl

theorem follows_pushBack (htidy : l.Tidy) {newData : Arg T}
    (hacc : l.Accepts (.pushBack newData)) : Follows default movedFrom l (.pushBack newData) := by
  cases newData with
  | outside value => exact follows_pushed value htidy rfl hacc rfl rfl
  | element idx =>
    obtain ⟨hroom, hidx⟩ := hacc
    obtain ⟨value, hget, helement⟩ := htidy.get_isSome hidx
    refine follows_pushed value htidy rfl hroom ?_ ?_
    · rw [step, pushBack, read, hget]
      rfl
    · rw [seqStep, helement]

theorem follows_pushBackMove (htidy : l.Tidy) {newData : Arg T}
    (hacc : l.Accepts (.pushBackMove newData)) :
    Follows default movedFrom l (.pushBackMove newData) := by
  cases newData with
  | outside value => exact follows_pushed value htidy rfl hacc rfl rfl
  | element idx =>
    obtain ⟨hroom, hidx⟩ := hacc
    obtain ⟨value, hget, helement⟩ := htidy.get_isSome hidx
    obtain ⟨htidy', helements⟩ := htidy.moveFrom_element movedFrom idx
    refine follows_pushed value htidy' rfl hroom ?_ ?_
    · rw [step, pushBackMove, read, hget]
      rfl
    · rw [seqStep, helement, helements]

theorem follows_clear (htidy : l.Tidy) : Follows default movedFrom l .clear := by
  obtain ⟨l', hloop, htidy', helements⟩ := htidy.destroyFrom (Nat.zero_le _)
  refine ⟨l'.setSize 0, ?_, htidy', helements⟩
  rw [step, clear, List.range_eq_range', ← Nat.sub_zero l._size, hloop]
  rfl

theorem follows_resize_shrink (htidy : l.Tidy) (h : n ≤ l._size) :
    Follows default movedFrom l (.resize n) := by
  obtain ⟨l', hloop, htidy', helements⟩ := htidy.destroyFrom h
  refine ⟨l'.setSize n, ?_, htidy', ?_⟩
  · rw [step, resize, Nat.sub_eq_zero_of_le h, List.range'_zero, List.foldlM_nil]
    exact congrArg (Option.bind · _) hloop
  · rw [helements, seqStep, elements_length htidy, Nat.sub_eq_zero_of_le h, List.replicate_zero,
      List.append_nil]

theorem follows_resize_one (htidy : l.Tidy) (h : l._size + 1 ≤ CAPACITY) :
    Follows default movedFrom l (.resize (l._size + 1)) := by
  obtain ⟨l', hconstruct, htidy', helements⟩ := htidy.construct h default
  refine ⟨l'.setSize (l._size + 1), ?_, htidy', ?_⟩
  · rw [step, resize, Nat.add_sub_cancel_left, List.range'_one, List.foldlM_cons, hconstruct,
      Nat.sub_eq_zero_of_le (Nat.le_succ _)]
    rfl
  · rw [helements, seqStep, elements_length htidy, Nat.add_sub_cancel_left, List.replicate_one,
      List.take_of_length_le (elements_length htidy ▸ Nat.le_succ _)]

/-- What the construction loop of `Resize` does, by induction on its turns. -/
theorem constructLoop_events {turns : List Nat}
    (h : turns.foldlM (fun (l : FixedList T CAPACITY) _i => l.constructAt l._size default) l
      = some l') :
    l'.events = l.events ++ turns.map fun _ => Lifetimes.construct l._size := by
  induction turns generalizing l with
  | nil =>
    cases h
    rw [List.map_nil, List.append_nil]
  | cons turn turns ih =>
    rw [List.foldlM_cons] at h
    obtain ⟨l1, hfirst, hrest⟩ := Option.bind_eq_some_iff.mp h
    rw [constructAt] at hfirst
    split at hfirst
    · cases hfirst
      rw [ih hrest, List.map_cons, List.append_assoc, List.singleton_append]
    · cases hfirst

/-- Two turns of the loop construct at one slot. -/
theorem not_follows_resize (hn : l._size + 1 < n) :
    ¬ Follows default movedFrom l (.resize n) := by
  rintro ⟨l', hstep, htidy, _⟩
  obtain ⟨l1, hconstruct, hrest⟩ := Option.bind_eq_some_iff.mp hstep
  obtain ⟨l2, hdestroy, hsize⟩ := Option.bind_eq_some_iff.mp hrest
  cases hsize
  rw [Nat.sub_eq_zero_of_le (by omega), List.range'_zero] at hdestroy
  cases hdestroy
  obtain ⟨k, hk⟩ : ∃ k, n - l._size = k + 1 + 1 := ⟨n - l._size - 2, by omega⟩
  have hevents := constructLoop_events hconstruct
  rw [hk, List.range'_succ, List.range'_succ] at hevents
  have hsound : Sound l1.events := htidy.sound
  rw [hevents, List.map_cons, List.map_cons] at hsound
  exact not_sound_construct_twice hsound

/-- One case for each operation. -/
theorem follows_iff (htidy : l.Tidy) {op : Op T} (hacc : l.Accepts op) :
    Follows default movedFrom l op ↔ l.GrowsByOne op := by
  cases op with
  | pushBack newData => exact iff_of_true (follows_pushBack htidy hacc) trivial
  | pushBackMove newData => exact iff_of_true (follows_pushBackMove htidy hacc) trivial
  | clear => exact iff_of_true (follows_clear htidy) trivial
  | resize n =>
    constructor
    · intro h
      by_contra hgrows
      exact not_follows_resize (Nat.lt_of_not_le hgrows) h
    · intro hgrows
      rcases Nat.lt_or_ge l._size n with hn | hn
      · obtain rfl : n = l._size + 1 := Nat.le_antisymm hgrows hn
        exact follows_resize_one htidy hacc
      · exact follows_resize_shrink htidy hn

/-- Every object that was constructed has been destroyed, once. -/
def Gone (l : FixedList T CAPACITY) : Prop :=
  Sound l.events ∧ ∀ slot, ¬ Live l.events slot

theorem Tidy.destruct (htidy : l.Tidy) : ∃ l', l.destruct = some l' ∧ l'.Gone := by
  obtain ⟨l', hloop, htidy', _⟩ := htidy.destroyFrom (Nat.zero_le _)
  refine ⟨l', ?_, htidy'.sound, fun slot hlive => ?_⟩
  · rw [FixedList.destruct, List.range_eq_range']
    exact hloop
  · exact Nat.not_lt_zero slot ((htidy'.live_iff slot).mp hlive)

end Steps

section Runs

variable (default : T) (movedFrom : T → T) (CAPACITY : Nat) (ops : List (Op T))

/-- Every step of the run follows its operation, and with the destructor all objects are gone. -/
structure LifetimesMatch : Prop where
  steps : Each (step default movedFrom) (Follows default movedFrom) (new CAPACITY) ops
  ends : ∃ l l', ops.foldlM (step default movedFrom) (new CAPACITY) = some l ∧
    l.destruct = some l' ∧ l'.Gone

/-- Exactly the runs in which no `Resize` grows the list by more than one. -/
theorem run_lifetimes_iff (hacc : Each (step default movedFrom) Accepts (new CAPACITY) ops) :
    LifetimesMatch default movedFrom CAPACITY ops ↔
      Each (step default movedFrom) GrowsByOne (new CAPACITY) ops := by
  have hkeep : ∀ (l : FixedList T CAPACITY) (op : Op T) (l' : FixedList T CAPACITY), l.Tidy →
      l.Accepts op → l.GrowsByOne op → step default movedFrom l op = some l' → l'.Tidy := by
    intro l op l' htidy hacc hgrows hstep
    obtain ⟨l1, hstep1, htidy1, _⟩ := (follows_iff htidy hacc).mpr hgrows
    cases Option.some.inj (hstep.symm.trans hstep1)
    exact htidy1
  have hsteps : Each (step default movedFrom) (Follows default movedFrom) (new CAPACITY) ops ↔
      Each (step default movedFrom) GrowsByOne (new CAPACITY) ops :=
    Each.iff hkeep (fun _ _ htidy hacc => follows_iff htidy hacc) tidy_new hacc
  refine ⟨fun h => hsteps.mp h.steps, fun h => ⟨hsteps.mpr h, ?_⟩⟩
  obtain ⟨l, hrun, htidy⟩ := Each.last
    (fun _ _ ⟨l', hstep, htidy, _⟩ => ⟨l', hstep, htidy⟩) tidy_new (hsteps.mpr h)
  obtain ⟨l', hdestruct, hgone⟩ := htidy.destruct
  exact ⟨l, l', hrun, hdestruct, hgone⟩

/-- Four places: an element is moved behind itself, the list shrinks, grows again and is cleared. -/
theorem run_lifetimes_iff_four :
    LifetimesMatch 0 (fun _ => 7) 4
        [.pushBack (.outside 1), .pushBackMove (.element 0), .resize 1, .resize 2, .clear] ↔
      Each (step 0 fun _ => 7) GrowsByOne (new 4)
        [.pushBack (.outside 1), .pushBackMove (.element 0), .resize 1, .resize 2, .clear] := by
  refine run_lifetimes_iff 0 (fun _ => 7) 4 _ ⟨show 0 < 4 by decide, fun l1 h1 => ?_⟩
  cases h1
  refine ⟨⟨show 1 < 4 by decide, show 0 < 1 by decide⟩, fun l2 h2 => ?_⟩
  cases h2
  refine ⟨show 1 ≤ 4 by decide, fun l3 h3 => ?_⟩
  cases h3
  refine ⟨show 2 ≤ 4 by decide, fun l4 h4 => ⟨trivial, fun l5 h5 => trivial⟩⟩

/-- `Resize(2)` on an empty list constructs the first slot twice. -/
theorem resize_constructs_twice :
    Each (step 0 fun _ => 0) Accepts (new 2) [.resize 2] ∧
      ¬ LifetimesMatch 0 (fun _ => 0) 2 [.resize 2] := by
  refine ⟨⟨show 2 ≤ 2 by decide, fun _ _ => trivial⟩, ?_⟩
  rintro ⟨⟨⟨l', hstep, htidy, _⟩, _⟩, _⟩
  cases hstep
  have hsound : Sound ([] ++ Lifetimes.construct 0 :: Lifetimes.construct 0 :: []) := htidy.sound
  exact not_sound_construct_twice hsound

end Runs

end FixedList
end SS
end FBXRenderer
