import FBXRenderer.Container.PooledList
import FBXRenderer.Lib.PartialRun

/-!
# FBXRenderer.Container.PooledListRuns

Runs of the operations of `SS::PooledList` against a sequence.

* `Ref`: the argument of `PushBackCapacity` is a reference. It is read after the growth, which frees
  the block that the elements of the list itself live in.
* `appends_iff`: one `PushBackCapacity` appends what it was given exactly where there is room, or
  the doubled capacity is larger than the old one and what was given does not live in the list.
* `run_follows_iff`: a run follows the sequence exactly where each of its `PushBackCapacity` does.
-/

namespace FBXRenderer
namespace SS
namespace PooledList

open PartialRun

variable {T : Type}

/-- `Clear`. -/
def clear (l : PooledList T) : PooledList T := ⟨[], l.capacity, Nat.zero_le _⟩

/-- What a `const T&` refers to. -/
inductive Ref (T : Type) where
  | outside (x : T)
  | element (idx : Nat)

/-- `PushBackCapacity`, its argument a reference that must outlive the growth. -/
def pushBackCapacityRef (l : PooledList T) : Ref T → Option (PooledList T)
  | .outside newData => l.pushBackCapacity newData
  | .element idx => if l.capacity ≤ l.data.length then none else (l.get idx).bind l.pushBack

inductive Op (T : Type) where
  | pushBackCapacity (newData : Ref T)
  | resize (newSize : Nat)
  | clear
  | increaseCapacityAndCopy (newCapacity : Nat)

section Run

variable (default : T)

def step (l : PooledList T) : Op T → Option (PooledList T)
  | .pushBackCapacity newData => l.pushBackCapacityRef newData
  | .resize newSize => l.resize default newSize
  | .clear => some l.clear
  | .increaseCapacityAndCopy newCapacity => l.increaseCapacityAndCopy newCapacity

/-- The sequence under the same operations. -/
def seqStep (xs : List T) : Op T → List T
  | .pushBackCapacity (.outside x) => xs ++ [x]
  | .pushBackCapacity (.element idx) => xs ++ xs[idx]?.toList
  | .resize newSize => xs.take newSize ++ List.replicate (newSize - xs.length) default
  | .clear => []
  | .increaseCapacityAndCopy _ => xs

/-- What the caller sees to: a size and a capacity in range, a reference to an element. -/
def Accepts (l : PooledList T) : Op T → Prop
  | .pushBackCapacity (.outside _) => True
  | .pushBackCapacity (.element idx) => idx < l.getSize
  | .resize newSize => newSize ≤ l.capacity
  | .clear => True
  | .increaseCapacityAndCopy newCapacity => l.capacity ≤ newCapacity ∧ newCapacity < 2 ^ 32

/-- The operation returns, so it has written within the capacity, and does to the content what it
does to a sequence. -/
def Follows (l : PooledList T) (op : Op T) : Prop :=
  ∃ l', l.step default op = some l' ∧ l'.data = seqStep default l.data op ∧
    l'.getSize ≤ l'.capacity

/-- Room is there or can be made, and nothing refers into a block that is given up. -/
def MakesRoom (l : PooledList T) : Op T → Prop
  | .pushBackCapacity (.outside _) => l.Takes
  | .pushBackCapacity (.element _) => l.getSize < l.capacity
  | _ => True

variable {default : T} {l l' : PooledList T} {op : Op T}

theorem pushBackCapacityRef_element {idx : Nat} (hidx : idx < l.data.length) :
    l.pushBackCapacityRef (.element idx) =
      if l.capacity ≤ l.data.length then none else l.pushBack l.data[idx] := by
  rw [pushBackCapacityRef, get_of_lt hidx, Option.bind_some]

/-- One `PushBackCapacity`, in both directions. -/
theorem appends_iff (hcap : l.capacity < 2 ^ 32) {newData : Ref T}
    (hacc : l.Accepts (.pushBackCapacity newData)) :
    l.Follows default (.pushBackCapacity newData) ↔ l.MakesRoom (.pushBackCapacity newData) := by
  cases newData with
  | outside x =>
    constructor
    · rintro ⟨l', hstep, _⟩
      exact (pushBackCapacity_some hcap hstep).1
    · intro htakes
      obtain ⟨l', hstep⟩ := pushBackCapacity_of_takes htakes x
      exact ⟨l', hstep, (pushBackCapacity_some hcap hstep).2.1, l'.size_le⟩
  | element idx =>
    have hidx : idx < l.data.length := hacc
    have hstep := pushBackCapacityRef_element hidx
    constructor
    · rintro ⟨l', hl', _⟩
      by_contra hfull
      have hfull' : l.capacity ≤ l.data.length := Nat.le_of_not_lt hfull
      rw [step, hstep, if_pos hfull'] at hl'
      cases hl'
    · intro hroom
      have hlt : l.data.length < l.capacity := hroom
      obtain ⟨l', hl', hdata, _⟩ := pushBack_eq hlt l.data[idx]
      refine ⟨l', ?_, ?_, l'.size_le⟩
      · rw [step, hstep, if_neg (Nat.not_le_of_lt hlt), hl']
      · rw [hdata, seqStep, List.getElem?_eq_getElem hidx, Option.toList_some]

theorem follows_iff (hcap : l.capacity < 2 ^ 32) (hacc : l.Accepts op) :
    l.Follows default op ↔ l.MakesRoom op := by
  cases op with
  | pushBackCapacity newData => exact appends_iff hcap hacc
  | resize newSize => exact iff_of_true ⟨_, dif_pos hacc, rfl, size_le _⟩ trivial
  | clear => exact iff_of_true ⟨_, rfl, rfl, size_le _⟩ trivial
  | increaseCapacityAndCopy newCapacity =>
    exact iff_of_true ⟨_, dif_pos hacc.1, rfl, size_le _⟩ trivial

/-- The capacity stays a `uint32`. -/
theorem step_capacity (hcap : l.capacity < 2 ^ 32) (hacc : l.Accepts op)
    (hstep : l.step default op = some l') : l'.capacity < 2 ^ 32 := by
  cases op with
  | pushBackCapacity newData =>
    cases newData with
    | outside x => exact (pushBackCapacity_some hcap hstep).2.2
    | element idx =>
      have hidx : idx < l.data.length := hacc
      rw [step, pushBackCapacityRef_element hidx] at hstep
      split at hstep
      · cases hstep
      · rw [(pushBack_some hstep).2.2]
        exact hcap
  | resize newSize =>
    have hsize : newSize ≤ l.capacity := hacc
    rw [step, resize, dif_pos hsize] at hstep
    cases hstep
    exact hcap
  | clear =>
    cases hstep
    exact hcap
  | increaseCapacityAndCopy newCapacity =>
    rw [step, increaseCapacityAndCopy, dif_pos hacc.1] at hstep
    cases hstep
    exact hacc.2

end Run

/-- A run follows the sequence in every step exactly where every `PushBackCapacity` makes room, and
then its last content is the sequence. -/
theorem run_follows_iff (default : T) (capacity : Nat) (hcap : capacity < 2 ^ 32)
    (ops : List (Op T)) (hacc : Each (step default) Accepts (new capacity) ops) :
    (Each (step default) (Follows default) (new capacity) ops ↔
      Each (step default) MakesRoom (new capacity) ops) ∧
    (Each (step default) MakesRoom (new capacity) ops →
      ∃ l', ops.foldlM (step default) (new capacity) = some l' ∧
        l'.data = ops.foldl (seqStep default) []) := by
  have hcap' : (new capacity : PooledList T).capacity < 2 ^ 32 := hcap
  have hiff : Each (step default) (Follows default) (new capacity) ops ↔
      Each (step default) MakesRoom (new capacity) ops :=
    Each.iff (fun _ _ _ hcap hacc _ hstep => step_capacity hcap hacc hstep)
      (fun _ _ hcap hacc => follows_iff hcap hacc) hcap' hacc
  refine ⟨hiff, ?_⟩
  intro hroom
  refine Each.simulates ?_ (hiff.mpr hroom)
  rintro l op ⟨l', hstep, hdata, _⟩
  exact ⟨l', hstep, hdata⟩

/-- A list of one element that grows, gives up an element and appends one of its own. -/
theorem run_follows_iff_one :
    (Each (step 0) (Follows 0) (new 1) [.pushBackCapacity (.outside 5),
        .pushBackCapacity (.outside 6), .resize 1, .pushBackCapacity (.element 0)] ↔
      Each (step 0) MakesRoom (new 1) [.pushBackCapacity (.outside 5),
        .pushBackCapacity (.outside 6), .resize 1, .pushBackCapacity (.element 0)]) ∧
    (Each (step 0) MakesRoom (new 1) [.pushBackCapacity (.outside 5),
        .pushBackCapacity (.outside 6), .resize 1, .pushBackCapacity (.element 0)] →
      ∃ l', [Op.pushBackCapacity (.outside 5), .pushBackCapacity (.outside 6), .resize 1,
          .pushBackCapacity (.element 0)].foldlM (step 0) (new 1) = some l' ∧
        l'.data = [Op.pushBackCapacity (.outside 5), .pushBackCapacity (.outside 6), .resize 1,
          .pushBackCapacity (.element 0)].foldl (seqStep 0) []) := by
  refine run_follows_iff 0 1 (by decide) _ ⟨trivial, fun l1 h1 => ⟨trivial, fun l2 h2 => ?_⟩⟩
  cases h1
  cases h2
  refine ⟨show 1 ≤ 2 by decide, fun l3 h3 => ?_⟩
  cases h3
  exact ⟨show 0 < 1 by decide, fun l4 h4 => trivial⟩

/-- The default capacity of 0 doubled is 0. -/
theorem pushBackCapacity_empty_fails :
    (new 0 : PooledList Nat).Accepts (.pushBackCapacity (.outside 5)) ∧
      ¬ (new 0).Follows 0 (.pushBackCapacity (.outside 5)) := by
  refine ⟨trivial, ?_⟩
  rintro ⟨l', hstep, _⟩
  cases hstep

end PooledList
end SS
end FBXRenderer
