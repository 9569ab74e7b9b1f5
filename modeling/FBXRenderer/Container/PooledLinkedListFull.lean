import FBXRenderer.Container.PooledLinkedList
import FBXRenderer.Lib.PartialRun

/-!
# FBXRenderer.Container.PooledLinkedListFull

Insertions into a full `PooledLinkedList<T>`. `PushBack` and `PushFront` look at the size first;
`InsertBack` and `InsertFront` take a node from the stack in any case, and on a full list that is a
read behind the last entry of the stack. Both overloads of an operation construct the node from the
same lvalue and are one operation here.

* `Accepts`: the iterators an operation can be called with, the sentinels included.
* `Holds.guarded_iff`: one operation leaves a full list as it is and stays within the stack exactly
  where `InsertBack` and `InsertFront` find room.
* `run_guarded_iff`: the same over every run.
-/

namespace FBXRenderer
namespace SS
namespace PooledLinkedList

open PartialRun

variable {T : Type}

/-- An element of the list, or for `InsertBack` the node in front of all of them (which `Erase`
returns for the first element) and for `InsertFront` the node of `end()`. -/
def Accepts (l : PooledLinkedList T) : Op T → Prop
  | .erase iter => l.LiveAt iter
  | .insertBack iter _ => l.LiveAt iter ∨ iter = some .head
  | .insertFront iter _ => l.LiveAt iter ∨ iter = some endIter
  | _ => True

def Op.Inserts : Op T → Prop
  | .pushBack _ | .pushFront _ | .insertBack _ _ | .insertFront _ _ => True
  | _ => False

/-- The operation returns, so it has read no entry behind the stack, the size stays within the
capacity, and an insertion into a full list does nothing. -/
def Guarded (l : PooledLinkedList T) (op : Op T) : Prop :=
  ∃ l', l.step op = some l' ∧ l'._usableAddressStack.length = l'._capacity ∧
    l'._size ≤ l'._capacity ∧ (l._size = l._capacity → op.Inserts → l' = l)

/-- An insertion at an iterator is made on a list that is not full. -/
def FindsRoom (l : PooledLinkedList T) : Op T → Prop
  | .insertBack _ _ | .insertFront _ _ => l._size < l._capacity
  | _ => True

/-- The invariant of a run. -/
def Stands (capacity : Nat) (l : PooledLinkedList T) : Prop := ∃ xs, Holds capacity l xs

section Full

variable {capacity : Nat} {l : PooledLinkedList T} {xs : List (NodeAddr × T)} {op : Op T}

/-- Every node of the pool is in use, the index has left the stack. -/
theorem Holds.getNewUsableAddress_full (h : Holds capacity l xs) (hfull : ¬ l._size < l._capacity) :
    l.getNewUsableAddress = none := by
  have hsize := h.size_eq
  have hcap := h.capacity_eq
  have htop := h.top_eq
  have hlen := h.stack_length
  have hout : l._usableAddressStack.length ≤ l._usableAddressTopIdx := by omega
  rw [getNewUsableAddress, List.getElem?_eq_none hout, Option.map_none]

theorem Holds.step_full (h : Holds capacity l xs) (hroom : ¬ l.FindsRoom op) :
    l.step op = none := by
  cases op with
  | insertBack iter item =>
    have hnone := h.getNewUsableAddress_full hroom
    simp [step, insertBack, hnone]
  | insertFront iter item =>
    have hnone := h.getNewUsableAddress_full hroom
    simp [step, insertFront, hnone]
  | _ => exact absurd trivial hroom

/-- With room every accepted iterator will do. -/
theorem Holds.step_room (h : Holds capacity l xs) (hacc : l.Accepts op) (hroom : l.FindsRoom op) :
    ∃ l' xs', l.step op = some l' ∧ Holds capacity l' xs' := by
  have hsize := h.size_eq
  have hcap := h.capacity_eq
  by_cases hok : l.OpOk op
  · obtain ⟨l', xs', heq, _, h'⟩ := h.step_spec hok
    exact ⟨l', xs', heq, h'⟩
  · cases op with
    | insertBack iter item =>
      obtain hlive | rfl := hacc
      · exact absurd ⟨hlive, hroom⟩ hok
      · have hnil : Holds capacity l ([] ++ xs) := h
        have hlt : ([] ++ xs).length < capacity := by
          change l._size < l._capacity at hroom
          simp only [List.nil_append]
          omega
        obtain ⟨n, l', heq, _, h'⟩ := hnil.insertBack_spec hlt item
        exact ⟨l', _, heq, h'⟩
    | insertFront iter item =>
      obtain hlive | rfl := hacc
      · exact absurd ⟨hlive, hroom⟩ hok
      · have hnil : Holds capacity l (xs ++ []) := by rwa [List.append_nil]
        have hlt : (xs ++ []).length < capacity := by
          change l._size < l._capacity at hroom
          simp only [List.append_nil]
          omega
        obtain ⟨n, l', heq, _, h'⟩ := hnil.insertFront_spec hlt item
        exact ⟨l', _, heq, h'⟩
    | erase iter => exact absurd hacc hok
    | _ => exact absurd trivial hok

theorem Holds.step_holds (h : Holds capacity l xs) (hacc : l.Accepts op)
    {l' : PooledLinkedList T} (hstep : l.step op = some l') : ∃ xs', Holds capacity l' xs' := by
  by_cases hroom : l.FindsRoom op
  · obtain ⟨l'', xs', heq, h'⟩ := h.step_room hacc hroom
    rw [hstep, Option.some.injEq] at heq
    subst heq
    exact ⟨xs', h'⟩
  · rw [h.step_full hroom] at hstep
    cases hstep

/-- `PushBack` and `PushFront` have the check that the other two insertions lack. -/
theorem step_inserts_full (hfull : l._size = l._capacity) (hins : op.Inserts)
    (hroom : l.FindsRoom op) : l.step op = some l := by
  cases op with
  | pushBack item => exact if_pos hfull.ge
  | pushFront item => exact if_pos hfull.ge
  | insertBack iter item => exact absurd hfull (Nat.ne_of_lt hroom)
  | insertFront iter item => exact absurd hfull (Nat.ne_of_lt hroom)
  | _ => exact hins.elim

theorem Holds.guarded_iff (h : Holds capacity l xs) (hacc : l.Accepts op) :
    l.Guarded op ↔ l.FindsRoom op := by
  constructor
  · rintro ⟨l', hstep, _⟩
    by_contra hroom
    rw [h.step_full hroom] at hstep
    cases hstep
  · intro hroom
    obtain ⟨l', xs', heq, h'⟩ := h.step_room hacc hroom
    refine ⟨l', heq, h'.stack_length.trans h'.capacity_eq.symm, h'.readsAs.size_le, ?_⟩
    intro hfull hins
    rw [step_inserts_full hfull hins hroom, Option.some.injEq] at heq
    exact heq.symm

end Full

/-- A run keeps the size within the capacity, reads within the stack and leaves full lists alone
exactly where it makes no `InsertBack` or `InsertFront` on a full list. -/
theorem run_guarded_iff (capacity : Nat) (raw : NodeAddr → PooledLinkedListNode T)
    (ops : List (Op T)) (hacc : Each step Accepts (new capacity raw) ops) :
    Each step Guarded (new capacity raw) ops ↔ Each step FindsRoom (new capacity raw) ops := by
  have hinv : Stands capacity (new capacity raw) := ⟨[], holds_new capacity raw⟩
  refine Each.iff ?_ ?_ hinv hacc
  · rintro l op l' ⟨xs, h⟩ hacc _ hstep
    exact h.step_holds hacc hstep
  · rintro l op ⟨xs, h⟩ hacc
    exact h.guarded_iff hacc

theorem run_guarded_iff_two :
    Each step Guarded (new 2 fun _ => ⟨none, none, 0⟩)
        [.insertFront (some .tail) 5, .insertBack (some .head) 6, .pushBack 7] ↔
      Each step FindsRoom (new 2 fun _ => ⟨none, none, 0⟩)
        [.insertFront (some .tail) 5, .insertBack (some .head) 6, .pushBack 7] := by
  refine run_guarded_iff 2 _ _ ⟨Or.inr rfl, fun l1 _ => ⟨Or.inr rfl, fun l2 _ => ?_⟩⟩
  exact ⟨trivial, fun l3 _ => trivial⟩

/-- One node, in use, and another element in front of `end()`. -/
theorem insertFront_full_reads_past : ∃ l : PooledLinkedList Nat,
    (new 1 fun _ => ⟨none, none, 0⟩).run [.pushBack 5] = some l ∧ l._size = l._capacity ∧
      l.Accepts (.insertFront (some endIter) 6) ∧ ¬ l.Guarded (.insertFront (some endIter) 6) := by
  refine ⟨_, rfl, rfl, Or.inr rfl, ?_⟩
  rintro ⟨l', hstep, _⟩
  cases hstep

end PooledLinkedList
end SS
end FBXRenderer
