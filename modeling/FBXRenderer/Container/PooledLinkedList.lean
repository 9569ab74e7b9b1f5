import Mathlib
import FBXRenderer.Lib.LinkedChain

/-!
# FBXRenderer.Container.PooledLinkedList

`SS::PooledLinkedList<T>` (`PooledLinkedList.h`): a doubly linked list between two sentinels whose
nodes come from a pool, with a stack of the pool nodes that are not in use.

* Pointers are explicit: `none` is the null pointer, and an operation is `none` where it
  dereferences it or leaves the array of the stack.
* `Holds`: the invariant. The chain of links from `_head` to `_tail` runs through the nodes in use,
  and these and the free part of the stack are the pool.
* `SeqStep` is the bounded sequence that the list stands for. `Follows` ties each of its states to
  the state the list is in at that point of the run, so the node of an iterator is the same node in
  both; `list_run` says that every run with iterators to live elements follows it.
-/

namespace FBXRenderer
namespace SS

/-- Where a node is: one of the two sentinels or a node of `_pool`. -/
inductive NodeAddr where
  | head
  | tail
  | pool (i : Nat)
deriving DecidableEq

structure PooledLinkedListNode (T : Type) where
  _prev : Option NodeAddr
  _next : Option NodeAddr
  _data : T

structure PooledLinkedList (T : Type) where
  _size : Nat
  _capacity : Nat
  _usableAddressTopIdx : Nat
  _usableAddressStack : List NodeAddr
  nodes : NodeAddr → PooledLinkedListNode T

namespace PooledLinkedList

variable {T : Type}

/-- The constructor; `raw` is what the nodes hold before they are first used. -/
def new (capacity : Nat) (raw : NodeAddr → PooledLinkedListNode T) : PooledLinkedList T where
  _size := 0
  _capacity := capacity
  _usableAddressTopIdx := 0
  _usableAddressStack := (List.range capacity).map .pool
  nodes a :=
    if a = .head then ⟨none, some .tail, (raw a)._data⟩
    else if a = .tail then ⟨some .head, none, (raw a)._data⟩
    else raw a

/-- `ptr->_prev`, the outer `none` for a null `ptr`. -/
def prevOf (l : PooledLinkedList T) (ptr : Option NodeAddr) : Option (Option NodeAddr) :=
  ptr.map fun a => (l.nodes a)._prev

/-- `ptr->_next`. -/
def nextOf (l : PooledLinkedList T) (ptr : Option NodeAddr) : Option (Option NodeAddr) :=
  ptr.map fun a => (l.nodes a)._next

def write (l : PooledLinkedList T) (a : NodeAddr) (node : PooledLinkedListNode T) :
    PooledLinkedList T :=
  { l with nodes := Function.update l.nodes a node }

/-- `ptr->_prev = value`. -/
def setPrev (l : PooledLinkedList T) (ptr value : Option NodeAddr) : Option (PooledLinkedList T) :=
  ptr.map fun a => l.write a { l.nodes a with _prev := value }

/-- `ptr->_next = value`. -/
def setNext (l : PooledLinkedList T) (ptr value : Option NodeAddr) : Option (PooledLinkedList T) :=
  ptr.map fun a => l.write a { l.nodes a with _next := value }

def getNewUsableAddress (l : PooledLinkedList T) : Option (NodeAddr × PooledLinkedList T) :=
  l._usableAddressStack[l._usableAddressTopIdx]?.map fun newAddr =>
    (newAddr, { l with _usableAddressTopIdx := l._usableAddressTopIdx + 1 })

def releaseUsableAddress (l : PooledLinkedList T) (addrToRelease : NodeAddr) :
    Option (PooledLinkedList T) :=
  if l._usableAddressTopIdx = 0 ∨ l._usableAddressStack.length < l._usableAddressTopIdx then none
  else some { l with
    _usableAddressTopIdx := l._usableAddressTopIdx - 1
    _usableAddressStack := l._usableAddressStack.set (l._usableAddressTopIdx - 1) addrToRelease }

/-- `InsertBack`: behind the node of the iterator. -/
def insertBack (l : PooledLinkedList T) (iter : Option NodeAddr) (item : T) :
    Option (PooledLinkedList T) := do
  let (newAddr, l) ← l.getNewUsableAddress
  let l := l.write newAddr ⟨none, none, item⟩
  let l ← l.setPrev (some newAddr) iter
  let l ← l.setNext (some newAddr) (← l.nextOf iter)
  let l ← l.setPrev (← l.nextOf iter) (some newAddr)
  let l ← l.setNext iter (some newAddr)
  some { l with _size := l._size + 1 }

/-- `InsertFront`: before the node of the iterator. -/
def insertFront (l : PooledLinkedList T) (iter : Option NodeAddr) (item : T) :
    Option (PooledLinkedList T) := do
  let (newAddr, l) ← l.getNewUsableAddress
  let l := l.write newAddr ⟨none, none, item⟩
  let l ← l.setNext (some newAddr) iter
  let l ← l.setPrev (some newAddr) (← l.prevOf iter)
  let l ← l.setNext (← l.prevOf iter) (some newAddr)
  let l ← l.setPrev iter (some newAddr)
  some { l with _size := l._size + 1 }

/-- `Erase`, with the iterator it returns. -/
def erase (l : PooledLinkedList T) (iter : Option NodeAddr) :
    Option (PooledLinkedList T × Option NodeAddr) := do
  let nodeToDelete ← iter
  let iterToReturn ← l.prevOf iter
  let l ← l.setNext (← l.prevOf iter) (← l.nextOf iter)
  let l ← l.setPrev (← l.nextOf iter) (← l.prevOf iter)
  let l ← l.setNext iter none
  let l ← l.setPrev iter none
  let l ← l.releaseUsableAddress nodeToDelete
  some ({ l with _size := l._size - 1 }, iterToReturn)

/-- `PushBack`: on a full list an assertion and nothing else, otherwise the statements of
`InsertFront` at `&_tail`. -/
def pushBack (l : PooledLinkedList T) (item : T) : Option (PooledLinkedList T) :=
  if l._size ≥ l._capacity then some l else l.insertFront (some .tail) item

/-- `PushFront`: the statements of `InsertBack` at `&_head`. -/
def pushFront (l : PooledLinkedList T) (item : T) : Option (PooledLinkedList T) :=
  if l._size ≥ l._capacity then some l else l.insertBack (some .head) item

/-- `PopBack`: on an empty list an assertion and nothing else, otherwise the statements of `Erase`
at `_tail._prev`. -/
def popBack (l : PooledLinkedList T) : Option (PooledLinkedList T) :=
  if l._size ≤ 0 then some l else (l.erase (l.nodes .tail)._prev).map Prod.fst

/-- `PopFront`: the statements of `Erase` at `_head._next`. -/
def popFront (l : PooledLinkedList T) : Option (PooledLinkedList T) :=
  if l._size ≤ 0 then some l else (l.erase (l.nodes .head)._next).map Prod.fst

def isEmpty (l : PooledLinkedList T) : Bool := l._size ≤ 0

/-- The loop of `Clear`, with at most `fuel` turns. -/
def clearLoop : Nat → PooledLinkedList T → Option (PooledLinkedList T)
  | 0, l => if l.isEmpty then some l else none
  | fuel + 1, l => if l.isEmpty then some l else l.popBack >>= clearLoop fuel

def clear (l : PooledLinkedList T) : Option (PooledLinkedList T) := clearLoop l._size l

/-- `begin()`. -/
def beginIter (l : PooledLinkedList T) : Option NodeAddr := (l.nodes .head)._next

/-- `end()`. -/
def endIter : NodeAddr := .tail

def findIteratorAt (l : PooledLinkedList T) (index : Nat) : Option (Option NodeAddr) :=
  LinkedChain.advance (fun a => (l.nodes a)._next) index l.beginIter

def findAt (l : PooledLinkedList T) (index : Nat) : Option T := do
  let iter ← l.findIteratorAt index
  iter.map fun a => (l.nodes a)._data

/-- The elements met from `begin()` to `end()`, with their nodes. -/
def forward (l : PooledLinkedList T) : Option (List (NodeAddr × T)) :=
  (LinkedChain.walk (fun a => (l.nodes a)._next) endIter (l._size + 1) l.beginIter).map
    fun as => as.map fun a => (a, (l.nodes a)._data)

/-- The nodes met along the `_prev` links, from the tail to the head. -/
def backward (l : PooledLinkedList T) : Option (List NodeAddr) :=
  LinkedChain.walk (fun a => (l.nodes a)._prev) .head (l._size + 1) (l.nodes endIter)._prev

/-- The operations of a run. -/
inductive Op (T : Type) where
  | pushBack (item : T)
  | pushFront (item : T)
  | popBack
  | popFront
  | clear
  | erase (iter : Option NodeAddr)
  | insertBack (iter : Option NodeAddr) (item : T)
  | insertFront (iter : Option NodeAddr) (item : T)

def step (l : PooledLinkedList T) : Op T → Option (PooledLinkedList T)
  | .pushBack item => l.pushBack item
  | .pushFront item => l.pushFront item
  | .popBack => l.popBack
  | .popFront => l.popFront
  | .clear => l.clear
  | .erase iter => (l.erase iter).map Prod.fst
  | .insertBack iter item => l.insertBack iter item
  | .insertFront iter item => l.insertFront iter item

def run (l : PooledLinkedList T) (ops : List (Op T)) : Option (PooledLinkedList T) :=
  ops.foldlM step l

/-- The iterator is at an element of the list. -/
def LiveAt (l : PooledLinkedList T) (iter : Option NodeAddr) : Prop :=
  ∃ k, k < l._size ∧ l.findIteratorAt k = some iter

/-- What an operation asks of its caller. -/
def OpOk (l : PooledLinkedList T) : Op T → Prop
  | .erase iter => l.LiveAt iter
  | .insertBack iter _ => l.LiveAt iter ∧ l._size < l._capacity
  | .insertFront iter _ => l.LiveAt iter ∧ l._size < l._capacity
  | _ => True

/-- Every operation of a run finds what it asks for. -/
def EachOk (l : PooledLinkedList T) : List (Op T) → Prop
  | [] => True
  | op :: ops => l.OpOk op ∧ ∀ l', l.step op = some l' → EachOk l' ops

/-- The bounded sequence: elements with the nodes they live in, a new element in a node that no
other element has. -/
inductive SeqStep (capacity : Nat) : List (NodeAddr × T) → Op T → List (NodeAddr × T) → Prop where
  | pushBack {xs a item} (room : xs.length < capacity) (fresh : a ∉ xs.map Prod.fst) :
    SeqStep capacity xs (.pushBack item) (xs ++ [(a, item)])
  | pushBackFull {xs item} (full : xs.length = capacity) :
    SeqStep capacity xs (.pushBack item) xs
  | pushFront {xs a item} (room : xs.length < capacity) (fresh : a ∉ xs.map Prod.fst) :
    SeqStep capacity xs (.pushFront item) ((a, item) :: xs)
  | pushFrontFull {xs item} (full : xs.length = capacity) :
    SeqStep capacity xs (.pushFront item) xs
  | popBack {xs e} : SeqStep capacity (xs ++ [e]) .popBack xs
  | popBackEmpty : SeqStep capacity [] .popBack []
  | popFront {xs e} : SeqStep capacity (e :: xs) .popFront xs
  | popFrontEmpty : SeqStep capacity [] .popFront []
  | clear {xs} : SeqStep capacity xs .clear []
  | erase {xs ys a v} : SeqStep capacity (xs ++ (a, v) :: ys) (.erase (some a)) (xs ++ ys)
  | insertBack {xs ys a v n item} (room : (xs ++ (a, v) :: ys).length < capacity)
    (fresh : n ∉ (xs ++ (a, v) :: ys).map Prod.fst) :
    SeqStep capacity (xs ++ (a, v) :: ys) (.insertBack (some a) item)
      (xs ++ (a, v) :: (n, item) :: ys)
  | insertFront {xs ys a v n item} (room : (xs ++ (a, v) :: ys).length < capacity)
    (fresh : n ∉ (xs ++ (a, v) :: ys).map Prod.fst) :
    SeqStep capacity (xs ++ (a, v) :: ys) (.insertFront (some a) item)
      (xs ++ (n, item) :: (a, v) :: ys)

/-- What can be seen of a list that stands for the sequence `xs`. -/
structure ReadsAs (capacity : Nat) (l : PooledLinkedList T) (xs : List (NodeAddr × T)) : Prop where
  capacity_eq : l._capacity = capacity
  size_eq : l._size = xs.length
  size_le : l._size ≤ l._capacity
  forward_eq : l.forward = some xs
  findAt_eq : ∀ i, i < l._size → l.findAt i = (xs[i]?).map Prod.snd
  backward_eq : l.backward = some (xs.map Prod.fst).reverse
  top_eq : l._usableAddressTopIdx = l._size
  partition : (xs.map Prod.fst ++ l._usableAddressStack.drop l._usableAddressTopIdx).Perm
    ((List.range capacity).map .pool)
  full_unchanged : l._size = l._capacity →
    ∀ item, l.step (.pushBack item) = some l ∧ l.step (.pushFront item) = some l
  empty_unchanged : l._size = 0 → l.step .popBack = some l ∧ l.step .popFront = some l

/-- The list `l`, which reads as `xs`, makes the operations one by one, and after each of them it
reads as what that operation makes of the sequence. It ends as `l'`, reading as `xs'`. -/
inductive Follows (capacity : Nat) : PooledLinkedList T → List (NodeAddr × T) → List (Op T) →
    PooledLinkedList T → List (NodeAddr × T) → Prop where
  | nil {l xs} : ReadsAs capacity l xs → Follows capacity l xs [] l xs
  | cons {l l₁ l' xs xs₁ xs' op ops} : ReadsAs capacity l xs → l.step op = some l₁ →
    SeqStep capacity xs op xs₁ → Follows capacity l₁ xs₁ ops l' xs' →
    Follows capacity l xs (op :: ops) l' xs'

section Links

def links (l : PooledLinkedList T) : LinkedChain.Links NodeAddr :=
  ⟨fun a => (l.nodes a)._next, fun a => (l.nodes a)._prev⟩

/-- The list with the new node `n` linked in between `p` and `q`. -/
def linked (l : PooledLinkedList T) (p n q : NodeAddr) (item : T) : PooledLinkedList T :=
  { l with
    _size := l._size + 1
    _usableAddressTopIdx := l._usableAddressTopIdx + 1
    nodes := fun a =>
      if a = n then ⟨some p, some q, item⟩
      else ⟨if a = q then some n else (l.nodes a)._prev,
        if a = p then some n else (l.nodes a)._next, (l.nodes a)._data⟩ }

/-- The list with the node `n` taken out from between `p` and `q` and put back on the stack. -/
def unlinked (l : PooledLinkedList T) (p n q : NodeAddr) : PooledLinkedList T :=
  { l with
    _size := l._size - 1
    _usableAddressTopIdx := l._usableAddressTopIdx - 1
    _usableAddressStack := l._usableAddressStack.set (l._usableAddressTopIdx - 1) n
    nodes := fun a =>
      if a = n then ⟨none, none, (l.nodes n)._data⟩
      else ⟨if a = q then some p else (l.nodes a)._prev,
        if a = p then some q else (l.nodes a)._next, (l.nodes a)._data⟩ }

variable {l : PooledLinkedList T} {p n q : NodeAddr}

theorem insertBack_eq (hstack : l._usableAddressStack[l._usableAddressTopIdx]? = some n)
    (hnext : (l.nodes p)._next = some q) (hp : n ≠ p) (hq : n ≠ q) (hpq : p ≠ q) (item : T) :
    l.insertBack (some p) item = some (l.linked p n q item) := by
  simp only [insertBack, getNewUsableAddress, hstack, nextOf, setPrev, setNext, write, linked,
    Option.map_some, Option.bind_eq_bind, Option.bind_some, Function.update_self, hnext, ne_eq,
    hp.symm, hq.symm, hpq, not_false_eq_true, Function.update_of_ne]
  congr 2
  funext a
  by_cases ha : a = n
  · subst ha
    simp [hp, hq]
  · by_cases hap : a = p
    · subst hap
      simp [ha, hpq]
    · by_cases haq : a = q
      · subst haq
        simp [ha, hap]
      · simp [ha, hap, haq]

theorem insertFront_eq (hstack : l._usableAddressStack[l._usableAddressTopIdx]? = some n)
    (hprev : (l.nodes q)._prev = some p) (hp : n ≠ p) (hq : n ≠ q) (hpq : p ≠ q) (item : T) :
    l.insertFront (some q) item = some (l.linked p n q item) := by
  simp only [insertFront, getNewUsableAddress, hstack, prevOf, setPrev, setNext, write, linked,
    Option.map_some, Option.bind_eq_bind, Option.bind_some, Function.update_self, hprev, ne_eq,
    hp.symm, hq.symm, hpq.symm, not_false_eq_true, Function.update_of_ne]
  congr 2
  funext a
  by_cases ha : a = n
  · subst ha
    simp [hp, hq]
  · by_cases haq : a = q
    · subst haq
      simp [ha, hpq.symm]
    · by_cases hap : a = p
      · subst hap
        simp [ha, haq]
      · simp [ha, hap, haq]

theorem erase_eq (hprev : (l.nodes n)._prev = some p) (hnext : (l.nodes n)._next = some q)
    (hp : n ≠ p) (hq : n ≠ q) (hpq : p ≠ q) (htop : 0 < l._usableAddressTopIdx)
    (hlen : l._usableAddressTopIdx ≤ l._usableAddressStack.length) :
    l.erase (some n) = some (l.unlinked p n q, some p) := by
  have hroom : ¬ (l._usableAddressTopIdx = 0 ∨
      l._usableAddressStack.length < l._usableAddressTopIdx) := by omega
  simp only [erase, releaseUsableAddress, prevOf, nextOf, setPrev, setNext, write, unlinked,
    Option.map_some, Option.bind_eq_bind, Option.bind_some, Function.update_self, hprev, hnext,
    ne_eq, hp, hq, hpq.symm, not_false_eq_true, Function.update_of_ne,
    if_neg hroom]
  congr 3
  funext a
  by_cases ha : a = n
  · subst ha
    simp
  · by_cases hap : a = p
    · subst hap
      simp [ha, hpq]
    · by_cases haq : a = q
      · subst haq
        simp [ha, hap]
      · simp [ha, hap, haq]

end Links

section Invariant

/-- The nodes of the chain, sentinels included. -/
def spine (xs : List (NodeAddr × T)) : List NodeAddr := .head :: xs.map Prod.fst ++ [.tail]

/-- The node before the elements that follow `xs`. -/
def lastAddr (xs : List (NodeAddr × T)) : NodeAddr := (xs.map Prod.fst).getLast?.getD .head

/-- The node behind the elements that precede `ys`. -/
def firstAddr (ys : List (NodeAddr × T)) : NodeAddr := (ys.map Prod.fst).head?.getD .tail

/-- The list stands for the sequence `xs`. -/
structure Holds (capacity : Nat) (l : PooledLinkedList T) (xs : List (NodeAddr × T)) : Prop where
  capacity_eq : l._capacity = capacity
  size_eq : l._size = xs.length
  top_eq : l._usableAddressTopIdx = xs.length
  stack_length : l._usableAddressStack.length = capacity
  chain : LinkedChain.Chained l.links (spine xs)
  data : ∀ e ∈ xs, (l.nodes e.1)._data = e.2
  partition : (xs.map Prod.fst ++ l._usableAddressStack.drop l._usableAddressTopIdx).Perm
    ((List.range capacity).map .pool)

variable {capacity : Nat} {l : PooledLinkedList T} {xs ys : List (NodeAddr × T)} {n : NodeAddr}

theorem spine_append :
    spine (xs ++ ys) = (.head :: xs.map Prod.fst) ++ (ys.map Prod.fst ++ [.tail]) := by
  simp [spine]

theorem spine_insert {e : NodeAddr × T} : spine (xs ++ e :: ys)
    = (.head :: xs.map Prod.fst) ++ e.1 :: (ys.map Prod.fst ++ [.tail]) := by
  simp [spine]

theorem getLast?_front : (NodeAddr.head :: xs.map Prod.fst).getLast? = some (lastAddr xs) := by
  rw [List.getLast?_cons, lastAddr]

theorem head?_back : (ys.map Prod.fst ++ [NodeAddr.tail]).head? = some (firstAddr ys) := by
  rw [List.head?_append, firstAddr]
  cases (ys.map Prod.fst).head? <;> rfl

theorem Holds.length_le (h : Holds capacity l xs) : xs.length ≤ capacity := by
  have hlen := h.partition.length_eq
  simp only [List.length_append, List.length_map, List.length_drop, List.length_range] at hlen
  have hstack := h.stack_length
  have htop := h.top_eq
  omega

theorem pool_nodup (capacity : Nat) : ((List.range capacity).map NodeAddr.pool).Nodup :=
  List.Nodup.map (fun _ _ h => NodeAddr.pool.inj h) List.nodup_range

/-- The nodes in use are pool nodes, each once. -/
theorem Holds.spine_nodup (h : Holds capacity l xs) : (spine xs).Nodup := by
  have hall : (xs.map Prod.fst ++ l._usableAddressStack.drop l._usableAddressTopIdx).Nodup :=
    h.partition.nodup_iff.mpr (pool_nodup capacity)
  have hpool : ∀ a ∈ xs.map Prod.fst, ∃ i, a = .pool i := by
    intro a ha
    have hmem := h.partition.mem_iff.mp (List.mem_append_left _ ha)
    obtain ⟨i, _, hi⟩ := List.mem_map.mp hmem
    exact ⟨i, hi.symm⟩
  have hused : (xs.map Prod.fst).Nodup := (List.nodup_append.mp hall).1
  have hhead : NodeAddr.head ∉ xs.map Prod.fst := by
    intro hmem
    obtain ⟨i, hi⟩ := hpool _ hmem
    cases hi
  have htail : NodeAddr.tail ∉ xs.map Prod.fst := by
    intro hmem
    obtain ⟨i, hi⟩ := hpool _ hmem
    cases hi
  rw [spine, List.cons_append, List.nodup_cons]
  constructor
  · intro hmem
    obtain hmem | hmem := List.mem_append.mp hmem
    · exact hhead hmem
    · cases List.mem_singleton.mp hmem
  · refine List.Nodup.append hused (List.nodup_singleton _) ?_
    intro a ha hat
    rw [List.mem_singleton.mp hat] at ha
    exact htail ha

/-- With room left the stack has a node that is not in use. -/
theorem Holds.fresh (h : Holds capacity l xs) (hroom : xs.length < capacity) :
    ∃ n, l._usableAddressStack[l._usableAddressTopIdx]? = some n ∧ n ∉ spine xs := by
  have hlt : l._usableAddressTopIdx < l._usableAddressStack.length := by
    rw [h.top_eq, h.stack_length]
    exact hroom
  refine ⟨l._usableAddressStack[l._usableAddressTopIdx], List.getElem?_eq_getElem hlt, ?_⟩
  have hdrop := List.drop_eq_getElem_cons hlt
  have hall : (xs.map Prod.fst ++ l._usableAddressStack.drop l._usableAddressTopIdx).Nodup :=
    h.partition.nodup_iff.mpr (pool_nodup capacity)
  rw [hdrop] at hall
  have hmem := h.partition.mem_iff.mp (List.mem_append_right _
    (hdrop ▸ List.mem_cons_self (a := l._usableAddressStack[l._usableAddressTopIdx])))
  obtain ⟨i, _, hi⟩ := List.mem_map.mp hmem
  intro hspine
  rw [spine, List.cons_append, List.mem_cons] at hspine
  obtain hhead | hspine := hspine
  · rw [← hi] at hhead
    cases hhead
  · obtain hused | htail := List.mem_append.mp hspine
    · exact (List.nodup_append.mp hall).2.2 _ hused _ (List.mem_cons_self ..) rfl
    · rw [← hi] at htail
      cases List.mem_singleton.mp htail

theorem Holds.joined (h : Holds capacity l (xs ++ ys)) :
    l.links.Joined (lastAddr xs) (firstAddr ys) := by
  have hchain := h.chain
  rw [spine_append] at hchain
  exact ((LinkedChain.chained_append getLast?_front head?_back).mp hchain).2.2

theorem lastAddr_mem : lastAddr xs ∈ NodeAddr.head :: xs.map Prod.fst :=
  List.mem_of_getLast? getLast?_front

theorem firstAddr_mem : firstAddr ys ∈ ys.map Prod.fst ++ [NodeAddr.tail] :=
  List.mem_of_mem_head? head?_back

theorem lastAddr_ne_firstAddr (h : Holds capacity l (xs ++ ys)) : lastAddr xs ≠ firstAddr ys := by
  have hnodup := h.spine_nodup
  rw [spine_append] at hnodup
  exact (List.nodup_append.mp hnodup).2.2 _ lastAddr_mem _ firstAddr_mem

/-- The new node stands apart from its neighbours. -/
theorem new_ne_neighbours (hn : n ∉ spine (xs ++ ys)) : n ≠ lastAddr xs ∧ n ≠ firstAddr ys := by
  rw [spine_append] at hn
  constructor
  · rintro rfl
    exact hn (List.mem_append_left _ lastAddr_mem)
  · rintro rfl
    exact hn (List.mem_append_right _ firstAddr_mem)

/-- Linking in a node from the stack. -/
theorem Holds.linked (h : Holds capacity l (xs ++ ys))
    (hstack : l._usableAddressStack[l._usableAddressTopIdx]? = some n) (hn : n ∉ spine (xs ++ ys))
    (item : T) : Holds capacity (l.linked (lastAddr xs) n (firstAddr ys) item)
      (xs ++ (n, item) :: ys) := by
  obtain ⟨hnp, hnq⟩ := new_ne_neighbours hn
  have hlen : (xs ++ (n, item) :: ys).length = (xs ++ ys).length + 1 := by
    simp only [List.length_append, List.length_cons]
    omega
  refine ⟨h.capacity_eq, ?_, ?_, h.stack_length, ?_, ?_, ?_⟩
  · rw [hlen, ← h.size_eq]
    rfl
  · rw [hlen, ← h.top_eq]
    rfl
  · have hchain := h.chain
    have hnodup := h.spine_nodup
    rw [spine_append] at hchain hnodup hn
    rw [spine_insert]
    refine hchain.insert getLast?_front head?_back hnodup hn ?_ ?_ ?_ ?_
    · simp [LinkedChain.Links.Joined, links, PooledLinkedList.linked, hnp.symm]
    · simp [LinkedChain.Links.Joined, links, PooledLinkedList.linked, hnq.symm]
    · intro a hap han
      simp [links, PooledLinkedList.linked, hap, han]
    · intro a haq han
      simp [links, PooledLinkedList.linked, haq, han]
  · have hold : ∀ e ∈ xs ++ ys,
        ((l.linked (lastAddr xs) n (firstAddr ys) item).nodes e.1)._data = e.2 := by
      intro e he
      have hne : e.1 ≠ n := by
        rintro rfl
        refine hn ?_
        rw [spine, List.cons_append]
        exact List.mem_cons_of_mem _ (List.mem_append_left _ (List.mem_map_of_mem he))
      simp [PooledLinkedList.linked, hne, h.data e he]
    intro e he
    obtain he | he := List.mem_append.mp he
    · exact hold e (List.mem_append_left _ he)
    · obtain rfl | he := List.mem_cons.mp he
      · simp [PooledLinkedList.linked]
      · exact hold e (List.mem_append_right _ he)
  · have hlt := (List.getElem?_eq_some_iff.mp hstack)
    obtain ⟨hlt, hget⟩ := hlt
    have hpart := h.partition
    rw [List.drop_eq_getElem_cons hlt, hget, List.map_append, List.append_assoc] at hpart
    refine List.Perm.trans ?_ hpart
    rw [List.map_append, List.map_cons, List.append_assoc, List.cons_append]
    exact List.Perm.append_left _ List.perm_middle.symm

/-- The links of an element of the sequence. -/
theorem Holds.element {v : T} (h : Holds capacity l (xs ++ (n, v) :: ys)) :
    (l.nodes n)._prev = some (lastAddr xs) ∧ (l.nodes n)._next = some (firstAddr ys) ∧
      n ≠ lastAddr xs ∧ n ≠ firstAddr ys ∧ lastAddr xs ≠ firstAddr ys := by
  have hleft := h.joined
  have happ : xs ++ (n, v) :: ys = (xs ++ [(n, v)]) ++ ys := by simp
  have hright : l.links.Joined (lastAddr (xs ++ [(n, v)])) (firstAddr ys) :=
    Holds.joined (happ ▸ h)
  have hlast : lastAddr (xs ++ [(n, v)]) = n := by simp [lastAddr]
  rw [hlast] at hright
  have hnodup := h.spine_nodup
  rw [spine_insert] at hnodup
  obtain ⟨_, hback, hdisj⟩ := List.nodup_append.mp hnodup
  refine ⟨hleft.2, hright.1, ?_, ?_, ?_⟩
  · exact fun he => hdisj _ lastAddr_mem _ (List.mem_cons_self ..) he.symm
  · intro he
    exact (List.nodup_cons.mp hback).1 (he ▸ firstAddr_mem)
  · exact hdisj _ lastAddr_mem _ (List.mem_cons_of_mem _ firstAddr_mem)

/-- Taking out an element. -/
theorem Holds.unlinked {v : T} (h : Holds capacity l (xs ++ (n, v) :: ys)) :
    Holds capacity (l.unlinked (lastAddr xs) n (firstAddr ys)) (xs ++ ys) := by
  obtain ⟨_, _, hnp, hnq, hpq⟩ := h.element
  have hlen : (xs ++ (n, v) :: ys).length = (xs ++ ys).length + 1 := by
    simp only [List.length_append, List.length_cons]
    omega
  have hle := h.length_le
  have hsize := h.size_eq
  have htop := h.top_eq
  have hstack := h.stack_length
  refine ⟨h.capacity_eq, ?_, ?_, ?_, ?_, ?_, ?_⟩
  · show l._size - 1 = _
    omega
  · show l._usableAddressTopIdx - 1 = _
    omega
  · show (l._usableAddressStack.set (l._usableAddressTopIdx - 1) n).length = _
    rw [List.length_set, hstack]
  · have hchain := h.chain
    have hnodup := h.spine_nodup
    rw [spine_insert] at hchain hnodup
    rw [spine_append]
    refine hchain.remove getLast?_front head?_back hnodup ?_ ?_ ?_
    · simp [LinkedChain.Links.Joined, links, PooledLinkedList.unlinked, hnp.symm, hnq.symm]
    · intro a hap han
      simp [links, PooledLinkedList.unlinked, hap, han]
    · intro a haq han
      simp [links, PooledLinkedList.unlinked, haq, han]
  · intro e he
    have hmem : e ∈ xs ++ (n, v) :: ys := by
      obtain he | he := List.mem_append.mp he
      · exact List.mem_append_left _ he
      · exact List.mem_append_right _ (List.mem_cons_of_mem _ he)
    have hne : e.1 ≠ n := by
      have hnodup := h.spine_nodup
      have hperm : (spine (xs ++ (n, v) :: ys)).Perm (n :: spine (xs ++ ys)) := by
        rw [spine_insert, spine_append]
        exact List.perm_middle
      have hout := (List.nodup_cons.mp (hperm.nodup_iff.mp hnodup)).1
      rintro rfl
      refine hout ?_
      rw [spine, List.cons_append]
      exact List.mem_cons_of_mem _ (List.mem_append_left _ (List.mem_map_of_mem he))
    simp [PooledLinkedList.unlinked, hne, h.data e hmem]
  · have hlt : l._usableAddressTopIdx - 1 < (l._usableAddressStack.set
        (l._usableAddressTopIdx - 1) n).length := by
      rw [List.length_set]
      omega
    have hnext : l._usableAddressTopIdx - 1 + 1 = l._usableAddressTopIdx := by omega
    have hdrop : (l._usableAddressStack.set (l._usableAddressTopIdx - 1) n).drop
        (l._usableAddressTopIdx - 1) = n :: l._usableAddressStack.drop l._usableAddressTopIdx := by
      rw [List.drop_eq_getElem_cons hlt, List.getElem_set_self, List.drop_set_of_lt (by omega),
        hnext]
    have hpart := h.partition
    rw [List.map_append, List.map_cons, List.append_assoc, List.cons_append] at hpart
    refine List.Perm.trans ?_ hpart
    show ((xs ++ ys).map Prod.fst ++ (l._usableAddressStack.set (l._usableAddressTopIdx - 1) n).drop
      (l._usableAddressTopIdx - 1)).Perm _
    rw [hdrop, List.map_append, List.append_assoc]
    exact List.Perm.append_left _ List.perm_middle

theorem holds_new (capacity : Nat) (raw : NodeAddr → PooledLinkedListNode T) :
    Holds capacity (new capacity raw) [] where
  capacity_eq := rfl
  size_eq := rfl
  top_eq := rfl
  stack_length := by simp [new]
  chain := List.isChain_pair.mpr ⟨rfl, rfl⟩
  data := fun _ he => (List.not_mem_nil he).elim
  partition := List.Perm.refl _

end Invariant

section Steps

variable {capacity : Nat} {l : PooledLinkedList T} {xs ys : List (NodeAddr × T)} {n : NodeAddr}

theorem not_mem_map_of_not_mem_spine (h : n ∉ spine xs) : n ∉ xs.map Prod.fst := by
  intro hmem
  rw [spine, List.cons_append] at h
  exact h (List.mem_cons_of_mem _ (List.mem_append_left _ hmem))

theorem Holds.insertBack_spec (h : Holds capacity l (xs ++ ys))
    (hroom : (xs ++ ys).length < capacity) (item : T) :
    ∃ n l', l.insertBack (some (lastAddr xs)) item = some l' ∧ n ∉ (xs ++ ys).map Prod.fst ∧
      Holds capacity l' (xs ++ (n, item) :: ys) := by
  obtain ⟨n, hstack, hn⟩ := h.fresh hroom
  obtain ⟨hnp, hnq⟩ := new_ne_neighbours hn
  have heq := insertBack_eq hstack h.joined.1 hnp hnq (lastAddr_ne_firstAddr h) item
  exact ⟨n, _, heq, not_mem_map_of_not_mem_spine hn, h.linked hstack hn item⟩

theorem Holds.insertFront_spec (h : Holds capacity l (xs ++ ys))
    (hroom : (xs ++ ys).length < capacity) (item : T) :
    ∃ n l', l.insertFront (some (firstAddr ys)) item = some l' ∧ n ∉ (xs ++ ys).map Prod.fst ∧
      Holds capacity l' (xs ++ (n, item) :: ys) := by
  obtain ⟨n, hstack, hn⟩ := h.fresh hroom
  obtain ⟨hnp, hnq⟩ := new_ne_neighbours hn
  have heq := insertFront_eq hstack h.joined.2 hnp hnq (lastAddr_ne_firstAddr h) item
  exact ⟨n, _, heq, not_mem_map_of_not_mem_spine hn, h.linked hstack hn item⟩

theorem Holds.erase_spec {v : T} (h : Holds capacity l (xs ++ (n, v) :: ys)) :
    ∃ l', l.erase (some n) = some (l', some (lastAddr xs)) ∧ Holds capacity l' (xs ++ ys) := by
  obtain ⟨hprev, hnext, hnp, hnq, hpq⟩ := h.element
  have hle := h.length_le
  have htop := h.top_eq
  have hstack := h.stack_length
  have hpos : 0 < (xs ++ (n, v) :: ys).length := by simp
  exact ⟨_, erase_eq hprev hnext hnp hnq hpq (by omega) (by omega), h.unlinked⟩

theorem lastAddr_concat (xs : List (NodeAddr × T)) (e : NodeAddr × T) :
    lastAddr (xs ++ [e]) = e.1 := by
  simp [lastAddr]

theorem Holds.popBack_spec {e : NodeAddr × T} (h : Holds capacity l (xs ++ [e])) :
    ∃ l', l.popBack = some l' ∧ Holds capacity l' xs := by
  have hnil : Holds capacity l ((xs ++ [e]) ++ []) := by rwa [List.append_nil]
  have hlast : (l.nodes .tail)._prev = some e.1 := by
    rw [← lastAddr_concat xs e]
    exact hnil.joined.2
  have hsize := h.size_eq
  rw [List.length_append, List.length_singleton] at hsize
  obtain ⟨l', heq, h'⟩ := h.erase_spec
  rw [List.append_nil] at h'
  refine ⟨l', ?_, h'⟩
  rw [popBack, if_neg (by omega), hlast, heq, Option.map_some]

theorem Holds.popFront_spec {e : NodeAddr × T} (h : Holds capacity l (e :: xs)) :
    ∃ l', l.popFront = some l' ∧ Holds capacity l' xs := by
  have hnil : Holds capacity l ([] ++ e :: xs) := h
  have hfirst : (l.nodes .head)._next = some e.1 := hnil.joined.1
  have hsize := h.size_eq
  rw [List.length_cons] at hsize
  obtain ⟨l', heq, h'⟩ := hnil.erase_spec
  refine ⟨l', ?_, h'⟩
  rw [popFront, if_neg (by omega), hfirst, heq, Option.map_some]

theorem Holds.clearLoop_spec : ∀ {xs : List (NodeAddr × T)} {l : PooledLinkedList T},
    Holds capacity l xs → ∃ l', clearLoop xs.length l = some l' ∧ Holds capacity l' [] := by
  intro xs
  induction xs using List.reverseRecOn with
  | nil =>
    intro l h
    have hsize : l._size = 0 := h.size_eq
    exact ⟨l, by simp [clearLoop, isEmpty, hsize], h⟩
  | append_singleton xs e ih =>
    intro l h
    have hsize := h.size_eq
    rw [List.length_append, List.length_singleton] at hsize
    obtain ⟨l', heq, h'⟩ := h.popBack_spec
    obtain ⟨l'', heq'', h''⟩ := ih h'
    refine ⟨l'', ?_, h''⟩
    have hne : ¬ l.isEmpty = true := by simp [isEmpty, hsize]
    rw [List.length_append, List.length_singleton, clearLoop, if_neg hne, heq,
      Option.bind_eq_bind, Option.bind_some, heq'']

theorem Holds.clear_spec (h : Holds capacity l xs) :
    ∃ l', l.clear = some l' ∧ Holds capacity l' [] := by
  rw [clear, h.size_eq]
  exact h.clearLoop_spec

/-- Where `++` leads from `begin()`. -/
theorem Holds.findIteratorAt_eq (h : Holds capacity l xs) {k : Nat} (hk : k ≤ xs.length) :
    l.findIteratorAt k = some ((xs.map Prod.fst ++ [NodeAddr.tail])[k]?) :=
  LinkedChain.advance_next (by rwa [List.length_map]) h.chain

theorem Holds.findIteratorAt_of_lt (h : Holds capacity l xs) {k : Nat} (hk : k < xs.length) :
    l.findIteratorAt k = some (some xs[k].1) := by
  rw [h.findIteratorAt_eq hk.le, List.getElem?_append_left (by rwa [List.length_map]),
    List.getElem?_map, List.getElem?_eq_getElem hk, Option.map_some]

/-- An iterator to a live element, as a place in the sequence. -/
theorem Holds.liveAt (h : Holds capacity l xs) {iter : Option NodeAddr} (hlive : l.LiveAt iter) :
    ∃ pre a v post, iter = some a ∧ xs = pre ++ (a, v) :: post := by
  obtain ⟨k, hk, hiter⟩ := hlive
  rw [h.size_eq] at hk
  rw [h.findIteratorAt_of_lt hk, Option.some.injEq] at hiter
  refine ⟨xs.take k, xs[k].1, xs[k].2, xs.drop (k + 1), hiter.symm, ?_⟩
  rw [Prod.mk.eta, List.getElem_cons_drop, List.take_append_drop]

/-- Every operation that gets what it asks for is a step of the sequence. -/
theorem Holds.step_spec (h : Holds capacity l xs) {op : Op T} (hok : l.OpOk op) :
    ∃ l' xs', l.step op = some l' ∧ SeqStep capacity xs op xs' ∧ Holds capacity l' xs' := by
  have hsize := h.size_eq
  have hcap := h.capacity_eq
  have hle := h.length_le
  cases op with
  | pushBack item =>
    by_cases hfull : l._size ≥ l._capacity
    · exact ⟨l, xs, if_pos hfull, .pushBackFull (by omega), h⟩
    · have hroom : (xs ++ []).length < capacity := by
        rw [List.append_nil]
        omega
      obtain ⟨n, l', heq, hn, h'⟩ := Holds.insertFront_spec (by rwa [List.append_nil]) hroom item
      rw [List.append_nil] at hroom hn
      exact ⟨l', _, (if_neg hfull).trans heq, .pushBack hroom hn, h'⟩
  | pushFront item =>
    by_cases hfull : l._size ≥ l._capacity
    · exact ⟨l, xs, if_pos hfull, .pushFrontFull (by omega), h⟩
    · have hnil : Holds capacity l ([] ++ xs) := h
      have hroom : xs.length < capacity := by omega
      obtain ⟨n, l', heq, hn, h'⟩ := hnil.insertBack_spec hroom item
      exact ⟨l', _, (if_neg hfull).trans heq, .pushFront hroom hn, h'⟩
  | popBack =>
    obtain rfl | ⟨ys, e, rfl⟩ := List.eq_nil_or_concat xs
    · have hempty : l._size ≤ 0 := by rw [hsize, List.length_nil]
      exact ⟨l, [], if_pos hempty, .popBackEmpty, h⟩
    · rw [List.concat_eq_append] at h ⊢
      obtain ⟨l', heq, h'⟩ := h.popBack_spec
      exact ⟨l', ys, heq, .popBack, h'⟩
  | popFront =>
    cases xs with
    | nil =>
      have hempty : l._size ≤ 0 := by rw [hsize, List.length_nil]
      exact ⟨l, [], if_pos hempty, .popFrontEmpty, h⟩
    | cons e xs =>
      obtain ⟨l', heq, h'⟩ := h.popFront_spec
      exact ⟨l', xs, heq, .popFront, h'⟩
  | clear =>
    obtain ⟨l', heq, h'⟩ := h.clear_spec
    exact ⟨l', [], heq, .clear, h'⟩
  | erase iter =>
    obtain ⟨pre, a, v, post, rfl, rfl⟩ := h.liveAt hok
    obtain ⟨l', heq, h'⟩ := h.erase_spec
    refine ⟨l', _, ?_, .erase, h'⟩
    rw [step, heq, Option.map_some]
  | insertBack iter item =>
    obtain ⟨hlive, hroom⟩ := hok
    obtain ⟨pre, a, v, post, rfl, rfl⟩ := h.liveAt hlive
    have happ : pre ++ (a, v) :: post = (pre ++ [(a, v)]) ++ post := by simp
    have hroom' : (pre ++ (a, v) :: post).length < capacity := by omega
    have h1 : Holds capacity l ((pre ++ [(a, v)]) ++ post) := happ ▸ h
    obtain ⟨n, l', heq, hn, h'⟩ := h1.insertBack_spec (by rw [← happ]; exact hroom') item
    rw [lastAddr_concat] at heq
    rw [← happ] at hn
    refine ⟨l', _, heq, .insertBack hroom' hn, ?_⟩
    simpa using h'
  | insertFront iter item =>
    obtain ⟨hlive, hroom⟩ := hok
    obtain ⟨pre, a, v, post, rfl, rfl⟩ := h.liveAt hlive
    have hroom' : (pre ++ (a, v) :: post).length < capacity := by omega
    obtain ⟨n, l', heq, hn, h'⟩ := h.insertFront_spec hroom' item
    exact ⟨l', _, heq, .insertFront hroom' hn, h'⟩

end Steps

section Reads

variable {capacity : Nat} {l : PooledLinkedList T} {xs : List (NodeAddr × T)}

theorem Holds.not_mem_head (h : Holds capacity l xs) : NodeAddr.head ∉ xs.map Prod.fst := by
  have hnodup := h.spine_nodup
  rw [spine, List.cons_append, List.nodup_cons] at hnodup
  exact fun hmem => hnodup.1 (List.mem_append_left _ hmem)

theorem Holds.not_mem_tail (h : Holds capacity l xs) : NodeAddr.tail ∉ xs.map Prod.fst := by
  have hnodup := h.spine_nodup
  rw [spine] at hnodup
  intro hmem
  exact (List.nodup_append.mp hnodup).2.2 _ (List.mem_cons_of_mem _ hmem) _
    (List.mem_singleton_self _) rfl

theorem Holds.forward_eq (h : Holds capacity l xs) : l.forward = some xs := by
  have hwalk := LinkedChain.walk_next h.not_mem_tail h.chain
  rw [List.length_map, ← h.size_eq] at hwalk
  have hread : (xs.map Prod.fst).map (fun a => (a, (l.nodes a)._data)) = xs := by
    rw [List.map_map]
    calc xs.map _ = xs.map id :=
          List.map_congr_left fun e he => congrArg (Prod.mk e.1) (h.data e he)
      _ = xs := List.map_id xs
  show Option.map _ (LinkedChain.walk l.links.next .tail (l._size + 1) (l.links.next .head)) = _
  rw [hwalk, Option.map_some, hread]

theorem Holds.backward_eq (h : Holds capacity l xs) :
    l.backward = some (xs.map Prod.fst).reverse := by
  have hwalk := LinkedChain.walk_prev h.not_mem_head h.chain
  rw [List.length_map, ← h.size_eq] at hwalk
  exact hwalk

theorem Holds.findAt_eq (h : Holds capacity l xs) {i : Nat} (hi : i < xs.length) :
    l.findAt i = some xs[i].2 := by
  rw [findAt, h.findIteratorAt_of_lt hi, Option.bind_eq_bind, Option.bind_some, Option.map_some,
    h.data _ (List.getElem_mem hi)]

theorem Holds.readsAs (h : Holds capacity l xs) : ReadsAs capacity l xs where
  capacity_eq := h.capacity_eq
  size_eq := h.size_eq
  size_le := by
    rw [h.size_eq, h.capacity_eq]
    exact h.length_le
  forward_eq := h.forward_eq
  findAt_eq := by
    intro i hi
    rw [h.size_eq] at hi
    rw [h.findAt_eq hi, List.getElem?_eq_getElem hi, Option.map_some]
  backward_eq := h.backward_eq
  top_eq := h.top_eq.trans h.size_eq.symm
  partition := h.partition
  full_unchanged := fun hfull _ => ⟨if_pos hfull.ge, if_pos hfull.ge⟩
  empty_unchanged := fun hempty => ⟨if_pos hempty.le, if_pos hempty.le⟩

theorem Holds.run_spec {ops : List (Op T)} : ∀ {l : PooledLinkedList T} {xs : List (NodeAddr × T)},
    Holds capacity l xs → l.EachOk ops →
      ∃ l' xs', l.run ops = some l' ∧ Follows capacity l xs ops l' xs' := by
  induction ops with
  | nil =>
    intro l xs h _
    exact ⟨l, xs, rfl, .nil h.readsAs⟩
  | cons op ops ih =>
    intro l xs h hok
    obtain ⟨l₁, xs₁, heq, hstep, h₁⟩ := h.step_spec hok.1
    obtain ⟨l', xs', heq', hfollows⟩ := ih h₁ (hok.2 l₁ heq)
    refine ⟨l', xs', ?_, .cons h.readsAs heq hstep hfollows⟩
    rw [run, List.foldlM_cons, heq]
    exact heq'

/-- Every run with iterators to live elements, and room where one is inserted at an iterator, gets
through and behaves like the bounded sequence in every state it passes. -/
theorem list_run (capacity : Nat) (raw : NodeAddr → PooledLinkedListNode T) (ops : List (Op T))
    (hok : (new capacity raw).EachOk ops) :
    ∃ l xs, (new capacity raw).run ops = some l ∧
      Follows capacity (new capacity raw) [] ops l xs :=
  (holds_new capacity raw).run_spec hok

/-- A list of two nodes: fill it, free a node, and use it again behind the other one. -/
theorem list_run_recycle : ∃ l xs,
    (new 2 fun _ => ⟨none, none, 0⟩).run [.pushBack 5, .pushFront 6, .erase (some (.pool 0)),
      .insertBack (some (.pool 1)) 7] = some l ∧
    Follows 2 (new 2 fun _ => ⟨none, none, 0⟩) [] [.pushBack 5, .pushFront 6,
      .erase (some (.pool 0)), .insertBack (some (.pool 1)) 7] l xs := by
  refine list_run 2 _ _ ⟨trivial, fun l1 h1 => ?_⟩
  cases h1
  refine ⟨trivial, fun l2 h2 => ?_⟩
  cases h2
  refine ⟨⟨1, by decide, rfl⟩, fun l3 h3 => ?_⟩
  cases h3
  refine ⟨⟨⟨0, by decide, rfl⟩, by decide⟩, fun l4 h4 => ?_⟩
  cases h4
  trivial

end Reads

end PooledLinkedList

end SS
end FBXRenderer
