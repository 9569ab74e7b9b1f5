import FBXRenderer.NativeKeywords

/-!
# FBXRenderer.Container.PooledList

`SS::PooledList` (`PooledList.h`): a growing array. `data` holds the `_size` constructed elements;
the bound `_size <= _capacity` is a field, so no operation has to re-establish it. An operation
returns `none` where the source fails an assertion or leaves its buffer.

* `pushBackCapacity_eq`: on a list that was given some capacity, appending never fails.
-/

namespace FBXRenderer
namespace SS

structure PooledList (T : Type) where
  data : List T
  capacity : Nat
  size_le : data.length ≤ capacity

namespace PooledList

variable {T : Type}

/-- `PooledList(capacity)`. -/
def new (capacity : Nat) : PooledList T := ⟨[], capacity, Nat.zero_le _⟩

/-- A list that is exactly full. -/
def ofList (data : List T) : PooledList T := ⟨data, data.length, Nat.le_refl _⟩

def getSize (l : PooledList T) : Nat := l.data.length

/-- `operator[]`, read. Its assertion is on the capacity; past the size the storage holds no
element. -/
def get (l : PooledList T) (idx : Nat) : Option T :=
  if idx < l.capacity then l.data[idx]? else none

/-- `operator[]`, written through. -/
def set (l : PooledList T) (idx : Nat) (x : T) : Option (PooledList T) :=
  if idx < l.data.length then
    some ⟨l.data.set idx x, l.capacity, by rw [List.length_set]; exact l.size_le⟩
  else none

/-- A change made through the reference that `operator[]` returns. -/
def modify (l : PooledList T) (idx : Nat) (f : T → Option T) : Option (PooledList T) := do
  let x ← l.get idx
  let y ← f x
  l.set idx y

def pushBack (l : PooledList T) (newData : T) : Option (PooledList T) :=
  if h : l.data.length < l.capacity then
    some ⟨l.data ++ [newData], l.capacity, by rw [List.length_append]; exact h⟩
  else none

/-- Copies `_capacity` elements into the new block, so a smaller block would be overrun. -/
def increaseCapacityAndCopy (l : PooledList T) (newCapacity : Nat) : Option (PooledList T) :=
  if h : l.capacity ≤ newCapacity then
    some ⟨l.data, newCapacity, Nat.le_trans l.size_le h⟩
  else none

/-- New elements are default constructed. -/
def resize (l : PooledList T) (default : T) (newSize : Nat) : Option (PooledList T) :=
  if h : newSize ≤ l.capacity then
    some { data := l.data.take newSize ++ List.replicate (newSize - l.data.length) default
           capacity := l.capacity
           size_le := by simp; omega }
  else none

def pushBackCapacity (l : PooledList T) (newData : T) : Option (PooledList T) :=
  if l.capacity ≤ l.data.length then
    (l.increaseCapacityAndCopy (toUint32 (l.capacity * 2 : Nat))).bind (·.pushBack newData)
  else l.pushBack newData

def isFull (l : PooledList T) : Bool := l.data.length == l.capacity

/-- There is room for one more element, or the doubled capacity is a `uint32`. -/
def Takes (l : PooledList T) : Prop :=
  l.data.length < l.capacity ∨ (0 < l.capacity ∧ l.capacity * 2 < 2 ^ 32)

instance (l : PooledList T) : Decidable l.Takes := inferInstanceAs (Decidable (_ ∨ _))

@[simp] theorem new_capacity (capacity : Nat) : (new capacity : PooledList T).capacity = capacity :=
  rfl

theorem get_eq (l : PooledList T) (idx : Nat) : l.get idx = l.data[idx]? := by
  unfold get
  split
  · rfl
  · have := l.size_le
    exact (List.getElem?_eq_none (by omega)).symm

theorem get_of_lt {l : PooledList T} {idx : Nat} (h : idx < l.data.length) :
    l.get idx = some l.data[idx] := by
  rw [get_eq, List.getElem?_eq_getElem h]

theorem getSize_concat {l l' : PooledList T} {x : T} (h : l'.data = l.data ++ [x]) :
    l'.getSize = l.getSize + 1 := by
  unfold getSize
  rw [h, List.length_append, List.length_singleton]

theorem pushBack_eq {l : PooledList T} (h : l.data.length < l.capacity) (x : T) :
    ∃ l', l.pushBack x = some l' ∧ l'.data = l.data ++ [x] ∧ l'.capacity = l.capacity := by
  unfold pushBack
  rw [dif_pos h]
  exact ⟨_, rfl, rfl, rfl⟩

theorem pushBack_some {l l' : PooledList T} {x : T} (h : l.pushBack x = some l') :
    l.data.length < l.capacity ∧ l'.data = l.data ++ [x] ∧ l'.capacity = l.capacity := by
  unfold pushBack at h
  split at h
  · rename_i hlt
    cases h
    exact ⟨hlt, rfl, rfl⟩
  · cases h

/-- A change through a reference is made to one element and to no other. -/
structure ModifiedAt (l : PooledList T) (idx : Nat) (f : T → Option T) (l' : PooledList T) :
    Prop where
  size : l'.getSize = l.getSize
  capacity : l'.capacity = l.capacity
  here : ∀ x, l.data[idx]? = some x → ∃ y, f x = some y ∧ l'.data[idx]? = some y
  others : ∀ i, i ≠ idx → l'.data[i]? = l.data[i]?

theorem modify_some {l l' : PooledList T} {idx : Nat} {f : T → Option T}
    (h : l.modify idx f = some l') : ModifiedAt l idx f l' := by
  unfold modify at h
  simp only [Option.bind_eq_bind, Option.bind_eq_some_iff] at h
  obtain ⟨x, hx, y, hy, hset⟩ := h
  rw [get_eq] at hx
  unfold set at hset
  split at hset
  · rename_i hlt
    cases hset
    refine ⟨List.length_set, rfl, ?_, ?_⟩
    · intro x' hx'
      rw [hx] at hx'
      cases hx'
      exact ⟨y, hy, List.getElem?_set_self hlt⟩
    · intro i hi
      exact List.getElem?_set_ne (Ne.symm hi)
  · cases hset

/-- A change that succeeds on the element that is there. -/
theorem modify_eq {l : PooledList T} {idx : Nat} {f : T → Option T} {x y : T}
    (hx : l.data[idx]? = some x) (hy : f x = some y) :
    ∃ l', l.modify idx f = some l' ∧ l'.data = l.data.set idx y ∧ l'.capacity = l.capacity := by
  have hlt : idx < l.data.length := (List.getElem?_eq_some_iff.mp hx).1
  unfold modify
  rw [get_eq, hx]
  simp only [Option.bind_eq_bind, Option.bind_some, hy]
  unfold set
  rw [if_pos hlt]
  exact ⟨_, rfl, rfl, rfl⟩

theorem modify_found {l l' : PooledList T} {idx : Nat} {f : T → Option T}
    (h : l.modify idx f = some l') : ∃ x, l.data[idx]? = some x := by
  unfold modify at h
  simp only [Option.bind_eq_bind, Option.bind_eq_some_iff] at h
  obtain ⟨x, hx, _⟩ := h
  exact ⟨x, by rw [← get_eq, hx]⟩

theorem increaseCapacityAndCopy_eq {l : PooledList T} {n : Nat} (h : l.capacity ≤ n) :
    ∃ l', l.increaseCapacityAndCopy n = some l' ∧ l'.data = l.data ∧ l'.capacity = n := by
  unfold increaseCapacityAndCopy
  rw [dif_pos h]
  exact ⟨_, rfl, rfl, rfl⟩

theorem pushBackCapacity_eq {l : PooledList T} (hcap : 0 < l.capacity)
    (hsize : l.data.length < 2 ^ 31) (x : T) :
    ∃ l', l.pushBackCapacity x = some l' ∧ l'.data = l.data ++ [x] ∧ 0 < l'.capacity := by
  unfold pushBackCapacity
  split
  · rename_i hfull
    -- the list is full, so the doubled capacity still fits
    have hle := l.size_le
    rw [toUint32_natCast (by omega)]
    obtain ⟨l1, h1, hdata, hcap1⟩ :=
      increaseCapacityAndCopy_eq (show l.capacity ≤ l.capacity * 2 by omega)
    have hroom : l1.data.length < l1.capacity := by rw [hdata, hcap1]; omega
    obtain ⟨l2, h2, hdata2, hcap2⟩ := pushBack_eq hroom x
    refine ⟨l2, ?_, ?_, ?_⟩
    · rw [h1, Option.bind_some, h2]
    · rw [hdata2, hdata]
    · rw [hcap2, hcap1]; omega
  · rename_i hroom
    obtain ⟨l', h', hdata, hcap'⟩ := pushBack_eq (show l.data.length < l.capacity by omega) x
    exact ⟨l', h', hdata, by omega⟩

theorem isFull_iff (l : PooledList T) : l.isFull = true ↔ l.capacity ≤ l.data.length := by
  have hle := l.size_le
  rw [isFull, beq_iff_eq]
  omega

/-- Growing a full list and then appending is what `PushBackCapacity` does. -/
theorem grow_pushBack (l : PooledList T) (x : T) :
    ((if l.isFull then l.increaseCapacityAndCopy (toUint32 (l.capacity * 2 : Nat))
      else some l).bind (·.pushBack x)) = l.pushBackCapacity x := by
  unfold pushBackCapacity
  by_cases hfull : l.isFull = true
  · rw [if_pos hfull, if_pos ((isFull_iff l).mp hfull)]
  · rw [if_neg hfull, if_neg (fun h => hfull ((isFull_iff l).mpr h)), Option.bind_some]

/-- What an append that succeeds leaves, and what it needed. -/
theorem pushBackCapacity_some {l l' : PooledList T} {x : T} (hcap : l.capacity < 2 ^ 32)
    (h : l.pushBackCapacity x = some l') :
    l.Takes ∧ l'.data = l.data ++ [x] ∧ l'.capacity < 2 ^ 32 := by
  unfold pushBackCapacity at h
  split at h
  · rename_i hfull
    rw [Option.bind_eq_some_iff] at h
    obtain ⟨l1, hgrow, hpush⟩ := h
    unfold increaseCapacityAndCopy at hgrow
    split at hgrow
    · rename_i hle
      cases hgrow
      obtain ⟨hlt, hdata, hcap'⟩ := pushBack_some hpush
      have hwrap := toUint32_lt (l.capacity * 2 : Nat)
      simp only at hlt hdata hcap'
      refine ⟨Or.inr ?_, hdata, by rw [hcap']; exact hwrap⟩
      -- a doubled capacity that wraps is below the old one
      unfold toUint32 at hle hlt
      omega
    · cases hgrow
  · rename_i hroom
    obtain ⟨hlt, hdata, hcap'⟩ := pushBack_some h
    exact ⟨Or.inl hlt, hdata, by omega⟩

theorem pushBackCapacity_of_takes {l : PooledList T} (h : l.Takes) (x : T) :
    ∃ l', l.pushBackCapacity x = some l' := by
  unfold pushBackCapacity
  split
  · rename_i hfull
    obtain hlt | ⟨hpos, hfit⟩ := h
    · omega
    · have hle := l.size_le
      rw [toUint32_natCast hfit]
      obtain ⟨l1, h1, hdata, hcap1⟩ :=
        increaseCapacityAndCopy_eq (show l.capacity ≤ l.capacity * 2 by omega)
      have hroom : l1.data.length < l1.capacity := by
        rw [hdata, hcap1]
        omega
      obtain ⟨l2, h2, _⟩ := pushBack_eq hroom x
      exact ⟨l2, by rw [h1, Option.bind_some, h2]⟩
  · rename_i hroom
    obtain ⟨l', h', _⟩ := pushBack_eq (show l.data.length < l.capacity by omega) x
    exact ⟨l', h'⟩

/-! How far a list can grow that doubles its `uint32` capacity. -/

/-- The last capacity before the doubling wraps. -/
def maxCapacity (capacity : Nat) : Nat := capacity * 2 ^ (31 - Nat.log2 capacity)

/-- A capacity reached from `start` by doublings without a wrap. -/
def GrownFrom (start capacity : Nat) : Prop := ∃ j, capacity = start * 2 ^ j ∧ capacity < 2 ^ 32

theorem GrownFrom.lt {start capacity : Nat} (h : GrownFrom start capacity) : capacity < 2 ^ 32 :=
  h.choose_spec.2

theorem GrownFrom.le_maxCapacity {start capacity : Nat} (h : GrownFrom start capacity) :
    capacity ≤ maxCapacity start := by
  obtain ⟨j, rfl, hlt⟩ := h
  obtain rfl | hpos := Nat.eq_zero_or_pos start
  · rw [Nat.zero_mul]
    exact Nat.zero_le _
  · refine Nat.mul_le_mul_left start (Nat.pow_le_pow_right (by decide) ?_)
    have hlog : 2 ^ (Nat.log2 start + j) < 2 ^ 32 := by
      rw [Nat.pow_add]
      exact (Nat.mul_le_mul_right _ (Nat.log2_self_le hpos.ne')).trans_lt hlt
    have hexp := (Nat.pow_lt_pow_iff_right (by decide)).mp hlog
    omega

theorem maxCapacity_lt {start : Nat} (h : start < 2 ^ 32) : maxCapacity start < 2 ^ 32 := by
  obtain rfl | hpos := Nat.eq_zero_or_pos start
  · rw [maxCapacity, Nat.zero_mul]
    decide
  · have hlog : Nat.log2 start < 32 := (Nat.log2_lt hpos.ne').mpr h
    calc maxCapacity start < 2 ^ (Nat.log2 start + 1) * 2 ^ (31 - Nat.log2 start) :=
          Nat.mul_lt_mul_of_pos_right Nat.lt_log2_self (Nat.two_pow_pos _)
      _ = 2 ^ 32 := by
          rw [← Nat.pow_add]
          congr 1
          omega

/-- A list that has grown from `start` takes one more element exactly below the last capacity. -/
theorem takes_iff {start : Nat} (hstart : start < 2 ^ 32) {l : PooledList T}
    (h : GrownFrom start l.capacity) : l.Takes ↔ l.data.length < maxCapacity start := by
  have hle := l.size_le
  have hmax := h.le_maxCapacity
  have hfit := maxCapacity_lt hstart
  obtain ⟨j, hj, hlt⟩ := h
  constructor
  · rintro (hroom | ⟨hpos, hdouble⟩)
    · omega
    · have hnext : GrownFrom start (l.capacity * 2) :=
        ⟨j + 1, by rw [hj, Nat.pow_succ, Nat.mul_assoc], hdouble⟩
      have hle' := hnext.le_maxCapacity
      omega
  · intro hsize
    by_cases hroom : l.data.length < l.capacity
    · exact Or.inl hroom
    · -- the list is full, and its capacity is not yet the last one
      have hstep : l.capacity < maxCapacity start := by omega
      have hpos : 0 < start := by
        by_contra hzero
        rw [Nat.eq_zero_of_not_pos hzero, maxCapacity, Nat.zero_mul] at hstep
        omega
      rw [hj, maxCapacity] at hstep
      have hexp := (Nat.pow_lt_pow_iff_right (by decide)).mp (Nat.lt_of_mul_lt_mul_left hstep)
      have hdouble : l.capacity * 2 ≤ maxCapacity start := by
        rw [hj, Nat.mul_assoc, ← Nat.pow_succ]
        exact Nat.mul_le_mul_left start (Nat.pow_le_pow_right (by decide) hexp)
      have hcap : 0 < l.capacity := by
        rw [hj]
        exact Nat.mul_pos hpos (Nat.two_pow_pos j)
      exact Or.inr ⟨hcap, by omega⟩

theorem pushBackCapacity_grown {start : Nat} {l l' : PooledList T} {x : T}
    (h : GrownFrom start l.capacity) (hpush : l.pushBackCapacity x = some l') :
    GrownFrom start l'.capacity := by
  obtain ⟨j, hj, hlt⟩ := h
  obtain ⟨htakes, _, hlt'⟩ := pushBackCapacity_some hlt hpush
  unfold pushBackCapacity at hpush
  split at hpush
  · rename_i hfull
    obtain hroom | ⟨_, hdouble⟩ := htakes
    · omega
    · rw [toUint32_natCast hdouble, Option.bind_eq_some_iff] at hpush
      obtain ⟨l1, hgrow, hpush⟩ := hpush
      unfold increaseCapacityAndCopy at hgrow
      split at hgrow
      · cases hgrow
        have hcap := (pushBack_some hpush).2.2
        have hnext : l.capacity * 2 = start * 2 ^ (j + 1) := by
          rw [hj, Nat.pow_succ, Nat.mul_assoc]
        exact ⟨j + 1, hcap.trans hnext, hlt'⟩
      · cases hgrow
  · exact ⟨j, by rw [(pushBack_some hpush).2.2, hj], hlt'⟩

end PooledList

end SS
end FBXRenderer
