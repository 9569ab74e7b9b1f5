import FBXRenderer.Container.StringHashMap
import Mathlib.Tactic.ByContra

/-!
# FBXRenderer.Container.StringHashMapDict

When `StringHashMapA` behaves as a finite partial map over whole runs.

`Represents m d` is the simulation relation: every used slot lies in the window of its key, no
key sits in two slots, and the used slots are the graph of `d`. Lookup scans the whole window,
so it is exact in every such state. Insertion stops at the first empty slot, and erasure makes
empty slots in the middle of windows, so an insertion can miss a key it should have met:
`BehindHole` is that situation, read off the state before the call.

`run_partial_map_iff`: a run from a fresh map is a run of a partial map exactly when no insertion
is made in a `BehindHole` state.
-/

namespace FBXRenderer
namespace SS
namespace StringHashMapA

open Probe Dictionary

variable {T : Type} {STR_LEN_MAX : Nat}

/-- `1 <= strlen(key) < STR_LEN_MAX`. -/
def ValidKey (STR_LEN_MAX : Nat) (key : CStr) : Prop :=
  key.strlen ≠ 0 ∧ key.strlen < STR_LEN_MAX

instance (n : Nat) (key : CStr) : Decidable (ValidKey n key) := inferInstanceAs (Decidable (_ ∧ _))

/-- No key is stored in two slots. -/
def NoKeyTwice (m : StringHashMapA T STR_LEN_MAX) : Prop :=
  ∀ p q k, p < m.poolCapacity → q < m.poolCapacity → m.Holds p k → m.Holds q k → p = q

/-- The map after a successful insertion at slot `p`. -/
def store (m : StringHashMapA T STR_LEN_MAX) (p : Nat) (key : CStr) (item : T)
    (h : key.strlen < STR_LEN_MAX) : StringHashMapA T STR_LEN_MAX :=
  { m with
    strPool := Function.update m.strPool p ((m.strPool p).assign key h)
    dataPool := Function.update m.dataPool p item }

@[simp] theorem store_poolCapacity (m : StringHashMapA T STR_LEN_MAX) (p : Nat) (key : CStr)
    (item : T) (h : key.strlen < STR_LEN_MAX) :
    (m.store p key item h).poolCapacity = m.poolCapacity := rfl

@[simp] theorem store_collisionLimit (m : StringHashMapA T STR_LEN_MAX) (p : Nat) (key : CStr)
    (item : T) (h : key.strlen < STR_LEN_MAX) :
    (m.store p key item h).collisionLimit = m.collisionLimit := rfl

@[simp] theorem clearSlot_poolCapacity (m : StringHashMapA T STR_LEN_MAX) (p : Nat) :
    (m.clearSlot p).poolCapacity = m.poolCapacity := rfl

@[simp] theorem clearSlot_collisionLimit (m : StringHashMapA T STR_LEN_MAX) (p : Nat) :
    (m.clearSlot p).collisionLimit = m.collisionLimit := rfl

theorem holds_store {m : StringHashMapA T STR_LEN_MAX} {p q : Nat} {key k : CStr} {item : T}
    (hk : ValidKey STR_LEN_MAX key) :
    (m.store p key item hk.2).Holds q k ↔ (q = p ∧ k = key) ∨ (q ≠ p ∧ m.Holds q k) := by
  by_cases hq : q = p
  · subst hq
    simp [Holds, store, hk.1, eq_comm]
  · simp [Holds, store, hq]

theorem dataPool_store {m : StringHashMapA T STR_LEN_MAX} {p q : Nat} {key : CStr} {item : T}
    {h : key.strlen < STR_LEN_MAX} :
    (m.store p key item h).dataPool q = if q = p then item else m.dataPool q := by
  simp [store, Function.update_apply]

theorem holds_clearSlot {m : StringHashMapA T STR_LEN_MAX} {p q : Nat} {k : CStr} :
    (m.clearSlot p).Holds q k ↔ q ≠ p ∧ m.Holds q k := by
  by_cases hq : q = p
  · subst hq
    simp [Holds, clearSlot]
  · simp [Holds, clearSlot, hq]

theorem Holds.key_unique {m : StringHashMapA T STR_LEN_MAX} {p : Nat} {k k' : CStr}
    (h : m.Holds p k) (h' : m.Holds p k') : k = k' := h.2.symm.trans h'.2

section Runs

variable (H : CStr → UInt64 → UInt64)

/-- The `i`-th slot that the loops try for `key`. -/
def window (m : StringHashMapA T STR_LEN_MAX) (key : CStr) (i : Nat) : Nat :=
  slot m.poolCapacity (m.home H key) i

/-- `key` is in its collision window, but an empty slot comes before it. -/
def BehindHole (m : StringHashMapA T STR_LEN_MAX) (key : CStr) : Prop :=
  ∃ j, j < m.collisionLimit ∧ (m.strPool (m.window H key j)).getLen = 0 ∧
    (∀ i, i < j → ¬ m.Holds (m.window H key i) key) ∧
    ∃ i, i < m.collisionLimit ∧ m.Holds (m.window H key i) key

/-- The condition on a call: an insertion does not have its key behind a hole. -/
def NotMasked (m : StringHashMapA T STR_LEN_MAX) : Call T → Prop
  | .insert k _ => ¬ m.BehindHole H k
  | _ => True

/-- The calls on `m` show the outcomes of a partial map that starts empty, and no key is ever
stored in two slots. -/
def IsPartialMapRun (m : StringHashMapA T STR_LEN_MAX) (calls : List (Call T)) : Prop :=
  Conforms (fun _ => none) (events (step H) m calls) ∧ Throughout (step H) NoKeyTwice m calls

structure Represents (m : StringHashMapA T STR_LEN_MAX) (d : CStr → Option T) : Prop where
  cap_pos : 0 < m.poolCapacity
  in_window : ∀ p k, p < m.poolCapacity → m.Holds p k →
    ∃ i, i < m.collisionLimit ∧ p = m.window H k i
  once : m.NoKeyTwice
  graph : ∀ k v, d k = some v ↔ ∃ p, p < m.poolCapacity ∧ m.Holds p k ∧ m.dataPool p = v

variable {H}

theorem home_lt {m : StringHashMapA T STR_LEN_MAX} (hcap : 0 < m.poolCapacity) (k : CStr) :
    m.home H k < m.poolCapacity := Nat.mod_lt _ hcap

theorem window_lt {m : StringHashMapA T STR_LEN_MAX} (hcap : 0 < m.poolCapacity) (k : CStr)
    (i : Nat) : m.window H k i < m.poolCapacity := slot_lt hcap _ _

theorem insertVerdict_eq_none {m : StringHashMapA T STR_LEN_MAX} {k : CStr} {p : Nat} :
    m.insertVerdict k p = none ↔ (m.strPool p).getLen ≠ 0 ∧ ¬ m.Holds p k := by
  simp only [insertVerdict, Holds]
  split
  · simp_all
  · split <;> simp_all

theorem findVerdict_eq_none {m : StringHashMapA T STR_LEN_MAX} {k : CStr} {p : Nat} :
    m.findVerdict k p = none ↔ ¬ m.Holds p k := by simp [findVerdict]

/-- What `TryInsert` of a valid key can do. -/
theorem tryInsert_cases {m : StringHashMapA T STR_LEN_MAX} (hcap : 0 < m.poolCapacity) {k : CStr}
    (hk : ValidKey STR_LEN_MAX k) (v : T) :
    (∃ i, i < m.collisionLimit ∧ m.Holds (m.window H k i) k ∧
      (∀ j, j < i → (m.strPool (m.window H k j)).getLen ≠ 0) ∧
      m.tryInsert H k v = (.keyAlreadyExist, m)) ∨
    ((∀ i, i < m.collisionLimit →
        (m.strPool (m.window H k i)).getLen ≠ 0 ∧ ¬ m.Holds (m.window H k i) k) ∧
      m.tryInsert H k v = (.collisionLimit, m)) ∨
    (∃ i, i < m.collisionLimit ∧ (m.strPool (m.window H k i)).getLen = 0 ∧
      (∀ j, j < i → (m.strPool (m.window H k j)).getLen ≠ 0 ∧ ¬ m.Holds (m.window H k j) k) ∧
      m.tryInsert H k v = (.success, m.store (m.window H k i) k v hk.2)) := by
  have hv : ¬ (k.strlen = 0 ∨ STR_LEN_MAX ≤ k.strlen) := by
    have := hk.1; have := hk.2; omega
  cases hp : probe m.poolCapacity (m.insertVerdict k) m.collisionLimit (m.home H k) with
  | none =>
    right; left
    rw [probe_eq_none hcap _ _ (home_lt hcap k)] at hp
    refine ⟨fun i hi => insertVerdict_eq_none.mp (hp i hi), ?_⟩
    rw [← probe_eq_none hcap _ _ (home_lt hcap k)] at hp
    simp [tryInsert, hv, hp]
  | some r =>
    have hp' := hp
    rw [probe_eq_some hcap _ _ (home_lt hcap k)] at hp'
    obtain ⟨i, hi, hr, hbefore⟩ := hp'
    simp only [insertVerdict] at hr
    split at hr
    · rename_i hempty
      right; right
      cases hr
      refine ⟨i, hi, hempty, fun j hj => insertVerdict_eq_none.mp (hbefore j hj), ?_⟩
      simp [tryInsert, hv, hp, store, window]
    · rename_i hused
      split at hr
      · rename_i heq
        left
        cases hr
        refine ⟨i, hi, ⟨hused, heq⟩, fun j hj => (insertVerdict_eq_none.mp (hbefore j hj)).1, ?_⟩
        simp [tryInsert, hv, hp]
      · cases hr

/-- What `TryFindIndex` of a valid key can do. -/
theorem tryFindIndex_cases {m : StringHashMapA T STR_LEN_MAX} (hcap : 0 < m.poolCapacity)
    {k : CStr} (hk : ValidKey STR_LEN_MAX k) (outIdx : Nat) :
    (∃ i, i < m.collisionLimit ∧ m.Holds (m.window H k i) k ∧
      m.tryFindIndex H k outIdx = (.success, m.window H k i)) ∨
    ((∀ i, i < m.collisionLimit → ¬ m.Holds (m.window H k i) k) ∧
      m.tryFindIndex H k outIdx = (.resultNotFound, SS_UINT32_MAX)) := by
  have hv : ¬ (k.strlen = 0 ∨ STR_LEN_MAX ≤ k.strlen) := by
    have := hk.1; have := hk.2; omega
  cases hp : probe m.poolCapacity (m.findVerdict k) m.collisionLimit (m.home H k) with
  | none =>
    right
    refine ⟨fun i hi => ?_, by simp [tryFindIndex, hv, hp]⟩
    rw [probe_eq_none hcap _ _ (home_lt hcap k)] at hp
    exact findVerdict_eq_none.mp (hp i hi)
  | some p =>
    left
    have hp' := hp
    rw [probe_eq_some hcap _ _ (home_lt hcap k)] at hp'
    obtain ⟨i, hi, hr, _⟩ := hp'
    simp only [findVerdict] at hr
    split at hr
    · rename_i hheld
      cases hr
      exact ⟨i, hi, hheld, by simp [tryFindIndex, hv, hp, window]⟩
    · cases hr

namespace Represents

variable {m : StringHashMapA T STR_LEN_MAX} {d : CStr → Option T}

theorem held_iff (h : m.Represents H d) (k : CStr) :
    d k ≠ none ↔ ∃ p, p < m.poolCapacity ∧ m.Holds p k := by
  constructor
  · intro hd
    obtain ⟨v, hv⟩ := Option.ne_none_iff_exists'.mp hd
    obtain ⟨p, hp, hh, _⟩ := (h.graph k v).mp hv
    exact ⟨p, hp, hh⟩
  · rintro ⟨p, hp, hh⟩
    rw [(h.graph k _).mpr ⟨p, hp, hh, rfl⟩]
    simp

/-- A key of the map is met somewhere in its window. -/
theorem in_window_of_ne_none (h : m.Represents H d) {k : CStr} (hd : d k ≠ none) :
    ∃ i, i < m.collisionLimit ∧ m.Holds (m.window H k i) k := by
  obtain ⟨p, hp, hh⟩ := (h.held_iff k).mp hd
  obtain ⟨i, hi, rfl⟩ := h.in_window p k hp hh
  exact ⟨i, hi, hh⟩

theorem ne_none_of_window (h : m.Represents H d) {k : CStr} {i : Nat}
    (hh : m.Holds (m.window H k i) k) : d k ≠ none :=
  (h.held_iff k).mpr ⟨_, window_lt h.cap_pos k i, hh⟩

/-- `TryFindIndex` is exact. -/
theorem tryFindIndex_exact (h : m.Represents H d) {k : CStr} (hk : ValidKey STR_LEN_MAX k)
    (outIdx : Nat) :
    (∃ p, m.tryFindIndex H k outIdx = (.success, p) ∧ p < m.poolCapacity ∧ m.Holds p k ∧
      d k = some (m.dataPool p)) ∨
    (m.tryFindIndex H k outIdx = (.resultNotFound, SS_UINT32_MAX) ∧ d k = none) := by
  rcases tryFindIndex_cases (H := H) h.cap_pos hk outIdx with ⟨i, hi, hh, hr⟩ | ⟨hno, hr⟩
  · have hlt := window_lt (H := H) h.cap_pos k i
    exact .inl ⟨_, hr, hlt, hh, (h.graph k _).mpr ⟨_, hlt, hh, rfl⟩⟩
  · refine .inr ⟨hr, ?_⟩
    by_contra hd
    obtain ⟨i, hi, hh⟩ := h.in_window_of_ne_none hd
    exact hno i hi hh

theorem store (h : m.Represents H d) {k : CStr} (hk : ValidKey STR_LEN_MAX k) (v : T) {i : Nat}
    (hi : i < m.collisionLimit) (hempty : (m.strPool (m.window H k i)).getLen = 0)
    (hd : d k = none) :
    (m.store (m.window H k i) k v hk.2).Represents H (Function.update d k (some v)) := by
  have hlt := window_lt (H := H) h.cap_pos k i
  have hfree : ∀ q, q < m.poolCapacity → ¬ m.Holds q k := by
    intro q hq hh
    exact (h.held_iff k).mpr ⟨q, hq, hh⟩ hd
  refine ⟨h.cap_pos, ?_, ?_, ?_⟩
  · intro p k' hp hh
    rcases (holds_store hk).mp hh with ⟨rfl, rfl⟩ | ⟨_, hh⟩
    · exact ⟨i, hi, rfl⟩
    · exact h.in_window p k' hp hh
  · intro p q k' hp hq hhp hhq
    rcases (holds_store hk).mp hhp with ⟨rfl, rfl⟩ | ⟨hpne, hhp⟩ <;>
      rcases (holds_store hk).mp hhq with ⟨rfl, hk'⟩ | ⟨hqne, hhq⟩
    · rfl
    · exact absurd hhq (hfree q hq)
    · exact absurd (hk' ▸ hhp) (hfree p hp)
    · exact h.once p q k' hp hq hhp hhq
  · intro k' v'
    by_cases hkk : k' = k
    · subst hkk
      simp only [Function.update_self, Option.some.injEq]
      constructor
      · rintro rfl
        exact ⟨_, hlt, (holds_store hk).mpr (.inl ⟨rfl, rfl⟩), by simp [dataPool_store]⟩
      · rintro ⟨p, hp, hh, rfl⟩
        rcases (holds_store hk).mp hh with ⟨rfl, _⟩ | ⟨_, hh⟩
        · simp [dataPool_store]
        · exact absurd hh (hfree p hp)
    · rw [Function.update_of_ne hkk, h.graph k' v']
      constructor
      · rintro ⟨p, hp, hh, rfl⟩
        have hne : p ≠ m.window H k i := by
          rintro rfl
          exact hh.1 hempty
        exact ⟨p, hp, (holds_store hk).mpr (.inr ⟨hne, hh⟩), by simp [dataPool_store, hne]⟩
      · rintro ⟨p, hp, hh, rfl⟩
        rcases (holds_store hk).mp hh with ⟨_, hk'⟩ | ⟨hne, hh⟩
        · exact absurd hk' hkk
        · exact ⟨p, hp, hh, by simp [dataPool_store, hne]⟩

theorem clearSlot (h : m.Represents H d) {k : CStr} {p : Nat} (hp : p < m.poolCapacity)
    (hh : m.Holds p k) : (m.clearSlot p).Represents H (Function.update d k none) := by
  refine ⟨h.cap_pos, ?_, ?_, ?_⟩
  · intro q k' hq hhq
    exact h.in_window q k' hq (holds_clearSlot.mp hhq).2
  · intro q r k' hq hr hhq hhr
    exact h.once q r k' hq hr (holds_clearSlot.mp hhq).2 (holds_clearSlot.mp hhr).2
  · intro k' v'
    by_cases hkk : k' = k
    · subst hkk
      simp only [Function.update_self, reduceCtorEq, false_iff]
      rintro ⟨q, hq, hhq, _⟩
      obtain ⟨hne, hhq⟩ := holds_clearSlot.mp hhq
      exact hne (h.once q p k' hq hp hhq hh)
    · rw [Function.update_of_ne hkk, h.graph k' v']
      constructor
      · rintro ⟨q, hq, hhq, rfl⟩
        have hne : q ≠ p := by
          rintro rfl
          exact hkk (hhq.key_unique hh)
        exact ⟨q, hq, holds_clearSlot.mpr ⟨hne, hhq⟩, rfl⟩
      · rintro ⟨q, hq, hhq, rfl⟩
        exact ⟨q, hq, (holds_clearSlot.mp hhq).2, rfl⟩

end Represents

theorem new_represents (raw : Nat → T) {cap : Nat} (hcap : 0 < cap) (limit : Nat) (seed : UInt64) :
    (new raw cap limit seed : StringHashMapA T STR_LEN_MAX).Represents H (fun _ => none) := by
  have hno : ∀ p k, ¬ (new raw cap limit seed : StringHashMapA T STR_LEN_MAX).Holds p k := by
    intro p k hh
    exact hh.1 rfl
  refine ⟨hcap, fun p k _ hh => absurd hh (hno p k), fun p q k _ _ hh => absurd hh (hno p k), ?_⟩
  intro k v
  simp only [reduceCtorEq, false_iff]
  rintro ⟨p, _, hh, _⟩
  exact hno p k hh

/-- The insertion step: right when its key is not behind a hole. -/
theorem insert_step {m : StringHashMapA T STR_LEN_MAX} {d : CStr → Option T}
    (h : m.Represents H d) {k : CStr} (hk : ValidKey STR_LEN_MAX k) (v : T)
    (hgood : ¬ m.BehindHole H k) :
    (step H m (.insert k v)).2.Allowed d ∧
      (step H m (.insert k v)).1.Represents H ((step H m (.insert k v)).2.effect d) := by
  rcases tryInsert_cases (H := H) h.cap_pos hk v with
    ⟨i, hi, hh, _, hr⟩ | ⟨hno, hr⟩ | ⟨i, hi, hempty, hbefore, hr⟩
  · have hd : d k ≠ none := h.ne_none_of_window hh
    simp only [step, hr, insertEvent, Event.Allowed, Event.effect]
    exact ⟨hd, h⟩
  · simp only [step, hr, insertEvent, Event.Allowed, Event.effect]
    refine ⟨?_, h⟩
    by_contra hd
    obtain ⟨i, hi, hh⟩ := h.in_window_of_ne_none hd
    exact (hno i hi).2 hh
  · have hd : d k = none := by
      by_contra hd
      exact hgood ⟨i, hi, hempty, fun j hj => (hbefore j hj).2, h.in_window_of_ne_none hd⟩
    simp only [step, hr, insertEvent, Event.Allowed, Event.effect]
    exact ⟨hd, h.store hk v hi hempty hd⟩

/-- Behind a hole the loop breaks before it meets the key, so the insertion succeeds. -/
theorem insert_masked {m : StringHashMapA T STR_LEN_MAX} {d : CStr → Option T}
    (h : m.Represents H d) {k : CStr} (hk : ValidKey STR_LEN_MAX k) (v : T)
    (hbad : m.BehindHole H k) : ¬ (step H m (.insert k v)).2.Allowed d := by
  obtain ⟨j, hj, hhole, hbefore, i', hi', hh'⟩ := hbad
  have hd : d k ≠ none := h.ne_none_of_window hh'
  rcases tryInsert_cases (H := H) h.cap_pos hk v with
    ⟨i, hi, hh, hused, _⟩ | ⟨hno, _⟩ | ⟨i, hi, hempty, _, hr⟩
  · rcases Nat.lt_trichotomy i j with hij | rfl | hij
    · exact absurd hh (hbefore i hij)
    · exact absurd hhole hh.1
    · exact absurd hhole (hused j hij)
  · exact absurd hhole (hno j hj).1
  · simp only [step, hr, insertEvent, Event.Allowed]
    exact hd

theorem step_good {m : StringHashMapA T STR_LEN_MAX} {d : CStr → Option T} (c : Call T)
    (hk : ValidKey STR_LEN_MAX c.key) (h : m.Represents H d) (hgood : m.NotMasked H c) :
    (step H m c).2.Allowed d ∧ (step H m c).1.Represents H ((step H m c).2.effect d) := by
  cases c with
  | insert k v => exact insert_step h hk v hgood
  | erase k =>
    have hk : ValidKey STR_LEN_MAX k := hk
    rcases h.tryFindIndex_exact hk 0 with ⟨p, hr, hp, hh, hd⟩ | ⟨hr, hd⟩
    · simp only [step, tryErase, hr, eraseEvent, Event.Allowed, Event.effect]
      exact ⟨by simp [hd], h.clearSlot hp hh⟩
    · simp only [step, tryErase, hr, eraseEvent, Event.Allowed, Event.effect]
      exact ⟨hd, h⟩
  | eraseOut k v =>
    have hk : ValidKey STR_LEN_MAX k := hk
    rcases h.tryFindIndex_exact hk 0 with ⟨p, hr, hp, hh, hd⟩ | ⟨hr, hd⟩
    · simp only [step, tryEraseOut, hr, eraseEvent, Event.Allowed, Event.effect]
      exact ⟨by simp [hd], h.clearSlot hp hh⟩
    · simp only [step, tryEraseOut, hr, eraseEvent, Event.Allowed, Event.effect]
      exact ⟨hd, h⟩
  | find k v =>
    have hk : ValidKey STR_LEN_MAX k := hk
    rcases h.tryFindIndex_exact hk 0 with ⟨p, hr, hp, hh, hd⟩ | ⟨hr, hd⟩
    · simp only [step, tryFind, hr, findEvent, Event.Allowed, Event.effect]
      exact ⟨hd, h⟩
    · simp only [step, tryFind, hr, findEvent, Event.Allowed, Event.effect]
      exact ⟨hd, h⟩

theorem step_bad {m : StringHashMapA T STR_LEN_MAX} {d : CStr → Option T} (c : Call T)
    (hk : ValidKey STR_LEN_MAX c.key) (h : m.Represents H d) (hbad : ¬ m.NotMasked H c) :
    ¬ (step H m c).2.Allowed d := by
  cases c with
  | insert k v => exact insert_masked h hk v (not_not.mp hbad)
  | erase k => exact absurd trivial hbad
  | eraseOut k v => exact absurd trivial hbad
  | find k v => exact absurd trivial hbad

/-- A run with valid keys from a fresh map is a run of a finite partial map exactly when every
insertion is made in a state where its key is not behind a hole. -/
theorem run_partial_map_iff (H : CStr → UInt64 → UInt64) (raw : Nat → T) {cap : Nat}
    (hcap : 0 < cap) (limit : Nat) (seed : UInt64) (calls : List (Call T))
    (hkeys : ∀ c ∈ calls, ValidKey STR_LEN_MAX c.key) :
    (new raw cap limit seed : StringHashMapA T STR_LEN_MAX).IsPartialMapRun H calls ↔
      EachStep (step H) (NotMasked H)
        (new raw cap limit seed : StringHashMapA T STR_LEN_MAX) calls := by
  have h0 : (new raw cap limit seed : StringHashMapA T STR_LEN_MAX).Represents H
      (fun _ => none) := new_represents raw hcap limit seed
  have hiff := conforms_iff (R := Represents H) (G := NotMasked H)
    (P := fun c => ValidKey STR_LEN_MAX c.key)
    (fun m d c hk h hg => step_good c hk h hg) (fun m d c hk h hb => step_bad c hk h hb)
    calls _ _ hkeys h0
  constructor
  · intro h
    exact hiff.mp h.1
  · intro h
    refine ⟨hiff.mpr h, ?_⟩
    exact throughout_of_eachStep (R := Represents H) (G := NotMasked H)
      (P := fun c => ValidKey STR_LEN_MAX c.key)
      (fun m d c hk h hg => step_good c hk h hg) (fun m d h => h.once) calls _ _ hkeys h0 h

/-- Two keys with one home slot: erasing the first leaves a hole before the second. -/
def maskedCalls : List (Call Nat) :=
  [.insert ⟨[65], by decide⟩ 1, .insert ⟨[66], by decide⟩ 2, .erase ⟨[65], by decide⟩,
    .insert ⟨[66], by decide⟩ 3]

/-- The key `"A"`. -/
def keyA : CStr := ⟨[65], by decide⟩

/-- The key `"B"`. -/
def keyB : CStr := ⟨[66], by decide⟩

/-- The last insertion of `maskedCalls` answers `Success` for a key that is present. -/
theorem masked_run_not_partial_map :
    ¬ (new (fun _ => 0) 2 10 0 : StringHashMapA Nat 4).IsPartialMapRun (fun _ _ => 0)
      maskedCalls := by
  intro h
  have hc := h.1
  revert hc
  decide

theorem run_partial_map_iff_masked :
    (0 < 2 ∧ ∀ c ∈ maskedCalls, ValidKey 4 c.key) ∧
      ((new (fun _ => 0) 2 10 0 : StringHashMapA Nat 4).IsPartialMapRun (fun _ _ => 0)
          (maskedCalls.take 3) ↔
        EachStep (step fun _ _ => 0) (NotMasked fun _ _ => 0)
          (new (fun _ => 0) 2 10 0 : StringHashMapA Nat 4) (maskedCalls.take 3)) :=
  ⟨by decide, run_partial_map_iff (fun _ _ => 0) (fun _ => 0) (by decide) 10 0
    (maskedCalls.take 3) (by decide)⟩

end Runs

end StringHashMapA
end SS
end FBXRenderer
