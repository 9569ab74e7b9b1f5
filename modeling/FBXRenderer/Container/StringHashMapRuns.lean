import FBXRenderer.Container.StringHashMapRebuild

/-!
# FBXRenderer.Container.StringHashMapRuns

Runs of `StringHashMapA` with rebuilds, from a fresh map.

* `run_window_invariant`: in every state of a run, used slots lie in the windows of their keys, so
  `TryFindIndex` finds exactly the keys that some slot holds. Erasures may leave holes and later
  insertions may store a key twice; the window invariant does not care.
* `erase_free_run`: without erasures no empty slot ever comes between a key and its home
  (`NoGap`), so `TryInsert` is never wrong about a key.
-/

namespace FBXRenderer
namespace SS
namespace StringHashMapA

open Probe Dictionary

variable {T : Type} {STR_LEN_MAX : Nat}

/-- A call of a client, or a rebuild. -/
inductive Op (T : Type) where
  | call (c : Call T)
  | rebuild (newRaw : Nat → T) (newPoolCapacity newCollisionLimit : Nat) (newSeed : UInt64)

/-- New capacities are positive. -/
def Op.CapPos : Op T → Prop
  | .call _ => True
  | .rebuild _ newPoolCapacity _ _ => 0 < newPoolCapacity

def Op.EraseFree : Op T → Prop
  | .call (.erase _) | .call (.eraseOut _ _) => False
  | _ => True

section Run

variable (H : CStr → UInt64 → UInt64)

/-- The map after an operation, and what the client saw of a call. -/
def opStep (m : StringHashMapA T STR_LEN_MAX) :
    Op T → Option (StringHashMapA T STR_LEN_MAX × List (Event CStr T))
  | .call c =>
    let r := step H m c
    some (r.1, [r.2])
  | .rebuild newRaw newPoolCapacity newCollisionLimit newSeed =>
    (m.tryRebuild H newRaw newPoolCapacity newCollisionLimit newSeed).map fun r => (r.2, [])

/-- The state after a run, and the outcomes of its calls; `none` is a failed assertion. -/
def run : StringHashMapA T STR_LEN_MAX → List (Op T) →
    Option (StringHashMapA T STR_LEN_MAX × List (Event CStr T))
  | m, [] => some (m, [])
  | m, op :: ops => do
    let (m, es) ← opStep H m op
    let (m, es') ← run m ops
    some (m, es ++ es')

variable {H}

theorem opStep_rebuild {m m' : StringHashMapA T STR_LEN_MAX} {newRaw : Nat → T}
    {newCap newLimit : Nat} {newSeed : UInt64} {ok : Bool}
    (h : m.tryRebuild H newRaw newCap newLimit newSeed = some (ok, m')) :
    opStep H m (.rebuild newRaw newCap newLimit newSeed) = some (m', []) := by
  show (m.tryRebuild H newRaw newCap newLimit newSeed).map _ = _
  rw [h]
  rfl

/-- The run rule: an invariant on the state and on the outcomes so far. -/
theorem run_ok {I : StringHashMapA T STR_LEN_MAX → List (Event CStr T) → Prop} {P : Op T → Prop}
    (hstep : ∀ m es op, P op → I m es → ∃ m' es', opStep H m op = some (m', es') ∧
      I m' (es ++ es')) :
    ∀ (ops : List (Op T)) (m : StringHashMapA T STR_LEN_MAX) (es : List (Event CStr T)),
      (∀ op ∈ ops, P op) → I m es → ∃ m' es', run H m ops = some (m', es') ∧ I m' (es ++ es') := by
  intro ops
  induction ops with
  | nil =>
    intro m es _ hI
    exact ⟨m, [], rfl, by rw [List.append_nil]; exact hI⟩
  | cons op ops ih =>
    intro m es hP hI
    obtain ⟨m1, es1, hr1, hI1⟩ := hstep m es op (hP op (List.mem_cons_self ..)) hI
    obtain ⟨m2, es2, hr2, hI2⟩ := ih m1 (es ++ es1)
      (fun o ho => hP o (List.mem_cons_of_mem _ ho)) hI1
    refine ⟨m2, es1 ++ es2, ?_, by rw [← List.append_assoc]; exact hI2⟩
    unfold run
    rw [hr1]
    simp only [Option.bind_eq_bind, Option.bind_some, hr2]

end Run

section Invalid

variable {H : CStr → UInt64 → UInt64}

theorem tryInsert_invalid {m : StringHashMapA T STR_LEN_MAX} {k : CStr}
    (hk : ¬ ValidKey STR_LEN_MAX k) (v : T) : m.tryInsert H k v = (.invalidStrKey, m) := by
  unfold tryInsert
  rw [dif_pos]
  unfold ValidKey at hk
  omega

/-- An insertion brings in its own key at most. -/
theorem holds_tryInsert {m : StringHashMapA T STR_LEN_MAX} {key k : CStr} {item : T} {p : Nat}
    (h : (m.tryInsert H key item).2.Holds p k) : m.Holds p k ∨ k = key := by
  by_cases hvalid : ValidKey STR_LEN_MAX key
  · unfold tryInsert at h
    split at h
    · exact Or.inl h
    · split at h
      · exact Or.inl h
      · exact Or.inl h
      · rename_i q _
        have hstore : (m.store q key item hvalid.2).Holds p k := h
        obtain ⟨_, hk⟩ | ⟨_, hp⟩ := (holds_store hvalid).mp hstore
        · exact Or.inr hk
        · exact Or.inl hp
  · rw [tryInsert_invalid hvalid] at h
    exact Or.inl h

theorem holds_of_keyAlreadyExist {m : StringHashMapA T STR_LEN_MAX} {key : CStr} {item : T}
    (h : (m.tryInsert H key item).1 = .keyAlreadyExist) : ∃ p, m.Holds p key := by
  unfold tryInsert at h
  split at h
  · cases h
  · split at h
    · cases h
    · rename_i r hprobe
      obtain ⟨p, hp⟩ := Probe.exists_verdict _ hprobe
      unfold insertVerdict at hp
      split at hp
      · cases hp
      · rename_i hlen
        split at hp
        · rename_i hkey
          exact ⟨p, hlen, hkey⟩
        · cases hp
    · cases h

/-- `TryErase` leaves the map as it is, or clears one slot. -/
theorem tryErase_state (m : StringHashMapA T STR_LEN_MAX) (k : CStr) :
    (m.tryErase H k).2 = m ∨ ∃ p, (m.tryErase H k).2 = m.clearSlot p := by
  unfold tryErase
  split
  · exact Or.inl rfl
  · exact Or.inl rfl
  · exact Or.inr ⟨_, rfl⟩

theorem tryEraseOut_state (m : StringHashMapA T STR_LEN_MAX) (k : CStr) (out : T) :
    (m.tryEraseOut H k out).2.2 = m ∨ ∃ p, (m.tryEraseOut H k out).2.2 = m.clearSlot p := by
  unfold tryEraseOut
  split
  · exact Or.inl rfl
  · exact Or.inl rfl
  · exact Or.inr ⟨_, rfl⟩

end Invalid

section Window

variable {H : CStr → UInt64 → UInt64}

/-- What every operation keeps. -/
structure WindowState (H : CStr → UInt64 → UInt64) (m : StringHashMapA T STR_LEN_MAX) : Prop where
  cap_pos : 0 < m.poolCapacity
  terminated : m.Terminated
  in_window : m.InWindow H

theorem new_windowState (raw : Nat → T) {cap : Nat} (hcap : 0 < cap) (limit : Nat)
    (seed : UInt64) : WindowState H (new raw cap limit seed : StringHashMapA T STR_LEN_MAX) :=
  ⟨hcap, new_terminated _ _ _ _, fun _ _ _ hh => absurd rfl hh.1⟩

theorem WindowState.store {m : StringHashMapA T STR_LEN_MAX} (h : WindowState H m) {k : CStr}
    (hk : ValidKey STR_LEN_MAX k) (item : T) {i : Nat} (hi : i < m.collisionLimit) :
    WindowState H (m.store (m.window H k i) k item hk.2) where
  cap_pos := h.cap_pos
  terminated := h.terminated.store _ _ _ _
  in_window := by
    intro p k' hp hh
    rcases (holds_store hk).mp hh with ⟨rfl, rfl⟩ | ⟨_, hh⟩
    · exact ⟨i, hi, rfl⟩
    · exact h.in_window p k' hp hh

theorem WindowState.clearSlot {m : StringHashMapA T STR_LEN_MAX} (h : WindowState H m) (p : Nat) :
    WindowState H (m.clearSlot p) where
  cap_pos := h.cap_pos
  terminated := h.terminated.clearSlot p
  in_window := fun q k' hq hh => h.in_window q k' hq (holds_clearSlot.mp hh).2

theorem WindowState.tryInsert {m : StringHashMapA T STR_LEN_MAX} (h : WindowState H m) (k : CStr)
    (v : T) : WindowState H (m.tryInsert H k v).2 := by
  by_cases hk : ValidKey STR_LEN_MAX k
  · rcases tryInsert_cases (H := H) h.cap_pos hk v with
      ⟨_, _, _, _, hr⟩ | ⟨_, hr⟩ | ⟨i, hi, _, _, hr⟩
    · rw [hr]
      exact h
    · rw [hr]
      exact h
    · rw [hr]
      exact h.store hk v hi
  · rw [tryInsert_invalid hk]
    exact h

theorem WindowState.tryRebuild {m : StringHashMapA T STR_LEN_MAX} (h : WindowState H m)
    (newRaw : Nat → T) {newCap : Nat} (hcap : 0 < newCap) (newLimit : Nat) (newSeed : UInt64) :
    ∃ ok m', m.tryRebuild H newRaw newCap newLimit newSeed = some (ok, m') ∧ WindowState H m' := by
  rcases tryRebuild_cases (I := fun _ n => WindowState H n) h.terminated newRaw hcap newLimit
    newSeed (new_windowState newRaw hcap newLimit newSeed) (fun _ _ hn _ => hn)
    (fun i n k hk j _ hn _ _ hj _ _ => hn.store hk (m.dataPool i) hj) with ⟨m', hr, hm', _⟩ | hr
  · exact ⟨true, m', hr, hm'⟩
  · exact ⟨false, m, hr, h⟩

theorem WindowState.opStep {m : StringHashMapA T STR_LEN_MAX} (h : WindowState H m) (op : Op T)
    (hcap : op.CapPos) : ∃ m' es, opStep H m op = some (m', es) ∧ WindowState H m' := by
  cases op with
  | call c =>
    refine ⟨_, _, rfl, ?_⟩
    cases c with
    | insert k v => exact h.tryInsert k v
    | erase k =>
      show WindowState H (m.tryErase H k).2
      rcases tryErase_state (H := H) m k with he | ⟨p, he⟩
      · rw [he]
        exact h
      · rw [he]
        exact h.clearSlot p
    | eraseOut k v =>
      show WindowState H (m.tryEraseOut H k v).2.2
      rcases tryEraseOut_state (H := H) m k v with he | ⟨p, he⟩
      · rw [he]
        exact h
      · rw [he]
        exact h.clearSlot p
    | find k v => exact h
  | rebuild newRaw newCap newLimit newSeed =>
    obtain ⟨ok, m', hr, hm'⟩ := h.tryRebuild newRaw hcap newLimit newSeed
    exact ⟨m', [], opStep_rebuild hr, hm'⟩

/-- Where the window invariant holds, a lookup finds a key exactly when some slot holds it. -/
theorem WindowState.tryFindIndex_exact {m : StringHashMapA T STR_LEN_MAX} (h : WindowState H m)
    (k : CStr) (outIdx : Nat) :
    (∀ p, p < m.poolCapacity → m.Holds p k → ∃ idx, m.tryFindIndex H k outIdx = (.success, idx) ∧
      idx < m.poolCapacity ∧ m.Holds idx k) ∧
    (ValidKey STR_LEN_MAX k → (∀ p, p < m.poolCapacity → ¬ m.Holds p k) →
      m.tryFindIndex H k outIdx = (.resultNotFound, SS_UINT32_MAX)) := by
  constructor
  · intro p hp hh
    have hk := h.terminated.validKey hp hh
    rcases tryFindIndex_cases (H := H) h.cap_pos hk outIdx with ⟨i, _, hhi, hr⟩ | ⟨hno, _⟩
    · exact ⟨_, hr, window_lt h.cap_pos k i, hhi⟩
    · obtain ⟨i, hi, rfl⟩ := h.in_window p k hp hh
      exact absurd hh (hno i hi)
  · intro hk hfree
    rcases tryFindIndex_cases (H := H) h.cap_pos hk outIdx with ⟨i, _, hhi, _⟩ | ⟨_, hr⟩
    · exact absurd hhi (hfree _ (window_lt h.cap_pos k i))
    · exact hr

/-- In every state of a run from a fresh map, every used slot lies in the window of its key, and
`TryFindIndex` is exact about the slots. -/
theorem run_window_invariant (H : CStr → UInt64 → UInt64) (raw : Nat → T) {cap : Nat}
    (hcap : 0 < cap) (limit : Nat) (seed : UInt64) (ops : List (Op T))
    (hops : ∀ op ∈ ops, op.CapPos) :
    ∃ m es, run H (new raw cap limit seed : StringHashMapA T STR_LEN_MAX) ops = some (m, es) ∧
      (∀ p k, p < m.poolCapacity → m.Holds p k →
        ∃ i, i < m.collisionLimit ∧ p = m.window H k i) ∧
      ∀ k outIdx,
        (∀ p, p < m.poolCapacity → m.Holds p k → ∃ idx,
          m.tryFindIndex H k outIdx = (.success, idx) ∧ idx < m.poolCapacity ∧ m.Holds idx k) ∧
        (ValidKey STR_LEN_MAX k → (∀ p, p < m.poolCapacity → ¬ m.Holds p k) →
          m.tryFindIndex H k outIdx = (.resultNotFound, SS_UINT32_MAX)) := by
  obtain ⟨m, es, hr, hm⟩ := run_ok (H := H) (I := fun m _ => WindowState H m) (P := Op.CapPos)
    (fun m _ op hop hm => hm.opStep op hop) ops (new raw cap limit seed) [] hops
    (new_windowState raw hcap limit seed)
  exact ⟨m, es, hr, hm.in_window, fun k outIdx => hm.tryFindIndex_exact k outIdx⟩

/-- `maskedCalls`, and a rebuild of the map that holds one key twice. -/
def rebuildOps : List (Op Nat) := maskedCalls.map Op.call ++ [.rebuild (fun _ => 0) 3 4 1]

theorem run_window_invariant_rebuild :
    ∃ m es, run (fun _ _ => 0) (new (fun _ => 0) 2 10 0 : StringHashMapA Nat 4) rebuildOps =
        some (m, es) ∧
      (∀ p k, p < m.poolCapacity → m.Holds p k →
        ∃ i, i < m.collisionLimit ∧ p = m.window (fun _ _ => 0) k i) ∧
      ∀ k outIdx,
        (∀ p, p < m.poolCapacity → m.Holds p k → ∃ idx,
          m.tryFindIndex (fun _ _ => 0) k outIdx = (.success, idx) ∧ idx < m.poolCapacity ∧
            m.Holds idx k) ∧
        (ValidKey 4 k → (∀ p, p < m.poolCapacity → ¬ m.Holds p k) →
          m.tryFindIndex (fun _ _ => 0) k outIdx = (.resultNotFound, SS_UINT32_MAX)) := by
  refine run_window_invariant (fun _ _ => 0) (fun _ => 0) (by decide) 10 0 rebuildOps ?_
  simp [rebuildOps, maskedCalls, Op.CapPos]

end Window

section NoGap

variable {H : CStr → UInt64 → UInt64}

/-- No empty slot lies between a key and its home. -/
def NoGap (H : CStr → UInt64 → UInt64) (m : StringHashMapA T STR_LEN_MAX) : Prop :=
  ∀ p k, p < m.poolCapacity → m.Holds p k → ∃ i, i < m.collisionLimit ∧ p = m.window H k i ∧
    ∀ j, j < i → (m.strPool (m.window H k j)).getLen ≠ 0

theorem NoGap.store {m : StringHashMapA T STR_LEN_MAX} (h : m.NoGap H) {k : CStr}
    (hk : ValidKey STR_LEN_MAX k) (item : T) {i : Nat} (hi : i < m.collisionLimit)
    (hbefore : ∀ j, j < i → (m.strPool (m.window H k j)).getLen ≠ 0) :
    (m.store (m.window H k i) k item hk.2).NoGap H := by
  -- a store empties no slot
  have hused : ∀ q, (m.strPool q).getLen ≠ 0 →
      ((m.store (m.window H k i) k item hk.2).strPool q).getLen ≠ 0 := by
    intro q hq
    unfold StringHashMapA.store
    by_cases hqp : q = m.window H k i
    · subst hqp
      simp only [Function.update_self, FixedStringA.getLen_assign]
      exact hk.1
    · simp only [Function.update_of_ne hqp]
      exact hq
  intro p k' hp hh
  rcases (holds_store hk).mp hh with ⟨rfl, rfl⟩ | ⟨_, hh⟩
  · exact ⟨i, hi, rfl, fun j hj => hused _ (hbefore j hj)⟩
  · obtain ⟨i', hi', hpi, hbefore'⟩ := h p k' hp hh
    exact ⟨i', hi', hpi, fun j hj => hused _ (hbefore' j hj)⟩

/-- A key without a gap is not behind a hole. -/
theorem NoGap.not_behindHole {m : StringHashMapA T STR_LEN_MAX} (h : m.NoGap H)
    (hcap : 0 < m.poolCapacity) (k : CStr) : ¬ m.BehindHole H k := by
  rintro ⟨j, _, hempty, hfirst, i, _, hh⟩
  obtain ⟨i', _, hwindow, hused⟩ := h _ k (window_lt hcap k i) hh
  rcases Nat.lt_trichotomy i' j with hlt | rfl | hlt
  · exact hfirst i' hlt (hwindow ▸ hh)
  · rw [hwindow] at hh
    exact hh.1 hempty
  · exact hused j hlt hempty

/-- A rebuilt pool has no gaps: every key went to the first empty slot of its window. -/
theorem tryRebuild_noGap {m m' : StringHashMapA T STR_LEN_MAX} (hm : m.Terminated)
    {newRaw : Nat → T} {newCap : Nat} (hcap : 0 < newCap) {newLimit : Nat} {newSeed : UInt64}
    (h : m.tryRebuild H newRaw newCap newLimit newSeed = some (true, m')) : m'.NoGap H := by
  rcases tryRebuild_cases (I := fun _ n => n.NoGap H) hm newRaw hcap newLimit newSeed
    (fun _ _ _ hh => absurd rfl hh.1) (fun _ _ hn _ => hn)
    (fun i n k hk j _ hn _ _ hj _ hbefore => hn.store hk (m.dataPool i) hj hbefore) with
    ⟨n, hr, hn, _⟩ | hr
  · rw [h] at hr
    cases hr
    exact hn
  · rw [h] at hr
    cases hr

/-- The keys of the insertions that succeeded, in their order. -/
def insertedKeys (es : List (Event CStr T)) : List CStr :=
  es.filterMap fun
    | .inserted k _ => some k
    | _ => none

theorem mem_insertedKeys {es : List (Event CStr T)} {k : CStr} :
    k ∈ insertedKeys es ↔ ∃ v, .inserted k v ∈ es := by
  unfold insertedKeys
  rw [List.mem_filterMap]
  constructor
  · rintro ⟨e, he, hk⟩
    cases e with
    | inserted k' v =>
      cases hk
      exact ⟨v, he⟩
    | _ => cases hk
  · rintro ⟨v, hv⟩
    exact ⟨_, hv, rfl⟩

/-- The partial map of a run without erasures, read off its outcomes. -/
def FromEvents (es : List (Event CStr T)) (d : CStr → Option T) : Prop :=
  ∀ k v, d k = some v ↔ .inserted k v ∈ es

/-- One more outcome that is not an erasure. -/
theorem FromEvents.concat {es : List (Event CStr T)} {d : CStr → Option T} (h : FromEvents es d)
    {e : Event CStr T} (hfresh : ∀ k v, e = .inserted k v → d k = none)
    (herase : ∀ k, e ≠ .erased k) :
    FromEvents (es ++ [e]) (e.effect d) := by
  intro k v
  rw [List.mem_append, List.mem_singleton, ← h k v]
  cases e with
  | inserted k' v' =>
    have hnone : d k' = none := hfresh k' v' rfl
    show Function.update d k' (some v') k = some v ↔ _
    by_cases hkk : k = k'
    · subst hkk
      rw [Function.update_self, Option.some_inj, hnone]
      simp only [reduceCtorEq, false_or, Event.inserted.injEq, true_and, eq_comm]
    · rw [Function.update_of_ne hkk]
      simp only [Event.inserted.injEq, hkk, false_and, or_false]
  | erased k' => exact absurd rfl (herase k')
  | _ => simp only [Event.effect, reduceCtorEq, or_false]

/-- What a run without erasures keeps. -/
structure EraseFreeState (H : CStr → UInt64 → UInt64) (m : StringHashMapA T STR_LEN_MAX)
    (es : List (Event CStr T)) : Prop where
  terminated : m.Terminated
  noGap : m.NoGap H
  contents : ∃ d, m.Represents H d ∧ FromEvents es d
  once : (insertedKeys es).Nodup

theorem EraseFreeState.concat {m m' : StringHashMapA T STR_LEN_MAX} {es : List (Event CStr T)}
    (h : EraseFreeState H m es) {e : Event CStr T} (herase : ∀ k, e ≠ .erased k)
    (hterm : m'.Terminated) (hgap : m'.NoGap H)
    (hstep : ∀ d, m.Represents H d →
      (∀ k v, e = .inserted k v → d k = none) ∧ m'.Represents H (e.effect d)) :
    EraseFreeState H m' (es ++ [e]) := by
  obtain ⟨d, hd, hfrom⟩ := h.contents
  obtain ⟨hfresh, hd'⟩ := hstep d hd
  refine ⟨hterm, hgap, ⟨_, hd', hfrom.concat hfresh herase⟩, ?_⟩
  unfold insertedKeys
  rw [List.filterMap_append]
  cases e with
  | inserted k v =>
    -- an insertion succeeds only for a key that is not there
    have hnone : d k = none := hfresh k v rfl
    refine List.nodup_append.mpr ⟨h.once, List.pairwise_singleton _ k, ?_⟩
    rintro a ha b hb rfl
    obtain rfl := List.mem_singleton.mp hb
    obtain ⟨w, hw⟩ := mem_insertedKeys.mp ha
    have hsome := (hfrom a w).mpr hw
    rw [hnone] at hsome
    cases hsome
  | _ => exact (List.append_nil _).symm ▸ h.once

theorem step_invalid (m : StringHashMapA T STR_LEN_MAX) {c : Call T}
    (hk : ¬ ValidKey STR_LEN_MAX c.key) : step H m c = (m, .invalid c.key) := by
  have hfind : ∀ k, c.key = k → m.tryFindIndex H k 0 = (.invalidStrKey, 0) := by
    rintro k rfl
    unfold tryFindIndex
    rw [if_pos]
    unfold ValidKey at hk
    omega
  cases c with
  | insert k v =>
    have hr := tryInsert_invalid (H := H) (m := m) hk v
    unfold Call.key at hr
    simp only [step, hr, insertEvent, Call.key]
  | erase k => simp only [step, tryErase, hfind k rfl, eraseEvent, Call.key]
  | eraseOut k v => simp only [step, tryEraseOut, hfind k rfl, eraseEvent, Call.key]
  | find k v => simp only [step, tryFind, hfind k rfl, findEvent, Call.key]

theorem insertEvent_ne_erased (key : CStr) (item : T) (result : InsertResult) (k : CStr) :
    insertEvent key item result ≠ .erased k := by
  cases result <;> intro h <;> cases h

theorem EraseFreeState.insert {m : StringHashMapA T STR_LEN_MAX} {es : List (Event CStr T)}
    (h : EraseFreeState H m es) (hcap : 0 < m.poolCapacity) {k : CStr}
    (hk : ValidKey STR_LEN_MAX k) (v : T) :
    EraseFreeState H (step H m (.insert k v)).1 (es ++ [(step H m (.insert k v)).2]) := by
  have hstep : ∀ d, m.Represents H d →
      (∀ k' v', (step H m (.insert k v)).2 = .inserted k' v' → d k' = none) ∧
      (step H m (.insert k v)).1.Represents H ((step H m (.insert k v)).2.effect d) := by
    intro d hd
    obtain ⟨hallowed, hd'⟩ := insert_step hd hk v (h.noGap.not_behindHole hcap k)
    exact ⟨fun k' v' he => hallowed.fresh he, hd'⟩
  have hstate : (step H m (.insert k v)).1.Terminated ∧ (step H m (.insert k v)).1.NoGap H := by
    rcases tryInsert_cases (H := H) hcap hk v with
      ⟨_, _, _, _, hr⟩ | ⟨_, hr⟩ | ⟨i, hi, _, hbefore, hr⟩
    · simp only [step, hr]
      exact ⟨h.terminated, h.noGap⟩
    · simp only [step, hr]
      exact ⟨h.terminated, h.noGap⟩
    · simp only [step, hr]
      exact ⟨h.terminated.store _ _ _ _, h.noGap.store hk v hi fun j hj => (hbefore j hj).1⟩
  exact h.concat (insertEvent_ne_erased k v _) hstate.1 hstate.2 hstep

/-- One operation that is not an erasure. -/
theorem EraseFreeState.opStep {m : StringHashMapA T STR_LEN_MAX} {es : List (Event CStr T)}
    (h : EraseFreeState H m es) (op : Op T) (hop : op.CapPos ∧ op.EraseFree) :
    ∃ m' es', opStep H m op = some (m', es') ∧ EraseFreeState H m' (es ++ es') := by
  have hcap : 0 < m.poolCapacity := by
    obtain ⟨d, hd, _⟩ := h.contents
    exact hd.cap_pos
  cases op with
  | call c =>
    refine ⟨_, _, rfl, ?_⟩
    by_cases hk : ValidKey STR_LEN_MAX c.key
    · cases c with
      | insert k v => exact h.insert hcap hk v
      | erase k => exact absurd hop.2 id
      | eraseOut k v => exact absurd hop.2 id
      | find k v =>
        refine h.concat ?_ h.terminated h.noGap fun d hd => ?_
        rotate_left
        · obtain ⟨hallowed, hd'⟩ := step_good (.find k v) hk hd trivial
          exact ⟨fun k' v' he => hallowed.fresh he, hd'⟩
        intro k' he
        show False
        have hev : findEvent k (m.tryFind H k v).2 (m.tryFind H k v).1 = .erased k' := he
        unfold findEvent at hev
        split at hev <;> cases hev
    · rw [step_invalid m hk]
      exact h.concat (fun _ he => nomatch he) h.terminated h.noGap
        fun d hd => ⟨fun _ _ he => (nomatch he), hd⟩
  | rebuild newRaw newCap newLimit newSeed =>
    obtain ⟨d, hd, hfrom⟩ := h.contents
    have hnewCap : 0 < newCap := hop.1
    rcases rebuild_represents hd h.terminated newRaw hnewCap newLimit newSeed with
      ⟨m', hr, hd', hterm, _⟩ | hr
    · refine ⟨m', [], opStep_rebuild hr, ?_⟩
      rw [List.append_nil]
      exact ⟨hterm, tryRebuild_noGap h.terminated hnewCap hr, ⟨d, hd', hfrom⟩, h.once⟩
    · refine ⟨m, [], opStep_rebuild hr, ?_⟩
      rw [List.append_nil]
      exact h

/-- Some slot that `TryInsert` may use for the key is empty. -/
def HasRoom (H : CStr → UInt64 → UInt64) (m : StringHashMapA T STR_LEN_MAX) (k : CStr) : Prop :=
  ∃ i, i < m.collisionLimit ∧ (m.strPool (m.window H k i)).getLen = 0

/-- Without gaps the three outcomes of `TryInsert` are told apart by the partial map. -/
theorem NoGap.tryInsert_outcome {m : StringHashMapA T STR_LEN_MAX} {d : CStr → Option T}
    (h : m.NoGap H) (hd : m.Represents H d) {k : CStr} (hk : ValidKey STR_LEN_MAX k) (v : T) :
    (d k ≠ none ∧ m.tryInsert H k v = (.keyAlreadyExist, m)) ∨
    (d k = none ∧ ¬ m.HasRoom H k ∧ m.tryInsert H k v = (.collisionLimit, m)) ∨
    (d k = none ∧ m.HasRoom H k ∧ (m.tryInsert H k v).1 = .success) := by
  rcases tryInsert_cases (H := H) hd.cap_pos hk v with
    ⟨i, _, hh, _, hr⟩ | ⟨hfull, hr⟩ | ⟨i, hi, hempty, hbefore, hr⟩
  · exact Or.inl ⟨hd.ne_none_of_window hh, hr⟩
  · refine Or.inr (Or.inl ⟨?_, fun ⟨i, hi, hempty⟩ => (hfull i hi).1 hempty, hr⟩)
    by_contra hne
    obtain ⟨i, hi, hh⟩ := hd.in_window_of_ne_none hne
    exact (hfull i hi).2 hh
  · refine Or.inr (Or.inr ⟨?_, ⟨i, hi, hempty⟩, by rw [hr]⟩)
    by_contra hne
    exact h.not_behindHole hd.cap_pos k
      ⟨i, hi, hempty, fun j hj => (hbefore j hj).2, hd.in_window_of_ne_none hne⟩

/-- What the calls answer for a key, in a state that was reached with the outcomes `es`. -/
structure ExactAnswers (H : CStr → UInt64 → UInt64) (m : StringHashMapA T STR_LEN_MAX)
    (es : List (Event CStr T)) (k : CStr) : Prop where
  present : ∀ v, (m.tryInsert H k v).1 = .keyAlreadyExist ↔ ∃ w, .inserted k w ∈ es
  success : ∀ v, (∀ w, .inserted k w ∉ es) →
    ((m.tryInsert H k v).1 = .success ↔ m.HasRoom H k)
  limit : ∀ v, (∀ w, .inserted k w ∉ es) →
    ((m.tryInsert H k v).1 = .collisionLimit ↔ ¬ m.HasRoom H k)
  unchanged : ∀ v, (m.tryInsert H k v).1 ≠ .success → (m.tryInsert H k v).2 = m
  found : ∀ w out, .inserted k w ∈ es → m.tryFind H k out = (.success, w)
  not_found : ∀ out, (∀ w, .inserted k w ∉ es) → m.tryFind H k out = (.resultNotFound, out)

theorem EraseFreeState.exactAnswers {m : StringHashMapA T STR_LEN_MAX} {es : List (Event CStr T)}
    (h : EraseFreeState H m es) {k : CStr} (hk : ValidKey STR_LEN_MAX k) :
    ExactAnswers H m es k := by
  obtain ⟨d, hd, hfrom⟩ := h.contents
  have hmem : d k ≠ none ↔ ∃ w, .inserted k w ∈ es := by
    rw [Option.ne_none_iff_exists']
    exact exists_congr (hfrom k)
  have hnone : (∀ w, .inserted k w ∉ es) → d k = none := by
    intro hno
    by_contra hne
    obtain ⟨w, hw⟩ := hmem.mp hne
    exact hno w hw
  refine ⟨fun v => ?_, fun v hno => ?_, fun v hno => ?_, fun v hne => ?_, fun w out hw => ?_,
    fun out hno => ?_⟩
  · rw [← hmem]
    rcases h.noGap.tryInsert_outcome hd hk v with ⟨hin, hr⟩ | ⟨hout, _, hr⟩ | ⟨hout, _, hr⟩
    · simp [hr, hin]
    · simp [hr, hout]
    · simp [hr, hout]
  · rcases h.noGap.tryInsert_outcome hd hk v with ⟨hin, _⟩ | ⟨_, hroom, hr⟩ | ⟨_, hroom, hr⟩
    · exact absurd (hnone hno) hin
    · simp [hr, hroom]
    · simp [hr, hroom]
  · rcases h.noGap.tryInsert_outcome hd hk v with ⟨hin, _⟩ | ⟨_, hroom, hr⟩ | ⟨_, hroom, hr⟩
    · exact absurd (hnone hno) hin
    · simp [hr, hroom]
    · simp [hr, hroom]
  · rcases h.noGap.tryInsert_outcome hd hk v with ⟨_, hr⟩ | ⟨_, _, hr⟩ | ⟨_, _, hr⟩
    · rw [hr]
    · rw [hr]
    · exact absurd hr hne
  · rw [hd.tryFind_eq hk, (hfrom k w).mpr hw]
  · rw [hd.tryFind_eq hk, hnone hno]

theorem eraseFreeState_new (H : CStr → UInt64 → UInt64) (raw : Nat → T) {cap : Nat}
    (hcap : 0 < cap) (limit : Nat) (seed : UInt64) :
    EraseFreeState H (new raw cap limit seed : StringHashMapA T STR_LEN_MAX) [] := by
  refine ⟨new_terminated _ _ _ _, fun _ _ _ hh => absurd rfl hh.1,
    ⟨fun _ => none, new_represents raw hcap limit seed, ?_⟩, List.Pairwise.nil⟩
  intro k v
  simp only [reduceCtorEq, List.not_mem_nil]

/-- In every state of a run without erasures: no key was inserted twice, and for every valid key
`TryInsert` and `TryFind` answer by the insertions of the run that succeeded. -/
theorem erase_free_run (H : CStr → UInt64 → UInt64) (raw : Nat → T) {cap : Nat}
    (hcap : 0 < cap) (limit : Nat) (seed : UInt64) (ops : List (Op T))
    (hops : ∀ op ∈ ops, op.CapPos ∧ op.EraseFree) :
    ∃ m es, run H (new raw cap limit seed : StringHashMapA T STR_LEN_MAX) ops = some (m, es) ∧
      (insertedKeys es).Nodup ∧ ∀ k, ValidKey STR_LEN_MAX k → ExactAnswers H m es k := by
  have h0 : EraseFreeState H (new raw cap limit seed : StringHashMapA T STR_LEN_MAX) [] :=
    eraseFreeState_new H raw hcap limit seed
  obtain ⟨m, es, hr, hm⟩ := run_ok (H := H) (I := EraseFreeState H)
    (P := fun op => op.CapPos ∧ op.EraseFree) (fun m es op hop hm => hm.opStep op hop) ops _ []
    hops h0
  exact ⟨m, es, hr, hm.once, fun k hk => hm.exactAnswers hk⟩

/-- Two insertions with one home slot, and a rebuild into a smaller pool. -/
def insertOps : List (Op Nat) :=
  [.call (.insert keyA 1), .call (.insert keyB 2), .rebuild (fun _ => 0) 2 2 1]

theorem erase_free_run_insert :
    ∃ m es, run (fun _ _ => 0) (new (fun _ => 0) 5 3 0 : StringHashMapA Nat 4) insertOps =
        some (m, es) ∧
      (insertedKeys es).Nodup ∧ ∀ k, ValidKey 4 k → ExactAnswers (fun _ _ => 0) m es k := by
  refine erase_free_run (fun _ _ => 0) (fun _ => 0) (by decide) 3 0 insertOps ?_
  simp [insertOps, Op.CapPos, Op.EraseFree]

end NoGap

end StringHashMapA
end SS
end FBXRenderer
