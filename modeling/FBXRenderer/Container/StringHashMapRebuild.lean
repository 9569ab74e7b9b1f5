import FBXRenderer.Container.StringHashMapDict

/-!
# FBXRenderer.Container.StringHashMapRebuild

`TryRebuild` of `StringHashMapA` (`StringHashMapA.h`): the used slots of the old pool are moved in
index order into a fresh pool of another capacity, under another limit and seed. Every key goes to
the first empty slot of its new window; when there is none, the new pool is dropped.

* `rebuildLoop_ok` is the loop rule: what every placement keeps holds of the pool that was built.
* `rebuild_represents`: a rebuilt map stands for the same partial map.
* `tryRebuild_keeps_contents`: after a rebuild every lookup answers what it answered before, and a
  rebuild that fails has changed nothing.
-/

namespace FBXRenderer
namespace SS

namespace FixedStringA

variable {STR_LEN_MAX : Nat}

/-- The `GetLen()` bytes at `C_Str()`; up to a NUL, since a hash is taken of C strings here. -/
def hashedText (s : FixedStringA STR_LEN_MAX) : CStr := CStr.ofPool (s.dataPool.take s.getLen)

/-- The length is that of the text, and the terminator fits: what the constructors, `Assign` and
`Clear` establish. -/
structure Terminated (s : FixedStringA STR_LEN_MAX) : Prop where
  len_eq : s.getLen = s.cStr.strlen
  len_lt : s.getLen < STR_LEN_MAX

theorem hashedText_eq {s : FixedStringA STR_LEN_MAX} (h : s.Terminated) :
    s.hashedText = s.cStr := by
  apply CStr.ext_bytes
  have htake : s.dataPool.take s.getLen = s.dataPool.takeWhile (· != 0) := by
    rw [h.len_eq]
    exact (List.prefix_iff_eq_take.mp (List.takeWhile_prefix _)).symm
  show (s.dataPool.take s.getLen).takeWhile (· != 0) = s.dataPool.takeWhile (· != 0)
  rw [htake, List.takeWhile_idem]

theorem terminated_assign (s : FixedStringA STR_LEN_MAX) (data : CStr)
    (h : data.strlen < STR_LEN_MAX) : (s.assign data h).Terminated where
  len_eq := by rw [getLen_assign, cStr_assign]
  len_lt := h

end FixedStringA

namespace StringHashMapA

open Probe Dictionary

variable {T : Type} {STR_LEN_MAX : Nat}

/-- Why the loop of `TryRebuild` ends early: its `return false`, or the assertion in `Assign`. -/
inductive RebuildStop where
  | returnFalse
  | assertion
deriving DecidableEq

section Definitions

variable (cityHash64WithSeed : CStr → UInt64 → UInt64)

/-- Loop condition of the search for a slot of the new pool. -/
def freeVerdict (m : StringHashMapA T STR_LEN_MAX) (hashValue : Nat) : Option Nat :=
  if (m.strPool hashValue).getLen = 0 then some hashValue else none

/-- A used slot of the old pool, moved into the new pools. -/
def place (newMap : StringHashMapA T STR_LEN_MAX) (str : FixedStringA STR_LEN_MAX) (item : T) :
    Except RebuildStop (StringHashMapA T STR_LEN_MAX) :=
  match Probe.probe newMap.poolCapacity newMap.freeVerdict newMap.collisionLimit
      (newMap.home cityHash64WithSeed str.hashedText) with
  | none => .error .returnFalse
  | some hashValue =>
    if h : str.cStr.strlen < STR_LEN_MAX then
      .ok { newMap with
            strPool := Function.update newMap.strPool hashValue
              ((newMap.strPool hashValue).assign str.cStr h)
            dataPool := Function.update newMap.dataPool hashValue item }
    else .error .assertion

/-- Loop body of `TryRebuild`. -/
def rebuildStep (m newMap : StringHashMapA T STR_LEN_MAX) (i : Nat) :
    Except RebuildStop (StringHashMapA T STR_LEN_MAX) :=
  if (m.strPool i).getLen ≠ 0 then
    newMap.place cityHash64WithSeed (m.strPool i) (m.dataPool i)
  else .ok newMap

/-- The first `count` turns of the loop. -/
def rebuildLoop (m newMap : StringHashMapA T STR_LEN_MAX) (count : Nat) :
    Except RebuildStop (StringHashMapA T STR_LEN_MAX) :=
  (List.range count).foldlM (rebuildStep cityHash64WithSeed m) newMap

/-- `newRaw` is what the new data pool holds before it is written; `none` is a failed assertion. -/
def tryRebuild (m : StringHashMapA T STR_LEN_MAX) (newRaw : Nat → T)
    (newPoolCapacity newCollisionLimit : Nat) (newSeed : UInt64) :
    Option (Bool × StringHashMapA T STR_LEN_MAX) :=
  match m.rebuildLoop cityHash64WithSeed (new newRaw newPoolCapacity newCollisionLimit newSeed)
      m.poolCapacity with
  | .ok newMap => some (true, newMap)
  | .error .returnFalse => some (false, m)
  | .error .assertion => none

end Definitions

/-- The used slots hold terminated texts. -/
def Terminated (m : StringHashMapA T STR_LEN_MAX) : Prop :=
  ∀ p, p < m.poolCapacity → (m.strPool p).getLen ≠ 0 → (m.strPool p).Terminated

theorem Terminated.validKey {m : StringHashMapA T STR_LEN_MAX} (h : m.Terminated) {p : Nat}
    (hp : p < m.poolCapacity) {k : CStr} (hh : m.Holds p k) : ValidKey STR_LEN_MAX k := by
  have hterm := h p hp hh.1
  have hlen := hterm.len_eq
  rw [hh.2] at hlen
  exact ⟨by rw [← hlen]; exact hh.1, by rw [← hlen]; exact hterm.len_lt⟩

theorem new_terminated (raw : Nat → T) (cap limit : Nat) (seed : UInt64) :
    (new raw cap limit seed : StringHashMapA T STR_LEN_MAX).Terminated :=
  fun _ _ h => absurd rfl h

theorem Terminated.store {m : StringHashMapA T STR_LEN_MAX} (hm : m.Terminated) (p : Nat)
    (key : CStr) (item : T) (h : key.strlen < STR_LEN_MAX) :
    (m.store p key item h).Terminated := by
  intro q hqcap hq
  unfold StringHashMapA.store at hq ⊢
  by_cases hqp : q = p
  · subst hqp
    simp only [Function.update_self]
    exact FixedStringA.terminated_assign _ _ _
  · simp only [Function.update_of_ne hqp] at hq ⊢
    exact hm q hqcap hq

theorem Terminated.clearSlot {m : StringHashMapA T STR_LEN_MAX} (hm : m.Terminated) (p : Nat) :
    (m.clearSlot p).Terminated := by
  intro q hqcap hq
  unfold StringHashMapA.clearSlot at hq ⊢
  by_cases hqp : q = p
  · subst hqp
    simp only [Function.update_self, FixedStringA.getLen_clear, ne_eq, not_true_eq_false] at hq
  · simp only [Function.update_of_ne hqp] at hq ⊢
    exact hm q hqcap hq

@[simp] theorem store_seed (m : StringHashMapA T STR_LEN_MAX) (p : Nat) (key : CStr) (item : T)
    (h : key.strlen < STR_LEN_MAX) : (m.store p key item h).seed = m.seed := rfl

section Loop

variable {H : CStr → UInt64 → UInt64}

theorem freeVerdict_eq_none {m : StringHashMapA T STR_LEN_MAX} {p : Nat} :
    m.freeVerdict p = none ↔ (m.strPool p).getLen ≠ 0 := by simp [freeVerdict]

theorem freeVerdict_eq_some {m : StringHashMapA T STR_LEN_MAX} {p q : Nat} :
    m.freeVerdict p = some q ↔ (m.strPool p).getLen = 0 ∧ p = q := by simp [freeVerdict]

/-- What moving a terminated text can do: the first empty slot of its window, or the end. -/
theorem place_cases {newMap : StringHashMapA T STR_LEN_MAX} (hcap : 0 < newMap.poolCapacity)
    {str : FixedStringA STR_LEN_MAX} (hstr : str.Terminated) (hused : str.getLen ≠ 0) (item : T) :
    (∃ (hk : ValidKey STR_LEN_MAX str.cStr) (i : Nat), i < newMap.collisionLimit ∧
      (newMap.strPool (newMap.window H str.cStr i)).getLen = 0 ∧
      (∀ j, j < i → (newMap.strPool (newMap.window H str.cStr j)).getLen ≠ 0) ∧
      newMap.place H str item =
        .ok (newMap.store (newMap.window H str.cStr i) str.cStr item hk.2)) ∨
    newMap.place H str item = .error .returnFalse := by
  have hk : ValidKey STR_LEN_MAX str.cStr :=
    ⟨by rw [← hstr.len_eq]; exact hused, by rw [← hstr.len_eq]; exact hstr.len_lt⟩
  unfold place
  rw [FixedStringA.hashedText_eq hstr]
  cases hp : probe newMap.poolCapacity newMap.freeVerdict newMap.collisionLimit
      (newMap.home H str.cStr) with
  | none => exact Or.inr rfl
  | some p =>
    left
    rw [probe_eq_some hcap _ _ (home_lt hcap _)] at hp
    obtain ⟨i, hi, hfree, hbefore⟩ := hp
    obtain ⟨hempty, hpi⟩ := freeVerdict_eq_some.mp hfree
    refine ⟨hk, i, hi, hempty, fun j hj => freeVerdict_eq_none.mp (hbefore j hj), ?_⟩
    subst hpi
    exact dif_pos hk.2

/-- A used slot is placed, an empty one skipped. -/
theorem rebuildStep_cases {m newMap : StringHashMapA T STR_LEN_MAX}
    (hcap : 0 < newMap.poolCapacity) (hm : m.Terminated) {i : Nat} (hi : i < m.poolCapacity) :
    ((m.strPool i).getLen = 0 ∧ rebuildStep H m newMap i = .ok newMap) ∨
    (∃ (k : CStr) (hk : ValidKey STR_LEN_MAX k) (j : Nat), m.Holds i k ∧
      j < newMap.collisionLimit ∧ (newMap.strPool (newMap.window H k j)).getLen = 0 ∧
      (∀ l, l < j → (newMap.strPool (newMap.window H k l)).getLen ≠ 0) ∧
      rebuildStep H m newMap i =
        .ok (newMap.store (newMap.window H k j) k (m.dataPool i) hk.2)) ∨
    rebuildStep H m newMap i = .error .returnFalse := by
  unfold rebuildStep
  by_cases hused : (m.strPool i).getLen = 0
  · exact Or.inl ⟨hused, if_neg (not_not.mpr hused)⟩
  · rw [if_pos hused]
    rcases place_cases (H := H) hcap (hm i hi hused) hused (m.dataPool i) with
      ⟨hk, j, hj, hempty, hbefore, hr⟩ | hr
    · exact Or.inr (Or.inl ⟨_, hk, j, ⟨hused, rfl⟩, hj, hempty, hbefore, hr⟩)
    · exact Or.inr (Or.inr hr)

theorem rebuildLoop_succ (m newMap : StringHashMapA T STR_LEN_MAX) (count : Nat) :
    m.rebuildLoop H newMap (count + 1) =
      m.rebuildLoop H newMap count >>= fun n => rebuildStep H m n count := by
  unfold rebuildLoop
  rw [List.range_succ, List.foldlM_append]
  congr 1
  funext n
  exact bind_pure _

/-- The loop rule. With terminated texts no assertion fails, and what holds of the fresh pool and
is kept by every turn holds of the pool that was built. -/
theorem rebuildLoop_ok {m : StringHashMapA T STR_LEN_MAX} (hm : m.Terminated)
    (newMap : StringHashMapA T STR_LEN_MAX)
    (hcap : 0 < newMap.poolCapacity) {I : Nat → StringHashMapA T STR_LEN_MAX → Prop}
    (hfresh : I 0 newMap)
    (hskip : ∀ i n, I i n → (m.strPool i).getLen = 0 → I (i + 1) n)
    (hplace : ∀ i n k (hk : ValidKey STR_LEN_MAX k) j, i < m.poolCapacity → I i n →
      m.Holds i k → 0 < n.poolCapacity → j < n.collisionLimit →
      (n.strPool (n.window H k j)).getLen = 0 →
      (∀ l, l < j → (n.strPool (n.window H k l)).getLen ≠ 0) →
      I (i + 1) (n.store (n.window H k j) k (m.dataPool i) hk.2)) :
    ∀ count, count ≤ m.poolCapacity →
      (∃ n, m.rebuildLoop H newMap count = .ok n ∧ I count n ∧
        n.poolCapacity = newMap.poolCapacity ∧ n.collisionLimit = newMap.collisionLimit ∧
        n.seed = newMap.seed) ∨
      m.rebuildLoop H newMap count = .error .returnFalse := by
  intro count
  induction count with
  | zero => exact fun _ => Or.inl ⟨newMap, rfl, hfresh, rfl, rfl, rfl⟩
  | succ count ih =>
    intro hcount
    rw [rebuildLoop_succ]
    rcases ih (Nat.le_of_succ_le hcount) with ⟨n, hn, hI, hc, hl, hs⟩ | hstop
    · rw [hn]
      have hncap : 0 < n.poolCapacity := by rw [hc]; exact hcap
      rcases rebuildStep_cases (H := H) hncap hm hcount with
        ⟨hempty, hr⟩ | ⟨k, hk, j, hh, hj, hempty, hbefore, hr⟩ | hr
      · exact Or.inl ⟨n, hr, hskip count n hI hempty, hc, hl, hs⟩
      · exact Or.inl ⟨_, hr, hplace count n k hk j hcount hI hh hncap hj hempty hbefore, hc, hl, hs⟩
      · exact Or.inr hr
    · rw [hstop]
      exact Or.inr rfl

/-- `rebuildLoop_ok` for `TryRebuild`. -/
theorem tryRebuild_cases {m : StringHashMapA T STR_LEN_MAX} (hm : m.Terminated)
    (newRaw : Nat → T) {newCap : Nat} (hcap : 0 < newCap) (newLimit : Nat) (newSeed : UInt64)
    {I : Nat → StringHashMapA T STR_LEN_MAX → Prop}
    (hfresh : I 0 (new newRaw newCap newLimit newSeed))
    (hskip : ∀ i n, I i n → (m.strPool i).getLen = 0 → I (i + 1) n)
    (hplace : ∀ i n k (hk : ValidKey STR_LEN_MAX k) j, i < m.poolCapacity → I i n →
      m.Holds i k → 0 < n.poolCapacity → j < n.collisionLimit →
      (n.strPool (n.window H k j)).getLen = 0 →
      (∀ l, l < j → (n.strPool (n.window H k l)).getLen ≠ 0) →
      I (i + 1) (n.store (n.window H k j) k (m.dataPool i) hk.2)) :
    (∃ m', m.tryRebuild H newRaw newCap newLimit newSeed = some (true, m') ∧
      I m.poolCapacity m' ∧ m'.poolCapacity = newCap ∧ m'.collisionLimit = newLimit ∧
      m'.seed = newSeed) ∨
    m.tryRebuild H newRaw newCap newLimit newSeed = some (false, m) := by
  unfold tryRebuild
  rcases rebuildLoop_ok hm (new newRaw newCap newLimit newSeed) hcap hfresh hskip hplace
    m.poolCapacity (Nat.le_refl _) with ⟨n, hn, hI, hc, hl, hs⟩ | hstop
  · rw [hn]
    exact Or.inl ⟨n, rfl, hI, hc, hl, hs⟩
  · rw [hstop]
    exact Or.inr rfl

end Loop

section Contents

variable (H : CStr → UInt64 → UInt64)

/-- Every used slot lies in the collision window of its key. -/
def InWindow (m : StringHashMapA T STR_LEN_MAX) : Prop :=
  ∀ p k, p < m.poolCapacity → m.Holds p k → ∃ i, i < m.collisionLimit ∧ p = m.window H k i

/-- A map state in which no key is held twice and every key lies in its window. -/
structure SoundState (m : StringHashMapA T STR_LEN_MAX) : Prop where
  cap_pos : 0 < m.poolCapacity
  terminated : m.Terminated
  once : m.NoKeyTwice
  in_window : m.InWindow H

variable {H}

/-- The partial map that a sound state stands for. -/
theorem SoundState.represents {m : StringHashMapA T STR_LEN_MAX} (h : m.SoundState H) :
    ∃ d, m.Represents H d := by
  classical
  refine ⟨fun k => if hp : ∃ p, p < m.poolCapacity ∧ m.Holds p k then
    some (m.dataPool hp.choose) else none, h.cap_pos, h.in_window, h.once, fun k v => ?_⟩
  constructor
  · intro hd
    split at hd
    · rename_i hp
      cases hd
      exact ⟨hp.choose, hp.choose_spec.1, hp.choose_spec.2, rfl⟩
    · cases hd
  · rintro ⟨p, hp, hh, rfl⟩
    have hex : ∃ p, p < m.poolCapacity ∧ m.Holds p k := ⟨p, hp, hh⟩
    have hsame : hex.choose = p :=
      h.once _ p k hex.choose_spec.1 hp hex.choose_spec.2 hh
    show (if hp : ∃ p, p < m.poolCapacity ∧ m.Holds p k then
      some (m.dataPool hp.choose) else none) = _
    rw [dif_pos hex, hsame]

theorem not_holds_of_empty {m : StringHashMapA T STR_LEN_MAX} {p : Nat} {k : CStr}
    (hempty : (m.strPool p).getLen = 0) : ¬ m.Holds p k := fun hh => hh.1 hempty

/-- The part of the old map that is in the slots below `count`. -/
def PartOf (m : StringHashMapA T STR_LEN_MAX) (count : Nat) (d : CStr → Option T) : Prop :=
  ∀ k v, d k = some v ↔ ∃ p, p < count ∧ m.Holds p k ∧ m.dataPool p = v

theorem PartOf.skip {m : StringHashMapA T STR_LEN_MAX} {count : Nat} {d : CStr → Option T}
    (h : m.PartOf count d) (hempty : (m.strPool count).getLen = 0) : m.PartOf (count + 1) d := by
  intro k v
  rw [h k v]
  constructor
  · rintro ⟨p, hp, hrest⟩
    exact ⟨p, Nat.lt_succ_of_lt hp, hrest⟩
  · rintro ⟨p, hp, hh, hv⟩
    rcases Nat.lt_succ_iff_lt_or_eq.mp hp with hlt | rfl
    · exact ⟨p, hlt, hh, hv⟩
    · exact absurd hh (not_holds_of_empty hempty)

theorem PartOf.add {m : StringHashMapA T STR_LEN_MAX} {count : Nat} {d : CStr → Option T}
    (h : m.PartOf count d) {k : CStr} (hh : m.Holds count k) (hd : d k = none) :
    m.PartOf (count + 1) (Function.update d k (some (m.dataPool count))) := by
  intro k' v
  by_cases hkk : k' = k
  · subst hkk
    rw [Function.update_self, Option.some_inj]
    constructor
    · rintro rfl
      exact ⟨count, Nat.lt_succ_self _, hh, rfl⟩
    · rintro ⟨p, hp, hhp, rfl⟩
      rcases Nat.lt_succ_iff_lt_or_eq.mp hp with hlt | rfl
      · have hsome := (h k' _).mpr ⟨p, hlt, hhp, rfl⟩
        rw [hd] at hsome
        cases hsome
      · rfl
  · rw [Function.update_of_ne hkk, h k' v]
    constructor
    · rintro ⟨p, hp, hrest⟩
      exact ⟨p, Nat.lt_succ_of_lt hp, hrest⟩
    · rintro ⟨p, hp, hhp, hv⟩
      rcases Nat.lt_succ_iff_lt_or_eq.mp hp with hlt | rfl
      · exact ⟨p, hlt, hhp, hv⟩
      · exact absurd (hhp.key_unique hh) hkk

/-- What the loop keeps on a map whose keys are held once: the new pool stands for the part of the
map that has been moved. -/
structure Moved (H : CStr → UInt64 → UInt64) (m : StringHashMapA T STR_LEN_MAX) (count : Nat)
    (n : StringHashMapA T STR_LEN_MAX) : Prop where
  contents : ∃ d, n.Represents H d ∧ m.PartOf count d
  terminated : n.Terminated

/-- A rebuilt map stands for the same partial map, and a failed rebuild has changed nothing. -/
theorem rebuild_represents {m : StringHashMapA T STR_LEN_MAX} {d : CStr → Option T}
    (h : m.Represents H d) (hm : m.Terminated) (newRaw : Nat → T) {newCap : Nat}
    (hcap : 0 < newCap) (newLimit : Nat) (newSeed : UInt64) :
    (∃ m', m.tryRebuild H newRaw newCap newLimit newSeed = some (true, m') ∧
      m'.Represents H d ∧ m'.Terminated ∧ m'.poolCapacity = newCap ∧
      m'.collisionLimit = newLimit ∧ m'.seed = newSeed) ∨
    m.tryRebuild H newRaw newCap newLimit newSeed = some (false, m) := by
  have hfresh : Moved H m 0 (new newRaw newCap newLimit newSeed) := by
    refine ⟨⟨fun _ => none, new_represents newRaw hcap newLimit newSeed, ?_⟩,
      new_terminated _ _ _ _⟩
    intro k v
    constructor
    · intro hnone
      cases hnone
    · rintro ⟨p, hp, _⟩
      exact absurd hp (Nat.not_lt_zero p)
  have hskip : ∀ i n, Moved H m i n → (m.strPool i).getLen = 0 → Moved H m (i + 1) n := by
    intro i n hmoved hempty
    obtain ⟨d', hd', hpart⟩ := hmoved.contents
    exact ⟨⟨d', hd', hpart.skip hempty⟩, hmoved.terminated⟩
  have hplace : ∀ i n k (hk : ValidKey STR_LEN_MAX k) j, i < m.poolCapacity → Moved H m i n →
      m.Holds i k → 0 < n.poolCapacity → j < n.collisionLimit →
      (n.strPool (n.window H k j)).getLen = 0 →
      (∀ l, l < j → (n.strPool (n.window H k l)).getLen ≠ 0) →
      Moved H m (i + 1) (n.store (n.window H k j) k (m.dataPool i) hk.2) := by
    intro i n k hk j hi hmoved hh _ hj hempty _
    obtain ⟨d', hd', hpart⟩ := hmoved.contents
    -- the key was not moved before: it would sit in two slots of the old map
    have hnone : d' k = none := by
      by_contra hd
      obtain ⟨v, hv⟩ := Option.ne_none_iff_exists'.mp hd
      obtain ⟨p, hp, hhp, _⟩ := (hpart k v).mp hv
      have hsame := h.once p i k (Nat.lt_trans hp hi) hi hhp hh
      omega
    exact ⟨⟨_, hd'.store hk _ hj hempty hnone, hpart.add hh hnone⟩,
      hmoved.terminated.store _ _ _ _⟩
  rcases tryRebuild_cases hm newRaw hcap newLimit newSeed hfresh hskip hplace with
    ⟨m', hr, hmoved, hparams⟩ | hr
  · left
    obtain ⟨d', hd', hpart⟩ := hmoved.contents
    have heq : d' = d := by
      funext k
      apply Option.ext
      intro v
      rw [hpart k v, h.graph k v]
    subst heq
    exact ⟨m', hr, hd', hmoved.terminated, hparams⟩
  · exact Or.inr hr

/-- Lookups are decided by the partial map. -/
theorem Represents.tryFind_eq {m : StringHashMapA T STR_LEN_MAX} {d : CStr → Option T}
    (h : m.Represents H d) {k : CStr} (hk : ValidKey STR_LEN_MAX k) (out : T) :
    m.tryFind H k out = match d k with
      | some v => (.success, v)
      | none => (.resultNotFound, out) := by
  unfold tryFind
  rcases h.tryFindIndex_exact hk 0 with ⟨p, hr, _, _, hd⟩ | ⟨hr, hd⟩
  · rw [hr, hd]
  · rw [hr, hd]

/-- `TryRebuild` on a sound state: on success the new state is sound and every lookup has the same
answer; otherwise the map is as it was. -/
theorem tryRebuild_keeps_contents (H : CStr → UInt64 → UInt64)
    {m : StringHashMapA T STR_LEN_MAX} (hm : m.SoundState H) (newRaw : Nat → T) {newCap : Nat}
    (hcap : 0 < newCap) (newLimit : Nat) (newSeed : UInt64) :
    ∃ ok m', m.tryRebuild H newRaw newCap newLimit newSeed = some (ok, m') ∧
      (ok = true → m'.NoKeyTwice ∧ m'.InWindow H ∧ m'.poolCapacity = newCap ∧
        m'.collisionLimit = newLimit ∧ m'.seed = newSeed ∧
        ∀ k, ValidKey STR_LEN_MAX k → ∀ out, m'.tryFind H k out = m.tryFind H k out) ∧
      (ok = false → m' = m) := by
  obtain ⟨d, hd⟩ := hm.represents
  rcases rebuild_represents hd hm.terminated newRaw hcap newLimit newSeed with
    ⟨m', hr, hd', _, hc, hl, hs⟩ | hr
  · refine ⟨true, m', hr, fun _ => ⟨hd'.once, hd'.in_window, hc, hl, hs, fun k hk out => ?_⟩,
      fun hfalse => absurd hfalse (by decide)⟩
    rw [hd'.tryFind_eq hk, hd.tryFind_eq hk]
  · exact ⟨false, m, hr, fun htrue => absurd htrue (by decide), fun _ => rfl⟩

theorem Represents.soundState {m : StringHashMapA T STR_LEN_MAX} {d : CStr → Option T}
    (h : m.Represents H d) (hm : m.Terminated) : m.SoundState H :=
  ⟨h.cap_pos, hm, h.once, h.in_window⟩

/-- A map of three slots that holds `"A"` in the last, where both keys are at home, and `"B"` in the
first. -/
def twoKeyMap : StringHashMapA Nat 4 :=
  let a := (new (fun _ => 0) 3 2 0 : StringHashMapA Nat 4).store 2 keyA 8 (by decide)
  a.store 0 keyB 9 (by decide)

theorem twoKeyMap_sound : twoKeyMap.SoundState fun _ _ => 5 := by
  have hempty : (new (fun _ => 0) 3 2 0 : StringHashMapA Nat 4).Represents (fun _ _ => 5) _ :=
    new_represents _ (by decide) _ _
  have ha := hempty.store (k := keyA) (by decide) 8 (i := 0) (by decide) rfl rfl
  have hb := ha.store (k := keyB) (by decide) 9 (i := 1) (by decide) rfl rfl
  exact hb.soundState (((new_terminated _ _ _ _).store _ _ _ _).store _ _ _ _)

theorem tryRebuild_keeps_contents_two_keys :
    ∃ ok m', twoKeyMap.tryRebuild (fun _ _ => 5) (fun _ => 0) 5 2 7 = some (ok, m') ∧
      (ok = true → m'.NoKeyTwice ∧ m'.InWindow (fun _ _ => 5) ∧ m'.poolCapacity = 5 ∧
        m'.collisionLimit = 2 ∧ m'.seed = 7 ∧
        ∀ k, ValidKey 4 k → ∀ out,
          m'.tryFind (fun _ _ => 5) k out = twoKeyMap.tryFind (fun _ _ => 5) k out) ∧
      (ok = false → m' = twoKeyMap) :=
  tryRebuild_keeps_contents _ twoKeyMap_sound _ (by decide) _ _

example : (twoKeyMap.tryRebuild (fun _ _ => 5) (fun _ => 0) 5 2 7).map (fun r =>
    (r.1, r.2.tryFind (fun _ _ => 5) keyA 0, r.2.tryFind (fun _ _ => 5) keyB 0)) =
      some (true, (.success, 8), (.success, 9)) := by
  decide

end Contents

end StringHashMapA
end SS
end FBXRenderer
