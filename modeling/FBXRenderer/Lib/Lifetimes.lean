import Mathlib.Data.List.Chain
import Mathlib.Data.List.Nodup

/-!
# Lifetimes

The constructions and destructions of objects in numbered slots, as a list of events in the order
they happen. Nothing stops a program from constructing over a live object or from destroying where
there is none.

* `Sound`: at every slot the events alternate, a construction first.
* `Live`: the last event of a slot is a construction.
* `sound_construct_iff`, `sound_destroy_iff`: what one more event needs; `live_construct_iff`,
  `live_destroy_iff`: what it changes.
* `Sound.destroyAll`: the destruction of several slots.
-/

namespace Lifetimes

inductive Kind where
  | construction
  | destruction
deriving DecidableEq

structure Event where
  kind : Kind
  slot : Nat
deriving DecidableEq

def construct (slot : Nat) : Event := ⟨.construction, slot⟩
def destroy (slot : Nat) : Event := ⟨.destruction, slot⟩

/-- What has happened at one slot. -/
def history (events : List Event) (slot : Nat) : List Kind :=
  (events.filter fun event => event.slot = slot).map Event.kind

/-- No kind follows itself, and a construction comes first. -/
def Alternates (kinds : List Kind) : Prop :=
  kinds.IsChain (· ≠ ·) ∧ ∀ kind ∈ kinds.head?, kind = .construction

def Sound (events : List Event) : Prop := ∀ slot, Alternates (history events slot)

def Live (events : List Event) (slot : Nat) : Prop :=
  (history events slot).getLast? = some .construction

variable {events more : List Event} {slot other : Nat} {kinds : List Kind} {kind : Kind}

theorem Kind.ne_iff {k : Kind} : k ≠ kind ↔ (kind = .construction ↔ k ≠ .construction) := by
  cases k <;> cases kind <;> simp

theorem alternates_concat_iff : Alternates (kinds ++ [kind]) ↔
    Alternates kinds ∧ (kind = .construction ↔ kinds.getLast? ≠ some .construction) := by
  unfold Alternates
  rw [List.isChain_append]
  cases hlast : kinds.getLast? with
  | none =>
    rw [List.getLast?_eq_none_iff] at hlast
    subst hlast
    simp
  | some last =>
    have hne : kinds ≠ [] := by
      rintro rfl
      cases hlast
    rw [List.head?_append_of_ne_nil _ hne]
    have hlast' : (∀ x ∈ some last, ∀ y ∈ [kind].head?, x ≠ y) ↔
        (kind = .construction ↔ some last ≠ some .construction) := by
      simpa using Kind.ne_iff
    rw [hlast']
    constructor
    · rintro ⟨⟨hchain, _, hkind⟩, hhead⟩
      exact ⟨⟨hchain, hhead⟩, hkind⟩
    · rintro ⟨⟨hchain, hhead⟩, hkind⟩
      exact ⟨⟨hchain, List.isChain_singleton _, hkind⟩, hhead⟩

theorem history_append :
    history (events ++ more) slot = history events slot ++ history more slot := by
  simp [history]

theorem history_same (event : Event) : history [event] event.slot = [event.kind] := by
  simp [history]

theorem history_other {event : Event} (h : event.slot ≠ slot) : history [event] slot = [] := by
  simp [history, h]

theorem not_live_nil : ¬ Live [] slot := nofun

theorem sound_nil : Sound [] := fun _ => ⟨List.isChain_nil, nofun⟩

theorem Sound.of_append (h : Sound (events ++ more)) : Sound events := by
  intro slot
  obtain ⟨hchain, hhead⟩ := h slot
  rw [history_append] at hchain hhead
  refine ⟨(List.isChain_append.mp hchain).1, fun kind hkind => hhead kind ?_⟩
  exact List.mem_head?_append_of_mem_head? hkind

/-- At the other slots nothing changes. -/
theorem sound_concat_iff (event : Event) : Sound (events ++ [event]) ↔
    Sound events ∧ (event.kind = .construction ↔ ¬ Live events event.slot) := by
  constructor
  · intro h
    refine ⟨h.of_append, ?_⟩
    have hslot := h event.slot
    rw [history_append, history_same, alternates_concat_iff] at hslot
    exact hslot.2
  · rintro ⟨hsound, hkind⟩ slot
    rw [history_append]
    by_cases hslot : event.slot = slot
    · subst hslot
      rw [history_same, alternates_concat_iff]
      exact ⟨hsound _, hkind⟩
    · rw [history_other hslot, List.append_nil]
      exact hsound slot

theorem sound_construct_iff :
    Sound (events ++ [construct slot]) ↔ Sound events ∧ ¬ Live events slot := by
  rw [sound_concat_iff]
  simp [construct]

theorem sound_destroy_iff :
    Sound (events ++ [destroy slot]) ↔ Sound events ∧ Live events slot := by
  rw [sound_concat_iff]
  simp [destroy]

theorem live_construct_iff :
    Live (events ++ [construct slot]) other ↔ other = slot ∨ Live events other := by
  unfold Live
  rw [history_append]
  by_cases hother : other = slot
  · subst hother
    rw [show construct other = ⟨.construction, other⟩ from rfl, history_same ⟨.construction, other⟩]
    simp
  · rw [history_other (Ne.symm hother), List.append_nil]
    simp [hother]

theorem live_destroy_iff :
    Live (events ++ [destroy slot]) other ↔ other ≠ slot ∧ Live events other := by
  unfold Live
  rw [history_append]
  by_cases hother : other = slot
  · subst hother
    rw [show destroy other = ⟨.destruction, other⟩ from rfl, history_same ⟨.destruction, other⟩]
    simp
  · rw [history_other (Ne.symm hother), List.append_nil]
    simp [hother]

/-- A second construction at a slot without a destruction between. -/
theorem not_sound_construct_twice :
    ¬ Sound (events ++ construct slot :: construct slot :: more) := by
  intro h
  have hlist : events ++ construct slot :: construct slot :: more
      = events ++ [construct slot] ++ [construct slot] ++ more := by simp
  rw [hlist] at h
  have hlive := (sound_construct_iff.mp h.of_append).2
  exact hlive (live_construct_iff.mpr (Or.inl rfl))

/-- By induction on the slots; each is still live when its turn comes. -/
theorem Sound.destroyAll {slots : List Nat} (hsound : Sound events) (hnodup : slots.Nodup)
    (hlive : ∀ slot ∈ slots, Live events slot) :
    Sound (events ++ slots.map destroy) ∧
      ∀ other, Live (events ++ slots.map destroy) other ↔ other ∉ slots ∧ Live events other := by
  induction slots generalizing events with
  | nil => simpa using hsound
  | cons slot slots ih =>
    obtain ⟨hfresh, hnodup⟩ := List.nodup_cons.mp hnodup
    obtain ⟨hfirst, hrest⟩ := List.forall_mem_cons.mp hlive
    have hsound' : Sound (events ++ [destroy slot]) := sound_destroy_iff.mpr ⟨hsound, hfirst⟩
    have hlive' : ∀ s ∈ slots, Live (events ++ [destroy slot]) s := by
      intro s hs
      refine live_destroy_iff.mpr ⟨?_, hrest s hs⟩
      rintro rfl
      exact hfresh hs
    have hrun := ih hsound' hnodup hlive'
    rw [List.append_assoc, List.singleton_append] at hrun
    refine ⟨hrun.1, fun other => ?_⟩
    rw [List.map_cons, hrun.2 other, live_destroy_iff, List.mem_cons]
    tauto

end Lifetimes
