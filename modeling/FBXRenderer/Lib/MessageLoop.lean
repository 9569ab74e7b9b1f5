import Mathlib.Algebra.Order.Group.Multiset
import Mathlib.Tactic.Common

/-!
# FBXRenderer.Lib.MessageLoop

A loop over the message queue of a window system. A turn of the loop looks into the queue: it
handles the message that it gets, ends with the exit code that it gets, or works when there is
nothing. Messages are posted to the queue by others; they can also be sent, and are handled at once.

The queue is a parameter with the laws `Queue.Documented`: messages may overtake each other and get
lost, but a look takes one out, and with no message left it answers that the end was asked for.

* `run_app`: a run is the run of its events.
* `run_waiting`: no message is taken more often than it was posted.
* `idle_waiting`: a turn works only when nothing waits and nobody has asked for the end.
* `quits`: once the end is asked for no turn works, and the loop ends after a turn for each message.
-/

namespace MessageLoop

/-- What a look into the queue gives, and removes from it. -/
inductive Peeked (Msg Exit : Type) where
  | message (msg : Msg)
  | quit (exit : Exit)
  | nothing

/-- What a handler asks of the system. -/
inductive Call (Exit : Type) where
  | postQuit (exit : Exit)
  | destroyed

/-- A window system; the states of its queue are `Q`. -/
structure Queue (Q Msg Exit : Type) where
  peek : Q → Peeked Msg Exit × Q
  post : Q → Msg → Q
  call : Q → Call Exit → Q

variable {Q Msg Tick App Exit : Type}

/-- What is documented of the queue, in terms of the messages that wait in it and of the exit code
that was asked for. -/
structure Queue.Documented (sys : Queue Q Msg Exit) (waiting : Q → Multiset Msg)
    (quitting : Q → Option Exit) : Prop where
  peek_message : ∀ q msg, (sys.peek q).1 = .message msg →
    msg ::ₘ waiting (sys.peek q).2 ≤ waiting q ∧ quitting (sys.peek q).2 = quitting q
  peek_quit : ∀ q exit, (sys.peek q).1 = .quit exit →
    quitting q = some exit ∧ waiting (sys.peek q).2 ≤ waiting q
  peek_nothing : ∀ q, (sys.peek q).1 = .nothing → waiting q = 0 ∧ quitting q = none ∧
    waiting (sys.peek q).2 = 0 ∧ quitting (sys.peek q).2 = none
  post : ∀ q msg, waiting (sys.post q msg) ≤ msg ::ₘ waiting q ∧
    quitting (sys.post q msg) = quitting q
  call_postQuit : ∀ q exit, waiting (sys.call q (.postQuit exit)) ≤ waiting q ∧
    quitting (sys.call q (.postQuit exit)) = some exit
  call_destroyed : ∀ q, waiting (sys.call q .destroyed) ≤ waiting q ∧
    quitting (sys.call q .destroyed) = quitting q

/-- The simplest queue: messages in order, and behind them the exit code. A destroyed window takes
its messages with it. -/
def fifo (Msg Exit : Type) : Queue (List Msg × Option Exit) Msg Exit where
  peek
    | (msg :: msgs, exit) => (.message msg, (msgs, exit))
    | ([], some exit) => (.quit exit, ([], none))
    | ([], none) => (.nothing, ([], none))
  post q msg := (q.1 ++ [msg], q.2)
  call q
    | .postQuit exit => (q.1, some exit)
    | .destroyed => ([], q.2)

theorem fifo_documented (Msg Exit : Type) :
    (fifo Msg Exit).Documented (fun q => ↑q.1) fun q => q.2 where
  peek_message := by
    rintro ⟨msgs, exit⟩ msg h
    cases msgs with
    | cons msg' msgs =>
      cases h
      exact ⟨le_rfl, rfl⟩
    | nil => cases exit <;> cases h
  peek_quit := by
    rintro ⟨msgs, exit⟩ exit' h
    cases msgs with
    | cons msg' msgs => cases h
    | nil =>
      cases exit with
      | none => cases h
      | some exit =>
        cases h
        exact ⟨rfl, le_rfl⟩
  peek_nothing := by
    rintro ⟨msgs, exit⟩ h
    cases msgs with
    | cons msg' msgs => cases h
    | nil =>
      cases exit with
      | none => exact ⟨rfl, rfl, rfl, rfl⟩
      | some exit => cases h
  post := by
    rintro ⟨msgs, exit⟩ msg
    refine ⟨le_of_eq ?_, rfl⟩
    show ((msgs ++ [msg] : List Msg) : Multiset Msg) = msg ::ₘ ↑msgs
    rw [← Multiset.coe_add, add_comm, Multiset.coe_singleton, Multiset.singleton_add]
  call_postQuit := fun _ _ => ⟨le_rfl, rfl⟩
  call_destroyed := fun _ => ⟨Multiset.zero_le _, rfl⟩

structure Handlers (Msg Tick App Exit : Type) where
  handle : App → Msg → App × List (Call Exit)
  work : App → Tick → App

structure State (Q App Exit : Type) where
  queue : Q
  app : App
  ended : Option Exit

/-- What can come next: two actions of others, and a turn of the loop. -/
inductive Action (Msg Tick : Type) where
  | post (msg : Msg)
  | send (msg : Msg)
  | turn (tick : Tick)

/-- What the loop has done. -/
inductive Event (Msg Tick : Type) where
  | taken (msg : Msg)
  | sent (msg : Msg)
  | worked (tick : Tick)

def posted (actions : List (Action Msg Tick)) : List Msg :=
  actions.filterMap fun
    | .post msg => some msg
    | _ => none

def turns (actions : List (Action Msg Tick)) : Nat :=
  actions.countP fun
    | .turn _ => true
    | _ => false

def takenOf (events : List (Event Msg Tick)) : List Msg :=
  events.filterMap fun
    | .taken msg => some msg
    | _ => none

/-- The messages that were handled, taken or sent. -/
def handledOf (events : List (Event Msg Tick)) : List Msg :=
  events.filterMap fun
    | .taken msg | .sent msg => some msg
    | .worked _ => none

theorem posted_cons (action : Action Msg Tick) (actions : List (Action Msg Tick)) :
    posted (action :: actions) = posted [action] ++ posted actions := by
  unfold posted
  rw [← List.filterMap_append, List.singleton_append]

theorem turns_cons (action : Action Msg Tick) (actions : List (Action Msg Tick)) :
    turns (action :: actions) = turns [action] + turns actions := by
  unfold turns
  rw [← List.countP_append, List.singleton_append]

theorem takenOf_append (events events' : List (Event Msg Tick)) :
    takenOf (events ++ events') = takenOf events ++ takenOf events' := List.filterMap_append

theorem handledOf_append (events events' : List (Event Msg Tick)) :
    handledOf (events ++ events') = handledOf events ++ handledOf events' := List.filterMap_append

section Definitions

variable (sys : Queue Q Msg Exit) (h : Handlers Msg Tick App Exit)

/-- A message is handled, with the calls that its handler makes. -/
def deliver (s : State Q App Exit) (msg : Msg) : State Q App Exit :=
  { s with
    app := (h.handle s.app msg).1
    queue := (h.handle s.app msg).2.foldl sys.call s.queue }

def eventOf (s : State Q App Exit) : Action Msg Tick → Option (Event Msg Tick)
  | .post _ => none
  | .send msg =>
    match s.ended with
    | some _ => none
    | none => some (.sent msg)
  | .turn tick =>
    match s.ended with
    | some _ => none
    | none =>
      match (sys.peek s.queue).1 with
      | .message msg => some (.taken msg)
      | .quit _ => none
      | .nothing => some (.worked tick)

def apply (app : App) : Event Msg Tick → App
  | .taken msg | .sent msg => (h.handle app msg).1
  | .worked tick => h.work app tick

def step (s : State Q App Exit) : Action Msg Tick → State Q App Exit
  | .post msg => { s with queue := sys.post s.queue msg }
  | .send msg =>
    match s.ended with
    | some _ => s
    | none => deliver sys h s msg
  | .turn tick =>
    match s.ended with
    | some _ => s
    | none =>
      let s1 : State Q App Exit := { s with queue := (sys.peek s.queue).2 }
      match (sys.peek s.queue).1 with
      | .message msg => deliver sys h s1 msg
      | .quit exit => { s1 with ended := some exit }
      | .nothing => { s1 with app := h.work s.app tick }

def run (s : State Q App Exit) (actions : List (Action Msg Tick)) : State Q App Exit :=
  actions.foldl (step sys h) s

def events (s : State Q App Exit) : List (Action Msg Tick) → List (Event Msg Tick)
  | [] => []
  | action :: actions =>
    (eventOf sys s action).toList ++ events (step sys h s action) actions

end Definitions

section Step

variable {sys : Queue Q Msg Exit} {h : Handlers Msg Tick App Exit} {waiting : Q → Multiset Msg}
  {quitting : Q → Option Exit}

theorem Queue.Documented.call_waiting (hsys : sys.Documented waiting quitting) (q : Q)
    (call : Call Exit) : waiting (sys.call q call) ≤ waiting q := by
  cases call with
  | postQuit exit => exact (hsys.call_postQuit q exit).1
  | destroyed => exact (hsys.call_destroyed q).1

/-- No call adds a message. -/
theorem Queue.Documented.calls_waiting (hsys : sys.Documented waiting quitting)
    (calls : List (Call Exit)) : ∀ q, waiting (calls.foldl sys.call q) ≤ waiting q := by
  induction calls with
  | nil => exact fun q => le_rfl
  | cons call calls ih => exact fun q => (ih (sys.call q call)).trans (hsys.call_waiting q call)

variable (s : State Q App Exit) (action : Action Msg Tick)

theorem step_app :
    (step sys h s action).app = (eventOf sys s action).toList.foldl (apply h) s.app := by
  cases action with
  | post msg => rfl
  | send msg =>
    simp only [step, eventOf]
    cases s.ended with
    | some exit => rfl
    | none => rfl
  | turn tick =>
    simp only [step, eventOf]
    cases s.ended with
    | some exit => rfl
    | none =>
      cases hpeek : (sys.peek s.queue).1 with
      | message msg => rfl
      | quit exit => rfl
      | nothing => rfl

/-- An action adds at most the message that it posts, less the one that is taken. -/
theorem step_waiting (hsys : sys.Documented waiting quitting) :
    ↑(takenOf (eventOf sys s action).toList) + waiting (step sys h s action).queue ≤
      waiting s.queue + ↑(posted [action]) := by
  cases action with
  | post msg =>
    have hpost := (hsys.post s.queue msg).1
    rw [← Multiset.singleton_add, add_comm] at hpost
    simpa [step, eventOf, takenOf, posted] using hpost
  | send msg =>
    simp only [step, eventOf]
    cases s.ended with
    | some exit => simp [takenOf, posted]
    | none => simpa [takenOf, posted, deliver] using hsys.calls_waiting _ s.queue
  | turn tick =>
    simp only [step, eventOf]
    cases s.ended with
    | some exit => simp [takenOf, posted]
    | none =>
      cases hpeek : (sys.peek s.queue).1 with
      | message msg =>
        have hcalls := hsys.calls_waiting (h.handle s.app msg).2 (sys.peek s.queue).2
        have htaken := (hsys.peek_message s.queue msg hpeek).1
        have hboth := (Multiset.cons_le_cons msg hcalls).trans htaken
        simpa [takenOf, posted, deliver] using hboth
      | quit exit => simpa [takenOf, posted] using (hsys.peek_quit s.queue exit hpeek).2
      | nothing =>
        have hnone := (hsys.peek_nothing s.queue hpeek).2.2.1
        have hzero : 0 ≤ waiting s.queue := Multiset.zero_le _
        simpa [takenOf, posted, hnone] using hzero

/-- A turn that works finds nothing waiting, and nobody has asked for the end. -/
theorem idle_waiting (hsys : sys.Documented waiting quitting) {tick tick' : Tick}
    (hevent : eventOf sys s (.turn tick) = some (.worked tick')) :
    waiting s.queue = 0 ∧ quitting s.queue = none := by
  simp only [eventOf] at hevent
  cases hended : s.ended with
  | some exit => simp [hended] at hevent
  | none =>
    cases hpeek : (sys.peek s.queue).1 with
    | message msg => simp [hended, hpeek] at hevent
    | quit exit => simp [hended, hpeek] at hevent
    | nothing =>
      have hnothing := hsys.peek_nothing s.queue hpeek
      exact ⟨hnothing.1, hnothing.2.1⟩

end Step

section Run

variable {sys : Queue Q Msg Exit} {h : Handlers Msg Tick App Exit} {waiting : Q → Multiset Msg}
  {quitting : Q → Option Exit}

theorem run_app (actions : List (Action Msg Tick)) : ∀ s : State Q App Exit,
    (run sys h s actions).app = (events sys h s actions).foldl (apply h) s.app := by
  induction actions with
  | nil => intro s; rfl
  | cons action actions ih =>
    intro s
    rw [events, List.foldl_append, ← step_app s action]
    exact ih (step sys h s action)

/-- What was taken and what still waits was posted, or waited before. -/
theorem run_waiting (hsys : sys.Documented waiting quitting) (actions : List (Action Msg Tick)) :
    ∀ s : State Q App Exit,
      ↑(takenOf (events sys h s actions)) + waiting (run sys h s actions).queue ≤
        waiting s.queue + ↑(posted actions) := by
  induction actions with
  | nil => intro s; simp [events, run, takenOf, posted]
  | cons action actions ih =>
    intro s
    have hfirst := step_waiting (h := h) s action hsys
    have hrest := ih (step sys h s action)
    rw [events, takenOf_append, posted_cons, ← Multiset.coe_add, ← Multiset.coe_add, add_assoc]
    calc _ ≤ ↑(takenOf (eventOf sys s action).toList) +
          (waiting (step sys h s action).queue + ↑(posted actions)) :=
        add_le_add_right hrest _
      _ ≤ _ := by
        rw [← add_assoc, ← add_assoc]
        exact add_le_add_left hfirst _

end Run

section Quit

variable {sys : Queue Q Msg Exit} {h : Handlers Msg Tick App Exit} {waiting : Q → Multiset Msg}
  {quitting : Q → Option Exit} {exit : Exit}

/-- The end was asked for with this exit code, if it was. -/
def AskedWith (quitting : Q → Option Exit) (exit : Exit) (q : Q) : Prop :=
  quitting q = none ∨ quitting q = some exit

/-- The calls of a handler that asks for one exit code only. -/
theorem calls_quitting (hsys : sys.Documented waiting quitting) (calls : List (Call Exit))
    (honly : ∀ e, .postQuit e ∈ calls → e = exit) : ∀ q, AskedWith quitting exit q →
      AskedWith quitting exit (calls.foldl sys.call q) ∧
        (quitting q = some exit ∨ .postQuit exit ∈ calls →
          quitting (calls.foldl sys.call q) = some exit) := by
  induction calls with
  | nil => exact fun q hq => ⟨hq, fun hor => hor.resolve_right (by simp)⟩
  | cons call calls ih =>
    intro q hq
    have hrest := ih fun e he => honly e (List.mem_cons_of_mem _ he)
    cases call with
    | postQuit e =>
      obtain rfl := honly e List.mem_cons_self
      have hasked := (hsys.call_postQuit q e).2
      obtain ⟨hkeep, hquit⟩ := hrest (sys.call q (.postQuit e)) (.inr hasked)
      exact ⟨hkeep, fun _ => hquit (.inl hasked)⟩
    | destroyed =>
      have hsame := (hsys.call_destroyed q).2
      obtain ⟨hkeep, hquit⟩ := hrest (sys.call q .destroyed) (by rwa [AskedWith, hsame])
      refine ⟨hkeep, fun hor => hquit ?_⟩
      rw [hsame]
      exact hor.imp_right fun hmem => (List.mem_cons.mp hmem).resolve_left (by simp)

/-- What holds of the exit code from the first message on that asks for the end, if `asked`. -/
structure QuitState (quitting : Q → Option Exit) (exit : Exit) (asked : Prop)
    (s : State Q App Exit) : Prop where
  queue : s.ended = none → AskedWith quitting exit s.queue
  ended : s.ended = none ∨ s.ended = some exit
  asked : asked → s.ended = some exit ∨ quitting s.queue = some exit

/-- Another queue, where the same was asked for. -/
theorem QuitState.setQueue {asked : Prop} {s : State Q App Exit}
    (hs : QuitState quitting exit asked s) {q : Q} (hsame : quitting q = quitting s.queue) :
    QuitState quitting exit asked { s with queue := q } where
  queue hnone := by
    rw [AskedWith, hsame]
    exact hs.queue hnone
  ended := hs.ended
  asked hasked := by
    rw [hsame]
    exact hs.asked hasked

/-- While the loop goes on, it is the queue that knows. -/
theorem QuitState.quitting_eq {asked : Prop} {s : State Q App Exit}
    (hs : QuitState quitting exit asked s) (hnone : s.ended = none) (hasked : asked) :
    quitting s.queue = some exit := by
  refine (hs.asked hasked).resolve_left ?_
  rw [hnone]
  exact (Option.some_ne_none exit).symm

theorem QuitState.deliver {asked : Prop} {s : State Q App Exit} {msg : Msg} {p : Msg → Prop}
    (hsys : sys.Documented waiting quitting) (hs : QuitState quitting exit asked s)
    (hnone : s.ended = none) (honly : ∀ app msg e, .postQuit e ∈ (h.handle app msg).2 → e = exit)
    (hset : ∀ app msg, p msg → .postQuit exit ∈ (h.handle app msg).2) :
    QuitState quitting exit (asked ∨ p msg) (deliver sys h s msg) := by
  obtain ⟨hkeep, hquit⟩ := calls_quitting hsys (h.handle s.app msg).2 (honly s.app msg) s.queue
    (hs.queue hnone)
  refine ⟨fun _ => hkeep, .inl hnone, fun hasked => .inr (hquit ?_)⟩
  rcases hasked with hasked | hp
  · exact .inl (hs.quitting_eq hnone hasked)
  · exact .inr (hset s.app msg hp)

/-- One action; `p` are the messages that ask for the end. -/
theorem QuitState.step {asked : Prop} {s : State Q App Exit} {p : Msg → Prop}
    (hsys : sys.Documented waiting quitting) (hs : QuitState quitting exit asked s)
    (honly : ∀ app msg e, .postQuit e ∈ (h.handle app msg).2 → e = exit)
    (hset : ∀ app msg, p msg → .postQuit exit ∈ (h.handle app msg).2)
    (action : Action Msg Tick) :
    QuitState quitting exit (asked ∨ ∃ msg ∈ handledOf (eventOf sys s action).toList, p msg)
      (step sys h s action) := by
  cases action with
  | post msg =>
    simpa [MessageLoop.step, eventOf, handledOf] using hs.setQueue (hsys.post s.queue msg).2
  | send msg =>
    simp only [MessageLoop.step, eventOf]
    cases hnone : s.ended with
    | some e => simpa [handledOf] using hs
    | none => simpa [handledOf] using hs.deliver hsys hnone honly hset
  | turn tick =>
    simp only [MessageLoop.step, eventOf]
    cases hnone : s.ended with
    | some e => simpa [handledOf] using hs
    | none =>
      cases hpeek : (sys.peek s.queue).1 with
      | message msg =>
        have hs1 := hs.setQueue (hsys.peek_message s.queue msg hpeek).2
        simpa [handledOf, hnone] using hs1.deliver hsys hnone honly hset
      | quit e =>
        have hasked := (hsys.peek_quit s.queue e hpeek).1
        obtain rfl : e = exit := by
          rcases hs.queue hnone with hq | hq
          · rw [hq] at hasked
            cases hasked
          · rw [hq] at hasked
            exact (Option.some.inj hasked).symm
        exact ⟨(fun hended => nomatch hended), .inr rfl, fun _ => .inl rfl⟩
      | nothing =>
        obtain ⟨_, hq, _, hq'⟩ := hsys.peek_nothing s.queue hpeek
        refine ⟨fun _ => .inl hq', .inl rfl, fun hasked => ?_⟩
        have hbefore := hs.quitting_eq hnone (hasked.resolve_right (by simp [handledOf]))
        rw [hq] at hbefore
        cases hbefore

/-- A whole run, by induction on the actions. -/
theorem QuitState.run {p : Msg → Prop} (hsys : sys.Documented waiting quitting)
    (honly : ∀ app msg e, .postQuit e ∈ (h.handle app msg).2 → e = exit)
    (hset : ∀ app msg, p msg → .postQuit exit ∈ (h.handle app msg).2)
    (actions : List (Action Msg Tick)) : ∀ {asked : Prop} {s : State Q App Exit},
    QuitState quitting exit asked s →
      QuitState quitting exit (asked ∨ ∃ msg ∈ handledOf (events sys h s actions), p msg)
        (run sys h s actions) := by
  induction actions with
  | nil =>
    intro asked s hs
    simpa [events, handledOf, MessageLoop.run] using hs
  | cons action actions ih =>
    intro asked s hs
    have hrest := ih (hs.step hsys honly hset action)
    rw [or_assoc] at hrest
    have hall : ∀ msgs msgs' : List Msg, ((∃ msg ∈ msgs, p msg) ∨ ∃ msg ∈ msgs', p msg) ↔
        ∃ msg ∈ msgs ++ msgs', p msg := by
      intro msgs msgs'
      simp only [List.mem_append, or_and_right, exists_or]
    rw [hall, ← handledOf_append] at hrest
    exact hrest

/-- A loop that has ended does nothing. -/
theorem ended_run (sys : Queue Q Msg Exit) (h : Handlers Msg Tick App Exit)
    (actions : List (Action Msg Tick)) : ∀ {s : State Q App Exit},
    s.ended = some exit →
      (run sys h s actions).ended = some exit ∧ events sys h s actions = [] := by
  induction actions with
  | nil => exact fun hended => ⟨hended, rfl⟩
  | cons action actions ih =>
    intro s hended
    have hstep : (step sys h s action).ended = some exit ∧ eventOf sys s action = none := by
      cases action with
      | post msg => exact ⟨hended, rfl⟩
      | send msg => simp [step, eventOf, hended]
      | turn tick => simp [step, eventOf, hended]
    obtain ⟨hended', hevents⟩ := ih hstep.1
    refine ⟨hended', ?_⟩
    rw [events, hstep.2, hevents]
    rfl

/-- A turn after the end was asked for takes a message that waits, or is the last one. -/
theorem turn_takes (hsys : sys.Documented waiting quitting) {s : State Q App Exit}
    (hnone : s.ended = none) (hasked : quitting s.queue = some exit) (tick : Tick) :
    (∀ tick', eventOf sys s (.turn tick) ≠ some (.worked tick')) ∧
      ((step sys h s (.turn tick)).ended = none →
        (waiting (step sys h s (.turn tick)).queue).card < (waiting s.queue).card) := by
  simp only [eventOf, step, hnone]
  cases hpeek : (sys.peek s.queue).1 with
  | message msg =>
    have hcalls := hsys.calls_waiting (h.handle s.app msg).2 (sys.peek s.queue).2
    have htaken := (hsys.peek_message s.queue msg hpeek).1
    have hcard := Multiset.card_le_card ((Multiset.cons_le_cons msg hcalls).trans htaken)
    rw [Multiset.card_cons] at hcard
    exact ⟨by simp, fun _ => hcard⟩
  | quit e => simp
  | nothing =>
    rw [(hsys.peek_nothing s.queue hpeek).2.1] at hasked
    cases hasked

/-- After the end was asked for, an action works nothing, and as long as the loop goes on it takes
as many waiting messages as it has turns. -/
theorem asked_step (hsys : sys.Documented waiting quitting) {s : State Q App Exit}
    (hnone : s.ended = none) (hasked : quitting s.queue = some exit) (action : Action Msg Tick) :
    (∀ tick, eventOf sys s action ≠ some (.worked tick)) ∧
      ((step sys h s action).ended = none →
        (waiting (step sys h s action).queue).card + turns [action] ≤
          (waiting s.queue).card + (posted [action]).length) := by
  have hwaits := Multiset.card_le_card (step_waiting (h := h) s action hsys)
  rw [Multiset.card_add, Multiset.card_add, Multiset.coe_card, Multiset.coe_card] at hwaits
  cases action with
  | post msg =>
    refine ⟨by simp [eventOf], fun _ => ?_⟩
    show _ + 0 ≤ _
    omega
  | send msg =>
    refine ⟨by simp [eventOf, hnone], fun _ => ?_⟩
    show _ + 0 ≤ _
    omega
  | turn tick =>
    obtain ⟨hno, hless⟩ := turn_takes (h := h) hsys hnone hasked tick
    refine ⟨hno, fun hnone' => ?_⟩
    show _ + 1 ≤ _ + 0
    exact hless hnone'

/-- From the steps, by induction on the actions. -/
theorem quits (hsys : sys.Documented waiting quitting)
    (honly : ∀ app msg e, .postQuit e ∈ (h.handle app msg).2 → e = exit)
    (actions : List (Action Msg Tick)) : ∀ {s : State Q App Exit},
    QuitState quitting exit True s →
      (∀ tick, .worked tick ∉ events sys h s actions) ∧
        ((waiting s.queue).card + (posted actions).length < turns actions →
          (run sys h s actions).ended = some exit) := by
  induction actions with
  | nil => exact fun _ => ⟨by simp [events], by simp [turns]⟩
  | cons action actions ih =>
    intro s hs
    rcases hs.ended with hnone | hended
    · have hs' : QuitState quitting exit True (step sys h s action) := by
        have hstep := hs.step (p := fun _ => False) hsys honly (fun _ _ hf => hf.elim) action
        rwa [true_or] at hstep
      obtain ⟨hrest, hend⟩ := ih hs'
      obtain ⟨hno, hless⟩ := asked_step (h := h) hsys hnone (hs.quitting_eq hnone trivial) action
      refine ⟨fun tick htick => ?_, fun hlt => ?_⟩
      · rw [events] at htick
        rcases List.mem_append.mp htick with htick | htick
        · exact hno tick (Option.mem_toList.mp htick)
        · exact hrest tick htick
      · rcases hs'.ended with hended | hended
        · have hcount := hless hended
          rw [posted_cons, turns_cons, List.length_append] at hlt
          exact hend (by omega)
        · exact (ended_run sys h actions hended).1
    · obtain ⟨hended', hevents⟩ := ended_run sys h (action :: actions) hended
      rw [hevents]
      exact ⟨by simp, fun _ => hended'⟩

end Quit

end MessageLoop
