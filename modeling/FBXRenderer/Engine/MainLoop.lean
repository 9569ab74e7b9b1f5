import Mathlib
import FBXRenderer.Lib.MessageLoop
import FBXRenderer.Engine.FrameInfo
import FBXRenderer.Engine.Input

/-!
# FBXRenderer.Engine.MainLoop

The loop of `wWinMain` and the window procedure (`FBXRenderer.cpp`), with others that post messages
at any time and the system that sends them. The message queue is a parameter with the laws
`Queue.Documented` of `PeekMessage`, `PostQuitMessage` and `DestroyWindow`: in which order messages
are taken, and which ones a destroyed window loses, is left to the system. What
`SSRenderer::PerFrame` does is a parameter. The modal loop of the about box is left out.

* `main_loop_frames`: the frames work on the input state and the frame info that the runs of
  `Engine.Input` and `Engine.FrameInfo` describe, each when no message is left.
* `main_loop_quits`: there is no frame after the window is destroyed, and the loop ends.
-/

namespace FBXRenderer

namespace MainLoop

open MessageLoop (Queue Call Action State Handlers AskedWith QuitState posted turns takenOf eventOf)

def IDM_EXIT : Nat := 105

def LOWORD (l : Nat) : Nat := l % 2 ^ 16
def HIWORD (l : Nat) : Nat := l / 2 ^ 16 % 2 ^ 16

/-- What `WndProc` tells apart, and the `WM_CLOSE` that it leaves to `DefWindowProc`. -/
inductive WindowMessage where
  | message (msg : Message)
  | WM_SIZE (lParam : Nat)
  | WM_COMMAND (wParam : Nat)
  | WM_CLOSE
  | WM_DESTROY

/-- The singletons and the renderer. -/
structure App (K R : Type) where
  input : SSInput
  frameInfo : SSFrameInfo K
  renderer : R

section Definitions

variable {K R : Type} [Field K] [LinearOrder K]

/-- `DestroyWindow` sends `WM_DESTROY`, and then takes the messages of the window away. -/
def destroyWindow : List (Call Int) := [.postQuit 0, .destroyed]

/-- `WndProc`, with its calls that reach the queue. `DefWindowProc` destroys a closed window. -/
def windowProc (app : App K R) : WindowMessage → App K R × List (Call Int)
  | .message msg => ({ app with input := wndProc app.input msg }, [])
  | .WM_SIZE lParam =>
    ({ app with
        frameInfo :=
          app.frameInfo.processWindowResizeEventInternal (LOWORD lParam) (HIWORD lParam) }, [])
  | .WM_COMMAND wParam => (app, if LOWORD wParam = IDM_EXIT then destroyWindow else [])
  | .WM_CLOSE => (app, destroyWindow)
  | .WM_DESTROY => (app, [.postQuit 0])

/-- The branch of the loop without a message, at the given tick. -/
def perFrame (rendererPerFrame : R → SSInput → SSFrameInfo K → R) (app : App K R)
    (newTickLI : Nat) : App K R :=
  let frameInfo := app.frameInfo.perFrame newTickLI
  { app with
    frameInfo := frameInfo
    renderer := rendererPerFrame app.renderer app.input frameInfo
    input := app.input.processInputEndOfFrame }

/-- The loop of `wWinMain`. -/
def wWinMain (rendererPerFrame : R → SSInput → SSFrameInfo K → R) :
    Handlers WindowMessage Nat (App K R) Int where
  handle := windowProc
  work := perFrame rendererPerFrame

end Definitions

/-- The window is destroyed. -/
def destroys : WindowMessage → Bool
  | .WM_DESTROY | .WM_CLOSE => true
  | .WM_COMMAND wParam => LOWORD wParam == IDM_EXIT
  | _ => false

section Views

variable {K R : Type} [Field K] [LinearOrder K]

abbrev LoopEvent : Type := MessageLoop.Event WindowMessage Nat

/-- What `SSInput` is told of an event. -/
def inputEvent : LoopEvent → Option Event
  | .taken (.message msg) | .sent (.message msg) => some (.message msg)
  | .taken _ | .sent _ => none
  | .worked _ => some .frame

/-- The frame info that the frames of a run see, in order. -/
def frameInfos (info : SSFrameInfo K) : List LoopEvent → List (SSFrameInfo K)
  | [] => []
  | .taken (.WM_SIZE lParam) :: es | .sent (.WM_SIZE lParam) :: es =>
    frameInfos (info.processWindowResizeEventInternal (LOWORD lParam) (HIWORD lParam)) es
  | .taken _ :: es | .sent _ :: es => frameInfos info es
  | .worked tick :: es => info.perFrame tick :: frameInfos (info.perFrame tick) es

/-- The two runs side by side: the frames are the same. -/
theorem renderer_foldl (rendererPerFrame : R → SSInput → SSFrameInfo K → R)
    (es : List LoopEvent) : ∀ app : App K R,
    (es.foldl (MessageLoop.apply (wWinMain rendererPerFrame)) app).renderer =
      ((frames app.input (es.filterMap inputEvent)).zip (frameInfos app.frameInfo es)).foldl
        (fun renderer view => rendererPerFrame renderer view.1 view.2) app.renderer := by
  induction es with
  | nil => intro app; rfl
  | cons e es ih =>
    intro app
    rw [List.foldl_cons, ih]
    cases e with
    | taken msg | sent msg =>
      cases msg with
      | message msg => rfl
      | WM_SIZE lParam => rfl
      | WM_COMMAND wParam => rfl
      | WM_CLOSE => rfl
      | WM_DESTROY => rfl
    | worked tick => rfl

/-- Whatever is posted and sent while the loop runs: the renderer is called with the input states
and frame infos of the runs above, no message is taken more often than it was posted, and there is a
frame only when no message waits and nobody has asked for the end. -/
theorem main_loop_frames {Q : Type} {sys : Queue Q WindowMessage Int}
    {waiting : Q → Multiset WindowMessage} {quitting : Q → Option Int}
    (hsys : sys.Documented waiting quitting) (rendererPerFrame : R → SSInput → SSFrameInfo K → R)
    (queue : Q) (start : App K R) (actions : List (Action WindowMessage Nat)) :
    let h := wWinMain rendererPerFrame
    let s : State Q (App K R) Int := ⟨queue, start, none⟩
    let es := MessageLoop.events sys h s actions
    let s' := MessageLoop.run sys h s actions
    s'.app.renderer =
        ((frames start.input (es.filterMap inputEvent)).zip (frameInfos start.frameInfo es)).foldl
          (fun renderer view => rendererPerFrame renderer view.1 view.2) start.renderer ∧
      ↑(takenOf es) + waiting s'.queue ≤ waiting queue + ↑(posted actions) ∧
      ∀ tick tick' : Nat, eventOf sys s' (.turn tick) = some (.worked tick') →
        waiting s'.queue = 0 ∧ quitting s'.queue = none := by
  intro h s es s'
  refine ⟨?_, MessageLoop.run_waiting hsys actions s, fun tick tick' hevent => ?_⟩
  · rw [MessageLoop.run_app]
    exact renderer_foldl rendererPerFrame es start
  · exact MessageLoop.idle_waiting s' hsys hevent

/-- A key and a size, a frame before and a frame after. -/
theorem main_loop_frames_fifo :
    let h := wWinMain fun (drawn : List (Bool × Nat)) input (info : SSFrameInfo ℚ) =>
      drawn ++ [(input.getKey .KEY_W, info._windowSize.1)]
    let sys := MessageLoop.fifo WindowMessage Int
    let s : State _ (App ℚ (List (Bool × Nat))) Int := ⟨([], none), ⟨.new, .new, []⟩, none⟩
    let actions : List (Action WindowMessage Nat) := [.turn 1,
      .post (.message (.input (.WM_KEYDOWN 87))), .post (.WM_SIZE 600), .turn 2, .turn 3, .turn 4]
    let es := MessageLoop.events sys h s actions
    let s' := MessageLoop.run sys h s actions
    s'.app.renderer =
        ((frames .new (es.filterMap inputEvent)).zip (frameInfos (.new : SSFrameInfo ℚ) es)).foldl
          (fun drawn view => drawn ++ [(view.1.getKey .KEY_W, view.2._windowSize.1)]) [] ∧
      ↑(takenOf es) + (↑s'.queue.1 : Multiset WindowMessage) ≤ 0 + ↑(posted actions) ∧
      ∀ tick tick' : Nat, eventOf sys s' (.turn tick) = some (.worked tick') →
        (↑s'.queue.1 : Multiset WindowMessage) = 0 ∧ s'.queue.2 = none :=
  main_loop_frames (MessageLoop.fifo_documented WindowMessage Int) _ ([], none) ⟨.new, .new, []⟩ _

end Views

section Quit

variable {K R : Type}

theorem postQuit_windowProc (app : App K R) (msg : WindowMessage) (exit : Int)
    (hcall : .postQuit exit ∈ (windowProc app msg).2) : exit = 0 := by
  cases msg with
  | message msg => cases hcall
  | WM_SIZE lParam => cases hcall
  | WM_COMMAND wParam =>
    by_cases hexit : LOWORD wParam = IDM_EXIT
    · simpa [windowProc, destroyWindow, hexit] using hcall
    · simp [windowProc, hexit] at hcall
  | WM_CLOSE => simpa [windowProc, destroyWindow] using hcall
  | WM_DESTROY => simpa [windowProc] using hcall

theorem postQuit_destroys (app : App K R) (msg : WindowMessage) (hmsg : destroys msg) :
    .postQuit 0 ∈ (windowProc app msg).2 := by
  cases msg with
  | message msg => cases hmsg
  | WM_SIZE lParam => cases hmsg
  | WM_COMMAND wParam =>
    have hexit : LOWORD wParam = IDM_EXIT := by simpa [destroys] using hmsg
    simp [windowProc, destroyWindow, hexit]
  | WM_CLOSE => exact List.mem_cons_self
  | WM_DESTROY => exact List.mem_cons_self

variable [Field K] [LinearOrder K]

/-- From the message on that destroys the window, whether it was posted or sent: no frame is made
any more, and after a turn for each message that still waits or comes, and one more, the loop has
ended with code 0. -/
theorem main_loop_quits {Q : Type} {sys : Queue Q WindowMessage Int}
    {waiting : Q → Multiset WindowMessage} {quitting : Q → Option Int}
    (hsys : sys.Documented waiting quitting) (rendererPerFrame : R → SSInput → SSFrameInfo K → R)
    (queue : Q) (hqueue : quitting queue = none) (start : App K R)
    (before after : List (Action WindowMessage Nat)) (hdestroyed : ∃ msg ∈ MessageLoop.handledOf
      (MessageLoop.events sys (wWinMain rendererPerFrame) ⟨queue, start, none⟩ before),
      destroys msg) :
    let h := wWinMain rendererPerFrame
    let s := MessageLoop.run sys h ⟨queue, start, none⟩ before
    (∀ tick, .worked tick ∉ MessageLoop.events sys h s after) ∧
      ((waiting s.queue).card + (posted after).length < turns after →
        (MessageLoop.run sys h s after).ended = some 0) := by
  intro h s
  have hstart : QuitState quitting (0 : Int) False (⟨queue, start, none⟩ : State Q (App K R) Int) :=
    ⟨fun _ => .inl hqueue, .inl rfl, False.elim⟩
  have hs : QuitState quitting 0 True s := by
    have hbefore := QuitState.run (h := h) (p := fun msg => destroys msg) hsys
      postQuit_windowProc postQuit_destroys before hstart
    rwa [false_or, eq_true hdestroyed] at hbefore
  exact MessageLoop.quits hsys postQuit_windowProc after hs

/-- The exit of the menu, with a key handled before it and one posted after it. -/
theorem main_loop_quits_menu :
    let h := wWinMain (K := ℚ) fun (drawn : List Bool) input _ => drawn ++ [input.getKey .KEY_W]
    let sys := MessageLoop.fifo WindowMessage Int
    let s := MessageLoop.run sys h ⟨([], none), ⟨.new, .new, []⟩, none⟩
      [.post (.message (.input (.WM_KEYDOWN 87))), .turn 1, .turn 2,
        .post (.WM_COMMAND IDM_EXIT), .turn 3]
    let after : List (Action WindowMessage Nat) :=
      [.post (.message (.input (.WM_KEYUP 87))), .turn 4, .turn 5]
    (∀ tick, .worked tick ∉ MessageLoop.events sys h s after) ∧
      ((↑s.queue.1 : Multiset WindowMessage).card + (posted after).length < turns after →
        (MessageLoop.run sys h s after).ended = some 0) :=
  main_loop_quits (MessageLoop.fifo_documented WindowMessage Int) _ ([], none) rfl
    ⟨.new, .new, []⟩ [.post (.message (.input (.WM_KEYDOWN 87))), .turn 1, .turn 2,
      .post (.WM_COMMAND IDM_EXIT), .turn 3]
    [.post (.message (.input (.WM_KEYUP 87))), .turn 4, .turn 5] ⟨.WM_COMMAND IDM_EXIT, by
      simp [MessageLoop.handledOf, MessageLoop.events, MessageLoop.eventOf, MessageLoop.step,
        MessageLoop.deliver, MessageLoop.fifo, wWinMain, windowProc], rfl⟩

end Quit

end MainLoop

end FBXRenderer
