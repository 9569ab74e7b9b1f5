import Mathlib
import FBXRenderer.NativeKeywords
import FBXRenderer.Engine.Vector
import FBXRenderer.Lib.Sampling

/-!
# FBXRenderer.Engine.Input

`SSInput` (`SSInput.h`, `SSInput.cpp`) behind the window procedure and the message loop of
`FBXRenderer.cpp`.

* A run is a list of events: a message of the window, or a frame of the loop. A frame reads the
  input state and ends with `processInputEndOfFrame`; `frames` lists the states the frames see.
* `key_edges`: of every key, `getKeyDown` and `getKeyUp` alternate over the frames, and `getKey`
  holds from the one to the other.
* `mouse_delta_sum_iff`: the mouse deltas of the frames add up to the way of the mouse exactly when
  the moves that were followed by another move before the same frame add up to nothing.
-/

namespace FBXRenderer

/-- `EKeyCode`, less its `Count`. -/
inductive EKeyCode where
  | KEY_A | KEY_B | KEY_C | KEY_D | KEY_E | KEY_F | KEY_G | KEY_H | KEY_I | KEY_J | KEY_K | KEY_L
  | KEY_M | KEY_N | KEY_O | KEY_P | KEY_Q | KEY_R | KEY_S | KEY_T | KEY_U | KEY_V | KEY_W | KEY_X
  | KEY_Y | KEY_Z
  | KEY_UP | KEY_DOWN | KEY_LEFT | KEY_RIGHT
  | Unknown
deriving DecidableEq

/-- `EMouseCode`, less its `Count`. -/
inductive EMouseCode where
  | MOUSE_LEFT | MOUSE_RIGHT | MOUSE_WHEEL
  | Unknown
deriving DecidableEq

@[ext]
structure Vector2i32 where
  X : Int
  Y : Int
deriving DecidableEq

namespace Vector2i32

def Zero : Vector2i32 := ⟨0, 0⟩

/-- Componentwise in `int32`. -/
instance : Sub Vector2i32 where
  sub lhs rhs := ⟨toInt32 (lhs.X - rhs.X), toInt32 (lhs.Y - rhs.Y)⟩

end Vector2i32

def VK_LEFT : Nat := 0x25
def VK_UP : Nat := 0x26
def VK_RIGHT : Nat := 0x27
def VK_DOWN : Nat := 0x28

def windowsVKCodeToSSKeyCode (wParam : Nat) : EKeyCode :=
  if wParam = 'A'.toNat then .KEY_A
  else if wParam = 'C'.toNat then .KEY_C
  else if wParam = 'D'.toNat then .KEY_D
  else if wParam = 'E'.toNat then .KEY_E
  else if wParam = 'Q'.toNat then .KEY_Q
  else if wParam = 'S'.toNat then .KEY_S
  else if wParam = 'W'.toNat then .KEY_W
  else if wParam = 'Z'.toNat then .KEY_Z
  else if wParam = 'M'.toNat then .KEY_M
  else if wParam = 'N'.toNat then .KEY_N
  else if wParam = VK_UP then .KEY_UP
  else if wParam = VK_DOWN then .KEY_DOWN
  else if wParam = VK_LEFT then .KEY_LEFT
  else if wParam = VK_RIGHT then .KEY_RIGHT
  else .Unknown

/-- `GET_X_LPARAM`: the low word as a signed number. -/
def GET_X_LPARAM (lParam : Int) : Int := toInt16 (lParam % 2 ^ 16)

/-- `GET_Y_LPARAM`: the high word as a signed number. -/
def GET_Y_LPARAM (lParam : Int) : Int := toInt16 (lParam / 2 ^ 16 % 2 ^ 16)

/-- Where a `WM_MOUSEMOVE` puts the mouse. -/
def mousePosOf (lParam : Int) : Vector2i32 := ⟨GET_X_LPARAM lParam, GET_Y_LPARAM lParam⟩

/-- The messages that `WndProc` hands to `SSInput`; no other reaches the `assert(false)` there. -/
inductive InputMessage where
  | WM_KEYDOWN (wParam : Nat)
  | WM_KEYUP (wParam : Nat)
  | WM_LBUTTONDOWN
  | WM_LBUTTONUP
  | WM_RBUTTONDOWN
  | WM_RBUTTONUP
  | WM_MBUTTONDOWN
  | WM_MBUTTONUP
  | WM_MOUSEMOVE (lParam : Int)

/-- The messages of the window; `other` stands for those that do not touch `SSInput`. -/
inductive Message where
  | input (message : InputMessage)
  | WM_KILLFOCUS
  | WM_MOUSELEAVE
  | WM_NCMOUSELEAVE
  | other

structure SSInput where
  _prevFrameKeyState : EKeyCode → Bool
  _keyState : EKeyCode → Bool
  _prevFrameMouseState : EMouseCode → Bool
  _mouseState : EMouseCode → Bool
  _mousePos : Vector2i32
  _mouseDelta : Vector2i32

namespace SSInput

def new : SSInput where
  _prevFrameKeyState := fun _ => false
  _keyState := fun _ => false
  _prevFrameMouseState := fun _ => false
  _mouseState := fun _ => false
  _mousePos := Vector2i32.Zero
  _mouseDelta := Vector2i32.Zero

def getKey (input : SSInput) (keyCode : EKeyCode) : Bool := input._keyState keyCode

def getKeyDown (input : SSInput) (keyCode : EKeyCode) : Bool :=
  !input._prevFrameKeyState keyCode && input._keyState keyCode

def getKeyUp (input : SSInput) (keyCode : EKeyCode) : Bool :=
  input._prevFrameKeyState keyCode && !input._keyState keyCode

def getMouse (input : SSInput) (mouseCode : EMouseCode) : Bool := input._mouseState mouseCode

/-- In units of the window, with Y upwards. -/
def getMouseDeltaInternal {K : Type} [Field K] (winSizeX winSizeY : Nat) (input : SSInput) :
    Vector2f K :=
  ⟨(input._mouseDelta.X : K) / (winSizeX : K), -(input._mouseDelta.Y : K) / (winSizeY : K)⟩

def setKey (input : SSInput) (keyCode : EKeyCode) (down : Bool) : SSInput :=
  { input with _keyState := Function.update input._keyState keyCode down }

def setMouse (input : SSInput) (mouseCode : EMouseCode) (down : Bool) : SSInput :=
  { input with _mouseState := Function.update input._mouseState mouseCode down }

def processInputEventForWindowsInternal (input : SSInput) : InputMessage → SSInput
  | .WM_KEYDOWN wParam => input.setKey (windowsVKCodeToSSKeyCode wParam) true
  | .WM_KEYUP wParam => input.setKey (windowsVKCodeToSSKeyCode wParam) false
  | .WM_LBUTTONDOWN => input.setMouse .MOUSE_LEFT true
  | .WM_LBUTTONUP => input.setMouse .MOUSE_LEFT false
  | .WM_RBUTTONDOWN => input.setMouse .MOUSE_RIGHT true
  | .WM_RBUTTONUP => input.setMouse .MOUSE_RIGHT false
  | .WM_MBUTTONDOWN => input.setMouse .MOUSE_WHEEL true
  | .WM_MBUTTONUP => input.setMouse .MOUSE_WHEEL false
  | .WM_MOUSEMOVE lParam =>
    let newPos := mousePosOf lParam
    { input with _mouseDelta := newPos - input._mousePos, _mousePos := newPos }

def clearCurInputState (input : SSInput) : SSInput :=
  { input with _keyState := fun _ => false, _mouseState := fun _ => false }

def processInputEndOfFrame (input : SSInput) : SSInput :=
  { input with
    _mouseDelta := Vector2i32.Zero
    _prevFrameKeyState := input._keyState
    _prevFrameMouseState := input._mouseState }

end SSInput

/-- The part of `WndProc` that touches `SSInput`. -/
def wndProc (input : SSInput) : Message → SSInput
  | .input message => input.processInputEventForWindowsInternal message
  | .WM_KILLFOCUS | .WM_MOUSELEAVE | .WM_NCMOUSELEAVE => input.clearCurInputState
  | .other => input

/-- One turn of the loop of `wWinMain`: a message that was waiting, or else a frame. -/
inductive Event where
  | message (msg : Message)
  | frame

/-- The input states that the frames of a run see, in order. -/
def frames (input : SSInput) : List Event → List SSInput
  | [] => []
  | .message msg :: es => frames (wndProc input msg) es
  | .frame :: es => input :: frames input.processInputEndOfFrame es

section Keys

/-- A query of the input that answers true in frame `i`. -/
def TrueInFrame (fs : List SSInput) (query : SSInput → Bool) (i : Nat) : Prop :=
  ∃ input, fs[i]? = some input ∧ query input = true

/-- The states of a key that a run has shown: before the first frame, then in each frame. -/
def keySamples (input : SSInput) (es : List Event) (keyCode : EKeyCode) (i : Nat) : Bool :=
  match i with
  | 0 => input._prevFrameKeyState keyCode
  | i + 1 => ((frames input es)[i]?.map (·._keyState keyCode)).getD false

@[simp] theorem wndProc_prevFrameKeyState (input : SSInput) (msg : Message) :
    (wndProc input msg)._prevFrameKeyState = input._prevFrameKeyState := by
  cases msg with
  | input message => cases message <;> rfl
  | _ => rfl

/-- Every frame compares with the frame before it. -/
theorem frames_prev (es : List Event) (keyCode : EKeyCode) : ∀ (input : SSInput) (i : Nat) (f),
    (frames input es)[i]? = some f →
      f._prevFrameKeyState keyCode = keySamples input es keyCode i := by
  induction es with
  | nil => intro input i f hf; simp [frames] at hf
  | cons e es ih =>
    intro input i f hf
    cases e with
    | message msg =>
      rw [ih (wndProc input msg) i f hf]
      cases i with
      | zero => simp [keySamples]
      | succ i => rfl
    | frame =>
      cases i with
      | zero =>
        cases hf
        rfl
      | succ i =>
        rw [ih input.processInputEndOfFrame i f hf]
        cases i with
        | zero => rfl
        | succ i => rfl

theorem trueInFrame_iff {es : List Event} {keyCode : EKeyCode} {query : SSInput → Bool}
    (edge : (Nat → Bool) → Nat → Prop)
    (hquery : ∀ (f : SSInput) (i : Nat),
      f._prevFrameKeyState keyCode = keySamples SSInput.new es keyCode i →
      f._keyState keyCode = keySamples SSInput.new es keyCode (i + 1) →
        (query f = true ↔ edge (keySamples SSInput.new es keyCode) i)) (i : Nat) :
    TrueInFrame (frames SSInput.new es) query i ↔
      i < (frames SSInput.new es).length ∧ edge (keySamples SSInput.new es keyCode) i := by
  constructor
  · rintro ⟨f, hf, hq⟩
    have hcur : f._keyState keyCode = keySamples SSInput.new es keyCode (i + 1) := by
      simp [keySamples, hf]
    refine ⟨(List.getElem?_eq_some_iff.mp hf).1, ?_⟩
    exact (hquery f i (frames_prev es keyCode _ i f hf) hcur).mp hq
  · rintro ⟨hi, hedge⟩
    have hf : (frames SSInput.new es)[i]? = some (frames SSInput.new es)[i] :=
      List.getElem?_eq_getElem hi
    have hcur : (frames SSInput.new es)[i]._keyState keyCode
        = keySamples SSInput.new es keyCode (i + 1) := by
      simp [keySamples, hf]
    exact ⟨_, hf, (hquery _ i (frames_prev es keyCode _ i _ hf) hcur).mpr hedge⟩

theorem keyDown_iff (es : List Event) (keyCode : EKeyCode) (i : Nat) :
    TrueInFrame (frames SSInput.new es) (·.getKeyDown keyCode) i ↔
      i < (frames SSInput.new es).length ∧
        Sampling.RisesAt (keySamples SSInput.new es keyCode) i :=
  trueInFrame_iff Sampling.RisesAt (fun f i hprev hcur => by
    simp [SSInput.getKeyDown, Sampling.RisesAt, hprev, hcur]) i

theorem keyUp_iff (es : List Event) (keyCode : EKeyCode) (i : Nat) :
    TrueInFrame (frames SSInput.new es) (·.getKeyUp keyCode) i ↔
      i < (frames SSInput.new es).length ∧
        Sampling.FallsAt (keySamples SSInput.new es keyCode) i :=
  trueInFrame_iff Sampling.FallsAt (fun f i hprev hcur => by
    simp [SSInput.getKeyUp, Sampling.FallsAt, hprev, hcur]) i

theorem key_iff (es : List Event) (keyCode : EKeyCode) (i : Nat) :
    TrueInFrame (frames SSInput.new es) (·.getKey keyCode) i ↔
      i < (frames SSInput.new es).length ∧
        keySamples SSInput.new es keyCode (i + 1) = true :=
  trueInFrame_iff (fun s i => s (i + 1) = true) (fun f i _ hcur => by
    simp [SSInput.getKey, hcur]) i

/-- Whatever messages come between the frames, the frames where a key goes down and those where it
goes up alternate, the first one down, and the key is held from a down to before the next up. -/
theorem key_edges (es : List Event) (keyCode : EKeyCode) :
    Sampling.Alternate (TrueInFrame (frames SSInput.new es) (·.getKeyDown keyCode))
        (TrueInFrame (frames SSInput.new es) (·.getKeyUp keyCode)) ∧
      ∀ i, TrueInFrame (frames SSInput.new es) (·.getKey keyCode) i ↔
        i < (frames SSInput.new es).length ∧
          ∃ d, d ≤ i ∧ TrueInFrame (frames SSInput.new es) (·.getKeyDown keyCode) d ∧
            ∀ u, d < u → u ≤ i →
              ¬ TrueInFrame (frames SSInput.new es) (·.getKeyUp keyCode) u := by
  have hdown := funext fun i => propext (keyDown_iff es keyCode i)
  have hup := funext fun i => propext (keyUp_iff es keyCode i)
  have h0 : keySamples SSInput.new es keyCode 0 = false := rfl
  constructor
  · rw [hdown, hup]
    exact Sampling.edges_alternate _ h0 _
  · intro i
    rw [key_iff, Sampling.set_iff_since_rise h0 i]
    constructor
    · rintro ⟨hi, d, hd, hrise, hno⟩
      refine ⟨hi, d, hd, (keyDown_iff es keyCode d).mpr ⟨by omega, hrise⟩, fun u hu hui hfall => ?_⟩
      exact hno u hu hui ((keyUp_iff es keyCode u).mp hfall).2
    · rintro ⟨hi, d, hd, hdownd, hno⟩
      refine ⟨hi, d, hd, ((keyDown_iff es keyCode d).mp hdownd).2, fun u hu hui hfall => ?_⟩
      exact hno u hu hui ((keyUp_iff es keyCode u).mpr ⟨by omega, hfall⟩)

end Keys

section Mouse

/-- What a message says about where the mouse is. -/
def moveOf : Message → List Vector2i32
  | .input (.WM_MOUSEMOVE lParam) => [mousePosOf lParam]
  | _ => []

/-- The moves before each frame; `acc` are those since the last frame. Moves that no frame follows
do not count. -/
def movesBetweenFrames (acc : List Vector2i32) : List Event → List (List Vector2i32)
  | [] => []
  | .message msg :: es => movesBetweenFrames (acc ++ moveOf msg) es
  | .frame :: es => acc :: movesBetweenFrames [] es

/-- The mouse position in the last frame. -/
def posAtLastFrame (start : Vector2i32) (fs : List SSInput) : Vector2i32 :=
  (fs.getLast?.map (·._mousePos)).getD start

/-- The frames of a run see all of its motion, once: along both axes their deltas add up to the
position in the last frame less the position at the start. -/
def SeesAllMotion (es : List Event) : Prop :=
  ((frames SSInput.new es).map (·._mouseDelta.X)).sum
      = (posAtLastFrame SSInput.new._mousePos (frames SSInput.new es)).X
        - SSInput.new._mousePos.X ∧
    ((frames SSInput.new es).map (·._mouseDelta.Y)).sum
      = (posAtLastFrame SSInput.new._mousePos (frames SSInput.new es)).Y
        - SSInput.new._mousePos.Y

/-- Along each axis the moves that another move followed before the same frame add up to nothing. -/
def OvertakenMovesCancel (es : List Event) : Prop :=
  Sampling.lost SSInput.new._mousePos.X
      ((movesBetweenFrames [] es).map (·.map (·.X))) = 0 ∧
    Sampling.lost SSInput.new._mousePos.Y
      ((movesBetweenFrames [] es).map (·.map (·.Y))) = 0

/-- The positions that a message can carry. -/
def InShort (v : Vector2i32) : Prop :=
  (-2 ^ 15 ≤ v.X ∧ v.X < 2 ^ 15) ∧ (-2 ^ 15 ≤ v.Y ∧ v.Y < 2 ^ 15)

theorem inShort_mousePosOf (lParam : Int) : InShort (mousePosOf lParam) :=
  ⟨toInt16_bounds _, toInt16_bounds _⟩

theorem inShort_of_mem_moveOf {v : Vector2i32} {msg : Message} (hv : v ∈ moveOf msg) :
    InShort v := by
  cases msg with
  | input message =>
    cases message with
    | WM_MOUSEMOVE lParam =>
      rw [moveOf, List.mem_singleton] at hv
      rw [hv]
      exact inShort_mousePosOf lParam
    | _ => cases hv
  | _ => cases hv

theorem sub_X {v w : Vector2i32} (hv : InShort v) (hw : InShort w) : (v - w).X = v.X - w.X := by
  obtain ⟨hv, _⟩ := hv
  obtain ⟨hw, _⟩ := hw
  show toInt32 (v.X - w.X) = v.X - w.X
  rw [toInt32_eq (by omega) (by omega)]

theorem sub_Y {v w : Vector2i32} (hv : InShort v) (hw : InShort w) : (v - w).Y = v.Y - w.Y := by
  obtain ⟨_, hv⟩ := hv
  obtain ⟨_, hw⟩ := hw
  show toInt32 (v.Y - w.Y) = v.Y - w.Y
  rw [toInt32_eq (by omega) (by omega)]

/-- A message leaves the mouse alone, or it is a move. -/
theorem wndProc_mouse (input : SSInput) (msg : Message) :
    (moveOf msg = [] ∧ (wndProc input msg)._mousePos = input._mousePos ∧
        (wndProc input msg)._mouseDelta = input._mouseDelta) ∨
      ∃ newPos, moveOf msg = [newPos] ∧ (wndProc input msg)._mousePos = newPos ∧
        (wndProc input msg)._mouseDelta = newPos - input._mousePos := by
  cases msg with
  | input message =>
    cases message with
    | WM_MOUSEMOVE lParam => exact .inr ⟨mousePosOf lParam, rfl, rfl, rfl⟩
    | _ => exact .inl ⟨rfl, rfl, rfl⟩
  | _ => exact .inl ⟨rfl, rfl, rfl⟩

/-- What the mouse fields hold after the moves `acc` since a frame that saw the mouse at `p`. -/
structure MouseAt (p : Vector2i32) (acc : List Vector2i32) (input : SSInput) : Prop where
  start : InShort p
  short : ∀ v ∈ acc, InShort v
  pos : input._mousePos = acc.getLastD p
  delta_X : input._mouseDelta.X = Sampling.lastStep p.X (acc.map (·.X))
  delta_Y : input._mouseDelta.Y = Sampling.lastStep p.Y (acc.map (·.Y))

theorem getLastD_map (axis : Vector2i32 → Int) (p : Vector2i32) (acc : List Vector2i32) :
    (acc.map axis).getLastD (axis p) = axis (acc.getLastD p) := by
  rw [List.getLastD_eq_getLast?, List.getLastD_eq_getLast?, List.getLast?_map, Option.getD_map]

theorem MouseAt.inShort_pos {p : Vector2i32} {acc : List Vector2i32} {input : SSInput}
    (h : MouseAt p acc input) : InShort input._mousePos := by
  rw [h.pos]
  cases hacc : acc.getLast? with
  | none =>
    rw [List.getLast?_eq_none_iff.mp hacc]
    exact h.start
  | some v =>
    rw [List.getLastD_eq_getLast?, hacc]
    exact h.short v (List.mem_of_getLast? hacc)

theorem MouseAt.message {p : Vector2i32} {acc : List Vector2i32} {input : SSInput}
    (h : MouseAt p acc input) (msg : Message) :
    MouseAt p (acc ++ moveOf msg) (wndProc input msg) := by
  obtain ⟨hmove, hpos, hdelta⟩ | ⟨newPos, hmove, hpos, hdelta⟩ := wndProc_mouse input msg
  · rw [hmove, List.append_nil]
    exact ⟨h.start, h.short, by rw [hpos, h.pos], by rw [hdelta, h.delta_X],
      by rw [hdelta, h.delta_Y]⟩
  · have hnew : InShort newPos := inShort_of_mem_moveOf (by rw [hmove]; exact List.mem_cons_self ..)
    rw [hmove]
    refine ⟨h.start, ?_, ?_, ?_, ?_⟩
    · intro v hv
      obtain hv | hv := List.mem_append.mp hv
      · exact h.short v hv
      · rw [List.mem_singleton.mp hv]
        exact hnew
    · rw [hpos, List.getLastD_concat]
    · rw [hdelta, sub_X hnew h.inShort_pos, List.map_append, List.map_singleton,
        Sampling.lastStep_concat, getLastD_map (·.X), h.pos]
    · rw [hdelta, sub_Y hnew h.inShort_pos, List.map_append, List.map_singleton,
        Sampling.lastStep_concat, getLastD_map (·.Y), h.pos]

theorem MouseAt.endOfFrame {p : Vector2i32} {acc : List Vector2i32} {input : SSInput}
    (h : MouseAt p acc input) : MouseAt input._mousePos [] input.processInputEndOfFrame :=
  ⟨h.inShort_pos, fun _ hv => (List.not_mem_nil hv).elim, rfl, rfl, rfl⟩

/-- The deltas that the frames see, and where the last of them sees the mouse. -/
theorem frames_seen (es : List Event) (axis : Vector2i32 → Int)
    (haxis : ∀ {p acc} {input : SSInput}, MouseAt p acc input →
      axis input._mouseDelta = Sampling.lastStep (axis p) (acc.map axis)) :
    ∀ {p acc} {input : SSInput}, MouseAt p acc input →
      ((frames input es).map fun f => axis f._mouseDelta).sum
          = Sampling.seen (axis p) ((movesBetweenFrames acc es).map (·.map axis)) ∧
        axis (posAtLastFrame p (frames input es))
          = Sampling.final (axis p) ((movesBetweenFrames acc es).map (·.map axis)) := by
  induction es with
  | nil => intro p acc input _; exact ⟨rfl, rfl⟩
  | cons e es ih =>
    intro p acc input h
    cases e with
    | message msg => exact ih (h.message msg)
    | frame =>
      obtain ⟨hsum, hlast⟩ := ih h.endOfFrame
      have hpos : (acc.map axis).getLastD (axis p) = axis input._mousePos := by
        rw [getLastD_map, h.pos]
      constructor
      · rw [frames, List.map_cons, List.sum_cons, hsum, haxis h, movesBetweenFrames, List.map_cons,
          Sampling.seen, hpos]
      · rw [movesBetweenFrames, List.map_cons, Sampling.final, hpos, ← hlast]
        simp only [posAtLastFrame, frames, List.getLast?_cons]
        cases (frames input.processInputEndOfFrame es).getLast? with
        | none => rfl
        | some f => rfl

theorem mouseAt_new : MouseAt SSInput.new._mousePos [] SSInput.new :=
  ⟨⟨by decide, by decide⟩, fun _ hv => (List.not_mem_nil hv).elim, rfl, rfl, rfl⟩

/-- The frames see all motion exactly when the overtaken moves cancel. -/
theorem mouse_delta_sum_iff (es : List Event) : SeesAllMotion es ↔ OvertakenMovesCancel es := by
  obtain ⟨hsumX, hlastX⟩ := frames_seen es (·.X) (·.delta_X) mouseAt_new
  obtain ⟨hsumY, hlastY⟩ := frames_seen es (·.Y) (·.delta_Y) mouseAt_new
  unfold SeesAllMotion OvertakenMovesCancel
  rw [hsumX, hlastX, hsumY, hlastY, Sampling.seen_eq_iff, Sampling.seen_eq_iff]

/-- Two moves of one pixel and of two before a frame: the frame sees the second only. -/
theorem mouse_delta_sum_two_moves : ¬ SeesAllMotion
    [.message (.input (.WM_MOUSEMOVE 1)), .message (.input (.WM_MOUSEMOVE 3)), .frame] := by
  intro h
  have hX := h.1
  revert hX
  decide

/-- While the window keeps its size, what `GetMouseDelta` answers adds up in window units. -/
theorem getMouseDelta_sum {K : Type} [Field K] (winSizeX winSizeY : Nat) (fs : List SSInput) :
    (fs.map fun f => (f.getMouseDeltaInternal (K := K) winSizeX winSizeY).X).sum
        = Int.cast (fs.map (·._mouseDelta.X)).sum / winSizeX ∧
      (fs.map fun f => (f.getMouseDeltaInternal (K := K) winSizeX winSizeY).Y).sum
        = -Int.cast (fs.map (·._mouseDelta.Y)).sum / winSizeY := by
  induction fs with
  | nil => simp
  | cons f fs ih =>
    obtain ⟨ihX, ihY⟩ := ih
    constructor
    · rw [List.map_cons, List.sum_cons, ihX, List.map_cons, List.sum_cons, Int.cast_add, add_div]
      rfl
    · rw [List.map_cons, List.sum_cons, ihY, List.map_cons, List.sum_cons, Int.cast_add, neg_add,
        add_div]
      rfl

/-- With at most one move a frame nothing is overtaken. -/
theorem overtakenMovesCancel_of_single_moves {es : List Event}
    (h : ∀ ms ∈ movesBetweenFrames [] es, ms.length ≤ 1) : OvertakenMovesCancel es := by
  have hshort : ∀ axis : Vector2i32 → Int,
      ∀ w ∈ (movesBetweenFrames [] es).map (·.map axis), w.length ≤ 1 := by
    intro axis w hw
    obtain ⟨ms, hms, rfl⟩ := List.mem_map.mp hw
    rw [List.length_map]
    exact h ms hms
  exact ⟨Sampling.lost_eq_zero_of_short (hshort _), Sampling.lost_eq_zero_of_short (hshort _)⟩

end Mouse

end FBXRenderer
