import Mathlib
import FBXRenderer.Lib.PartialRun
import FBXRenderer.Engine.Input

/-!
# FBXRenderer.Engine.CameraPitch

The rotation of the camera in `SSRenderer::PerFrame`, in exact arithmetic. A frame makes eight
updates of `_camXRotation` and `_camYRotation`, in the order of the source; the pitch is guarded by
its bound before an update and not clamped after it.

* `perFrame`: the eight updates of one frame. `rotationSteps`: those of a run.
* `RotationUpdate.askedTurn`: the turn of the pitch that an update asks for, from the input alone.
* `pitch_bounded_iff`: where the sums of these turns stay inside the bound, the pitch does after
  every update of the run, and only there, unless one of the sums is the bound itself.
-/

namespace FBXRenderer

section Constants

variable (K : Type) [Field K]

def XM_PIDIV2 : K := 1570796327 / 10 ^ 9
def XM_2PI : K := 6283185307 / 10 ^ 9

def CAM_XROT_MAX : K := 9 / 10
def CAM_ROT_SPEED : K := (2 : Nat)
def KEYBOARD_CAM_ROT_SPEED : K := 1 / (2 : Nat)

/-- `XM_PIDIV2 * CAM_XROT_MAX`, the bound that the source writes out at each of its tests. -/
def pitchBound : K := XM_PIDIV2 K * CAM_XROT_MAX K

end Constants

variable {K : Type} [Field K] [LinearOrder K]

/-- What a frame reads: keys and buttons, `GetMouseDelta`, `SSFrameInfo::GetDeltaTime`. -/
structure FrameInput (K : Type) [Field K] [LinearOrder K] where
  input : SSInput
  mouseDelta : Vector2f K
  deltaTime : K
  deltaX_mem : mouseDelta.X ∈ Set.Icc (-1) 1
  deltaY_mem : mouseDelta.Y ∈ Set.Icc (-1) 1

section Window

variable [IsStrictOrderedRing K]

/-- A move of at most the size of the window is within 1. -/
theorem intCast_div_mem {delta : Int} {size : Nat} (hsize : 0 < size) (h : delta.natAbs ≤ size) :
    (delta : K) / (size : K) ∈ Set.Icc (-1) 1 := by
  have hpos : (0 : K) < size := by exact_mod_cast hsize
  have hlow : (-(size : Int) : Int) ≤ delta := by omega
  have hhigh : delta ≤ (size : Int) := by omega
  constructor
  · rw [le_div_iff₀ hpos]
    have hcast : ((-(size : Int) : Int) : K) ≤ (delta : K) := Int.cast_le.mpr hlow
    simpa using hcast
  · rw [div_le_iff₀ hpos]
    have hcast : (delta : K) ≤ ((size : Int) : K) := Int.cast_le.mpr hhigh
    simpa using hcast

/-- The frame after a move of the mouse inside a window of the given size. -/
def FrameInput.ofInput (input : SSInput) (deltaTime : K) (winSizeX winSizeY : Nat)
    (hsizeX : 0 < winSizeX) (hsizeY : 0 < winSizeY)
    (hdeltaX : input._mouseDelta.X.natAbs ≤ winSizeX)
    (hdeltaY : input._mouseDelta.Y.natAbs ≤ winSizeY) : FrameInput K where
  input := input
  mouseDelta := input.getMouseDeltaInternal winSizeX winSizeY
  deltaTime := deltaTime
  deltaX_mem := intCast_div_mem hsizeX hdeltaX
  deltaY_mem := by
    have hneg : (-input._mouseDelta.Y).natAbs ≤ winSizeY := by rwa [Int.natAbs_neg]
    have hmem := intCast_div_mem (K := K) hsizeY hneg
    rwa [Int.cast_neg] at hmem

end Window

structure CamRotation (K : Type) where
  _camXRotation : K
  _camYRotation : K

/-- As `SSRenderer` is constructed. -/
def CamRotation.new : CamRotation K := ⟨0, 0⟩

section Updates

variable [FloorRing K]

/-- The remainder of the division that rounds towards zero. -/
def fmodf (x y : K) : K :=
  if 0 ≤ x / y then x - y * (⌊x / y⌋ : K) else x - y * (⌈x / y⌉ : K)

/-- The statements of `PerFrame` that change the rotation. -/
inductive RotationUpdate where
  | mouseYaw
  | mousePitchDown
  | mousePitchUp
  | keyRight
  | keyLeft
  | keyUp
  | keyDown
  | wrapYaw
deriving DecidableEq

namespace RotationUpdate

/-- The first three stand in the branch of the right button. -/
def apply (frame : FrameInput K) (cam : CamRotation K) : RotationUpdate → CamRotation K
  | mouseYaw =>
    if frame.input.getMouse .MOUSE_RIGHT then
      { cam with
        _camYRotation := cam._camYRotation + frame.mouseDelta.X * CAM_ROT_SPEED K }
    else cam
  | mousePitchDown =>
    if frame.input.getMouse .MOUSE_RIGHT ∧
        (-pitchBound K < cam._camXRotation ∧ 0 < frame.mouseDelta.Y) then
      { cam with
        _camXRotation := cam._camXRotation - frame.mouseDelta.Y * CAM_ROT_SPEED K }
    else cam
  | mousePitchUp =>
    if frame.input.getMouse .MOUSE_RIGHT ∧
        (cam._camXRotation < pitchBound K ∧ frame.mouseDelta.Y < 0) then
      { cam with
        _camXRotation := cam._camXRotation - frame.mouseDelta.Y * CAM_ROT_SPEED K }
    else cam
  | keyRight =>
    if frame.input.getKey .KEY_RIGHT then
      { cam with
        _camYRotation := cam._camYRotation + frame.deltaTime * KEYBOARD_CAM_ROT_SPEED K }
    else cam
  | keyLeft =>
    if frame.input.getKey .KEY_LEFT then
      { cam with
        _camYRotation := cam._camYRotation - frame.deltaTime * KEYBOARD_CAM_ROT_SPEED K }
    else cam
  | keyUp =>
    if frame.input.getKey .KEY_UP ∧ -pitchBound K < cam._camXRotation then
      { cam with
        _camXRotation := cam._camXRotation - frame.deltaTime * KEYBOARD_CAM_ROT_SPEED K }
    else cam
  | keyDown =>
    if frame.input.getKey .KEY_DOWN ∧ cam._camXRotation < pitchBound K then
      { cam with
        _camXRotation := cam._camXRotation + frame.deltaTime * KEYBOARD_CAM_ROT_SPEED K }
    else cam
  | wrapYaw => { cam with _camYRotation := fmodf cam._camYRotation (XM_2PI K) }

end RotationUpdate

/-- In the order of the source. -/
def perFrameUpdates : List RotationUpdate :=
  [.mouseYaw, .mousePitchDown, .mousePitchUp, .keyRight, .keyLeft, .keyUp, .keyDown, .wrapYaw]

/-- The part of `SSRenderer::PerFrame` that turns the camera. -/
def perFrame (cam : CamRotation K) (frame : FrameInput K) : CamRotation K :=
  perFrameUpdates.foldl (RotationUpdate.apply frame) cam

/-- The updates of a run, each with the frame it belongs to. -/
def rotationSteps (frames : List (FrameInput K)) : List (FrameInput K × RotationUpdate) :=
  frames.flatMap fun frame => perFrameUpdates.map fun update => (frame, update)

/-- Every update returns. -/
def rotationStep (cam : CamRotation K) (op : FrameInput K × RotationUpdate) :
    Option (CamRotation K) :=
  some (op.2.apply op.1 cam)

/-- The steps of a run make its frames. -/
theorem rotationSteps_run (frames : List (FrameInput K)) (cam : CamRotation K) :
    (rotationSteps frames).foldlM rotationStep cam = some (frames.foldl perFrame cam) := by
  induction frames generalizing cam with
  | nil => rfl
  | cons frame frames ih =>
    have hframe : (perFrameUpdates.map fun update => (frame, update)).foldlM rotationStep cam
        = some (perFrame cam frame) := rfl
    have hsteps : rotationSteps (frame :: frames)
        = (perFrameUpdates.map fun update => (frame, update)) ++ rotationSteps frames := rfl
    rw [hsteps, List.foldlM_append, hframe, List.foldl_cons]
    exact ih (perFrame cam frame)

end Updates

section Pitch

/-- The camera does not flip over. -/
def PitchBounded (cam : CamRotation K) : Prop :=
  -pitchBound K ≤ cam._camXRotation ∧ cam._camXRotation ≤ pitchBound K

/-- The turn of the pitch that an update asks for, whatever the pitch is. -/
def RotationUpdate.askedTurn (frame : FrameInput K) : RotationUpdate → K
  | mousePitchDown =>
    if frame.input.getMouse .MOUSE_RIGHT ∧ 0 < frame.mouseDelta.Y then
      -(frame.mouseDelta.Y * CAM_ROT_SPEED K)
    else 0
  | mousePitchUp =>
    if frame.input.getMouse .MOUSE_RIGHT ∧ frame.mouseDelta.Y < 0 then
      -(frame.mouseDelta.Y * CAM_ROT_SPEED K)
    else 0
  | keyUp =>
    if frame.input.getKey .KEY_UP then -(frame.deltaTime * KEYBOARD_CAM_ROT_SPEED K) else 0
  | keyDown =>
    if frame.input.getKey .KEY_DOWN then frame.deltaTime * KEYBOARD_CAM_ROT_SPEED K else 0
  | mouseYaw | keyRight | keyLeft | wrapYaw => 0

/-- How far some updates ask the camera to turn, all together. -/
def askedSum (ops : List (FrameInput K × RotationUpdate)) : K :=
  (ops.map fun op => op.2.askedTurn op.1).sum

/-- From a camera at rest, no sum of the turns asked for so far reaches the bound. -/
def TurnsInside (frames : List (FrameInput K)) : Prop :=
  ∀ ops, ops <+: rotationSteps frames → |askedSum ops| < pitchBound K

/-- No such sum is the bound itself. -/
def TurnsMissBound (frames : List (FrameInput K)) : Prop :=
  ∀ ops, ops <+: rotationSteps frames → |askedSum ops| ≠ pitchBound K

variable {cam : CamRotation K} {frame : FrameInput K}
  {op : FrameInput K × RotationUpdate} {ops : List (FrameInput K × RotationUpdate)}

@[simp] theorem askedSum_nil : askedSum ([] : List (FrameInput K × RotationUpdate)) = 0 := rfl

theorem askedSum_cons : askedSum (op :: ops) = op.2.askedTurn op.1 + askedSum ops := by
  rw [askedSum, List.map_cons, List.sum_cons]
  rfl

variable [IsStrictOrderedRing K] [FloorRing K]

variable (frame) in
/-- Inside the bound no guard on the pitch holds an update back. -/
theorem apply_of_inside (hinside : |cam._camXRotation| < pitchBound K) (update : RotationUpdate) :
    (update.apply frame cam)._camXRotation =
      cam._camXRotation + update.askedTurn frame := by
  obtain ⟨hlow, hhigh⟩ := abs_lt.mp hinside
  cases update with
  | mouseYaw | keyRight | keyLeft =>
    simp only [RotationUpdate.apply, RotationUpdate.askedTurn, add_zero]
    split <;> rfl
  | wrapYaw => simp only [RotationUpdate.apply, RotationUpdate.askedTurn, add_zero]
  | mousePitchDown =>
    simp only [RotationUpdate.apply, RotationUpdate.askedTurn, hlow, true_and]
    split
    · exact sub_eq_add_neg _ _
    · exact (add_zero _).symm
  | mousePitchUp =>
    simp only [RotationUpdate.apply, RotationUpdate.askedTurn, hhigh, true_and]
    split
    · exact sub_eq_add_neg _ _
    · exact (add_zero _).symm
  | keyUp =>
    simp only [RotationUpdate.apply, RotationUpdate.askedTurn, hlow, and_true]
    split
    · exact sub_eq_add_neg _ _
    · exact (add_zero _).symm
  | keyDown =>
    simp only [RotationUpdate.apply, RotationUpdate.askedTurn, hhigh, and_true]
    split
    · rfl
    · exact (add_zero _).symm

/-- The pitch is within its bound after each of the updates. -/
def EachBounded (cam : CamRotation K) (ops : List (FrameInput K × RotationUpdate)) : Prop :=
  PartialRun.Each rotationStep (fun cam op => PitchBounded (op.2.apply op.1 cam)) cam ops

/-- By induction on the updates: as long as the sums are inside, each is the pitch. -/
theorem eachBounded_of_inside : ∀ {cam : CamRotation K},
    (∀ pre, pre <+: ops → |cam._camXRotation + askedSum pre| < pitchBound K) →
      EachBounded cam ops := by
  induction ops with
  | nil => exact fun _ => trivial
  | cons op ops ih =>
    intro cam hinside
    have hstart : |cam._camXRotation| < pitchBound K := by
      simpa using hinside [] List.nil_prefix
    have hturn := apply_of_inside op.1 hstart op.2
    have hafter : |(op.2.apply op.1 cam)._camXRotation| < pitchBound K := by
      have hone := hinside [op] (by simp)
      rwa [askedSum_cons, askedSum_nil, add_zero, ← hturn] at hone
    refine ⟨abs_le.mp hafter.le, ?_⟩
    rintro cam' ⟨⟩
    refine ih fun pre hpre => ?_
    have hnext := hinside (op :: pre) (List.cons_prefix_cons.mpr ⟨rfl, hpre⟩)
    rwa [askedSum_cons, ← add_assoc, ← hturn] at hnext

/-- The first sum that is not inside is made from inside, so the pitch gets there. -/
theorem inside_of_eachBounded : ∀ {cam : CamRotation K}, |cam._camXRotation| < pitchBound K →
    (∀ pre, pre <+: ops → |cam._camXRotation + askedSum pre| ≠ pitchBound K) →
      EachBounded cam ops →
        ∀ pre, pre <+: ops → |cam._camXRotation + askedSum pre| < pitchBound K := by
  induction ops with
  | nil =>
    intro cam hstart _ _ pre hpre
    rw [List.prefix_nil.mp hpre, askedSum_nil, add_zero]
    exact hstart
  | cons op ops ih =>
    intro cam hstart hmiss hbounded pre hpre
    cases pre with
    | nil =>
      rw [askedSum_nil, add_zero]
      exact hstart
    | cons op' pre =>
      obtain ⟨rfl, htail⟩ := List.cons_prefix_cons.mp hpre
      have hturn := apply_of_inside op'.1 hstart op'.2
      have hafter : |(op'.2.apply op'.1 cam)._camXRotation| < pitchBound K := by
        refine lt_of_le_of_ne (abs_le.mpr hbounded.1) ?_
        have hone := hmiss [op'] (by simp)
        rwa [askedSum_cons, askedSum_nil, add_zero, ← hturn] at hone
      have hmiss' : ∀ pre, pre <+: ops →
          |(op'.2.apply op'.1 cam)._camXRotation + askedSum pre| ≠ pitchBound K := by
        intro pre hpre
        have hnext := hmiss (op' :: pre) (List.cons_prefix_cons.mpr ⟨rfl, hpre⟩)
        rwa [askedSum_cons, ← add_assoc, ← hturn] at hnext
      have hrest := ih hafter hmiss' (hbounded.2 _ rfl) pre htail
      rwa [askedSum_cons, ← add_assoc, ← hturn]

/-- The pitch after every update of a run, from the renderer's first frame. -/
def PitchStaysBounded (frames : List (FrameInput K)) : Prop :=
  EachBounded .new (rotationSteps frames)

omit [FloorRing K] in
theorem pitchBound_pos : 0 < pitchBound K := by
  unfold pitchBound XM_PIDIV2 CAM_XROT_MAX
  positivity

/-- The pitch is within its bound after every update of a run in which the turns asked for add up to
less than the bound at every time, and in no other run in which they never add up to the bound
itself. There the guard drops the next turn outward, and the later sums say nothing. -/
theorem pitch_bounded_iff (frames : List (FrameInput K)) :
    (TurnsInside frames → PitchStaysBounded frames) ∧
      (TurnsMissBound frames → (PitchStaysBounded frames ↔ TurnsInside frames)) := by
  have hzero : ∀ ops, (CamRotation.new : CamRotation K)._camXRotation + askedSum ops
      = askedSum ops := fun ops => zero_add _
  have hinside : TurnsInside frames → PitchStaysBounded frames := by
    intro h
    refine eachBounded_of_inside fun pre hpre => ?_
    rw [hzero]
    exact h pre hpre
  refine ⟨hinside, fun hmiss => ⟨fun hbounded pre hpre => ?_, hinside⟩⟩
  have hstart : |(CamRotation.new : CamRotation K)._camXRotation| < pitchBound K := by
    show |(0 : K)| < _
    rw [abs_zero]
    exact pitchBound_pos
  have hmiss' : ∀ pre, pre <+: rotationSteps frames →
      |(CamRotation.new : CamRotation K)._camXRotation + askedSum pre| ≠ pitchBound K := by
    intro pre hpre
    rw [hzero]
    exact hmiss pre hpre
  have hall := inside_of_eachBounded hstart hmiss' hbounded pre hpre
  rwa [hzero] at hall

end Pitch

/-- The right button is down and the mouse has come up a quarter of the window. -/
def dragFrame : FrameInput ℚ :=
  .ofInput { SSInput.new.setMouse .MOUSE_RIGHT true with _mouseDelta := ⟨30, -270⟩ } (1 / 60)
    1920 1080 (by decide) (by decide) (by decide) (by decide)

/-- One frame at 60 Hz with the up key held. -/
def pressFrame : FrameInput ℚ :=
  .ofInput (SSInput.new.setKey .KEY_UP true) (1 / 60) 1920 1080
    (by decide) (by decide) (by decide) (by decide)

theorem pitch_bounded_iff_press : PitchStaysBounded [dragFrame, pressFrame, dragFrame] := by
  refine (pitch_bounded_iff [dragFrame, pressFrame, dragFrame]).1 ?_
  have hall : ∀ ops ∈ (rotationSteps [dragFrame, pressFrame, dragFrame]).inits,
      |askedSum ops| < pitchBound ℚ := by decide +kernel
  exact fun ops hops => hall ops ((List.mem_inits _ _).mpr hops)

/-- The right button is down and the mouse has come from the bottom of the window to its top. -/
def flickInput : SSInput :=
  { SSInput.new.setMouse .MOUSE_RIGHT true with _mouseDelta := ⟨0, -1080⟩ }

def flickFrame : FrameInput ℚ :=
  .ofInput flickInput 0 1920 1080 (by decide) (by decide) (by decide) (by decide)

/-- The pitch is -2 after the second update, and its bound about 1.41. -/
theorem flick_overturns : ¬ PitchStaysBounded [flickFrame] := by
  intro h
  have hbounded := (h.2 _ rfl).1
  have hpitch : (RotationUpdate.mousePitchDown.apply flickFrame
      (RotationUpdate.mouseYaw.apply flickFrame .new))._camXRotation = -2 := by
    decide +kernel
  have hlow := hbounded.1
  rw [hpitch] at hlow
  norm_num [pitchBound, XM_PIDIV2, CAM_XROT_MAX] at hlow

end FBXRenderer
