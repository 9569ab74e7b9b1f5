import Mathlib
import FBXRenderer.Engine.CameraPitch
import FBXRenderer.Engine.TransformAlgebra

/-!
# FBXRenderer.Engine.Camera

`SSCamera` (`SSCamera.h`) and the rest of what `SSRenderer::PerFrame` does with it: the moves, the
zoom, and the view matrix, in exact arithmetic. The rotation comes from `Engine.CameraPitch`.

* `camera_run`: what holds of the camera after any frames.
* `camera_speed`: how far it is from where it started.
-/

namespace FBXRenderer

open DirectXMath
open scoped Matrix

section Definitions

variable {K : Type} [Field K]

def XM_PI (K : Type) [Field K] : K := (3141592654 : Nat) / (10 : Nat) ^ 9
def XM_PIDIV4 (K : Type) [Field K] : K := (785398163 : Nat) / (10 : Nat) ^ 9

def CAM_FOV_MIN (K : Type) [Field K] : K := 1 / (100 : Nat)
def CAM_FOV_MAX (K : Type) [Field K] : K := XM_PI K * ((99 : Nat) / (100 : Nat))

def CAM_SPEED (K : Type) [Field K] : K := (3 : Nat)
def CAM_ZOOM_SPEED (K : Type) [Field K] : K := 1

namespace Vector4f

def Forward : Vector4f K := ⟨0, 0, 1, 0⟩
def Back : Vector4f K := ⟨0, 0, -1, 0⟩
def Up : Vector4f K := ⟨0, 1, 0, 0⟩
def Down : Vector4f K := ⟨0, -1, 0, 0⟩
def Left : Vector4f K := ⟨-1, 0, 0, 0⟩
def Right : Vector4f K := ⟨1, 0, 0, 0⟩

def get3DSqrLength (v : Vector4f K) : K := v.X ^ 2 + v.Y ^ 2 + v.Z ^ 2

def dot3D (v w : Vector4f K) : K := v.X * w.X + v.Y * w.Y + v.Z * w.Z

end Vector4f

namespace Transform

variable (dx : DirectXMath K) (t : Transform K)

def getForward : Vector4f K := dx.XMVector3Rotate Vector4f.Forward t.Rotation
def getBackward : Vector4f K := dx.XMVector3Rotate Vector4f.Back t.Rotation
def getUp : Vector4f K := dx.XMVector3Rotate Vector4f.Up t.Rotation
def getDown : Vector4f K := dx.XMVector3Rotate Vector4f.Down t.Rotation
def getLeft : Vector4f K := dx.XMVector3Rotate Vector4f.Left t.Rotation
def getRight : Vector4f K := dx.XMVector3Rotate Vector4f.Right t.Rotation

end Transform

/-- The functions of the library that only the camera uses. -/
structure CameraMath (K : Type) where
  XMQuaternionRotationMatrix : XMMATRIX K → Quaternion K
  XMQuaternionRotationRollPitchYaw : K → K → K → Quaternion K
  /-- Eye position, eye direction, up direction. -/
  XMMatrixLookToLH : Vector4f K → Vector4f K → Vector4f K → XMMATRIX K

/-- The view matrix with these axes as its columns. -/
def lookToLH (R0 R1 R2 EyePosition : Vector4f K) : XMMATRIX K :=
  !![R0.X, R1.X, R2.X, 0;
     R0.Y, R1.Y, R2.Y, 0;
     R0.Z, R1.Z, R2.Z, 0;
     -R0.dot3D EyePosition, -R1.dot3D EyePosition, -R2.dot3D EyePosition, 1]

def cross3D (v w : Vector4f K) : Vector4f K :=
  ⟨v.Y * w.Z - v.Z * w.Y, v.Z * w.X - v.X * w.Z, v.X * w.Y - v.Y * w.X, 0⟩

/-- What the documentation says of them, for exact components. The axes of a view are normalized:
the direction is divided by its length, and with an up direction of length 1 at a right angle the
other two have length 1. -/
structure CameraMath.Lawful [LinearOrder K] (cm : CameraMath K) : Prop where
  rotationMatrix : ∀ M, RigidMatrix.IsRotation M → M.det = 1 →
    (cm.XMQuaternionRotationMatrix M).IsUnit
  rollPitchYaw : ∀ pitch yaw roll, (cm.XMQuaternionRotationRollPitchYaw pitch yaw roll).IsUnit
  lookTo : ∀ (eye direction up : Vector4f K) (length : K), 0 < length →
    direction.get3DSqrLength = length ^ 2 → up.get3DSqrLength = 1 → direction.dot3D up = 0 →
      let R2 := direction.scale length⁻¹
      cm.XMMatrixLookToLH eye direction up = lookToLH (cross3D up R2) (cross3D R2 (cross3D up R2))
        R2 eye

def Quaternion.fromLookDirect (cm : CameraMath K) (lookDirection upDirection : Vector4f K) :
    Quaternion K :=
  cm.XMQuaternionRotationMatrix (cm.XMMatrixLookToLH Vector4f.Zero lookDirection upDirection)

structure SSCamera (K : Type) where
  _transform : Transform K
  FOVRadY : K
  NearZ : K
  FarZ : K

namespace SSCamera

def new : SSCamera K where
  _transform := { (Transform.Identity : Transform K) with Position := ⟨0, 0, -1, 0⟩ }
  FOVRadY := 0
  NearZ := 0
  FarZ := 0

def setNearFarZ (camera : SSCamera K) (InNearZ InFarZ : K) : SSCamera K :=
  { camera with NearZ := InNearZ, FarZ := InFarZ }

def getViewMatrix (dx : DirectXMath K) (cm : CameraMath K) (camera : SSCamera K) : XMMATRIX K :=
  cm.XMMatrixLookToLH camera._transform.Position (camera._transform.getForward dx)
    (camera._transform.getUp dx)

variable [LinearOrder K]

/-- A value outside the limits is dropped: the limit is assigned to the parameter only. -/
def setFOVWithRadians (camera : SSCamera K) (InRadians : K) : SSCamera K :=
  if InRadians < CAM_FOV_MIN K then camera
  else if CAM_FOV_MAX K < InRadians then camera
  else { camera with FOVRadY := InRadians }

end SSCamera

namespace SSRenderer

variable [LinearOrder K]

def beginFrame (cm : CameraMath K) : SSCamera K :=
  let Position : Vector4f K := ⟨0, 0, -(5 : Nat), 0⟩
  let renderTarget : SSCamera K :=
    { (SSCamera.new : SSCamera K) with
      _transform := { (Transform.Identity : Transform K) with
        Position := Position
        Rotation := Quaternion.fromLookDirect cm (Vector4f.Zero - Position) Vector4f.Up } }
  (renderTarget.setFOVWithRadians (XM_PIDIV4 K)).setNearFarZ (1 / (100 : Nat)) ((10 : Nat) ^ 4)

variable (dx : DirectXMath K)

/-- The keys that move the camera, in the order of the source, each with its direction. -/
def moveKeys : List (EKeyCode × (Transform K → Vector4f K)) :=
  [(.KEY_W, Transform.getForward dx), (.KEY_S, Transform.getBackward dx),
    (.KEY_A, Transform.getLeft dx), (.KEY_D, Transform.getRight dx),
    (.KEY_E, Transform.getUp dx), (.KEY_Q, Transform.getDown dx)]

def moveWithKey (frame : FrameInput K) (t : Transform K)
    (move : EKeyCode × (Transform K → Vector4f K)) : Transform K :=
  if frame.input.getKey move.1 then
    { t with Position := t.Position + ((move.2 t).scale frame.deltaTime).scale (CAM_SPEED K) }
  else t

def zoomIn (frame : FrameInput K) (camera : SSCamera K) : SSCamera K :=
  if frame.input.getKey .KEY_C then
    camera.setFOVWithRadians (camera.FOVRadY - frame.deltaTime * CAM_ZOOM_SPEED K)
  else camera

def zoomOut (frame : FrameInput K) (camera : SSCamera K) : SSCamera K :=
  if frame.input.getKey .KEY_Z then
    camera.setFOVWithRadians (camera.FOVRadY + frame.deltaTime * CAM_ZOOM_SPEED K)
  else camera

variable [FloorRing K]

/-- The camera part of `PerFrame`: moves and zoom with the rotation of the frame before, then the
new rotation. -/
def cameraFrame (cm : CameraMath K) (state : SSCamera K × CamRotation K) (frame : FrameInput K) :
    SSCamera K × CamRotation K :=
  let renderTarget := { state.1 with
    _transform := (moveKeys dx).foldl (moveWithKey frame) state.1._transform }
  let renderTarget := zoomOut frame (zoomIn frame renderTarget)
  let rotation := perFrame state.2 frame
  ({ renderTarget with
     _transform := { renderTarget._transform with
       Rotation := cm.XMQuaternionRotationRollPitchYaw rotation._camXRotation
         rotation._camYRotation 0 } }, rotation)

end SSRenderer

end Definitions

section View

variable {K : Type} [Field K] {dx : DirectXMath K} {cm : CameraMath K}

theorem dot3D_rotate (v w : Vector4f K) {q : Quaternion K} (hq : q.IsUnit) :
    (vector3Rotate v q).dot3D (vector3Rotate w q) = v.dot3D w := by
  unfold Quaternion.IsUnit at hq
  simp only [Vector4f.dot3D, vector3Rotate, quaternionMultiply]
  -- the product of two rotated vectors has the length of the quaternion to the fourth power
  linear_combination (q.X ^ 2 + q.Y ^ 2 + q.Z ^ 2 + q.W ^ 2 + 1) *
    (v.X * w.X + v.Y * w.Y + v.Z * w.Z) * hq

theorem get3DSqrLength_eq (v : Vector4f K) : v.get3DSqrLength = v.dot3D v := by
  simp only [Vector4f.get3DSqrLength, Vector4f.dot3D, pow_two]

/-- For any quaternion: the product of two rotated vectors is longer by the square of its length. -/
theorem cross3D_vector3Rotate (v w : Vector4f K) (q : Quaternion K) :
    cross3D (vector3Rotate v q) (vector3Rotate w q) =
      (vector3Rotate (cross3D v w) q).scale (q.X ^ 2 + q.Y ^ 2 + q.Z ^ 2 + q.W ^ 2) := by
  ext
  · simp only [cross3D, vector3Rotate, quaternionMultiply, Vector4f.scale_X]
    ring
  · simp only [cross3D, vector3Rotate, quaternionMultiply, Vector4f.scale_Y]
    ring
  · simp only [cross3D, vector3Rotate, quaternionMultiply, Vector4f.scale_Z]
    ring
  · rw [Vector4f.scale_W, W_vector3Rotate, zero_mul]
    rfl

theorem cross3D_rotate (v w : Vector4f K) {q : Quaternion K} (hq : q.IsUnit) :
    cross3D (vector3Rotate v q) (vector3Rotate w q) = vector3Rotate (cross3D v w) q := by
  rw [cross3D_vector3Rotate, show q.X ^ 2 + q.Y ^ 2 + q.Z ^ 2 + q.W ^ 2 = 1 from hq]
  ext <;> simp

section Axes

theorem get3DSqrLength_Forward : (Vector4f.Forward : Vector4f K).get3DSqrLength = 1 := by
  simp [Vector4f.get3DSqrLength, Vector4f.Forward]

theorem get3DSqrLength_Up : (Vector4f.Up : Vector4f K).get3DSqrLength = 1 := by
  simp [Vector4f.get3DSqrLength, Vector4f.Up]

theorem Forward_dot3D_Up : (Vector4f.Forward : Vector4f K).dot3D Vector4f.Up = 0 := by
  simp [Vector4f.dot3D, Vector4f.Forward, Vector4f.Up]

theorem cross3D_Up_Forward :
    cross3D (Vector4f.Up : Vector4f K) Vector4f.Forward = Vector4f.Right := by
  simp [cross3D, Vector4f.Up, Vector4f.Forward, Vector4f.Right]

theorem cross3D_Forward_Right :
    cross3D (Vector4f.Forward : Vector4f K) Vector4f.Right = Vector4f.Up := by
  simp [cross3D, Vector4f.Up, Vector4f.Forward, Vector4f.Right]

end Axes

/-- The axes of a rotation are the rows of its matrix, and the columns of the view. -/
theorem lookToLH_eq {q : Quaternion K} (hq : q.IsUnit) (p : Vector4f K) :
    lookToLH (vector3Rotate Vector4f.Right q) (vector3Rotate Vector4f.Up q)
        (vector3Rotate Vector4f.Forward q) p =
      RigidMatrix.translation (-p.X) (-p.Y) (-p.Z) * (rotationQuaternion q)ᵀ := by
  have hR := rotationQuaternion_isRotation hq
  have hrow := hR.row
  have hcol := hR.col
  simp only [vector3Rotate_eq _ hq]
  ext i j
  fin_cases i <;> fin_cases j <;>
    simp [lookToLH, Vector4f.dot3D, Vector4f.Right, Vector4f.Up, Vector4f.Forward,
      RigidMatrix.translation, Matrix.mul_apply, Fin.sum_univ_four, hrow, hcol] <;> ring

variable [LinearOrder K]

theorem getViewMatrix_eq [IsStrictOrderedRing K] (hdx : dx.Computes) (hcm : cm.Lawful)
    (camera : SSCamera K) (hq : camera._transform.Rotation.IsUnit) :
    let p := camera._transform.Position
    camera.getViewMatrix dx cm = RigidMatrix.translation (-p.X) (-p.Y) (-p.Z) *
      (rotationQuaternion camera._transform.Rotation)ᵀ := by
  intro p
  unfold SSCamera.getViewMatrix Transform.getForward Transform.getUp
  have hone : ∀ v : Vector4f K, v.scale 1⁻¹ = v := by
    intro v
    ext <;> simp
  have hforward : (vector3Rotate Vector4f.Forward camera._transform.Rotation).get3DSqrLength
      = 1 ^ 2 := by
    rw [get3DSqrLength_eq, dot3D_rotate _ _ hq, ← get3DSqrLength_eq, get3DSqrLength_Forward,
      one_pow]
  have hup : (vector3Rotate Vector4f.Up camera._transform.Rotation).get3DSqrLength = 1 := by
    rw [get3DSqrLength_eq, dot3D_rotate _ _ hq, ← get3DSqrLength_eq, get3DSqrLength_Up]
  rw [hdx.vector3Rotate, hdx.vector3Rotate,
    hcm.lookTo _ _ _ 1 one_pos hforward hup (by rw [dot3D_rotate _ _ hq, Forward_dot3D_Up])]
  simp only [hone, cross3D_rotate _ _ hq, cross3D_Up_Forward, cross3D_Forward_Right]
  exact lookToLH_eq hq p

/-- The view matrix undoes the matrix of a camera that is not scaled. -/
theorem view_inverse [IsStrictOrderedRing K] (hdx : dx.Computes) (hcm : cm.Lawful)
    (camera : SSCamera K) (hq : camera._transform.Rotation.IsUnit)
    (hscale : camera._transform.Scale = ⟨1, 1, 1, 0⟩) :
    camera.getViewMatrix dx cm * camera._transform.asMatrix dx = 1 ∧
      camera._transform.asMatrix dx * camera.getViewMatrix dx cm = 1 := by
  have hmatrix : camera._transform.asMatrix dx = rotationQuaternion camera._transform.Rotation *
      RigidMatrix.translation camera._transform.Position.X camera._transform.Position.Y
        camera._transform.Position.Z := by
    unfold Transform.asMatrix
    rw [hdx.matrixAffineTransformation, hscale, RigidMatrix.scaling_one, Matrix.one_mul,
      hdx.matrixRotationQuaternion]
  rw [getViewMatrix_eq hdx hcm camera hq, hmatrix]
  exact RigidMatrix.rigid_inverse (rotationQuaternion_isRotation hq) _ _ _

end View

section Frames

variable {K : Type} [Field K] [LinearOrder K] {dx : DirectXMath K} {cm : CameraMath K}

/-- A value outside the limits leaves the camera alone, so the limits are never left. -/
theorem SSCamera.setFOVWithRadians_mem (camera : SSCamera K) (InRadians : K)
    (h : camera.FOVRadY ∈ Set.Icc (CAM_FOV_MIN K) (CAM_FOV_MAX K)) :
    (camera.setFOVWithRadians InRadians).FOVRadY ∈ Set.Icc (CAM_FOV_MIN K) (CAM_FOV_MAX K) := by
  unfold setFOVWithRadians
  split
  case isTrue => exact h
  case isFalse hmin =>
    split
    case isTrue => exact h
    case isFalse hmax => exact ⟨not_lt.mp hmin, not_lt.mp hmax⟩

/-- Only the field of view is set. -/
theorem SSCamera.setFOVWithRadians_frame (camera : SSCamera K) (InRadians : K) :
    ∃ FOVRadY, camera.setFOVWithRadians InRadians = { camera with FOVRadY := FOVRadY } := by
  unfold setFOVWithRadians
  split
  case isTrue => exact ⟨_, rfl⟩
  case isFalse =>
    split
    case isTrue => exact ⟨_, rfl⟩
    case isFalse => exact ⟨_, rfl⟩

namespace SSRenderer

/-- What every frame leaves as it is, or within its limits. -/
structure CameraInv (state : SSCamera K × CamRotation K) : Prop where
  unit : state.1._transform.Rotation.IsUnit
  scale : state.1._transform.Scale = ⟨1, 1, 1, 0⟩
  fov : state.1.FOVRadY ∈ Set.Icc (CAM_FOV_MIN K) (CAM_FOV_MAX K)
  near : state.1.NearZ = 1 / 100
  far : state.1.FarZ = 10 ^ 4
  yaw : |state.2._camYRotation| < XM_2PI K

/-- A zoom sets the field of view at most. -/
theorem zoom_frame (frame : FrameInput K) (camera : SSCamera K) :
    ∃ FOVRadY, zoomOut frame (zoomIn frame camera) = { camera with FOVRadY := FOVRadY } := by
  have hin : ∃ FOVRadY, zoomIn frame camera = { camera with FOVRadY := FOVRadY } := by
    unfold zoomIn
    split
    case isTrue => exact camera.setFOVWithRadians_frame _
    case isFalse => exact ⟨_, rfl⟩
  obtain ⟨FOVRadY, hFOVRadY⟩ := hin
  rw [hFOVRadY]
  unfold zoomOut
  split
  case isTrue => exact SSCamera.setFOVWithRadians_frame { camera with FOVRadY := FOVRadY } _
  case isFalse => exact ⟨FOVRadY, rfl⟩

theorem zoom_mem (frame : FrameInput K) (camera : SSCamera K)
    (h : camera.FOVRadY ∈ Set.Icc (CAM_FOV_MIN K) (CAM_FOV_MAX K)) :
    (zoomOut frame (zoomIn frame camera)).FOVRadY ∈ Set.Icc (CAM_FOV_MIN K) (CAM_FOV_MAX K) := by
  have hin : (zoomIn frame camera).FOVRadY ∈ Set.Icc (CAM_FOV_MIN K) (CAM_FOV_MAX K) := by
    unfold zoomIn
    split
    case isTrue => exact camera.setFOVWithRadians_mem _ h
    case isFalse => exact h
  unfold zoomOut
  split
  case isTrue => exact SSCamera.setFOVWithRadians_mem _ _ hin
  case isFalse => exact hin

/-- A move sets the position at most. -/
theorem moves_frame (moves : List (EKeyCode × (Transform K → Vector4f K))) (frame : FrameInput K)
    (t : Transform K) : (moves.foldl (moveWithKey frame) t).Rotation = t.Rotation ∧
      (moves.foldl (moveWithKey frame) t).Scale = t.Scale := by
  induction moves generalizing t with
  | nil => exact ⟨rfl, rfl⟩
  | cons move moves ih =>
    obtain ⟨hrotation, hscale⟩ := ih (moveWithKey frame t move)
    rw [List.foldl_cons, hrotation, hscale]
    unfold moveWithKey
    split
    case isTrue => exact ⟨rfl, rfl⟩
    case isFalse => exact ⟨rfl, rfl⟩

end SSRenderer

end Frames

section Walk

/-- The view by its formula, and the two rotations as the library answers for the identity and for
angles of 0. -/
def viewMath {K : Type} [Field K] (sqrt : K → K) : CameraMath K where
  XMQuaternionRotationMatrix _ := Quaternion.one
  XMQuaternionRotationRollPitchYaw _ _ _ := Quaternion.one
  XMMatrixLookToLH EyePosition EyeDirection UpDirection :=
    let R2 := EyeDirection.scale (sqrt EyeDirection.get3DSqrLength)⁻¹
    lookToLH (cross3D UpDirection R2) (cross3D R2 (cross3D UpDirection R2)) R2 EyePosition

theorem viewMath_lawful {K : Type} [Field K] [LinearOrder K] {sqrt : K → K}
    (hsqrt : ∀ length, 0 < length → sqrt (length ^ 2) = length) : (viewMath sqrt).Lawful where
  rotationMatrix _ _ _ := Quaternion.one_isUnit
  rollPitchYaw _ _ _ := Quaternion.one_isUnit
  lookTo eye direction up length hlength hdirection _ _ := by
    simp only [viewMath, hdirection, hsqrt length hlength]

def cameraMath : CameraMath ℚ := viewMath Rat.sqrt

theorem cameraMath_lawful : cameraMath.Lawful :=
  viewMath_lawful fun length hlength => by rw [pow_two, Rat.sqrt_eq, abs_of_pos hlength]

/-- One frame at 60 Hz, forward and to the right, zooming in. -/
def walkFrame : FrameInput ℚ :=
  .ofInput (((SSInput.new.setKey .KEY_W true).setKey .KEY_D true).setKey .KEY_C true) (1 / 60)
    1280 720 (by decide) (by decide) (by decide) (by decide)

end Walk

section Run

variable {K : Type} [Field K] [LinearOrder K] [IsStrictOrderedRing K]
  {dx : DirectXMath K} {cm : CameraMath K}

theorem XM_2PI_pos : 0 < XM_2PI K := by
  unfold XM_2PI
  positivity

namespace SSRenderer

/-- The look direction of the first frame is that of the axes. -/
theorem fromLookDirect_isUnit (hcm : cm.Lawful) :
    (Quaternion.fromLookDirect cm (Vector4f.Zero - ⟨0, 0, -(5 : Nat), 0⟩)
      Vector4f.Up : Quaternion K).IsUnit := by
  let direction : Vector4f K := Vector4f.Zero - ⟨0, 0, -(5 : Nat), 0⟩
  have hlength : direction.get3DSqrLength = ((5 : Nat) : K) ^ 2 := by
    simp [direction, Vector4f.get3DSqrLength, Vector4f.Zero]
  have hup : direction.dot3D Vector4f.Up = 0 := by
    simp [direction, Vector4f.dot3D, Vector4f.Up, Vector4f.Zero]
  have hone : cm.XMMatrixLookToLH Vector4f.Zero direction Vector4f.Up = 1 := by
    rw [hcm.lookTo _ _ _ ((5 : Nat) : K) (Nat.cast_pos.mpr (by decide)) hlength
      get3DSqrLength_Up hup]
    have hforward : direction.scale ((5 : Nat) : K)⁻¹ = Vector4f.Forward := by
      ext <;> simp [direction, Vector4f.Zero, Vector4f.Forward]
    rw [hforward, cross3D_Up_Forward, cross3D_Forward_Right]
    ext i j
    fin_cases i <;> fin_cases j <;>
      simp [lookToLH, Vector4f.Right, Vector4f.Up, Vector4f.Forward, Vector4f.dot3D, Vector4f.Zero]
  have hrotation : RigidMatrix.IsRotation (1 : XMMATRIX K) := by
    refine ⟨?_, ?_, by simp⟩
    · ext j
      fin_cases j <;> simp [Matrix.one_apply]
    · intro i
      exact Matrix.one_apply
  unfold Quaternion.fromLookDirect
  rw [hone]
  exact hcm.rotationMatrix 1 hrotation Matrix.det_one

/-- The angle of the first frame is within the limits. -/
theorem XM_PIDIV4_mem : ¬ XM_PIDIV4 K < CAM_FOV_MIN K ∧ ¬ CAM_FOV_MAX K < XM_PIDIV4 K := by
  constructor
  · unfold XM_PIDIV4 CAM_FOV_MIN
    norm_num
  · unfold XM_PIDIV4 CAM_FOV_MAX XM_PI
    norm_num

theorem beginFrame_transform :
    (beginFrame cm)._transform = { (Transform.Identity : Transform K) with
      Position := ⟨0, 0, -(5 : Nat), 0⟩
      Rotation := Quaternion.fromLookDirect cm (Vector4f.Zero - ⟨0, 0, -(5 : Nat), 0⟩)
        Vector4f.Up } := by
  unfold beginFrame SSCamera.setFOVWithRadians SSCamera.setNearFarZ
  simp only [if_neg XM_PIDIV4_mem.1, if_neg XM_PIDIV4_mem.2]

theorem cameraInv_beginFrame (hcm : cm.Lawful) :
    CameraInv ((beginFrame cm, .new) : SSCamera K × CamRotation K) := by
  obtain ⟨hmin, hmax⟩ := XM_PIDIV4_mem (K := K)
  have hfov : (beginFrame cm).FOVRadY = XM_PIDIV4 K := by
    unfold beginFrame SSCamera.setFOVWithRadians SSCamera.setNearFarZ
    simp only [if_neg hmin, if_neg hmax]
  constructor
  case unit =>
    rw [beginFrame_transform]
    exact fromLookDirect_isUnit hcm
  case scale =>
    rw [beginFrame_transform]
    rfl
  case fov =>
    rw [hfov]
    exact ⟨not_lt.mp hmin, not_lt.mp hmax⟩
  case near => rfl
  case far => rfl
  case yaw => simpa [CamRotation.new] using XM_2PI_pos

end SSRenderer

variable [FloorRing K]

/-- The remainder is smaller than the divisor, on the side of the dividend. -/
theorem abs_fmodf_lt (x : K) {y : K} (hy : 0 < y) : |fmodf x y| < y := by
  have hx : x = y * (x / y) := (mul_div_cancel₀ x hy.ne').symm
  unfold fmodf
  split
  case isTrue =>
    have hlow := Int.floor_le (x / y)
    have hhigh := Int.lt_floor_add_one (x / y)
    have hmod : x - y * (⌊x / y⌋ : K) = y * (x / y - (⌊x / y⌋ : K)) := by
      rw [mul_sub, ← hx]
    rw [hmod, abs_mul, abs_of_pos hy, abs_of_nonneg (by linarith)]
    calc y * (x / y - (⌊x / y⌋ : K)) < y * 1 := mul_lt_mul_of_pos_left (by linarith) hy
      _ = y := mul_one y
  case isFalse =>
    have hlow := Int.ceil_lt_add_one (x / y)
    have hhigh := Int.le_ceil (x / y)
    have hmod : x - y * (⌈x / y⌉ : K) = y * (x / y - (⌈x / y⌉ : K)) := by
      rw [mul_sub, ← hx]
    rw [hmod, abs_mul, abs_of_pos hy, abs_of_nonpos (by linarith)]
    calc y * -(x / y - (⌈x / y⌉ : K)) < y * 1 := mul_lt_mul_of_pos_left (by linarith) hy
      _ = y := mul_one y

namespace SSRenderer

/-- The step of the run. -/
theorem cameraInv_cameraFrame (hcm : cm.Lawful) {state : SSCamera K × CamRotation K}
    (h : CameraInv state) (frame : FrameInput K) :
    CameraInv (cameraFrame dx cm state frame) := by
  obtain ⟨-, hscale⟩ := moves_frame (moveKeys dx) frame state.1._transform
  let moved : SSCamera K := { state.1 with
    _transform := (moveKeys dx).foldl (moveWithKey frame) state.1._transform }
  obtain ⟨FOVRadY, hzoom⟩ := zoom_frame frame moved
  have hmem := zoom_mem frame moved h.fov
  constructor
  case unit => exact hcm.rollPitchYaw _ _ _
  case scale =>
    show (zoomOut frame (zoomIn frame moved))._transform.Scale = _
    rw [hzoom]
    exact hscale.trans h.scale
  case fov => exact hmem
  case near =>
    show (zoomOut frame (zoomIn frame moved)).NearZ = _
    rw [hzoom]
    exact h.near
  case far =>
    show (zoomOut frame (zoomIn frame moved)).FarZ = _
    rw [hzoom]
    exact h.far
  case yaw => exact abs_fmodf_lt _ XM_2PI_pos

/-- The run lemma. -/
theorem cameraInv_run (hcm : cm.Lawful) (frames : List (FrameInput K)) :
    ∀ {state : SSCamera K × CamRotation K}, CameraInv state →
      CameraInv (frames.foldl (cameraFrame dx cm) state) := by
  induction frames with
  | nil => exact fun h => h
  | cons frame frames ih => exact fun h => ih (cameraInv_cameraFrame hcm h frame)

/-- From the first frame on: the field of view stays within its limits and the planes where they
were set, the yaw is less than a turn, and the view matrix is the inverse, on both sides, of the
matrix of the camera. -/
theorem camera_run (hdx : dx.Computes) (hcm : cm.Lawful) (frames : List (FrameInput K)) :
    let state := frames.foldl (cameraFrame dx cm) (beginFrame cm, .new)
    (CAM_FOV_MIN K ≤ state.1.FOVRadY ∧ state.1.FOVRadY ≤ CAM_FOV_MAX K) ∧
      (state.1.NearZ = 1 / 100 ∧ state.1.FarZ = 10 ^ 4) ∧
      |state.2._camYRotation| < XM_2PI K ∧
      state.1.getViewMatrix dx cm * state.1._transform.asMatrix dx = 1 ∧
      state.1._transform.asMatrix dx * state.1.getViewMatrix dx cm = 1 := by
  intro state
  have h : CameraInv state := cameraInv_run hcm frames (cameraInv_beginFrame hcm)
  exact ⟨h.fov, ⟨h.near, h.far⟩, h.yaw, view_inverse hdx hcm state.1 h.unit h.scale⟩

theorem camera_run_walk :
    let state := [walkFrame, walkFrame].foldl (cameraFrame (exact ℚ) cameraMath)
      (beginFrame cameraMath, .new)
    (CAM_FOV_MIN ℚ ≤ state.1.FOVRadY ∧ state.1.FOVRadY ≤ CAM_FOV_MAX ℚ) ∧
      (state.1.NearZ = 1 / 100 ∧ state.1.FarZ = 10 ^ 4) ∧
      |state.2._camYRotation| < XM_2PI ℚ ∧
      state.1.getViewMatrix (exact ℚ) cameraMath * state.1._transform.asMatrix (exact ℚ) = 1 ∧
      state.1._transform.asMatrix (exact ℚ) * state.1.getViewMatrix (exact ℚ) cameraMath = 1 :=
  camera_run exact_computes cameraMath_lawful [walkFrame, walkFrame]

end SSRenderer

end Run

section Speed

variable {K : Type} [Field K] [LinearOrder K] {dx : DirectXMath K} {cm : CameraMath K}

namespace SSRenderer

/-- 1 for a key that is held. -/
def keyHeld (frame : FrameInput K) (key : EKeyCode) : K := if frame.input.getKey key then 1 else 0

/-- Where the held keys point to, along the axes of the camera. Opposite keys cancel. -/
def heading (frame : FrameInput K) : Vector4f K where
  X := keyHeld frame .KEY_D - keyHeld frame .KEY_A
  Y := keyHeld frame .KEY_E - keyHeld frame .KEY_Q
  Z := keyHeld frame .KEY_W - keyHeld frame .KEY_S
  W := 0

theorem moveWithKey_eq (hdx : dx.Computes) (frame : FrameInput K) (t : Transform K)
    (key : EKeyCode) (direction : Vector4f K) :
    moveWithKey frame t (key, fun t => dx.XMVector3Rotate direction t.Rotation) =
      { t with
        Position := t.Position + (vector3Rotate direction t.Rotation).scale
          (keyHeld frame key * (frame.deltaTime * CAM_SPEED K)) } := by
  unfold moveWithKey keyHeld
  simp only [hdx.vector3Rotate]
  split
  case isTrue =>
    congr 1
    ext <;> simp <;> ring
  case isFalse =>
    ext <;> simp

/-- The six moves of a frame are one along the heading. -/
theorem moveKeys_fold (hdx : dx.Computes) (frame : FrameInput K) (t : Transform K) :
    (moveKeys dx).foldl (moveWithKey frame) t =
      { t with
        Position := t.Position + (vector3Rotate (heading frame) t.Rotation).scale
          (frame.deltaTime * CAM_SPEED K) } := by
  unfold moveKeys Transform.getForward Transform.getBackward Transform.getLeft Transform.getRight
    Transform.getUp Transform.getDown
  simp only [List.foldl_cons, List.foldl_nil, moveWithKey_eq hdx]
  congr 1
  ext <;> simp [vector3Rotate, quaternionMultiply, heading, Vector4f.Forward, Vector4f.Back,
    Vector4f.Left, Vector4f.Right, Vector4f.Up, Vector4f.Down] <;> ring

theorem cameraFrame_position [FloorRing K] (hdx : dx.Computes)
    (state : SSCamera K × CamRotation K) (frame : FrameInput K) :
    (cameraFrame dx cm state frame).1._transform.Position =
      state.1._transform.Position +
        (vector3Rotate (heading frame) state.1._transform.Rotation).scale
          (frame.deltaTime * CAM_SPEED K) := by
  let moved : SSCamera K := { state.1 with
    _transform := (moveKeys dx).foldl (moveWithKey frame) state.1._transform }
  obtain ⟨FOVRadY, hzoom⟩ := zoom_frame frame moved
  show (zoomOut frame (zoomIn frame moved))._transform.Position = _
  rw [hzoom]
  exact congrArg Transform.Position (moveKeys_fold hdx frame state.1._transform)

variable [IsStrictOrderedRing K]

/-- Three components, each at most 1. -/
theorem heading_le (frame : FrameInput K) : (heading frame).get3DSqrLength ≤ (3 : Nat) := by
  have hheld : ∀ key, 0 ≤ keyHeld frame key ∧ keyHeld frame key ≤ 1 := by
    intro key
    unfold keyHeld
    split
    case isTrue => exact ⟨zero_le_one, le_rfl⟩
    case isFalse => exact ⟨le_rfl, zero_le_one⟩
  have haxis : ∀ key key', (keyHeld frame key - keyHeld frame key') ^ 2 ≤ 1 := by
    intro key key'
    obtain ⟨h0, h1⟩ := hheld key
    obtain ⟨h0', h1'⟩ := hheld key'
    exact (sq_le_one_iff_abs_le_one _).mpr (abs_le.mpr ⟨by linarith, by linarith⟩)
  have hX := haxis .KEY_D .KEY_A
  have hY := haxis .KEY_E .KEY_Q
  have hZ := haxis .KEY_W .KEY_S
  unfold Vector4f.get3DSqrLength heading
  push_cast
  linarith

end SSRenderer

variable [IsStrictOrderedRing K]

/-- The product of two vectors is at most that of their lengths. -/
theorem dot3D_le {v w : Vector4f K} {c a b : K} (hc : 0 ≤ c) (ha : 0 ≤ a) (hb : 0 ≤ b)
    (hv : v.get3DSqrLength ≤ c * a ^ 2) (hw : w.get3DSqrLength ≤ c * b ^ 2) :
    v.dot3D w ≤ c * (a * b) := by
  have hlength : ∀ u : Vector4f K, 0 ≤ u.get3DSqrLength := by
    intro u
    unfold Vector4f.get3DSqrLength
    positivity
  have hw0 := hlength w
  have hlagrange : v.dot3D w ^ 2 + (cross3D v w).get3DSqrLength =
      v.get3DSqrLength * w.get3DSqrLength := by
    simp only [Vector4f.dot3D, cross3D, Vector4f.get3DSqrLength]
    ring
  have hcross := hlength (cross3D v w)
  have hsq : v.dot3D w ^ 2 ≤ (c * (a * b)) ^ 2 := by
    calc v.dot3D w ^ 2 ≤ v.get3DSqrLength * w.get3DSqrLength := by linarith
      _ ≤ c * a ^ 2 * (c * b ^ 2) := by gcongr
      _ = (c * (a * b)) ^ 2 := by ring
  exact (abs_le.mp (abs_le_of_sq_le_sq hsq (by positivity))).2

/-- Lengths add up at most. -/
theorem get3DSqrLength_add_le {v w : Vector4f K} {c a b : K} (hc : 0 ≤ c) (ha : 0 ≤ a)
    (hb : 0 ≤ b) (hv : v.get3DSqrLength ≤ c * a ^ 2) (hw : w.get3DSqrLength ≤ c * b ^ 2) :
    (v + w).get3DSqrLength ≤ c * (a + b) ^ 2 := by
  have hdot := dot3D_le hc ha hb hv hw
  have hsum : (v + w).get3DSqrLength =
      v.get3DSqrLength + (2 : Nat) * v.dot3D w + w.get3DSqrLength := by
    simp only [Vector4f.get3DSqrLength, Vector4f.dot3D, Vector4f.add_X, Vector4f.add_Y,
      Vector4f.add_Z]
    push_cast
    ring
  rw [hsum]
  push_cast
  linarith

namespace SSRenderer

/-- The step that a frame makes, whatever the camera looks at. -/
theorem step_le (frame : FrameInput K) {q : Quaternion K} (hq : q.IsUnit) :
    ((vector3Rotate (heading frame) q).scale (frame.deltaTime * CAM_SPEED K)).get3DSqrLength ≤
      (27 : Nat) * |frame.deltaTime| ^ 2 := by
  have hheading := heading_le frame
  have hscale : ∀ (v : Vector4f K) (a : K),
      (v.scale a).get3DSqrLength = v.get3DSqrLength * a ^ 2 := by
    intro v a
    simp only [Vector4f.get3DSqrLength, Vector4f.scale_X, Vector4f.scale_Y, Vector4f.scale_Z]
    ring
  rw [hscale, get3DSqrLength_eq, dot3D_rotate _ _ hq, ← get3DSqrLength_eq, sq_abs]
  calc (heading frame).get3DSqrLength * (frame.deltaTime * CAM_SPEED K) ^ 2
      ≤ (3 : Nat) * (frame.deltaTime * CAM_SPEED K) ^ 2 := by gcongr
    _ = (27 : Nat) * frame.deltaTime ^ 2 := by
      unfold CAM_SPEED
      push_cast
      ring

variable [FloorRing K]

/-- The keys move the camera along its axes, all of them at full speed: after any frames it is at
most `3√3` times their total time away, whatever it looked at in between. -/
theorem camera_speed (hdx : dx.Computes) (hcm : cm.Lawful) (frames : List (FrameInput K))
    (state : SSCamera K × CamRotation K) (hq : state.1._transform.Rotation.IsUnit) :
    ((frames.foldl (cameraFrame dx cm) state).1._transform.Position -
        state.1._transform.Position).get3DSqrLength ≤
      (27 : Nat) * (frames.map fun frame => |frame.deltaTime|).sum ^ 2 := by
  induction frames generalizing state with
  | nil => simp [Vector4f.get3DSqrLength]
  | cons frame frames ih =>
    have hrest := ih (cameraFrame dx cm state frame) (hcm.rollPitchYaw _ _ _)
    have htime : 0 ≤ (frames.map fun frame => |frame.deltaTime|).sum := by
      refine List.sum_nonneg fun time htime => ?_
      obtain ⟨frame, -, rfl⟩ := List.mem_map.mp htime
      exact abs_nonneg _
    have hsum := get3DSqrLength_add_le (Nat.cast_nonneg 27) (abs_nonneg frame.deltaTime) htime
      (step_le frame hq) hrest
    rw [List.foldl_cons, List.map_cons, List.sum_cons]
    refine le_of_eq_of_le (congrArg Vector4f.get3DSqrLength ?_) hsum
    rw [cameraFrame_position hdx]
    ext <;> simp <;> ring

theorem camera_speed_walk :
    let state : SSCamera ℚ × CamRotation ℚ := (SSCamera.new, .new)
    let state' := [walkFrame, walkFrame].foldl (cameraFrame (exact ℚ) cameraMath) state
    (state'.1._transform.Position - state.1._transform.Position).get3DSqrLength ≤
      (27 : Nat) * ([walkFrame, walkFrame].map fun frame => |frame.deltaTime|).sum ^ 2 :=
  camera_speed exact_computes cameraMath_lawful [walkFrame, walkFrame] (SSCamera.new, .new)
    Quaternion.one_isUnit

end SSRenderer

end Speed

end FBXRenderer
