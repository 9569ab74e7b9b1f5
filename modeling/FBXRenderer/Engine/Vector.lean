import Mathlib

/-!
# FBXRenderer.Engine.Vector

`Vector4f` and `Vector2f` (`SSVector.h`) over an arbitrary field: the components are exact, where
the source rounds to `float`.
-/

namespace FBXRenderer

@[ext]
structure Vector4f (K : Type) where
  X : K
  Y : K
  Z : K
  W : K
deriving DecidableEq

@[ext]
structure Vector2f (K : Type) where
  X : K
  Y : K
deriving DecidableEq

variable {K : Type} [Field K]

/-- The exact value of a `float` constant. -/
def floatOf (K : Type) [Field K] (mantissa exponent : Nat) : K :=
  (mantissa : K) / ((2 ^ exponent : Nat) : K)

/-- `0.01`, from the centimetres of the scene. -/
def CENTIMETER (K : Type) [Field K] : K := 1 / 100

namespace Vector4f

def Zero : Vector4f K := ⟨0, 0, 0, 0⟩

instance : Add (Vector4f K) where
  add lhs rhs := ⟨lhs.X + rhs.X, lhs.Y + rhs.Y, lhs.Z + rhs.Z, lhs.W + rhs.W⟩

instance : Sub (Vector4f K) where
  sub lhs rhs := ⟨lhs.X - rhs.X, lhs.Y - rhs.Y, lhs.Z - rhs.Z, lhs.W - rhs.W⟩

instance : Neg (Vector4f K) where
  neg inVal := ⟨-inVal.X, -inVal.Y, -inVal.Z, -inVal.W⟩

/-- Componentwise, as in the source. -/
instance : Mul (Vector4f K) where
  mul lhs rhs := ⟨lhs.X * rhs.X, lhs.Y * rhs.Y, lhs.Z * rhs.Z, lhs.W * rhs.W⟩

/-- `lhs * rhs` with a scalar on the right. -/
def scale (lhs : Vector4f K) (rhs : K) : Vector4f K :=
  ⟨lhs.X * rhs, lhs.Y * rhs, lhs.Z * rhs, lhs.W * rhs⟩

/-- The X component mirrored, as the importer stores directions. -/
def mirrorX (v : Vector4f K) : Vector4f K := ⟨-v.X, v.Y, v.Z, v.W⟩

section Components

variable (v w : Vector4f K) (a : K)

@[simp] theorem add_X : (v + w).X = v.X + w.X := rfl
@[simp] theorem add_Y : (v + w).Y = v.Y + w.Y := rfl
@[simp] theorem add_Z : (v + w).Z = v.Z + w.Z := rfl
@[simp] theorem add_W : (v + w).W = v.W + w.W := rfl
@[simp] theorem sub_X : (v - w).X = v.X - w.X := rfl
@[simp] theorem sub_Y : (v - w).Y = v.Y - w.Y := rfl
@[simp] theorem sub_Z : (v - w).Z = v.Z - w.Z := rfl
@[simp] theorem sub_W : (v - w).W = v.W - w.W := rfl
@[simp] theorem neg_X : (-v).X = -v.X := rfl
@[simp] theorem neg_Y : (-v).Y = -v.Y := rfl
@[simp] theorem neg_Z : (-v).Z = -v.Z := rfl
@[simp] theorem neg_W : (-v).W = -v.W := rfl
@[simp] theorem mul_X : (v * w).X = v.X * w.X := rfl
@[simp] theorem mul_Y : (v * w).Y = v.Y * w.Y := rfl
@[simp] theorem mul_Z : (v * w).Z = v.Z * w.Z := rfl
@[simp] theorem mul_W : (v * w).W = v.W * w.W := rfl
@[simp] theorem scale_X : (v.scale a).X = v.X * a := rfl
@[simp] theorem scale_Y : (v.scale a).Y = v.Y * a := rfl
@[simp] theorem scale_Z : (v.scale a).Z = v.Z * a := rfl
@[simp] theorem scale_W : (v.scale a).W = v.W * a := rfl

end Components

end Vector4f

instance : Sub (Vector2f K) where
  sub lhs rhs := ⟨lhs.X - rhs.X, lhs.Y - rhs.Y⟩

end FBXRenderer
