import Mathlib

/-!
# FBXRenderer.NativeKeywords

The fixed-width integers and the lengths of `SSNativeKeywords.h`. Machine integers are `Nat` and
`Int` in the model; `toUint32`, `toUint16`, `toUint8`, `toInt64`, `toInt32`, `toInt16` and `toInt8`
are the conversions of the source, written wherever a value can leave its range.

Names that the importer puts together are texts; `fixedAssetName` is where one is kept in a
`FixedStringA<ASSET_NAME_LEN_MAX>`.
-/

namespace FBXRenderer

def ASSET_NAME_LEN_MAX : Nat := 128

def PATH_LEN_MAX : Nat := 260

/-- The bytes of the name and a terminator fit the array of a `FixedStringA<ASSET_NAME_LEN_MAX>`. -/
def FitsAssetName (name : String) : Prop := name.utf8ByteSize < ASSET_NAME_LEN_MAX

instance (name : String) : Decidable (FitsAssetName name) :=
  inferInstanceAs (Decidable (name.utf8ByteSize < ASSET_NAME_LEN_MAX))

/-- A name in a `FixedStringA<ASSET_NAME_LEN_MAX>`. `none` is a name that does not fit: an append
asserts the room for it, a constructor copies it past the end of the array. -/
def fixedAssetName (name : String) : Option String :=
  if FitsAssetName name then some name else none

theorem fixedAssetName_eq_some {name kept : String} :
    fixedAssetName name = some kept ↔ FitsAssetName name ∧ name = kept := by
  unfold fixedAssetName
  split
  · rename_i hfits
    exact ⟨fun h => ⟨hfits, Option.some_inj.mp h⟩, fun h => congrArg some h.2⟩
  · rename_i hfits
    exact iff_of_false (Option.some_ne_none kept).symm fun h => hfits h.1

theorem fixedAssetName_of_fits {name : String} (h : FitsAssetName name) :
    fixedAssetName name = some name := fixedAssetName_eq_some.mpr ⟨h, rfl⟩

/-- Conversion to `uint32`. -/
def toUint32 (z : Int) : Nat := (z % 2 ^ 32).toNat

/-- Conversion to `uint16`. -/
def toUint16 (z : Int) : Nat := (z % 2 ^ 16).toNat

/-- Conversion to `uint8`. -/
def toUint8 (z : Int) : Nat := (z % 2 ^ 8).toNat

/-- Conversion to `int64`. -/
def toInt64 (z : Int) : Int := (z + 2 ^ 63) % 2 ^ 64 - 2 ^ 63

/-- Conversion to `int32`. -/
def toInt32 (z : Int) : Int := (z + 2 ^ 31) % 2 ^ 32 - 2 ^ 31

/-- Conversion to `int16`. -/
def toInt16 (z : Int) : Int := (z + 2 ^ 15) % 2 ^ 16 - 2 ^ 15

/-- Conversion to `int8`. -/
def toInt8 (z : Int) : Int := (z + 2 ^ 7) % 2 ^ 8 - 2 ^ 7

theorem toUint32_eq {z : Int} (h0 : 0 ≤ z) (h : z < 2 ^ 32) : toUint32 z = z.toNat := by
  rw [toUint32, Int.emod_eq_of_lt h0 h]

theorem toUint32_natCast {n : Nat} (h : n < 2 ^ 32) : toUint32 (n : Int) = n := by
  rw [toUint32_eq (by omega) (by omega), Int.toNat_natCast]

theorem toUint32_lt (z : Int) : toUint32 z < 2 ^ 32 := by
  unfold toUint32; omega

theorem natCast_toUint32 (z : Int) : (toUint32 z : Int) = z % 2 ^ 32 :=
  Int.toNat_of_nonneg (Int.emod_nonneg z (by decide))

theorem toUint32_add_left (a b : Int) : toUint32 ((toUint32 a : Int) + b) = toUint32 (a + b) := by
  rw [natCast_toUint32, toUint32, toUint32, Int.emod_add_emod]

theorem toUint32_mul_left (a b : Int) : toUint32 ((toUint32 a : Int) * b) = toUint32 (a * b) := by
  rw [natCast_toUint32, toUint32, toUint32, Int.mul_emod, Int.emod_emod, ← Int.mul_emod]

theorem toUint16_natCast {n : Nat} (h : n < 2 ^ 16) : toUint16 (n : Int) = n := by
  unfold toUint16; omega

theorem toUint16_lt (z : Int) : toUint16 z < 2 ^ 16 := by
  unfold toUint16; omega

theorem toUint8_eq {z : Int} (h0 : 0 ≤ z) (h : z < 2 ^ 8) : toUint8 z = z.toNat := by
  rw [toUint8, Int.emod_eq_of_lt h0 h]

/-- Two `uint64` values stay apart. -/
theorem toInt64_injective {m n : Nat} (hm : m < 2 ^ 64) (hn : n < 2 ^ 64)
    (h : toInt64 m = toInt64 n) : m = n := by
  unfold toInt64 at h; omega

theorem toInt32_eq {z : Int} (h0 : -2 ^ 31 ≤ z) (h : z < 2 ^ 31) : toInt32 z = z := by
  rw [toInt32, Int.emod_eq_of_lt (by omega) (by omega), Int.add_sub_cancel]

theorem toInt16_bounds (z : Int) : -2 ^ 15 ≤ toInt16 z ∧ toInt16 z < 2 ^ 15 := by
  unfold toInt16; omega

end FBXRenderer
