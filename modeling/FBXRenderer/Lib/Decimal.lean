import Mathlib
import FBXRenderer.Lib.Utf

/-!
# Decimal

The decimal text of an integer, as characters and as bytes.

* `mem_decimal`: a minus and digits. `decimal_injective`: no two integers have one text.
* `length_decimal_le_iff`: how long it is.
-/

namespace Decimal

open Utf

/-- A minus for a negative integer, and the digits. -/
def decimal (v : Int) : List Char := (toString v).toList

def decimalBytes (v : Int) : List UInt8 := utf8 (decimal v)

variable {v w : Int} {c : Char}

theorem decimal_of_nonneg (h : 0 ≤ v) : decimal v = Nat.toDigits 10 v.toNat := by
  rw [decimal, Int.toString_eq_repr, Int.repr_eq_if, if_pos h, Nat.toList_repr]

theorem decimal_of_neg (h : v < 0) : decimal v = '-' :: Nat.toDigits 10 (-v).toNat := by
  rw [decimal, Int.toString_eq_repr, Int.repr_eq_if, if_neg (not_le.mpr h), String.toList_append,
    Nat.toList_repr]
  rfl

theorem isDigit_of_mem {n : Nat} (h : c ∈ Nat.toDigits 10 n) : c.isDigit = true :=
  Nat.isDigit_of_mem_toDigits (by decide) (by decide) h

theorem mem_decimal (h : c ∈ decimal v) : c = '-' ∨ c.isDigit = true := by
  rcases lt_or_ge v 0 with hneg | hpos
  · rw [decimal_of_neg hneg] at h
    rcases List.mem_cons.mp h with rfl | h
    · exact Or.inl rfl
    · exact Or.inr (isDigit_of_mem h)
  · rw [decimal_of_nonneg hpos] at h
    exact Or.inr (isDigit_of_mem h)

theorem ascii_of_mem_decimal (h : c ∈ decimal v) : Ascii c := by
  rcases mem_decimal h with rfl | hdigit
  · decide
  · rw [Char.isDigit_iff_toNat] at hdigit
    exact Nat.lt_of_le_of_lt hdigit.2 (by decide)

theorem toDigits_injective {m n : Nat} (h : Nat.toDigits 10 m = Nat.toDigits 10 n) : m = n := by
  have hvalue := congrArg (fun digits => Nat.ofDigitChars 10 digits 0) h
  simpa only [Nat.ofDigitChars_ten_toDigits] using hvalue

/-- Digits do not start with a minus. -/
theorem toDigits_ne_minus {m : Nat} {cs : List Char} : Nat.toDigits 10 m ≠ '-' :: cs := by
  intro h
  have hdigit : '-'.isDigit = true := isDigit_of_mem (h ▸ List.mem_cons_self)
  exact absurd hdigit (by decide)

theorem decimal_injective (h : decimal v = decimal w) : v = w := by
  rcases lt_or_ge v 0 with hv | hv <;> rcases lt_or_ge w 0 with hw | hw
  · rw [decimal_of_neg hv, decimal_of_neg hw] at h
    have hdigits := toDigits_injective (List.cons.inj h).2
    omega
  · rw [decimal_of_neg hv, decimal_of_nonneg hw] at h
    exact absurd h.symm toDigits_ne_minus
  · rw [decimal_of_nonneg hv, decimal_of_neg hw] at h
    exact absurd h toDigits_ne_minus
  · rw [decimal_of_nonneg hv, decimal_of_nonneg hw] at h
    have hdigits := toDigits_injective h
    omega

/-- A negative integer needs a place for its minus. -/
theorem length_decimal_le_iff {k : Nat} (hk : 0 < k) :
    (decimal v).length ≤ k + 1 ↔ -10 ^ k < v ∧ v < 10 ^ (k + 1) := by
  rcases lt_or_ge v 0 with hv | hv
  · have hlt : v < 10 ^ (k + 1) := hv.trans (by positivity)
    rw [decimal_of_neg hv, List.length_cons, Nat.add_le_add_iff_right,
      Nat.length_toDigits_le_iff (by decide) hk, and_iff_left hlt]
    zify
    omega
  · have hlt : -10 ^ k < v := lt_of_lt_of_le (neg_lt_zero.mpr (by positivity)) hv
    rw [decimal_of_nonneg hv, Nat.length_toDigits_le_iff (by decide) (Nat.succ_pos k),
      and_iff_right hlt]
    zify
    rw [Int.toNat_of_nonneg hv]

theorem utf8_ascii {cs : List Char} (h : ∀ c ∈ cs, Ascii c) : utf8 cs = cs.map byteOf := by
  rw [utf8, List.map_eq_flatMap]
  exact List.flatMap_congr fun c hc => utf8EncodeChar_ascii (h c hc)

theorem decimalBytes_eq (v : Int) : decimalBytes v = (decimal v).map byteOf :=
  utf8_ascii fun _ => ascii_of_mem_decimal

theorem length_decimalBytes (v : Int) : (decimalBytes v).length = (decimal v).length := by
  rw [decimalBytes_eq, List.length_map]

theorem decimal_of_bytes (v : Int) :
    (decimalBytes v).map (fun b => Char.ofNat b.toNat) = decimal v := by
  rw [decimalBytes_eq, List.map_map]
  calc (decimal v).map ((fun b => Char.ofNat b.toNat) ∘ byteOf)
      = (decimal v).map id := by
        refine List.map_congr_left fun c hc => ?_
        rw [Function.comp_apply, (ascii_of_mem_decimal hc).byteOf_toNat]
        exact Char.ofNat_toNat c
    _ = decimal v := List.map_id _

theorem decimalBytes_injective (h : decimalBytes v = decimalBytes w) : v = w := by
  have hchars := congrArg (List.map fun b => Char.ofNat b.toNat) h
  rw [decimal_of_bytes, decimal_of_bytes] at hchars
  exact decimal_injective hchars

/-- Only a minus and digits. -/
theorem not_mem_decimalBytes (hc : Ascii c) (hminus : c ≠ '-') (hdigit : c.isDigit = false) :
    byteOf c ∉ decimalBytes v := by
  intro h
  rcases mem_decimal ((mem_utf8_iff hc).mp h) with rfl | hd
  · exact hminus rfl
  · rw [hdigit] at hd
    cases hd

end Decimal
