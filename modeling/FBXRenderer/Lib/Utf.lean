import Mathlib

/-!
# Utf

UTF-16 to UTF-8, for any sequence of units: a surrogate without its other half becomes U+FFFD.

* `decodeUtf16`, `utf8`, `encode`: the characters of a sequence of units, their bytes, and both.
* `Ascii`: a character of one unit and one byte. `decodeUtf16_split`, `utf8_split`, `encode_split`:
  a text is converted piece by piece at such a character.
* `mem_decodeUtf16_iff`, `mem_utf8_iff`, `mem_encode_iff`: its unit and its byte stand for nothing
  else.
-/

namespace Utf

def isHighSurrogate (u : UInt16) : Bool := decide (0xD800 ≤ u.toNat ∧ u.toNat < 0xDC00)
def isLowSurrogate (u : UInt16) : Bool := decide (0xDC00 ≤ u.toNat ∧ u.toNat < 0xE000)

/-- U+FFFD. -/
def replacement : Char := Char.ofNat 0xFFFD

/-- The character of a unit that is not part of a pair. -/
def charOfUnit (u : UInt16) : Char :=
  if isHighSurrogate u || isLowSurrogate u then replacement else Char.ofNat u.toNat

def charOfPair (u v : UInt16) : Char :=
  Char.ofNat (0x10000 + (u.toNat - 0xD800) * 0x400 + (v.toNat - 0xDC00))

def decodeUtf16 : List UInt16 → List Char
  | [] => []
  | [u] => [charOfUnit u]
  | u :: v :: us =>
    if isHighSurrogate u && isLowSurrogate v then charOfPair u v :: decodeUtf16 us
    else charOfUnit u :: decodeUtf16 (v :: us)

def utf8 (cs : List Char) : List UInt8 := cs.flatMap String.utf8EncodeChar

def encode (us : List UInt16) : List UInt8 := utf8 (decodeUtf16 us)

def Ascii (c : Char) : Prop := c.toNat < 0x80

instance (c : Char) : Decidable (Ascii c) := inferInstanceAs (Decidable (c.toNat < 0x80))

def unitOf (c : Char) : UInt16 := c.toNat.toUInt16
def byteOf (c : Char) : UInt8 := c.toNat.toUInt8

variable {c d : Char} {u v : UInt16} {us us' : List UInt16} {cs cs' : List Char}

section Units

theorem Ascii.unitOf_toNat (hc : Ascii c) : (unitOf c).toNat = c.toNat :=
  UInt16.toNat_ofNat_of_lt' (Nat.lt_trans hc (by decide))

theorem Ascii.not_high (hc : Ascii c) : isHighSurrogate (unitOf c) = false := by
  refine decide_eq_false fun h => ?_
  have hlt : c.toNat < 0x80 := hc
  rw [hc.unitOf_toNat] at h
  omega

theorem Ascii.not_low (hc : Ascii c) : isLowSurrogate (unitOf c) = false := by
  refine decide_eq_false fun h => ?_
  have hlt : c.toNat < 0x80 := hc
  rw [hc.unitOf_toNat] at h
  omega

theorem Ascii.charOfUnit_unitOf (hc : Ascii c) : charOfUnit (unitOf c) = c := by
  rw [charOfUnit, hc.not_high, hc.not_low, hc.unitOf_toNat]
  exact Char.ofNat_toNat c

theorem toNat_ofNat {n : Nat} (h : n.isValidChar) : (Char.ofNat n).toNat = n := by
  rw [Char.ofNat, dif_pos h]
  rfl

/-- A pair stands for a character outside the range of one unit. -/
theorem toNat_charOfPair (hu : isHighSurrogate u = true) (hv : isLowSurrogate v = true) :
    0x10000 ≤ (charOfPair u v).toNat := by
  have hu' := of_decide_eq_true hu
  have hv' := of_decide_eq_true hv
  rw [charOfPair, toNat_ofNat (Or.inr ⟨by omega, by omega⟩)]
  omega

/-- One unit stands for its own character, or for U+FFFD. -/
theorem charOfUnit_eq_iff (hc : Ascii c) : charOfUnit u = c ↔ u = unitOf c := by
  constructor
  · intro h
    rw [charOfUnit] at h
    split at h
    case isTrue =>
      subst h
      exact absurd (show replacement.toNat < 0x80 from hc) (by decide)
    case isFalse hsurrogate =>
      have hvalid : u.toNat.isValidChar := by
        rw [Bool.or_eq_true, not_or] at hsurrogate
        have h1 := of_decide_eq_false (Bool.eq_false_iff.mpr hsurrogate.1)
        have h2 := of_decide_eq_false (Bool.eq_false_iff.mpr hsurrogate.2)
        have hlt := u.toNat_lt
        unfold Nat.isValidChar
        omega
      have hnat : u.toNat = c.toNat := by rw [← h, toNat_ofNat hvalid]
      rw [unitOf, ← hnat]
      exact UInt16.ofNat_toNat.symm
  · rintro rfl
    exact hc.charOfUnit_unitOf

end Units

section Decode

theorem decodeUtf16_pair (h : (isHighSurrogate u && isLowSurrogate v) = true) :
    decodeUtf16 (u :: v :: us) = charOfPair u v :: decodeUtf16 us := by
  rw [decodeUtf16, if_pos h]

theorem decodeUtf16_lone (h : ¬ (isHighSurrogate u && isLowSurrogate v) = true) :
    decodeUtf16 (u :: v :: us) = charOfUnit u :: decodeUtf16 (v :: us) := by
  rw [decodeUtf16, if_neg h]

theorem decodeUtf16_ascii (hc : Ascii c) (us : List UInt16) :
    decodeUtf16 (unitOf c :: us) = c :: decodeUtf16 us := by
  cases us with
  | nil => exact congrArg (· :: []) hc.charOfUnit_unitOf
  | cons v us => rw [decodeUtf16_lone (by simp [hc.not_high]), hc.charOfUnit_unitOf]

/-- By the cases of the conversion before the character: it is not the second half of a pair, and
not the first. -/
theorem decodeUtf16_split (hc : Ascii c) (us us' : List UInt16) :
    decodeUtf16 (us ++ unitOf c :: us') = decodeUtf16 us ++ c :: decodeUtf16 us' := by
  induction us using decodeUtf16.induct with
  | case1 => exact decodeUtf16_ascii hc us'
  | case2 u =>
    show decodeUtf16 (u :: unitOf c :: us') = charOfUnit u :: c :: decodeUtf16 us'
    rw [decodeUtf16_lone (by simp [hc.not_low]), decodeUtf16_ascii hc]
  | case3 u v us hpair ih =>
    rw [List.cons_append, List.cons_append, decodeUtf16_pair hpair, decodeUtf16_pair hpair, ih]
    rfl
  | case4 u v us hlone ih =>
    rw [List.cons_append] at ih
    rw [List.cons_append, List.cons_append, decodeUtf16_lone hlone, decodeUtf16_lone hlone, ih]
    rfl

theorem mem_decodeUtf16_iff (hc : Ascii c) (us : List UInt16) :
    c ∈ decodeUtf16 us ↔ unitOf c ∈ us := by
  induction us using decodeUtf16.induct with
  | case1 => exact iff_of_false List.not_mem_nil List.not_mem_nil
  | case2 u =>
    have hunit : c = charOfUnit u ↔ unitOf c = u :=
      eq_comm.trans ((charOfUnit_eq_iff hc).trans eq_comm)
    exact List.mem_singleton.trans (hunit.trans List.mem_singleton.symm)
  | case3 u v us hpair ih =>
    have hsurrogates := Bool.and_eq_true_iff.mp hpair
    have hchar : c ≠ charOfPair u v := by
      intro h
      have hlt : c.toNat < 0x80 := hc
      have hle := toNat_charOfPair hsurrogates.1 hsurrogates.2
      rw [← h] at hle
      omega
    have hu : unitOf c ≠ u := by
      rintro rfl
      exact absurd hsurrogates.1 (by rw [hc.not_high]; exact Bool.false_ne_true)
    have hv : unitOf c ≠ v := by
      rintro rfl
      exact absurd hsurrogates.2 (by rw [hc.not_low]; exact Bool.false_ne_true)
    rw [decodeUtf16_pair hpair, List.mem_cons, List.mem_cons, List.mem_cons, ih]
    simp [hchar, hu, hv]
  | case4 u v us hlone ih =>
    have hunit : c = charOfUnit u ↔ unitOf c = u :=
      eq_comm.trans ((charOfUnit_eq_iff hc).trans eq_comm)
    rw [decodeUtf16_lone hlone]
    exact List.mem_cons.trans ((or_congr hunit ih).trans List.mem_cons.symm)

end Decode

section Bytes

theorem Ascii.byteOf_toNat (hc : Ascii c) : (byteOf c).toNat = c.toNat :=
  UInt8.toNat_ofNat_of_lt' (Nat.lt_trans hc (by decide))

theorem utf8EncodeChar_ascii (hc : Ascii c) : String.utf8EncodeChar c = [byteOf c] := by
  have hle : c.val.toNat ≤ 0x7f := Nat.le_of_lt_succ hc
  rw [String.utf8EncodeChar, if_pos hle]
  rfl

theorem le_toNat_ofNat {n : Nat} (hle : 0x80 ≤ n) (hlt : n < 0x100) :
    0x80 ≤ (UInt8.ofNat n).toNat := by
  rw [UInt8.toNat_ofNat_of_lt' hlt]
  exact hle

/-- The bytes of a longer character are marked in their first bit. -/
theorem le_of_mem_utf8EncodeChar {b : UInt8} (hd : ¬ Ascii d) (hb : b ∈ String.utf8EncodeChar d) :
    0x80 ≤ b.toNat := by
  have hle : ¬ d.val.toNat ≤ 0x7f := fun h => hd (Nat.lt_succ_of_le h)
  rw [String.utf8EncodeChar, if_neg hle] at hb
  split at hb
  case isTrue =>
    simp only [List.mem_cons, List.not_mem_nil, or_false] at hb
    rcases hb with rfl | rfl <;> exact le_toNat_ofNat (by omega) (by omega)
  case isFalse =>
    split at hb
    case isTrue =>
      simp only [List.mem_cons, List.not_mem_nil, or_false] at hb
      rcases hb with rfl | rfl | rfl <;> exact le_toNat_ofNat (by omega) (by omega)
    case isFalse =>
      simp only [List.mem_cons, List.not_mem_nil, or_false] at hb
      rcases hb with rfl | rfl | rfl | rfl <;> exact le_toNat_ofNat (by omega) (by omega)

/-- A byte below 0x80 is a character of its own. -/
theorem mem_utf8EncodeChar_iff (hc : Ascii c) : byteOf c ∈ String.utf8EncodeChar d ↔ d = c := by
  by_cases hd : Ascii d
  · rw [utf8EncodeChar_ascii hd, List.mem_singleton, ← UInt8.toNat_inj, hc.byteOf_toNat,
      hd.byteOf_toNat]
    exact ⟨fun h => Char.toNat_inj.mp h.symm, fun h => h ▸ rfl⟩
  · refine iff_of_false (fun hmem => ?_) (fun h => hd (h ▸ hc))
    have hle := le_of_mem_utf8EncodeChar hd hmem
    have hlt : c.toNat < 0x80 := hc
    rw [hc.byteOf_toNat] at hle
    omega

theorem utf8_append : utf8 (cs ++ cs') = utf8 cs ++ utf8 cs' := List.flatMap_append

theorem utf8_split (hc : Ascii c) : utf8 (cs ++ c :: cs') = utf8 cs ++ byteOf c :: utf8 cs' := by
  rw [utf8_append, utf8, utf8, utf8, List.flatMap_cons, utf8EncodeChar_ascii hc]
  rfl

theorem mem_utf8_iff (hc : Ascii c) : byteOf c ∈ utf8 cs ↔ c ∈ cs := by
  rw [utf8, List.mem_flatMap]
  constructor
  · rintro ⟨d, hd, hbyte⟩
    rwa [← (mem_utf8EncodeChar_iff hc).mp hbyte]
  · intro h
    exact ⟨c, h, (mem_utf8EncodeChar_iff hc).mpr rfl⟩

/-- A character outside the range of one unit has more than one byte. -/
theorem two_le_length_utf8EncodeChar (hd : 0x10000 ≤ d.toNat) :
    2 ≤ (String.utf8EncodeChar d).length := by
  have h1 : ¬ d.val.toNat ≤ 0x7f := by
    show ¬ d.toNat ≤ 0x7f
    omega
  have h2 : ¬ d.val.toNat ≤ 0x7ff := by
    show ¬ d.toNat ≤ 0x7ff
    omega
  rw [String.utf8EncodeChar, if_neg h1, if_neg h2]
  split <;> simp

end Bytes

/-- A unit has a byte at least. -/
theorem length_le_encode (us : List UInt16) : us.length ≤ (encode us).length := by
  have hcons : ∀ (d : Char) (cs : List Char),
      (utf8 (d :: cs)).length = (String.utf8EncodeChar d).length + (utf8 cs).length := by
    intro d cs
    rw [utf8, List.flatMap_cons, List.length_append]
    rfl
  have hone : ∀ d : Char, 1 ≤ (String.utf8EncodeChar d).length := fun d =>
    List.length_pos_iff.mpr String.utf8EncodeChar_ne_nil
  unfold encode
  induction us using decodeUtf16.induct with
  | case1 => exact Nat.zero_le _
  | case2 u =>
    rw [decodeUtf16, hcons]
    exact Nat.le_add_right_of_le (hone _)
  | case3 u v us hpair ih =>
    have hsurrogates := Bool.and_eq_true_iff.mp hpair
    have htwo := two_le_length_utf8EncodeChar (toNat_charOfPair hsurrogates.1 hsurrogates.2)
    rw [decodeUtf16_pair hpair, hcons, List.length_cons, List.length_cons]
    omega
  | case4 u v us hlone ih =>
    have hfirst := hone (charOfUnit u)
    rw [decodeUtf16_lone hlone, hcons, List.length_cons]
    omega

theorem encode_split (hc : Ascii c) (us us' : List UInt16) :
    encode (us ++ unitOf c :: us') = encode us ++ byteOf c :: encode us' := by
  rw [encode, decodeUtf16_split hc, utf8_split hc]
  rfl

theorem mem_encode_iff (hc : Ascii c) : byteOf c ∈ encode us ↔ unitOf c ∈ us := by
  rw [encode, mem_utf8_iff hc, mem_decodeUtf16_iff hc]

end Utf
