import Mathlib
import FBXRenderer.NativeKeywords
import FBXRenderer.Container.FixedString
import FBXRenderer.Lib.NulText
import FBXRenderer.Lib.PartialRun

/-!
# FBXRenderer.Container.FixedStringRuns

All operations of `FixedStringA<STR_LEN_MAX>` and `FixedStringW<STR_LEN_MAX>`
(`SSUtilityContainer.h`), which are one text over two types of characters. An operation that would
write at index `STR_LEN_MAX` or behind it does not return.

* `assignN`, `appendN` take the length from the caller, the others from the text. The constructors
  from a text have no assertion.
* `TextArg`: a text argument may lie in the string's own array. `strcpy` and `strncpy` are undefined
  where the characters they read and those they write overlap (`Op.Apart`).
* `Tracks`: the array holds a text, and `_len` is its length. `follows_iff`: what an operation needs
  to keep it.
* `runs_follow_iff`: so do the runs of both classes.
-/

namespace FBXRenderer
namespace SS

open NulText PartialRun

/-- A text argument, less its terminator. -/
@[ext]
structure NulStr (α : Type) [Zero α] where
  chars : List α
  no_nul : (0 : α) ∉ chars

/-- `FixedStringA` over `UInt8`, `FixedStringW` over `UInt16`. -/
structure FixedString (α : Type) (STR_LEN_MAX : Nat) where
  dataPool : List α
  pool_size : dataPool.length = STR_LEN_MAX
  len : Nat

namespace FixedString

variable {α : Type} {STR_LEN_MAX : Nat}

section Operations

/-- Writes into `_dataPool`, if the array has the room. -/
def write (s : FixedString α STR_LEN_MAX) (off : Nat) (xs : List α) :
    Option (FixedString α STR_LEN_MAX) :=
  if h : off + xs.length ≤ STR_LEN_MAX then
    some { s with
      dataPool := put s.dataPool off xs
      pool_size := (put_length (s.pool_size.symm ▸ h)).trans s.pool_size }
  else none

def setLen (s : FixedString α STR_LEN_MAX) (len : Nat) : FixedString α STR_LEN_MAX :=
  { s with len := len }

variable [Zero α]

/-- `strcpy(_dataPool + off, data)`. -/
def strcpy (s : FixedString α STR_LEN_MAX) (off : Nat) (data : List α) :
    Option (FixedString α STR_LEN_MAX) :=
  s.write off (data ++ [0])

/-- `strncpy(_dataPool + off, data, n)`: `n` characters, of which those behind the end of the text
are zero. -/
def strncpy (s : FixedString α STR_LEN_MAX) (off : Nat) (data : List α) (n : Nat) :
    Option (FixedString α STR_LEN_MAX) :=
  s.write off (data.take n ++ List.replicate (n - data.length) 0)

/-- `_dataPool[i] = '\0'`. -/
def terminate (s : FixedString α STR_LEN_MAX) (i : Nat) : Option (FixedString α STR_LEN_MAX) :=
  s.write i [0]

/-- `FixedStringA()` in raw memory. -/
def new (raw : FixedString α STR_LEN_MAX) (hpos : 0 < STR_LEN_MAX) : FixedString α STR_LEN_MAX where
  dataPool := put raw.dataPool 0 [0]
  pool_size := (put_length (raw.pool_size.symm ▸ hpos)).trans raw.pool_size
  len := 0

/-- `FixedStringA(const char*)`. -/
def construct (raw : FixedString α STR_LEN_MAX) (data : NulStr α) :
    Option (FixedString α STR_LEN_MAX) :=
  (raw.setLen (toUint32 data.chars.length)).strcpy 0 data.chars

/-- `FixedStringA(const FixedStringA&)`. -/
def copyConstruct [DecidableEq α] (raw rhs : FixedString α STR_LEN_MAX) :
    Option (FixedString α STR_LEN_MAX) :=
  if 0 ∈ rhs.dataPool then (raw.setLen rhs.len).strcpy 0 (textOf rhs.dataPool) else none

def assign (s : FixedString α STR_LEN_MAX) (data : NulStr α) : Option (FixedString α STR_LEN_MAX) :=
  (s.setLen (toUint32 data.chars.length)).strcpy 0 data.chars

/-- `Assign(data, len)`. -/
def assignN (s : FixedString α STR_LEN_MAX) (data : NulStr α) (len : Nat) :
    Option (FixedString α STR_LEN_MAX) := do
  let s ← (s.setLen len).strncpy 0 data.chars len
  s.terminate len

def append (s : FixedString α STR_LEN_MAX) (data : NulStr α) :
    Option (FixedString α STR_LEN_MAX) := do
  let len := toUint32 data.chars.length
  let s ← s.strcpy s.len data.chars
  some (s.setLen (toUint32 (s.len + len)))

/-- `Append(data, len)`. -/
def appendN (s : FixedString α STR_LEN_MAX) (data : NulStr α) (len : Nat) :
    Option (FixedString α STR_LEN_MAX) := do
  let s ← s.strncpy s.len data.chars len
  let s := s.setLen (toUint32 (s.len + len))
  s.terminate s.len

def cutOut (s : FixedString α STR_LEN_MAX) (newStrlen : Nat) : Option (FixedString α STR_LEN_MAX) :=
  (s.setLen newStrlen).terminate newStrlen

/-- `operator+=`. -/
def addAssign (s : FixedString α STR_LEN_MAX) (data : NulStr α) :
    Option (FixedString α STR_LEN_MAX) :=
  s.append data

def clear (s : FixedString α STR_LEN_MAX) : Option (FixedString α STR_LEN_MAX) := do
  let s ← s.terminate 0
  some (s.setLen 0)

end Operations

/-- Where the text of a call is: in other memory, or in `_dataPool` from the index `off` on, as in
`s.Append(s.C_Str() + off)`. -/
inductive TextArg (α : Type) [Zero α] where
  | other (data : NulStr α)
  | own (off : Nat)

/-- The operations, over what their text argument is given as. The constructors build a new string
in raw memory, `copyConstruct` a copy of the present one, so their text lies elsewhere. -/
inductive Op (Arg α : Type) [Zero α] (STR_LEN_MAX : Nat) where
  | construct (raw : FixedString α STR_LEN_MAX) (data : NulStr α)
  | copyConstruct (raw : FixedString α STR_LEN_MAX)
  | assign (data : Arg)
  | assignN (data : Arg) (len : Nat)
  | append (data : Arg)
  | appendN (data : Arg) (len : Nat)
  | addAssign (data : Arg)
  | cutOut (newStrlen : Nat)
  | clear

section Run

variable [Zero α]

/-- The assertion of an operation on a text, as it is computed. -/
def AcceptsText (s : FixedString α STR_LEN_MAX) : Op (NulStr α) α STR_LEN_MAX → Prop
  | .assign data => toUint32 data.chars.length < STR_LEN_MAX
  | .assignN _ len => len < STR_LEN_MAX
  | .append data | .addAssign data =>
    toUint32 (s.len + toUint32 data.chars.length) < STR_LEN_MAX
  | .appendN _ len => toUint32 (s.len + len) < STR_LEN_MAX
  | .cutOut newStrlen => newStrlen < s.len
  | .construct _ _ | .copyConstruct _ | .clear => True

/-- The text that an operation dictates. -/
def dictated (text : List α) : Op (NulStr α) α STR_LEN_MAX → List α
  | .construct _ data | .assign data => data.chars
  | .copyConstruct _ => text
  | .assignN data len => data.chars.take len
  | .append data | .addAssign data => text ++ data.chars
  | .appendN data len => text ++ data.chars.take len
  | .cutOut newStrlen => text.take newStrlen
  | .clear => []

/-- A text fits the array, and a count that the caller gives is no longer than its text. -/
def FitsText (s : FixedString α STR_LEN_MAX) : Op (NulStr α) α STR_LEN_MAX → Prop
  | .construct _ data | .assign data => data.chars.length < STR_LEN_MAX
  | .assignN data len => len ≤ data.chars.length
  | .append data | .addAssign data => s.len + data.chars.length < STR_LEN_MAX
  | .appendN data len => len ≤ data.chars.length ∧ s.len + len < STR_LEN_MAX
  | .copyConstruct _ | .cutOut _ | .clear => True

variable [DecidableEq α]

/-- An operation on a text that does not lie in the array. -/
def exec (s : FixedString α STR_LEN_MAX) :
    Op (NulStr α) α STR_LEN_MAX → Option (FixedString α STR_LEN_MAX)
  | .construct raw data => construct raw data
  | .copyConstruct raw => copyConstruct raw s
  | .assign data => s.assign data
  | .assignN data len => s.assignN data len
  | .append data => s.append data
  | .appendN data len => s.appendN data len
  | .addAssign data => s.addAssign data
  | .cutOut newStrlen => s.cutOut newStrlen
  | .clear => s.clear

/-- The characters from the argument to the next zero, or to the end of the array. -/
def TextArg.text (s : FixedString α STR_LEN_MAX) : TextArg α → NulStr α
  | .other data => data
  | .own off => ⟨textOf (s.dataPool.drop off), nul_not_mem_textOf⟩

/-- The argument is a C string: it has a terminator. -/
def TextArg.IsStr (s : FixedString α STR_LEN_MAX) : TextArg α → Prop
  | .other _ => True
  | .own off => 0 ∈ s.dataPool.drop off

/-- A copy of `count` characters to the place `dst` writes none of the characters that it reads,
which end with the terminator of the text. -/
def TextArg.Apart (s : FixedString α STR_LEN_MAX) (dst count : Nat) : TextArg α → Prop
  | .other _ => True
  | .own off => count = 0 ∨ dst + count ≤ off ∨
    off + min count ((textOf (s.dataPool.drop off)).length + 1) ≤ dst

instance (s : FixedString α STR_LEN_MAX) (dst count : Nat) :
    (data : TextArg α) → Decidable (data.Apart s dst count)
  | .other _ => inferInstanceAs (Decidable True)
  | .own off => inferInstanceAs (Decidable (count = 0 ∨ dst + count ≤ off ∨
      off + min count ((textOf (s.dataPool.drop off)).length + 1) ≤ dst))

/-- `strcpy` reads and writes the text with its terminator, `strncpy` writes `len` characters. -/
def Op.Apart (s : FixedString α STR_LEN_MAX) : Op (TextArg α) α STR_LEN_MAX → Prop
  | .assign data => data.Apart s 0 ((data.text s).chars.length + 1)
  | .assignN data len => data.Apart s 0 len
  | .append data | .addAssign data => data.Apart s s.len ((data.text s).chars.length + 1)
  | .appendN data len => data.Apart s s.len len
  | .construct _ _ | .copyConstruct _ | .cutOut _ | .clear => True

instance (s : FixedString α STR_LEN_MAX) :
    (op : Op (TextArg α) α STR_LEN_MAX) → Decidable (op.Apart s)
  | .assign data => inferInstanceAs (Decidable (data.Apart s 0 ((data.text s).chars.length + 1)))
  | .assignN data len => inferInstanceAs (Decidable (data.Apart s 0 len))
  | .append data | .addAssign data =>
    inferInstanceAs (Decidable (data.Apart s s.len ((data.text s).chars.length + 1)))
  | .appendN data len => inferInstanceAs (Decidable (data.Apart s s.len len))
  | .construct _ _ | .copyConstruct _ | .cutOut _ | .clear => inferInstanceAs (Decidable True)

/-- The operation on the text that its argument points to. -/
def Op.onText (s : FixedString α STR_LEN_MAX) :
    Op (TextArg α) α STR_LEN_MAX → Op (NulStr α) α STR_LEN_MAX
  | .construct raw data => .construct raw data
  | .copyConstruct raw => .copyConstruct raw
  | .assign data => .assign (data.text s)
  | .assignN data len => .assignN (data.text s) len
  | .append data => .append (data.text s)
  | .appendN data len => .appendN (data.text s) len
  | .addAssign data => .addAssign (data.text s)
  | .cutOut newStrlen => .cutOut newStrlen
  | .clear => .clear

/-- The text argument is a C string. -/
def Op.IsStr (s : FixedString α STR_LEN_MAX) : Op (TextArg α) α STR_LEN_MAX → Prop
  | .assign data | .assignN data _ | .append data | .appendN data _ | .addAssign data =>
    data.IsStr s
  | .construct _ _ | .copyConstruct _ | .cutOut _ | .clear => True

/-- A copy between places that overlap has no defined result. -/
def step (s : FixedString α STR_LEN_MAX) (op : Op (TextArg α) α STR_LEN_MAX) :
    Option (FixedString α STR_LEN_MAX) :=
  if op.Apart s then s.exec (op.onText s) else none

def Accepts (s : FixedString α STR_LEN_MAX) (op : Op (TextArg α) α STR_LEN_MAX) : Prop :=
  op.IsStr s ∧ s.AcceptsText (op.onText s)

/-- The text fits, and it does not overlap with its place in the array. -/
def Fits (s : FixedString α STR_LEN_MAX) (op : Op (TextArg α) α STR_LEN_MAX) : Prop :=
  op.Apart s ∧ s.FitsText (op.onText s)

/-- The string is consistent and holds the text. -/
structure Reads (s : FixedString α STR_LEN_MAX) (text : List α) : Prop where
  firstNul : FirstNul s.dataPool s.len
  len_lt : s.len < STR_LEN_MAX
  text_eq : textOf s.dataPool = text

/-- The operation stays inside the array, and leaves the text it dictates. -/
def FollowsText (s : FixedString α STR_LEN_MAX) (op : Op (NulStr α) α STR_LEN_MAX) : Prop :=
  ∃ s', exec s op = some s' ∧ s'.Reads (dictated (textOf s.dataPool) op)

def Follows (s : FixedString α STR_LEN_MAX) (op : Op (TextArg α) α STR_LEN_MAX) : Prop :=
  ∃ s', step s op = some s' ∧ s'.Reads (dictated (textOf s.dataPool) (op.onText s))

end Run

section Steps

variable {s s' : FixedString α STR_LEN_MAX} {start text xs data : List α} {n : Nat}

theorem write_some (xs : List α) (hstart : start <+: s.dataPool)
    (hfit : start.length + xs.length ≤ STR_LEN_MAX) :
    ∃ s', s.write start.length xs = some s' ∧ start ++ xs <+: s'.dataPool ∧ s'.len = s.len := by
  rw [write, dif_pos hfit]
  exact ⟨_, rfl, prefix_put hstart, rfl⟩

theorem write_none (h : STR_LEN_MAX < n + xs.length) : s.write n xs = none := by
  rw [write, dif_neg (Nat.not_le_of_lt h)]

theorem length_take_eq_iff : n = (data.take n).length ↔ n ≤ data.length := by
  rw [List.length_take]
  omega

variable [Zero α]

/-- The array holds the text, and `_len` is its length. -/
structure Tracks (s : FixedString α STR_LEN_MAX) (text : List α) : Prop where
  holds : Holds s.dataPool text
  len_eq : s.len = text.length

theorem holds_length_lt (h : Holds s.dataPool text) : text.length < STR_LEN_MAX :=
  s.pool_size ▸ h.length_lt

theorem Tracks.len_lt (h : s.Tracks text) : s.len < STR_LEN_MAX :=
  h.len_eq ▸ holds_length_lt h.holds

theorem holds_start (h : Holds s.dataPool text) (n : Nat) : text.take n <+: s.dataPool :=
  (List.take_prefix n text).trans ((List.prefix_append text [0]).trans h.starts)

theorem new_tracks (raw : FixedString α STR_LEN_MAX) (hpos : 0 < STR_LEN_MAX) :
    (new raw hpos).Tracks [] :=
  ⟨⟨nofun, prefix_put List.nil_prefix⟩, rfl⟩

theorem strcpy_some (hstart : start <+: s.dataPool) (hnul : (0 : α) ∉ start ++ data)
    (hfit : start.length + data.length < STR_LEN_MAX) :
    ∃ s', s.strcpy start.length data = some s' ∧ Holds s'.dataPool (start ++ data) ∧
      s'.len = s.len := by
  have hlen : start.length + (data ++ [0]).length ≤ STR_LEN_MAX := by
    rw [List.length_append, List.length_singleton]
    omega
  obtain ⟨s', hwrite, hpool, hkeep⟩ := write_some _ hstart hlen
  rw [← List.append_assoc] at hpool
  exact ⟨s', hwrite, ⟨hnul, hpool⟩, hkeep⟩

theorem construct_some (hmax : STR_LEN_MAX < 2 ^ 32) (raw : FixedString α STR_LEN_MAX)
    {data : NulStr α} (hfit : data.chars.length < STR_LEN_MAX) :
    ∃ s', construct raw data = some s' ∧ s'.Tracks data.chars := by
  obtain ⟨s', hcopy, hholds, hlen⟩ := strcpy_some (s := raw.setLen (toUint32 data.chars.length))
    List.nil_prefix data.no_nul ((Nat.zero_add _).symm ▸ hfit)
  exact ⟨s', hcopy, hholds, hlen.trans (toUint32_natCast (hfit.trans hmax))⟩

theorem strcpy_none (h : STR_LEN_MAX ≤ n + data.length) : s.strcpy n data = none := by
  refine write_none ?_
  rw [List.length_append, List.length_singleton]
  omega

theorem terminate_some (hstart : start <+: s.dataPool) (hnul : (0 : α) ∉ start)
    (hfit : start.length < STR_LEN_MAX) :
    ∃ s', s.terminate start.length = some s' ∧ Holds s'.dataPool start ∧ s'.len = s.len := by
  obtain ⟨s', hwrite, hpool, hkeep⟩ := write_some [0] hstart hfit
  exact ⟨s', hwrite, ⟨hnul, hpool⟩, hkeep⟩

/-- `strncpy` and the terminator behind it. A count beyond the text leaves zeros between the two, so
that the text ends where it would have ended anyway. -/
theorem strncpy_terminate (hstart : start <+: s.dataPool) (hnul : (0 : α) ∉ start ++ data.take n)
    (hfit : start.length + n < STR_LEN_MAX) (len : Nat) :
    ∃ s1 s', s.strncpy start.length data n = some s1 ∧ s1.len = s.len ∧
      (s1.setLen len).terminate (start.length + n) = some s' ∧
      Holds s'.dataPool (start ++ data.take n) ∧ s'.len = len := by
  have hlen : (data.take n ++ List.replicate (n - data.length) (0 : α)).length = n := by
    rw [List.length_append, List.length_take, List.length_replicate]
    omega
  obtain ⟨s1, hwrite, hpool, hkeep⟩ := write_some
    (data.take n ++ List.replicate (n - data.length) 0) hstart (by omega)
  have hpool' : start ++ (data.take n ++ List.replicate (n - data.length) 0)
      <+: (s1.setLen len).dataPool := hpool
  have hlen' : (start ++ (data.take n ++ List.replicate (n - data.length) (0 : α))).length
      = start.length + n := by rw [List.length_append, hlen]
  obtain ⟨s', hlast, hend, hkeep'⟩ := write_some [0] hpool' (by rw [hlen']; exact hfit)
  rw [hlen'] at hlast
  refine ⟨s1, s', hwrite, hkeep, hlast, ⟨hnul, ?_⟩, hkeep'⟩
  rcases Nat.lt_or_ge data.length n with hn | hn
  · obtain ⟨k, hk⟩ : ∃ k, n - data.length = k + 1 := ⟨n - data.length - 1, by omega⟩
    rw [hk, List.replicate_succ] at hend
    refine List.IsPrefix.trans ⟨List.replicate k 0 ++ [0], ?_⟩ hend
    simp
  · rw [Nat.sub_eq_zero_of_le hn, List.replicate_zero, List.append_nil] at hend
    exact hend

theorem strncpy_none (h : STR_LEN_MAX < start.length + n) :
    s.strncpy start.length data n = none := by
  refine write_none ?_
  rw [List.length_append, List.length_take, List.length_replicate]
  omega

/-- The runs of operations that need their condition from the states before. -/
theorem run_iff {Op' : Type}
    {step' : FixedString α STR_LEN_MAX → Op' → Option (FixedString α STR_LEN_MAX)}
    {A P Q : FixedString α STR_LEN_MAX → Op' → Prop} {ops : List Op'}
    (hkeep : ∀ s op s', P s op → step' s op = some s' → ∃ text, s'.Tracks text)
    (hiff : ∀ (s : FixedString α STR_LEN_MAX) op text, s.Tracks text → A s op → (P s op ↔ Q s op))
    (htracks : s.Tracks text) (hacc : Each step' A s ops) :
    Each step' P s ops ↔ Each step' Q s ops := by
  have hinv : ∀ (s : FixedString α STR_LEN_MAX) (op : Op') (s' : FixedString α STR_LEN_MAX),
      (∃ text, s.Tracks text) → A s op → Q s op → step' s op = some s' →
        ∃ text, s'.Tracks text := by
    rintro s op s' ⟨text, htracks⟩ hacc hq hstep
    exact hkeep s op s' ((hiff s op text htracks hacc).mpr hq) hstep
  refine Each.iff hinv ?_ ⟨text, htracks⟩ hacc
  rintro s op ⟨text, htracks⟩ hacc
  exact hiff s op text htracks hacc

variable [DecidableEq α]

theorem reads_iff : s.Reads text ↔ s.Tracks text := by
  constructor
  · rintro ⟨hfirst, _, rfl⟩
    exact ⟨hfirst.holds, hfirst.unique hfirst.holds.firstNul⟩
  · intro h
    exact ⟨h.len_eq ▸ h.holds.firstNul, h.len_lt, h.holds.textOf_eq⟩

variable {op : Op (NulStr α) α STR_LEN_MAX}

/-- Where an operation leaves the right text, its length decides. -/
theorem follows_iff_len (htracks : s.Tracks text) (hstep : exec s op = some s')
    (hholds : Holds s'.dataPool (dictated text op)) :
    s.FollowsText op ↔ s'.len = (dictated text op).length := by
  unfold FollowsText
  rw [htracks.holds.textOf_eq]
  constructor
  · rintro ⟨s1, hstep1, hreads⟩
    cases Option.some.inj (hstep1.symm.trans hstep)
    exact (reads_iff.mp hreads).len_eq
  · intro hlen
    exact ⟨s', hstep, reads_iff.mpr ⟨hholds, hlen⟩⟩

theorem not_follows_of_none (hstep : exec s op = none) : ¬ s.FollowsText op := by
  rintro ⟨s', hstep', _⟩
  cases hstep.symm.trans hstep'

/-- A text copied to the start of the array, with the length it was measured with. -/
theorem follows_copied_iff (hmax : STR_LEN_MAX < 2 ^ 32) (htracks : s.Tracks text)
    (raw : FixedString α STR_LEN_MAX) (data : NulStr α)
    (hstep : exec s op = (raw.setLen (toUint32 data.chars.length)).strcpy 0 data.chars)
    (hdictated : dictated text op = data.chars) :
    s.FollowsText op ↔ data.chars.length < STR_LEN_MAX := by
  rcases Nat.lt_or_ge data.chars.length STR_LEN_MAX with hfit | hfit
  · obtain ⟨s', hcopy, htracks'⟩ := construct_some hmax raw hfit
    rw [← hdictated] at htracks'
    exact iff_of_true
      ((follows_iff_len htracks (hstep.trans hcopy) htracks'.holds).mpr htracks'.len_eq) hfit
  · refine iff_of_false (not_follows_of_none ?_) (Nat.not_lt_of_le hfit)
    rw [hstep]
    exact strcpy_none ((Nat.zero_add _).symm ▸ hfit)

theorem follows_copyConstruct (htracks : s.Tracks text) (raw : FixedString α STR_LEN_MAX) :
    s.FollowsText (.copyConstruct raw) := by
  have hmem : (0 : α) ∈ s.dataPool := List.mem_of_getElem? htracks.holds.firstNul.1
  obtain ⟨s', hcopy, hholds, hlen⟩ := strcpy_some (s := raw.setLen s.len)
    List.nil_prefix htracks.holds.no_nul ((Nat.zero_add _).symm ▸ holds_length_lt htracks.holds)
  have hstep : exec s (.copyConstruct raw) = some s' := by
    rw [exec, copyConstruct, if_pos hmem, htracks.holds.textOf_eq]
    exact hcopy
  exact (follows_iff_len htracks hstep hholds).mpr (hlen.trans htracks.len_eq)

theorem follows_assignN_iff (htracks : s.Tracks text) (data : NulStr α) (hacc : n < STR_LEN_MAX) :
    s.FollowsText (.assignN data n) ↔ n ≤ data.chars.length := by
  have hnul : (0 : α) ∉ [] ++ data.chars.take n := fun h => data.no_nul (List.mem_of_mem_take h)
  obtain ⟨s1, s', hcopy, hlen1, hlast, hholds, hlen⟩ := strncpy_terminate
    (s := s.setLen n) List.nil_prefix hnul ((Nat.zero_add n).symm ▸ hacc) n
  have hstep : exec s (.assignN data n) = some s' := by
    have hset : s1.setLen n = s1 := by
      cases s1
      cases hlen1
      rfl
    rw [hset, List.length_nil, Nat.zero_add] at hlast
    exact Option.bind_eq_some_iff.mpr ⟨s1, hcopy, hlast⟩
  rw [follows_iff_len htracks hstep hholds, hlen]
  exact length_take_eq_iff

/-- The sum of the lengths is compared in `uint32`, and the copy then goes where it goes. -/
theorem follows_appended_iff (hmax : STR_LEN_MAX < 2 ^ 32) (htracks : s.Tracks text)
    (data : NulStr α) (hstep : exec s op = s.append data)
    (hdictated : dictated text op = text ++ data.chars) :
    s.FollowsText op ↔ s.len + data.chars.length < STR_LEN_MAX := by
  rcases Nat.lt_or_ge (s.len + data.chars.length) STR_LEN_MAX with hfit | hfit
  · have hnul : (0 : α) ∉ text ++ data.chars := by
      rw [List.mem_append]
      rintro (h | h)
      · exact htracks.holds.no_nul h
      · exact data.no_nul h
    have hstart : text <+: s.dataPool :=
      (List.prefix_append text [0]).trans htracks.holds.starts
    obtain ⟨s1, hcopy, hholds, hkeep⟩ := strcpy_some hstart hnul (htracks.len_eq ▸ hfit)
    rw [← htracks.len_eq] at hcopy
    have hsum : toUint32 ((s.len : Int) + (toUint32 data.chars.length : Nat))
        = s.len + data.chars.length := by
      rw [toUint32_natCast (by omega), ← Int.natCast_add, toUint32_natCast (hfit.trans hmax)]
    have hstep' : exec s op = some (s1.setLen (s.len + data.chars.length)) := by
      rw [hstep, append, hcopy]
      show some (s1.setLen (toUint32 (s1.len + (toUint32 data.chars.length : Nat)))) = _
      rw [hkeep, hsum]
    refine iff_of_true ((follows_iff_len htracks hstep' ?_).mpr ?_) hfit
    · rw [hdictated]
      exact hholds
    · rw [hdictated, List.length_append, ← htracks.len_eq]
      rfl
  · refine iff_of_false (not_follows_of_none ?_) (Nat.not_lt_of_le hfit)
    rw [hstep, append, strcpy_none hfit]
    rfl

/-- What an append leaves that fits. -/
theorem addAssign_some (hmax : STR_LEN_MAX < 2 ^ 32) (htracks : s.Tracks text) (data : NulStr α)
    (hfit : text.length + data.chars.length < STR_LEN_MAX) :
    ∃ s', s.addAssign data = some s' ∧ s'.Tracks (text ++ data.chars) := by
  have hfollows : s.FollowsText (.addAssign data) :=
    (follows_appended_iff hmax htracks data rfl rfl).mpr (htracks.len_eq.symm ▸ hfit)
  obtain ⟨s', hstep, hreads⟩ := hfollows
  rw [htracks.holds.textOf_eq] at hreads
  exact ⟨s', hstep, reads_iff.mp hreads⟩

theorem follows_appendN_iff (hmax : STR_LEN_MAX < 2 ^ 32) (htracks : s.Tracks text)
    (data : NulStr α) (hacc : toUint32 (s.len + n) < STR_LEN_MAX) :
    s.FollowsText (.appendN data n) ↔ n ≤ data.chars.length ∧ s.len + n < STR_LEN_MAX := by
  rcases Nat.lt_or_ge (s.len + n) STR_LEN_MAX with hfit | hfit
  · have hnul : (0 : α) ∉ text ++ data.chars.take n := by
      rw [List.mem_append]
      rintro (h | h)
      · exact htracks.holds.no_nul h
      · exact data.no_nul (List.mem_of_mem_take h)
    have hstart : text <+: s.dataPool :=
      (List.prefix_append text [0]).trans htracks.holds.starts
    obtain ⟨s1, s', hcopy, hkeep, hlast, hholds, hlen⟩ :=
      strncpy_terminate hstart hnul (htracks.len_eq ▸ hfit) (s.len + n)
    rw [← htracks.len_eq] at hcopy hlast
    have hsum : toUint32 ((s.len : Int) + (n : Int)) = s.len + n := by
      rw [← Int.natCast_add, toUint32_natCast (hfit.trans hmax)]
    have hstep : exec s (.appendN data n) = some s' := by
      rw [exec, appendN, hcopy]
      show (s1.setLen (toUint32 (s1.len + n))).terminate (toUint32 (s1.len + n)) = _
      rw [hkeep, hsum]
      exact hlast
    rw [follows_iff_len htracks hstep hholds, hlen, dictated, List.length_append,
      ← htracks.len_eq, Nat.add_left_cancel_iff, length_take_eq_iff]
    exact (and_iff_left hfit).symm
  · -- only a sum that wraps passes the assertion here
    have hwrap : 2 ^ 32 ≤ s.len + n := by
      by_contra hlt
      rw [← Int.natCast_add, toUint32_natCast (Nat.lt_of_not_le hlt)] at hacc
      omega
    refine iff_of_false (not_follows_of_none ?_) fun h => Nat.not_lt_of_le hfit h.2
    have hout : STR_LEN_MAX < text.length + n := by
      rw [← htracks.len_eq]
      omega
    rw [exec, appendN, htracks.len_eq, strncpy_none hout]
    rfl

theorem follows_cutOut (htracks : s.Tracks text) (hacc : n < s.len) :
    s.FollowsText (.cutOut n) := by
  have hle : n ≤ text.length := htracks.len_eq ▸ Nat.le_of_lt hacc
  have hlen : (text.take n).length = n := List.length_take_of_le hle
  have hfit : (text.take n).length < STR_LEN_MAX := by
    rw [hlen]
    exact hacc.trans htracks.len_lt
  obtain ⟨s', hlast, hholds, hkeep⟩ := terminate_some (s := s.setLen n)
    (holds_start htracks.holds n) (fun h => htracks.holds.no_nul (List.mem_of_mem_take h)) hfit
  rw [hlen] at hlast
  have hstep : exec s (.cutOut n) = some s' := hlast
  exact (follows_iff_len htracks hstep hholds).mpr (hkeep.trans hlen.symm)

theorem follows_clear (htracks : s.Tracks text) : s.FollowsText .clear := by
  have hpos : 0 < STR_LEN_MAX := Nat.zero_lt_of_lt htracks.len_lt
  obtain ⟨s1, hlast, hholds, _⟩ := terminate_some (s := s) List.nil_prefix (List.not_mem_nil) hpos
  have hstep : exec s .clear = some (s1.setLen 0) := by
    rw [exec, clear]
    exact Option.bind_eq_some_iff.mpr ⟨s1, hlast, rfl⟩
  exact (follows_iff_len htracks hstep hholds).mpr rfl

/-- One case for each operation. -/
theorem followsText_iff (hmax : STR_LEN_MAX < 2 ^ 32) (htracks : s.Tracks text)
    (hacc : s.AcceptsText op) : s.FollowsText op ↔ s.FitsText op := by
  cases op with
  | construct raw data => exact follows_copied_iff hmax htracks raw data rfl rfl
  | copyConstruct raw => exact iff_of_true (follows_copyConstruct htracks raw) trivial
  | assign data => exact follows_copied_iff hmax htracks s data rfl rfl
  | assignN data len => exact follows_assignN_iff htracks data hacc
  | append data => exact follows_appended_iff hmax htracks data rfl rfl
  | appendN data len => exact follows_appendN_iff hmax htracks data hacc
  | addAssign data => exact follows_appended_iff hmax htracks data rfl rfl
  | cutOut newStrlen => exact iff_of_true (follows_cutOut htracks hacc) trivial
  | clear => exact iff_of_true (follows_clear htracks) trivial

/-- A copy that does not overlap is one of a text in other memory. -/
theorem follows_iff {op : Op (TextArg α) α STR_LEN_MAX} (hmax : STR_LEN_MAX < 2 ^ 32)
    (htracks : s.Tracks text) (hacc : s.Accepts op) : s.Follows op ↔ s.Fits op := by
  have htext := followsText_iff hmax htracks hacc.2
  by_cases hapart : op.Apart s
  · rw [Fits, and_iff_right hapart, ← htext, Follows, step, if_pos hapart]
    rfl
  · refine iff_of_false ?_ fun h => hapart h.1
    rintro ⟨s', hstep, _⟩
    rw [step, if_neg hapart] at hstep
    cases hstep

/-- `s.Append(s.C_Str())`: the copy writes the terminator that it has yet to read. -/
theorem not_follows_append_own {off : Nat} (htracks : s.Tracks text) (hoff : off ≤ s.len) :
    ¬ s.Follows (.append (.own off)) := by
  rintro ⟨s', hstep, _⟩
  have hlen : (textOf (s.dataPool.drop off)).length = s.len - off := by
    rw [htracks.len_eq, (htracks.holds.drop (htracks.len_eq ▸ hoff)).textOf_eq, List.length_drop]
  have hover : ¬ Op.Apart s (.append (.own off)) := by
    simp only [Op.Apart, TextArg.Apart, TextArg.text, hlen]
    omega
  rw [step, if_neg hover] at hstep
  cases hstep

theorem Follows.tracks {op : Op (TextArg α) α STR_LEN_MAX} (h : s.Follows op)
    (hstep : step s op = some s') :
    ∃ text, s'.Tracks text := by
  obtain ⟨s1, hstep1, hreads⟩ := h
  cases Option.some.inj (hstep1.symm.trans hstep)
  exact ⟨_, reads_iff.mp hreads⟩

end Steps

section Wide

/-- `FixedStringW` has one constructor more, from a text of bytes. -/
inductive OpW (STR_LEN_MAX : Nat) where
  | op (op : Op (TextArg UInt16) UInt16 STR_LEN_MAX)
  | constructChars (raw : FixedString UInt16 STR_LEN_MAX) (data : CStr)

-- `MultiByteToWideChar`: the units it has for some bytes
variable (convert : List UInt8 → List UInt16)

/-- `CharStrToUTF16Str` into `_dataPool`. The second call converts the same bytes once more, and has
the room it needs. -/
def charStrToUTF16Str (s : FixedString UInt16 STR_LEN_MAX) (charStr : CStr) (charLen : Nat) :
    Option (FixedString UInt16 STR_LEN_MAX × Nat) := do
  let units := convert (charStr.bytes.take charLen)
  let s ← s.write 0 units
  let s ← s.terminate units.length
  some (s, units.length)

/-- `FixedStringW(const char*)`. -/
def constructChars (raw : FixedString UInt16 STR_LEN_MAX) (data : CStr) :
    Option (FixedString UInt16 STR_LEN_MAX) := do
  let (s, resultLen) ← raw.charStrToUTF16Str convert data (toUint32 data.strlen)
  some (s.setLen resultLen)

def stepW (s : FixedString UInt16 STR_LEN_MAX) :
    OpW STR_LEN_MAX → Option (FixedString UInt16 STR_LEN_MAX)
  | .op op => s.step op
  | .constructChars raw data => raw.constructChars convert data

/-- The two assertions on the length of the result; the counts of `MultiByteToWideChar` are of type
`int`. -/
def AcceptsW (s : FixedString UInt16 STR_LEN_MAX) : OpW STR_LEN_MAX → Prop
  | .op op => s.Accepts op
  | .constructChars _ data =>
    data.strlen < 2 ^ 31 ∧ (convert data.bytes).length < STR_LEN_MAX ∧
      (convert data.bytes).length ≠ 0

def dictatedW (s : FixedString UInt16 STR_LEN_MAX) : OpW STR_LEN_MAX → List UInt16
  | .op op => dictated (textOf s.dataPool) (op.onText s)
  | .constructChars _ data => convert data.bytes

def FitsW (s : FixedString UInt16 STR_LEN_MAX) : OpW STR_LEN_MAX → Prop
  | .op op => s.Fits op
  | .constructChars _ _ => True

def FollowsW (s : FixedString UInt16 STR_LEN_MAX) (op : OpW STR_LEN_MAX) : Prop :=
  ∃ s', stepW convert s op = some s' ∧ s'.Reads (dictatedW convert s op)

variable {convert} {s s' : FixedString UInt16 STR_LEN_MAX} {text : List UInt16}
  {op : OpW STR_LEN_MAX}

theorem followsW_constructChars (raw : FixedString UInt16 STR_LEN_MAX) (data : CStr)
    (hlen : data.strlen < 2 ^ 31) (hfit : (convert data.bytes).length < STR_LEN_MAX)
    (hnul : (0 : UInt16) ∉ convert data.bytes) :
    FollowsW convert s (.constructChars raw data) := by
  have htake : data.bytes.take (toUint32 data.strlen) = data.bytes := by
    rw [toUint32_natCast (by omega)]
    exact List.take_length
  obtain ⟨s1, hwrite, hpool, _⟩ := write_some (s := raw) (convert data.bytes) List.nil_prefix
    (Nat.le_of_lt ((Nat.zero_add _).symm ▸ hfit))
  obtain ⟨s2, hlast, hholds, _⟩ := terminate_some hpool hnul hfit
  have hstep : stepW convert s (.constructChars raw data)
      = some (s2.setLen (convert data.bytes).length) := by
    have hcall : raw.charStrToUTF16Str convert data (toUint32 data.strlen)
        = some (s2, (convert data.bytes).length) := by
      rw [charStrToUTF16Str, htake]
      exact Option.bind_eq_some_iff.mpr
        ⟨s1, hwrite, Option.bind_eq_some_iff.mpr ⟨s2, hlast, rfl⟩⟩
    exact Option.bind_eq_some_iff.mpr ⟨_, hcall, rfl⟩
  exact ⟨_, hstep, reads_iff.mpr ⟨hholds, rfl⟩⟩

theorem followsW_iff (hmax : STR_LEN_MAX < 2 ^ 32)
    (hconvert : ∀ bytes : List UInt8, 0 ∉ bytes → (0 : UInt16) ∉ convert bytes)
    (htracks : s.Tracks text) (hacc : AcceptsW convert s op) :
    FollowsW convert s op ↔ s.FitsW op := by
  cases op with
  | op op => exact follows_iff hmax htracks hacc
  | constructChars raw data =>
    exact iff_of_true (followsW_constructChars raw data hacc.1 hacc.2.1
      (hconvert _ data.no_nul)) trivial

theorem FollowsW.tracks (h : FollowsW convert s op) (hstep : stepW convert s op = some s') :
    ∃ text, s'.Tracks text := by
  obtain ⟨s1, hstep1, hreads⟩ := h
  cases Option.some.inj (hstep1.symm.trans hstep)
  exact ⟨_, reads_iff.mp hreads⟩

end Wide

/-- Of both classes and every size of the array, the runs in which every operation leaves the text
it dictates, consistent and without a write behind the array, are those in which every text fits
every count that a caller gives is no longer than its text, and no copy overlaps with itself. -/
theorem runs_follow_iff (convert : List UInt8 → List UInt16)
    (hconvert : ∀ bytes : List UInt8, 0 ∉ bytes → (0 : UInt16) ∉ convert bytes)
    (hpos : 0 < STR_LEN_MAX) (hmax : STR_LEN_MAX < 2 ^ 32) :
    (∀ (raw : FixedString UInt8 STR_LEN_MAX) (ops : List (Op (TextArg UInt8) UInt8 STR_LEN_MAX)),
      Each step Accepts (new raw hpos) ops →
        (Each step Follows (new raw hpos) ops ↔ Each step Fits (new raw hpos) ops)) ∧
    ∀ (raw : FixedString UInt16 STR_LEN_MAX) (ops : List (OpW STR_LEN_MAX)),
      Each (stepW convert) (AcceptsW convert) (new raw hpos) ops →
        (Each (stepW convert) (FollowsW convert) (new raw hpos) ops ↔
          Each (stepW convert) FitsW (new raw hpos) ops) := by
  constructor
  · intro raw ops hacc
    exact run_iff (fun _ _ _ h hstep => h.tracks hstep)
      (fun _ _ _ htracks hacc => follows_iff hmax htracks hacc) (new_tracks raw hpos) hacc
  · intro raw ops hacc
    exact run_iff (fun _ _ _ h hstep => h.tracks hstep)
      (fun _ _ _ htracks hacc => followsW_iff hmax hconvert htracks hacc) (new_tracks raw hpos) hacc

section Runs

def abc : NulStr UInt8 := ⟨[97, 98, 99], by decide⟩

def blank (α : Type) [Zero α] (STR_LEN_MAX : Nat) : FixedString α STR_LEN_MAX where
  dataPool := List.replicate STR_LEN_MAX 0
  pool_size := List.length_replicate
  len := 0

/-- A text that just fits is cut, extended by itself, and assigned from a part of itself. -/
def cutAndExtended : List (Op (TextArg UInt8) UInt8 4) :=
  [.assign (.other abc), .cutOut 1, .appendN (.own 0) 1, .append (.other ⟨[98], by decide⟩),
    .assign (.own 2)]

/-- The same text converted, then cut. -/
def converted : List (OpW 4) := [.constructChars (blank UInt16 4) ⟨[97, 98, 99], by decide⟩,
  .op (.cutOut 1)]

/-- The ASCII part of every code page. -/
def convertAscii (bytes : List UInt8) : List UInt16 := bytes.map UInt8.toUInt16

theorem nul_not_mem_convertAscii (bytes : List UInt8) (h : 0 ∉ bytes) :
    (0 : UInt16) ∉ convertAscii bytes := by
  intro hmem
  obtain ⟨b, hb, hzero⟩ := List.mem_map.mp hmem
  have hb0 : b = 0 := UInt8.toNat_inj.mp (congrArg UInt16.toNat hzero)
  exact h (hb0 ▸ hb)

theorem runs_follow_iff_four :
    Each step Follows (new (blank UInt8 4) (by decide)) cutAndExtended ∧
      Each (stepW convertAscii) (FollowsW convertAscii) (new (blank UInt16 4) (by decide))
        converted := by
  have hruns := @runs_follow_iff 4 convertAscii nul_not_mem_convertAscii (by decide) (by decide)
  constructor
  · refine (hruns.1 (blank UInt8 4) cutAndExtended ⟨⟨trivial, show 3 < 4 by decide⟩, ?_⟩).mpr
      ⟨⟨trivial, show 3 < 4 by decide⟩, ?_⟩
    · intro s1 h1
      cases h1
      refine ⟨⟨trivial, show 1 < 3 by decide⟩, fun s2 h2 => ?_⟩
      cases h2
      refine ⟨⟨show (0 : UInt8) ∈ [97, 0, 99, 0] by decide, show 2 < 4 by decide⟩, fun s3 h3 => ?_⟩
      cases h3
      refine ⟨⟨trivial, show 3 < 4 by decide⟩, fun s4 h4 => ?_⟩
      cases h4
      exact ⟨⟨show (0 : UInt8) ∈ [98, 0] by decide, show 1 < 4 by decide⟩, fun _ _ => trivial⟩
    · intro s1 h1
      cases h1
      refine ⟨⟨trivial, trivial⟩, fun s2 h2 => ?_⟩
      cases h2
      refine ⟨⟨by decide, show 1 ≤ 1 ∧ 1 + 1 < 4 by decide⟩, fun s3 h3 => ?_⟩
      cases h3
      refine ⟨⟨trivial, show 2 + 1 < 4 by decide⟩, fun s4 h4 => ?_⟩
      cases h4
      exact ⟨⟨by decide, show 1 < 4 by decide⟩, fun _ _ => trivial⟩
  · refine (hruns.2 (blank UInt16 4) converted ⟨show 3 < 2 ^ 31 ∧ 3 < 4 ∧ 3 ≠ 0 by decide, ?_⟩).mpr
      ⟨trivial, fun _ _ => ⟨⟨trivial, trivial⟩, fun _ _ => trivial⟩⟩
    intro s1 h1
    cases h1
    exact ⟨⟨trivial, show 1 < 3 by decide⟩, fun _ _ => trivial⟩

/-- The constructor copies a text of four letters and its terminator into four bytes, and a text
of one letter is appended to itself from its own array. -/
theorem construct_overruns :
    (Each step Accepts (new (blank UInt8 4) (by decide))
        [.construct (blank UInt8 4) ⟨[97, 98, 99, 100], by decide⟩] ∧
      ¬ Each step Follows (new (blank UInt8 4) (by decide))
        [.construct (blank UInt8 4) ⟨[97, 98, 99, 100], by decide⟩]) ∧
    (Each step Accepts (new (blank UInt8 4) (by decide))
        [.assign (.other ⟨[97], by decide⟩), .append (.own 0)] ∧
      ¬ Each step Follows (new (blank UInt8 4) (by decide))
        [.assign (.other ⟨[97], by decide⟩), .append (.own 0)]) := by
  refine ⟨⟨⟨⟨trivial, trivial⟩, fun _ _ => trivial⟩, ?_⟩,
    ⟨⟨trivial, show 1 < 4 by decide⟩, fun s1 h1 => ?_⟩, ?_⟩
  · rintro ⟨⟨s', hstep, _⟩, _⟩
    cases hstep
  · cases h1
    exact ⟨⟨show (0 : UInt8) ∈ [97, 0, 0, 0] by decide, show 2 < 4 by decide⟩, fun _ _ => trivial⟩
  · rintro ⟨_, hrest⟩
    obtain ⟨⟨s', hstep, _⟩, _⟩ := hrest _ rfl
    cases hstep

end Runs

end FixedString

section Narrow

variable {STR_LEN_MAX : Nat}

def CStr.toNulStr (s : CStr) : NulStr UInt8 := ⟨s.bytes, s.no_nul⟩

/-- The strings of the other modules. -/
def FixedStringA.toFixedString (s : FixedStringA STR_LEN_MAX) : FixedString UInt8 STR_LEN_MAX :=
  ⟨s.dataPool, s.pool_size, s.len⟩

theorem FixedStringA.toFixedString_cStr (s : FixedStringA STR_LEN_MAX) :
    s.cStr.bytes = textOf s.toFixedString.dataPool := by
  show s.dataPool.takeWhile (· != 0) = s.dataPool.takeWhile (· ≠ 0)
  congr 1
  funext b
  by_cases hb : b = 0 <;> simp [hb]

/-- Where its assertion holds, `Assign` is what it is there. -/
theorem FixedStringA.toFixedString_assign (s : FixedStringA STR_LEN_MAX) (data : CStr)
    (hmax : STR_LEN_MAX < 2 ^ 32) (h : data.strlen < STR_LEN_MAX) :
    s.toFixedString.assign data.toNulStr = some (s.assign data h).toFixedString := by
  have hfit : 0 + (data.bytes ++ [0]).length ≤ STR_LEN_MAX := by
    rw [Nat.zero_add, List.length_append, List.length_singleton]
    exact h
  have hlen : toUint32 data.bytes.length = data.bytes.length := toUint32_natCast (h.trans hmax)
  have hpool : put s.dataPool 0 (data.bytes ++ [0])
      = data.bytes ++ 0 :: s.dataPool.drop (data.strlen + 1) := by
    simp [put, CStr.strlen]
  rw [FixedString.assign, FixedString.strcpy, FixedString.write, CStr.toNulStr, dif_pos hfit]
  simp only [FixedString.setLen, FixedStringA.toFixedString, FixedStringA.assign, hlen, hpool,
    CStr.strlen]

end Narrow

end SS
end FBXRenderer
