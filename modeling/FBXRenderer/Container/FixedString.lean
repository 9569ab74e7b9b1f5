import Mathlib.Data.List.TakeWhile

/-!
# FBXRenderer.Container.FixedString

C strings and `SS::FixedStringA<STR_LEN_MAX>` (`SSUtilityContainer.h`): a `char` array of
`STR_LEN_MAX` bytes with a length kept beside it.

* `CStr` is what a `const char*` argument denotes: the bytes before the first NUL. `strlen` is
  its length and `strcmp(a, b) == 0` is equality.
* `FixedStringA` keeps the whole array, so `C_Str()` reads up to the first NUL of the array and
  `GetLen()` reads the separate counter; nothing in the type says that the two agree.

The assertion of `Assign` is the proof argument of `FixedStringA.assign`: a caller has to show
that the text and its terminator fit.
-/

namespace FBXRenderer
namespace SS

/-- The bytes of a C string before its terminating NUL. -/
structure CStr where
  bytes : List UInt8
  no_nul : (0 : UInt8) ∉ bytes
deriving DecidableEq

namespace CStr

/-- `strlen`. -/
def strlen (s : CStr) : Nat := s.bytes.length

theorem ext_bytes {a b : CStr} (h : a.bytes = b.bytes) : a = b := by
  cases a; cases b; cases h; rfl

/-- The C string found at the start of a byte array. -/
def ofPool (pool : List UInt8) : CStr where
  bytes := pool.takeWhile (· != 0)
  no_nul := fun h => by
    have := List.mem_takeWhile_imp h
    simp at this

/-- Reading back a terminated text, whatever follows the terminator. -/
theorem ofPool_terminated (s : CStr) (rest : List UInt8) : ofPool (s.bytes ++ 0 :: rest) = s := by
  apply ext_bytes
  have hs : ∀ b ∈ s.bytes, (b != 0) = true := by
    intro b hb
    have : b ≠ 0 := fun h => s.no_nul (h ▸ hb)
    simpa using this
  show (s.bytes ++ 0 :: rest).takeWhile (· != 0) = s.bytes
  rw [List.takeWhile_append_of_pos hs]
  simp

end CStr

structure FixedStringA (STR_LEN_MAX : Nat) where
  dataPool : List UInt8
  pool_size : dataPool.length = STR_LEN_MAX
  len : Nat

namespace FixedStringA

variable {STR_LEN_MAX : Nat}

/-- `FixedStringA()`. The bytes after the first are left uninitialised by the source; nothing
reads them, and they are zero here. -/
def empty : FixedStringA STR_LEN_MAX where
  dataPool := List.replicate STR_LEN_MAX 0
  pool_size := List.length_replicate
  len := 0

def cStr (s : FixedStringA STR_LEN_MAX) : CStr := CStr.ofPool s.dataPool

def getLen (s : FixedStringA STR_LEN_MAX) : Nat := s.len

/-- `Assign(data)`: `strcpy` overwrites the text and its terminator and keeps the bytes behind. -/
def assign (s : FixedStringA STR_LEN_MAX) (data : CStr) (h : data.strlen < STR_LEN_MAX) :
    FixedStringA STR_LEN_MAX where
  dataPool := data.bytes ++ 0 :: s.dataPool.drop (data.strlen + 1)
  pool_size := by
    have := s.pool_size
    simp only [CStr.strlen] at h
    simp only [CStr.strlen, List.length_append, List.length_cons, List.length_drop]
    omega
  len := data.strlen

/-- `Clear()`. -/
def clear (s : FixedStringA STR_LEN_MAX) : FixedStringA STR_LEN_MAX where
  dataPool := s.dataPool.set 0 0
  pool_size := by simp [s.pool_size]
  len := 0

@[simp] theorem getLen_empty : (empty : FixedStringA STR_LEN_MAX).getLen = 0 := rfl

@[simp] theorem getLen_clear (s : FixedStringA STR_LEN_MAX) : s.clear.getLen = 0 := rfl

@[simp] theorem getLen_assign (s : FixedStringA STR_LEN_MAX) (data : CStr)
    (h : data.strlen < STR_LEN_MAX) : (s.assign data h).getLen = data.strlen := rfl

@[simp] theorem cStr_assign (s : FixedStringA STR_LEN_MAX) (data : CStr)
    (h : data.strlen < STR_LEN_MAX) : (s.assign data h).cStr = data :=
  CStr.ofPool_terminated data _

end FixedStringA

end SS
end FBXRenderer
