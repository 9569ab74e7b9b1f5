import FBXRenderer.Container.FixedString
import FBXRenderer.Lib.Dictionary
import FBXRenderer.Lib.Probe

/-!
# FBXRenderer.Container.StringHashMap

`SS::StringHashMapA<T, STR_LEN_MAX>` (`StringHashMapA.h`): open addressing with linear probing
over at most `_collisionLimit` slots, erasure by clearing the key slot.

`CityHash64WithSeed` is a parameter, any function of the bytes and the seed. Slots are `uint64`
values reduced modulo the `uint32` capacity, so no index arithmetic wraps and `Nat` is used.
`_dataPool` comes from `malloc`; what it holds before a slot is first written is the argument
`raw` of the constructor.

The two overloads of `TryInsert` have the same body and are one definition here. `TryInsert`
leaves its loop at the first empty slot, `TryFindIndex` looks at every slot of the window; the
verdict functions below are the two loop bodies.

The `assert(false)` for an invalid key goes on in `tryInsert`: the next statement answers it with
`InvalidStrKey`, which is what a release build does. The assertions that no statement answers end
the call with `none`.
-/

namespace FBXRenderer
namespace SS

inductive FindResult where
  | success
  | resultNotFound
  | invalidStrKey
deriving DecidableEq

inductive EraseResult where
  | success
  | resultNotFound
  | invalidStrKey
deriving DecidableEq

inductive InsertResult where
  | success
  | collisionLimit
  | keyAlreadyExist
  | invalidStrKey
deriving DecidableEq

def SS_UINT32_MAX : Nat := 0xffffffff

structure StringHashMapA (T : Type) (STR_LEN_MAX : Nat) where
  strPool : Nat → FixedStringA STR_LEN_MAX
  dataPool : Nat → T
  poolCapacity : Nat
  collisionLimit : Nat
  seed : UInt64

namespace StringHashMapA

variable {T : Type} {STR_LEN_MAX : Nat}

def new (raw : Nat → T) (poolCapacity collisionLimit : Nat) (seed : UInt64) :
    StringHashMapA T STR_LEN_MAX where
  strPool := fun _ => .empty
  dataPool := raw
  poolCapacity := poolCapacity
  collisionLimit := collisionLimit
  seed := seed

/-- The slot is in use and holds the key: `GetLen() != 0 && strcmp(C_Str(), key) == 0`. -/
def Holds (m : StringHashMapA T STR_LEN_MAX) (p : Nat) (key : CStr) : Prop :=
  (m.strPool p).getLen ≠ 0 ∧ (m.strPool p).cStr = key

instance (m : StringHashMapA T STR_LEN_MAX) (p : Nat) (key : CStr) : Decidable (m.Holds p key) :=
  inferInstanceAs (Decidable (_ ∧ _))

section Ops

variable (cityHash64WithSeed : CStr → UInt64 → UInt64)

/-- `CityHash64WithSeed(hashString, hashStringLen, _seed) % _poolCapacity`. -/
def home (m : StringHashMapA T STR_LEN_MAX) (hashString : CStr) : Nat :=
  (cityHash64WithSeed hashString m.seed).toNat % m.poolCapacity

/-- Loop body of `TryInsert`: break at an empty slot, return at the key itself, else go on. -/
def insertVerdict (m : StringHashMapA T STR_LEN_MAX) (hashString : CStr) (hashValue : Nat) :
    Option (Except InsertResult Nat) :=
  if (m.strPool hashValue).getLen = 0 then some (.ok hashValue)
  else if (m.strPool hashValue).cStr = hashString then some (.error .keyAlreadyExist)
  else none

def tryInsert (m : StringHashMapA T STR_LEN_MAX) (hashString : CStr) (item : T) :
    InsertResult × StringHashMapA T STR_LEN_MAX :=
  if h : hashString.strlen = 0 ∨ STR_LEN_MAX ≤ hashString.strlen then (.invalidStrKey, m)
  else
    match Probe.probe m.poolCapacity (m.insertVerdict hashString) m.collisionLimit
        (m.home cityHash64WithSeed hashString) with
    | none => (.collisionLimit, m)
    | some (.error r) => (r, m)
    | some (.ok hashValue) =>
      (.success, { m with
        strPool := Function.update m.strPool hashValue
          ((m.strPool hashValue).assign hashString (by omega))
        dataPool := Function.update m.dataPool hashValue item })

/-- Loop body of `TryFindIndex`. -/
def findVerdict (m : StringHashMapA T STR_LEN_MAX) (hashString : CStr) (hashValue : Nat) :
    Option Nat :=
  if m.Holds hashValue hashString then some hashValue else none

/-- `outIdx` is passed in because the invalid-key branch leaves it alone. -/
def tryFindIndex (m : StringHashMapA T STR_LEN_MAX) (hashString : CStr) (outIdx : Nat) :
    FindResult × Nat :=
  if hashString.strlen = 0 ∨ STR_LEN_MAX ≤ hashString.strlen then (.invalidStrKey, outIdx)
  else
    match Probe.probe m.poolCapacity (m.findVerdict hashString) m.collisionLimit
        (m.home cityHash64WithSeed hashString) with
    | some hashValue => (.success, hashValue)
    | none => (.resultNotFound, SS_UINT32_MAX)

def tryFind (m : StringHashMapA T STR_LEN_MAX) (hashString : CStr) (outItem : T) :
    FindResult × T :=
  match m.tryFindIndex cityHash64WithSeed hashString 0 with
  | (.success, outIdx) => (.success, m.dataPool outIdx)
  | (r, _) => (r, outItem)

/-- `_strPool[outIdx].Clear()`: the data slot keeps its old value. -/
def clearSlot (m : StringHashMapA T STR_LEN_MAX) (outIdx : Nat) : StringHashMapA T STR_LEN_MAX :=
  { m with strPool := Function.update m.strPool outIdx (m.strPool outIdx).clear }

def tryErase (m : StringHashMapA T STR_LEN_MAX) (hashString : CStr) :
    EraseResult × StringHashMapA T STR_LEN_MAX :=
  match m.tryFindIndex cityHash64WithSeed hashString 0 with
  | (.invalidStrKey, _) => (.invalidStrKey, m)
  | (.resultNotFound, _) => (.resultNotFound, m)
  | (.success, outIdx) => (.success, m.clearSlot outIdx)

/-- `TryErase(hashString, outItem)`. The source means to destroy the item as well, but writes
`_dataPool[outIdx], ~T()`, which leaves it as it is. -/
def tryEraseOut (m : StringHashMapA T STR_LEN_MAX) (hashString : CStr) (outItem : T) :
    EraseResult × T × StringHashMapA T STR_LEN_MAX :=
  match m.tryFindIndex cityHash64WithSeed hashString 0 with
  | (.invalidStrKey, _) => (.invalidStrKey, outItem, m)
  | (.resultNotFound, _) => (.resultNotFound, outItem, m)
  | (.success, outIdx) => (.success, m.dataPool outIdx, m.clearSlot outIdx)

/-- A call of a client, with what it passes in. -/
inductive Call (T : Type) where
  | insert (key : CStr) (item : T)
  | erase (key : CStr)
  | eraseOut (key : CStr) (outItem : T)
  | find (key : CStr) (outItem : T)

def Call.key : Call T → CStr
  | .insert k _ | .erase k | .eraseOut k _ | .find k _ => k

def insertEvent (key : CStr) (item : T) : InsertResult → Dictionary.Event CStr T
  | .success => .inserted key item
  | .collisionLimit => .full key
  | .keyAlreadyExist => .present key
  | .invalidStrKey => .invalid key

def eraseEvent (key : CStr) : EraseResult → Dictionary.Event CStr T
  | .success => .erased key
  | .resultNotFound => .missing key
  | .invalidStrKey => .invalid key

def findEvent (key : CStr) (item : T) : FindResult → Dictionary.Event CStr T
  | .success => .found key item
  | .resultNotFound => .notFound key
  | .invalidStrKey => .invalid key

/-- One call on the map: the map after it and what the client saw. -/
def step (m : StringHashMapA T STR_LEN_MAX) :
    Call T → StringHashMapA T STR_LEN_MAX × Dictionary.Event CStr T
  | .insert k v =>
    let r := m.tryInsert cityHash64WithSeed k v
    (r.2, insertEvent k v r.1)
  | .erase k =>
    let r := m.tryErase cityHash64WithSeed k
    (r.2, eraseEvent k r.1)
  | .eraseOut k v =>
    let r := m.tryEraseOut cityHash64WithSeed k v
    (r.2.2, eraseEvent k r.1)
  | .find k v =>
    let r := m.tryFind cityHash64WithSeed k v
    (m, findEvent k r.2 r.1)

end Ops

end StringHashMapA

end SS
end FBXRenderer
