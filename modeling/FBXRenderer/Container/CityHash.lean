import Mathlib
import FBXRenderer.Container.FixedString
import FBXRenderer.Lib.ByteReads

/-!
# FBXRenderer.Container.CityHash

The string hashes of `CityHash.h` and `CityHash.cpp`, on a little-endian machine.
`CityHash64WithSeed` places the keys of a `StringHashMapA`, `CityHash32` the strings of the `SHashA`
pool.

A `const char*` is its distance from the start of the text, which may fall before the text; a read
is checked against the text (`Lib.ByteReads`). Lengths are `Nat`, and `sizeSub` is the subtraction
of `size_t`. A loop is given as many turns as its text has bytes. The functions under `__SSE4_2__`
are not part of the build.
-/

namespace FBXRenderer
namespace CityHash

open ByteReads

/-- `a - b` of two `size_t`. -/
def sizeSub (a b : Nat) : Nat := if b ≤ a then a - b else a + 2 ^ 64 - b

def fetch64 (p : Int) : Reader UInt64 := do
  let n ← Reader.load 8 p
  return UInt64.ofNat n

def fetch32 (p : Int) : Reader UInt32 := do
  let n ← Reader.load 4 p
  return UInt32.ofNat n

/-- `static_cast<uint8>(*p)`. -/
def fetch8 (p : Int) : Reader UInt8 := do
  let n ← Reader.load 1 p
  return UInt8.ofNat n

def bswap_32 (x : UInt32) : UInt32 :=
  let b1 : UInt32 := 0xff00
  let b2 : UInt32 := 0xff0000
  (x >>> 24) ||| ((x >>> 8) &&& b1) ||| ((x <<< 8) &&& b2) ||| (x <<< 24)

def bswap_64 (x : UInt64) : UInt64 :=
  let b1 : UInt64 := 0xff00
  let b2 : UInt64 := 0xff0000
  let b3 : UInt64 := 0xff000000
  let b4 : UInt64 := 0xff00000000
  let b5 : UInt64 := 0xff0000000000
  let b6 : UInt64 := 0xff000000000000
  (x >>> 56) ||| ((x >>> 40) &&& b1) ||| ((x >>> 24) &&& b2) ||| ((x >>> 8) &&& b3) |||
    ((x <<< 8) &&& b4) ||| ((x <<< 24) &&& b5) ||| ((x <<< 40) &&& b6) ||| (x <<< 56)

def k0 : UInt64 := 0xc3a5c85c97cb3127

def k1 : UInt64 := 0xb492b66fbe98f273

def k2 : UInt64 := 0x9ae16a3b2f90404f

def c1 : UInt32 := 0xcc9e2d51

def c2 : UInt32 := 0x1b873593

section Hash32

def fmix (h : UInt32) : UInt32 :=
  let h := h ^^^ (h >>> 16)
  let h := h * 0x85ebca6b
  let h := h ^^^ (h >>> 13)
  let h := h * 0xc2b2ae35
  h ^^^ (h >>> 16)

def rotate32 (val shift : UInt32) : UInt32 :=
  if shift = 0 then val else (val >>> shift) ||| (val <<< (32 - shift))

def mur (a h : UInt32) : UInt32 :=
  let a := a * c1
  let a := rotate32 a 17
  let a := a * c2
  let h := h ^^^ a
  let h := rotate32 h 19
  h * 5 + 0xe6546b64

def hash32Len13to24 (s : Int) (len : Nat) : Reader UInt32 := do
  let a ← fetch32 (s - 4 + (len / 2 : Nat))
  let b ← fetch32 (s + 4)
  let c ← fetch32 (s + len - 8)
  let d ← fetch32 (s + (len / 2 : Nat))
  let e ← fetch32 s
  let f ← fetch32 (s + len - 4)
  let h := UInt32.ofNat len
  return fmix (mur f (mur e (mur d (mur c (mur b (mur a h))))))

/-- The variables of the loop of `Hash32Len0to4`. -/
structure Len0to4 where
  b : UInt32
  c : UInt32
  i : Nat

/-- Loop body of `Hash32Len0to4`; `signed char` is widened with its sign. -/
def hash32Len0to4Body (s : Int) (st : Len0to4) : Reader Len0to4 := do
  let v ← fetch8 (s + st.i)
  let b := st.b * c1 + v.toInt8.toInt32.toUInt32
  return ⟨b, st.c ^^^ b, st.i + 1⟩

def hash32Len0to4 (s : Int) (len : Nat) : Reader UInt32 := do
  let st ← Reader.whileDo (hash32Len0to4Body s) (fun st => decide (st.i < len)) len ⟨0, 9, 0⟩
  return fmix (mur st.b (mur (UInt32.ofNat len) st.c))

def hash32Len5to12 (s : Int) (len : Nat) : Reader UInt32 := do
  let a := UInt32.ofNat len
  let b := a * 5
  let c : UInt32 := 9
  let d := b
  let fa ← fetch32 s
  let fb ← fetch32 (s + len - 4)
  let fc ← fetch32 (s + ((len / 2) &&& 4 : Nat))
  return fmix (mur (c + fc) (mur (b + fb) (mur (a + fa) d)))

/-- The variables of the loop of `CityHash32`. -/
structure Hash32State where
  f : UInt32
  g : UInt32
  h : UInt32
  s : Int
  iters : Nat

/-- Loop body of `CityHash32`, with `PERMUTE3(f, h, g)`, `s += 20` and `--iters`. -/
def cityHash32Body (st : Hash32State) : Reader Hash32State := do
  let s := st.s
  let a0 := rotate32 ((← fetch32 s) * c1) 17 * c2
  let a1 ← fetch32 (s + 4)
  let a2 := rotate32 ((← fetch32 (s + 8)) * c1) 17 * c2
  let a3 := rotate32 ((← fetch32 (s + 12)) * c1) 17 * c2
  let a4 ← fetch32 (s + 16)
  let h := st.h ^^^ a0
  let h := rotate32 h 18
  let h := h * 5 + 0xe6546b64
  let f := st.f + a1
  let f := rotate32 f 19
  let f := f * c1
  let g := st.g + a2
  let g := rotate32 g 18
  let g := g * 5 + 0xe6546b64
  let h := h ^^^ (a3 + a1)
  let h := rotate32 h 19
  let h := h * 5 + 0xe6546b64
  let g := g ^^^ a4
  let g := bswap_32 g * 5
  let h := h + a4 * 5
  let h := bswap_32 h
  let f := f + a0
  return ⟨g, h, f, s + 20, sizeSub st.iters 1⟩

/-- `CityHash32` of more than 24 bytes. -/
def cityHash32Long (s : Int) (len : Nat) : Reader UInt32 := do
  let h := UInt32.ofNat len
  let g := c1 * h
  let f := g
  let a0 := rotate32 ((← fetch32 (s + len - 4)) * c1) 17 * c2
  let a1 := rotate32 ((← fetch32 (s + len - 8)) * c1) 17 * c2
  let a2 := rotate32 ((← fetch32 (s + len - 16)) * c1) 17 * c2
  let a3 := rotate32 ((← fetch32 (s + len - 12)) * c1) 17 * c2
  let a4 := rotate32 ((← fetch32 (s + len - 20)) * c1) 17 * c2
  let h := h ^^^ a0
  let h := rotate32 h 19
  let h := h * 5 + 0xe6546b64
  let h := h ^^^ a2
  let h := rotate32 h 19
  let h := h * 5 + 0xe6546b64
  let g := g ^^^ a1
  let g := rotate32 g 19
  let g := g * 5 + 0xe6546b64
  let g := g ^^^ a3
  let g := rotate32 g 19
  let g := g * 5 + 0xe6546b64
  let f := f + a4
  let f := rotate32 f 19
  let f := f * 5 + 0xe6546b64
  let iters := (len - 1) / 20
  let st ← Reader.doWhile cityHash32Body (fun st => decide (st.iters ≠ 0)) len ⟨f, g, h, s, iters⟩
  let g := rotate32 st.g 11 * c1
  let g := rotate32 g 17 * c1
  let f := rotate32 st.f 11 * c1
  let f := rotate32 f 17 * c1
  let h := rotate32 (st.h + g) 19
  let h := h * 5 + 0xe6546b64
  let h := rotate32 h 17 * c1
  let h := rotate32 (h + f) 19
  let h := h * 5 + 0xe6546b64
  let h := rotate32 h 17 * c1
  return h

def cityHash32 (s : Int) (len : Nat) : Reader UInt32 :=
  if len ≤ 24 then
    if len ≤ 12 then
      if len ≤ 4 then hash32Len0to4 s len else hash32Len5to12 s len
    else hash32Len13to24 s len
  else cityHash32Long s len

end Hash32

section Hash64

def rotate (val shift : UInt64) : UInt64 :=
  if shift = 0 then val else (val >>> shift) ||| (val <<< (64 - shift))

def shiftMix (val : UInt64) : UInt64 := val ^^^ (val >>> 47)

/-- `uint128`: the low and the high half. -/
abbrev UInt128 : Type := UInt64 × UInt64

def kMul : UInt64 := 0x9ddfea08eb382d69

def hash128to64 (x : UInt128) : UInt64 :=
  let a := (x.1 ^^^ x.2) * kMul
  let a := a ^^^ (a >>> 47)
  let b := (x.2 ^^^ a) * kMul
  let b := b ^^^ (b >>> 47)
  b * kMul

def hashLen16 (u v : UInt64) : UInt64 := hash128to64 (u, v)

/-- `HashLen16` with a multiplier. -/
def hashLen16Mul (u v mul : UInt64) : UInt64 :=
  let a := (u ^^^ v) * mul
  let a := a ^^^ (a >>> 47)
  let b := (v ^^^ a) * mul
  let b := b ^^^ (b >>> 47)
  b * mul

def hashLen0to16 (s : Int) (len : Nat) : Reader UInt64 :=
  if len ≥ 8 then do
    let mul := k2 + UInt64.ofNat len * 2
    let a := (← fetch64 s) + k2
    let b ← fetch64 (s + len - 8)
    let c := rotate b 37 * mul + a
    let d := (rotate a 25 + b) * mul
    return hashLen16Mul c d mul
  else if len ≥ 4 then do
    let mul := k2 + UInt64.ofNat len * 2
    let a := (← fetch32 s).toUInt64
    let b := (← fetch32 (s + len - 4)).toUInt64
    return hashLen16Mul (UInt64.ofNat len + (a <<< 3)) b mul
  else if len > 0 then do
    let a ← fetch8 s
    let b ← fetch8 (s + (len / 2 : Nat))
    let c ← fetch8 (s + len - 1)
    let y := a.toUInt32 + (b.toUInt32 <<< 8)
    let z := UInt32.ofNat len + (c.toUInt32 <<< 2)
    return shiftMix ((y.toUInt64 * k2) ^^^ (z.toUInt64 * k0)) * k2
  else return k2

def hashLen17to32 (s : Int) (len : Nat) : Reader UInt64 := do
  let mul := k2 + UInt64.ofNat len * 2
  let a := (← fetch64 s) * k1
  let b ← fetch64 (s + 8)
  let c := (← fetch64 (s + len - 8)) * mul
  let d := (← fetch64 (s + len - 16)) * k2
  return hashLen16Mul (rotate (a + b) 43 + rotate c 30 + d) (a + rotate (b + k2) 18 + c) mul

/-- `WeakHashLen32WithSeeds` of four words. -/
def weakHashLen32 (w x y z a b : UInt64) : UInt64 × UInt64 :=
  let a := a + w
  let b := rotate (b + a + z) 21
  let c := a
  let a := a + x
  let a := a + y
  let b := b + rotate a 44
  (a + z, b + c)

def weakHashLen32WithSeeds (s : Int) (a b : UInt64) : Reader (UInt64 × UInt64) := do
  let w ← fetch64 s
  let x ← fetch64 (s + 8)
  let y ← fetch64 (s + 16)
  let z ← fetch64 (s + 24)
  return weakHashLen32 w x y z a b

def hashLen33to64 (s : Int) (len : Nat) : Reader UInt64 := do
  let mul := k2 + UInt64.ofNat len * 2
  let a := (← fetch64 s) * k2
  let b ← fetch64 (s + 8)
  let c ← fetch64 (s + len - 24)
  let d ← fetch64 (s + len - 32)
  let e := (← fetch64 (s + 16)) * k2
  let f := (← fetch64 (s + 24)) * 9
  let g ← fetch64 (s + len - 8)
  let h := (← fetch64 (s + len - 16)) * mul
  let u := rotate (a + g) 43 + (rotate b 30 + c) * 9
  let v := ((a + g) ^^^ d) + f + 1
  let w := bswap_64 ((u + v) * mul) + h
  let x := rotate (e + f) 42 + c
  let y := (bswap_64 ((v + w) * mul) + g) * mul
  let z := e + f + c
  let a := bswap_64 ((x + z) * mul + y) + b
  let b := shiftMix ((z + a) * mul + d + h) * mul
  return b + x

/-- The variables of the long loops: 56 bytes of state, and what is left of the text. -/
structure Hash64State where
  x : UInt64
  y : UInt64
  z : UInt64
  v : UInt64 × UInt64
  w : UInt64 × UInt64
  s : Int
  len : Nat

/-- The mixing of one 64-byte chunk at `s`, with `swap(z, x)` and `s += 64`. -/
def mixChunk (st : Hash64State) : Reader Hash64State := do
  let s := st.s
  let x := rotate (st.x + st.y + st.v.1 + (← fetch64 (s + 8))) 37 * k1
  let y := rotate (st.y + st.v.2 + (← fetch64 (s + 48))) 42 * k1
  let x := x ^^^ st.w.2
  let y := y + (st.v.1 + (← fetch64 (s + 40)))
  let z := rotate (st.z + st.w.1) 33 * k1
  let v ← weakHashLen32WithSeeds s (st.v.2 * k1) (x + st.w.1)
  let w ← weakHashLen32WithSeeds (s + 32) (z + st.w.2) (y + (← fetch64 (s + 16)))
  return ⟨z, y, x, v, w, s + 64, st.len⟩

/-- Loop body of `CityHash64`. -/
def cityHash64Body (st : Hash64State) : Reader Hash64State := do
  let st ← mixChunk st
  return { st with len := sizeSub st.len 64 }

/-- `CityHash64` of more than 64 bytes. Clearing the six low bits is written as two shifts. -/
def cityHash64Long (s : Int) (len : Nat) : Reader UInt64 := do
  let x ← fetch64 (s + len - 40)
  let y := (← fetch64 (s + len - 16)) + (← fetch64 (s + len - 56))
  let z := hashLen16 ((← fetch64 (s + len - 48)) + UInt64.ofNat len) (← fetch64 (s + len - 24))
  let v ← weakHashLen32WithSeeds (s + len - 64) (UInt64.ofNat len) z
  let w ← weakHashLen32WithSeeds (s + len - 32) (y + k1) x
  let x := x * k1 + (← fetch64 s)
  let st ← Reader.doWhile cityHash64Body (fun st => decide (st.len ≠ 0)) len
    ⟨x, y, z, v, w, s, (len - 1) >>> 6 <<< 6⟩
  return hashLen16 (hashLen16 st.v.1 st.w.1 + shiftMix st.y * k1 + st.z)
    (hashLen16 st.v.2 st.w.2 + st.x)

def cityHash64 (s : Int) (len : Nat) : Reader UInt64 :=
  if len ≤ 32 then
    if len ≤ 16 then hashLen0to16 s len else hashLen17to32 s len
  else if len ≤ 64 then hashLen33to64 s len
  else cityHash64Long s len

def cityHash64WithSeeds (s : Int) (len : Nat) (seed0 seed1 : UInt64) : Reader UInt64 := do
  let h ← cityHash64 s len
  return hashLen16 (h - seed0) seed1

def cityHash64WithSeed (s : Int) (len : Nat) (seed : UInt64) : Reader UInt64 :=
  cityHash64WithSeeds s len k2 seed

end Hash64

section Hash128

/-- The variables of the loop of `CityMurmur`. -/
structure MurmurState where
  a : UInt64
  b : UInt64
  c : UInt64
  d : UInt64
  s : Int
  len : Nat

/-- Loop body of `CityMurmur`. -/
def cityMurmurBody (st : MurmurState) : Reader MurmurState := do
  let a := st.a ^^^ (shiftMix ((← fetch64 st.s) * k1) * k1)
  let a := a * k1
  let b := st.b ^^^ a
  let c := st.c ^^^ (shiftMix ((← fetch64 (st.s + 8)) * k1) * k1)
  let c := c * k1
  let d := st.d ^^^ c
  return ⟨a, b, c, d, st.s + 16, sizeSub st.len 16⟩

/-- The part of `CityMurmur` that depends on the length: `a`, `b`, `c` and `d` after it. -/
def cityMurmurMix (s : Int) (len : Nat) (a b : UInt64) : Reader MurmurState :=
  if len ≤ 16 then do
    let a := shiftMix (a * k1) * k1
    let c := b * k1 + (← hashLen0to16 s len)
    let e ← if len ≥ 8 then fetch64 s else pure c
    let d := shiftMix (a + e)
    return ⟨a, b, c, d, s, len⟩
  else do
    let c := hashLen16 ((← fetch64 (s + len - 8)) + k1) a
    let d := hashLen16 (b + UInt64.ofNat len) (c + (← fetch64 (s + len - 16)))
    let a := a + d
    Reader.doWhile cityMurmurBody (fun st => decide (st.len > 16)) len ⟨a, b, c, d, s, len⟩

def cityMurmur (s : Int) (len : Nat) (seed : UInt128) : Reader UInt128 := do
  let st ← cityMurmurMix s len seed.1 seed.2
  let a := hashLen16 st.a st.c
  let b := hashLen16 st.d st.b
  return (a ^^^ b, hashLen16 b a)

/-- Loop body of `CityHash128WithSeed`: the chunk of `CityHash64`, twice. -/
def cityHash128Body (st : Hash64State) : Reader Hash64State := do
  let st ← mixChunk st
  let st ← mixChunk st
  return { st with len := sizeSub st.len 128 }

/-- The variables of the tail loop of `CityHash128WithSeed`. -/
structure TailState where
  x : UInt64
  y : UInt64
  z : UInt64
  v : UInt64 × UInt64
  w : UInt64 × UInt64
  tail_done : Nat

/-- Loop body of the tail loop: the 32 bytes before those that are done, counted from the end. -/
def tailBody (s : Int) (len : Nat) (st : TailState) : Reader TailState := do
  let tail_done := st.tail_done + 32
  let y := rotate (st.x + st.y) 42 * k0 + st.v.2
  let w1 := st.w.1 + (← fetch64 (s + len - tail_done + 16))
  let x := st.x * k0 + w1
  let z := st.z + (st.w.2 + (← fetch64 (s + len - tail_done)))
  let w2 := st.w.2 + st.v.1
  let v ← weakHashLen32WithSeeds (s + len - tail_done) (st.v.1 + z) st.v.2
  return ⟨x, y, z, (v.1 * k0, v.2), (w1, w2), tail_done⟩

/-- `CityHash128WithSeed` of at least 128 bytes. -/
def cityHash128Long (s : Int) (len : Nat) (seed : UInt128) : Reader UInt128 := do
  let x := seed.1
  let y := seed.2
  let z := UInt64.ofNat len * k1
  let v1 := rotate (y ^^^ k1) 49 * k1 + (← fetch64 s)
  let v2 := rotate v1 42 * k1 + (← fetch64 (s + 8))
  let w1 := rotate (y + z) 35 * k1 + x
  let w2 := rotate (x + (← fetch64 (s + 88))) 53 * k1
  let st ← Reader.doWhile cityHash128Body (fun st => decide (st.len ≥ 128)) len
    ⟨x, y, z, (v1, v2), (w1, w2), s, len⟩
  let x := st.x + rotate (st.v.1 + st.z) 49 * k0
  let y := st.y * k0 + rotate st.w.2 37
  let z := st.z * k0 + rotate st.w.1 27
  let w1 := st.w.1 * 9
  let v1 := st.v.1 * k0
  let t ← Reader.whileDo (tailBody st.s st.len) (fun t => decide (t.tail_done < st.len)) len
    ⟨x, y, z, (v1, st.v.2), (w1, st.w.2), 0⟩
  let x := hashLen16 t.x t.v.1
  let y := hashLen16 (t.y + t.z) t.w.1
  return (hashLen16 (x + t.v.2) t.w.2 + y, hashLen16 (x + t.w.2) (y + t.v.2))

def cityHash128WithSeed (s : Int) (len : Nat) (seed : UInt128) : Reader UInt128 :=
  if len < 128 then cityMurmur s len seed else cityHash128Long s len seed

def cityHash128 (s : Int) (len : Nat) : Reader UInt128 :=
  if len ≥ 16 then do
    let low ← fetch64 s
    let high ← fetch64 (s + 8)
    cityHash128WithSeed (s + 16) (len - 16) (low, high + k0)
  else cityHash128WithSeed s len (k0, k1)

end Hash128

end CityHash
end FBXRenderer
