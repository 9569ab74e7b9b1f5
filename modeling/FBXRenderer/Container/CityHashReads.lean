import Mathlib
import FBXRenderer.Container.CityHash

/-!
# FBXRenderer.Container.CityHashReads

What the hashes of `CityHash.cpp` read: of a text of any length every byte, and nothing before or
behind it. The tail loop of `CityHash128WithSeed` may start before the last full chunk, but never
before the text.

Every lemma says it of a stretch of a longer text, `len` bytes from `s` on.
-/

namespace FBXRenderer
namespace CityHash

open ByteReads

/-- The position is one of the `len` from `s` on. -/
def Within (s : Int) (len : Nat) (i : Int) : Prop := s ≤ i ∧ i < s + len

variable {text : List UInt8}

section Fetch

variable {β : Type} {D : Int → Prop} {R : β → Prop} {p : Int}

theorem fetch64_bind {f : UInt64 → Reader β} (h0 : 0 ≤ p) (h : p + 8 ≤ text.length)
    (hf : ∀ a, Covers text (f a) D R) :
    Covers text (fetch64 p >>= f) (fun i => (p ≤ i ∧ i < p + 8) ∨ D i) R := by
  refine Covers.congr (Covers.bind (Covers.bind (Covers.load h0 (by omega)) fun _ _ =>
    Covers.pure trivial) fun a (_ : True) => hf a) fun i => ?_
  simp

theorem fetch32_bind {f : UInt32 → Reader β} (h0 : 0 ≤ p) (h : p + 4 ≤ text.length)
    (hf : ∀ a, Covers text (f a) D R) :
    Covers text (fetch32 p >>= f) (fun i => (p ≤ i ∧ i < p + 4) ∨ D i) R := by
  refine Covers.congr (Covers.bind (Covers.bind (Covers.load h0 (by omega)) fun _ _ =>
    Covers.pure trivial) fun a (_ : True) => hf a) fun i => ?_
  simp

theorem fetch8_bind {f : UInt8 → Reader β} (h0 : 0 ≤ p) (h : p + 1 ≤ text.length)
    (hf : ∀ a, Covers text (f a) D R) :
    Covers text (fetch8 p >>= f) (fun i => p = i ∨ D i) R := by
  refine Covers.congr (Covers.bind (Covers.bind (Covers.load h0 (by omega)) fun _ _ =>
    Covers.pure trivial) fun a (_ : True) => hf a) fun i => ?_
  simp only [or_false, Nat.cast_one, Int.lt_add_one_iff]
  rw [← le_antisymm_iff]

end Fetch

/-- Chunks of `size` bytes, one behind the other. -/
theorem chunks_iff {size : Nat} (hsize : 0 < size) (s : Int) (n : Nat) (i : Int) :
    (∃ j : Nat, j < n ∧ Within (s + size * j) size i) ↔ Within s (size * n) i := by
  unfold Within
  constructor
  · rintro ⟨j, hj, hlo, hhi⟩
    have hstart : (0 : Int) ≤ size * j := by positivity
    have hend : (size * (j + 1) : Int) ≤ size * n := by
      exact_mod_cast Nat.mul_le_mul_left size (by omega)
    push_cast
    constructor <;> linarith
  · rintro ⟨hlo, hhi⟩
    push_cast at hhi
    have hpos : (0 : Int) < size := by exact_mod_cast hsize
    have hdiv : (size : Int) * ((i - s) / size) + (i - s) % size = i - s :=
      Int.mul_ediv_add_emod _ _
    have hrem := Int.emod_nonneg (i - s) hpos.ne'
    have hlt := Int.emod_lt_of_pos (i - s) hpos
    have hq : 0 ≤ (i - s) / size := Int.ediv_nonneg (by omega) hpos.le
    have hn : (i - s) / size < n := Int.ediv_lt_of_lt_mul hpos (by linarith)
    refine ⟨((i - s) / size).toNat, by omega, ?_⟩
    rw [Int.toNat_of_nonneg hq]
    constructor <;> linarith

section Hash32

theorem hash32Len13to24_covers {s : Int} {len : Nat} (h0 : 0 ≤ s) (h : s + len ≤ text.length)
    (hlo : 12 < len) (hhi : len ≤ 24) :
    Covers text (hash32Len13to24 s len) (Within s len) fun _ => True := by
  refine Covers.congr
    (fetch32_bind (by omega) (by omega) fun _ =>
      fetch32_bind (by omega) (by omega) fun _ =>
      fetch32_bind (by omega) (by omega) fun _ =>
      fetch32_bind (by omega) (by omega) fun _ =>
      fetch32_bind (by omega) (by omega) fun _ =>
      fetch32_bind (by omega) (by omega) fun _ => Covers.pure trivial) fun i => ?_
  simp only [Within, or_false]
  omega

theorem hash32Len0to4_covers {s : Int} {len : Nat} (h0 : 0 ≤ s) (h : s + len ≤ text.length) :
    Covers text (hash32Len0to4 s len) (Within s len) fun _ => True := by
  have hbody : ∀ k (st : Len0to4), k < len → st.i = k →
      Covers text (hash32Len0to4Body s st) (fun i => s + k = i ∨ False) fun st => st.i = k + 1 := by
    intro k st hk hi
    subst hi
    exact fetch8_bind (by omega) (by omega) fun _ => Covers.pure rfl
  have hagain : ∀ k (st : Len0to4), k ≤ len → st.i = k →
      (decide (st.i < len) = true ↔ k < len) := by
    intro k st _ hi
    simp [hi]
  have hloop := Covers.whileDo (n := len) hbody hagain le_rfl (s := ⟨0, 9, 0⟩) rfl
  refine Covers.congr (Covers.bind hloop fun _ _ => Covers.pure trivial) fun i => ?_
  simp only [Within, or_false]
  constructor
  · rintro ⟨j, hj, rfl⟩
    omega
  · rintro ⟨hlo, hhi⟩
    exact ⟨(i - s).toNat, by omega, by omega⟩

theorem hash32Len5to12_covers {s : Int} {len : Nat} (h0 : 0 ≤ s) (h : s + len ≤ text.length)
    (hlo : 4 < len) (hhi : len ≤ 12) :
    Covers text (hash32Len5to12 s len) (Within s len) fun _ => True := by
  have hmiddle : (len / 2) &&& 4 = if 8 ≤ len then 4 else 0 := by
    interval_cases len <;> rfl
  have hle : (len / 2) &&& 4 ≤ len - 4 := by rw [hmiddle]; split <;> omega
  refine Covers.congr
    (fetch32_bind (by omega) (by omega) fun _ =>
      fetch32_bind (by omega) (by omega) fun _ =>
      fetch32_bind (by omega) (by omega) fun _ => Covers.pure trivial) fun i => ?_
  simp only [Within, or_false, hmiddle]
  split <;> omega

theorem cityHash32Body_covers {st : Hash32State} (h0 : 0 ≤ st.s) (h : st.s + 20 ≤ text.length) :
    Covers text (cityHash32Body st) (Within st.s 20)
      fun st' => st'.s = st.s + 20 ∧ st'.iters = sizeSub st.iters 1 := by
  refine Covers.congr
    (fetch32_bind (by omega) (by omega) fun _ =>
      fetch32_bind (by omega) (by omega) fun _ =>
      fetch32_bind (by omega) (by omega) fun _ =>
      fetch32_bind (by omega) (by omega) fun _ =>
      fetch32_bind (by omega) (by omega) fun _ => Covers.pure ⟨rfl, rfl⟩) fun i => ?_
  simp only [Within, or_false]
  omega

theorem cityHash32Long_covers {s : Int} {len : Nat} (h0 : 0 ≤ s) (h : s + len ≤ text.length)
    (hlo : 24 < len) : Covers text (cityHash32Long s len) (Within s len) fun _ => True := by
  -- after `k` turns the pointer is `20 * k` further and `iters` has `k` turns less
  have hbody : ∀ k (st : Hash32State), k < (len - 1) / 20 →
      st.s = s + (20 : Nat) * k ∧ st.iters = (len - 1) / 20 - k →
      Covers text (cityHash32Body st) (Within (s + (20 : Nat) * k) 20) fun st =>
        st.s = s + (20 : Nat) * (k + 1 : Nat) ∧ st.iters = (len - 1) / 20 - (k + 1) := by
    rintro k st hk ⟨hs, hiters⟩
    rw [← hs]
    obtain ⟨st', ws, hst', hws, hnext, hleft⟩ :=
      @cityHash32Body_covers text st (by omega) (by omega)
    refine ⟨st', ws, hst', hws, by omega, ?_⟩
    rw [hleft, sizeSub, if_pos (by omega)]
    omega
  have hagain : ∀ k (st : Hash32State), k < (len - 1) / 20 →
      st.s = s + (20 : Nat) * (k + 1 : Nat) ∧ st.iters = (len - 1) / 20 - (k + 1) →
      (decide (st.iters ≠ 0) = true ↔ k + 1 < (len - 1) / 20) := by
    rintro k st hk ⟨-, hiters⟩
    rw [decide_eq_true_iff, hiters]
    omega
  refine Covers.congr
    (fetch32_bind (by omega) (by omega) fun _ =>
      fetch32_bind (by omega) (by omega) fun _ =>
      fetch32_bind (by omega) (by omega) fun _ =>
      fetch32_bind (by omega) (by omega) fun _ =>
      fetch32_bind (by omega) (by omega) fun _ =>
      Covers.bind (Covers.doWhile hbody hagain len 0 _ (by omega) (by omega)
        ⟨by simp, by simp⟩) fun _ _ => Covers.pure trivial) fun i => ?_
  simp only [or_false, Nat.zero_le, true_and, chunks_iff (by omega : 0 < 20)]
  simp only [Within]
  omega

theorem cityHash32_covers {s : Int} {len : Nat} (h0 : 0 ≤ s) (h : s + len ≤ text.length) :
    Covers text (cityHash32 s len) (Within s len) fun _ => True := by
  unfold cityHash32
  split
  · split
    · split
      · exact hash32Len0to4_covers h0 h
      · exact hash32Len5to12_covers h0 h (by omega) (by omega)
    · exact hash32Len13to24_covers h0 h (by omega) (by omega)
  · exact cityHash32Long_covers h0 h (by omega)

end Hash32

section Hash64

theorem hashLen0to16_covers {s : Int} {len : Nat} (h0 : 0 ≤ s) (h : s + len ≤ text.length)
    (hhi : len ≤ 16) : Covers text (hashLen0to16 s len) (Within s len) fun _ => True := by
  unfold hashLen0to16
  split
  · refine Covers.congr
      (fetch64_bind (by omega) (by omega) fun _ =>
        fetch64_bind (by omega) (by omega) fun _ => Covers.pure trivial) fun i => ?_
    simp only [Within, or_false]
    omega
  · split
    · refine Covers.congr
        (fetch32_bind (by omega) (by omega) fun _ =>
          fetch32_bind (by omega) (by omega) fun _ => Covers.pure trivial) fun i => ?_
      simp only [Within, or_false]
      omega
    · split
      · refine Covers.congr
          (fetch8_bind (by omega) (by omega) fun _ =>
            fetch8_bind (by omega) (by omega) fun _ =>
            fetch8_bind (by omega) (by omega) fun _ => Covers.pure trivial) fun i => ?_
        simp only [Within, or_false]
        omega
      · refine Covers.congr (Covers.pure trivial) fun i => ?_
        simp only [Within, false_iff]
        omega

theorem hashLen17to32_covers {s : Int} {len : Nat} (h0 : 0 ≤ s) (h : s + len ≤ text.length)
    (hlo : 16 < len) (hhi : len ≤ 32) :
    Covers text (hashLen17to32 s len) (Within s len) fun _ => True := by
  refine Covers.congr
    (fetch64_bind (by omega) (by omega) fun _ =>
      fetch64_bind (by omega) (by omega) fun _ =>
      fetch64_bind (by omega) (by omega) fun _ =>
      fetch64_bind (by omega) (by omega) fun _ => Covers.pure trivial) fun i => ?_
  simp only [Within, or_false]
  omega

theorem hashLen33to64_covers {s : Int} {len : Nat} (h0 : 0 ≤ s) (h : s + len ≤ text.length)
    (hlo : 32 < len) (hhi : len ≤ 64) :
    Covers text (hashLen33to64 s len) (Within s len) fun _ => True := by
  refine Covers.congr
    (fetch64_bind (by omega) (by omega) fun _ =>
      fetch64_bind (by omega) (by omega) fun _ =>
      fetch64_bind (by omega) (by omega) fun _ =>
      fetch64_bind (by omega) (by omega) fun _ =>
      fetch64_bind (by omega) (by omega) fun _ =>
      fetch64_bind (by omega) (by omega) fun _ =>
      fetch64_bind (by omega) (by omega) fun _ =>
      fetch64_bind (by omega) (by omega) fun _ => Covers.pure trivial) fun i => ?_
  simp only [Within, or_false]
  omega

theorem weakHashLen32WithSeeds_covers {s : Int} (h0 : 0 ≤ s) (h : s + 32 ≤ text.length)
    (a b : UInt64) :
    Covers text (weakHashLen32WithSeeds s a b) (Within s 32) fun _ => True := by
  refine Covers.congr
    (fetch64_bind (by omega) (by omega) fun _ =>
      fetch64_bind (by omega) (by omega) fun _ =>
      fetch64_bind (by omega) (by omega) fun _ =>
      fetch64_bind (by omega) (by omega) fun _ => Covers.pure trivial) fun i => ?_
  simp only [Within, or_false]
  omega

theorem mixChunk_covers {st : Hash64State} (h0 : 0 ≤ st.s) (h : st.s + 64 ≤ text.length) :
    Covers text (mixChunk st) (Within st.s 64)
      fun st' => st'.s = st.s + 64 ∧ st'.len = st.len := by
  refine Covers.congr
    (fetch64_bind (by omega) (by omega) fun _ =>
      fetch64_bind (by omega) (by omega) fun _ =>
      fetch64_bind (by omega) (by omega) fun _ =>
      Covers.bind (weakHashLen32WithSeeds_covers (by omega) (by omega) _ _) fun _ _ =>
      fetch64_bind (by omega) (by omega) fun _ =>
      Covers.bind (weakHashLen32WithSeeds_covers (by omega) (by omega) _ _) fun _ _ =>
      Covers.pure ⟨rfl, rfl⟩) fun i => ?_
  simp only [Within, or_false]
  omega

/-- The length that the loop of `CityHash64` starts with. -/
theorem chunkedLen_eq (len : Nat) : (len - 1) >>> 6 <<< 6 = 64 * ((len - 1) / 64) := by
  rw [Nat.shiftRight_eq_div_pow, Nat.shiftLeft_eq]
  omega

theorem cityHash64Long_covers {s : Int} {len : Nat} (h0 : 0 ≤ s) (h : s + len ≤ text.length)
    (hlo : 64 < len) : Covers text (cityHash64Long s len) (Within s len) fun _ => True := by
  -- after `k` chunks the pointer is `64 * k` further and `len` has `64 * k` less
  have hbody : ∀ k (st : Hash64State), k < (len - 1) / 64 →
      st.s = s + (64 : Nat) * k ∧ st.len = 64 * ((len - 1) / 64) - 64 * k →
      Covers text (cityHash64Body st) (fun i => Within (s + (64 : Nat) * k) 64 i ∨ False)
        fun st => st.s = s + (64 : Nat) * (k + 1 : Nat) ∧
          st.len = 64 * ((len - 1) / 64) - 64 * (k + 1) := by
    rintro k st hk ⟨hs, hlen⟩
    rw [← hs]
    refine Covers.bind (mixChunk_covers (by omega) (by omega)) fun st' hst' => Covers.pure ?_
    obtain ⟨hs', hlen'⟩ := hst'
    refine ⟨by show st'.s = _; omega, ?_⟩
    show sizeSub st'.len 64 = _
    rw [sizeSub, if_pos (by omega)]
    omega
  have hagain : ∀ k (st : Hash64State), k < (len - 1) / 64 →
      st.s = s + (64 : Nat) * (k + 1 : Nat) ∧ st.len = 64 * ((len - 1) / 64) - 64 * (k + 1) →
      (decide (st.len ≠ 0) = true ↔ k + 1 < (len - 1) / 64) := by
    rintro k st hk ⟨-, hlen⟩
    rw [decide_eq_true_iff, hlen]
    omega
  refine Covers.congr
    (fetch64_bind (by omega) (by omega) fun _ =>
      fetch64_bind (by omega) (by omega) fun _ =>
      fetch64_bind (by omega) (by omega) fun _ =>
      fetch64_bind (by omega) (by omega) fun _ =>
      fetch64_bind (by omega) (by omega) fun _ =>
      Covers.bind (weakHashLen32WithSeeds_covers (by omega) (by omega) _ _) fun _ _ =>
      Covers.bind (weakHashLen32WithSeeds_covers (by omega) (by omega) _ _) fun _ _ =>
      fetch64_bind (by omega) (by omega) fun _ =>
      Covers.bind (Covers.doWhile hbody hagain len 0 _ (by omega) (by omega)
        ⟨by simp, by simp [chunkedLen_eq]⟩) fun _ _ => Covers.pure trivial) fun i => ?_
  simp only [or_false, Nat.zero_le, true_and, chunks_iff (by omega : 0 < 64)]
  simp only [Within]
  omega

theorem cityHash64_covers {s : Int} {len : Nat} (h0 : 0 ≤ s) (h : s + len ≤ text.length) :
    Covers text (cityHash64 s len) (Within s len) fun _ => True := by
  unfold cityHash64
  split
  · split
    · exact hashLen0to16_covers h0 h (by omega)
    · exact hashLen17to32_covers h0 h (by omega) (by omega)
  · split
    · exact hashLen33to64_covers h0 h (by omega) (by omega)
    · exact cityHash64Long_covers h0 h (by omega)

theorem cityHash64WithSeeds_covers {s : Int} {len : Nat} (h0 : 0 ≤ s)
    (h : s + len ≤ text.length) (seed0 seed1 : UInt64) :
    Covers text (cityHash64WithSeeds s len seed0 seed1) (Within s len) fun _ => True :=
  Covers.congr (Covers.bind (cityHash64_covers h0 h) fun _ _ => Covers.pure trivial)
    fun i => by simp

end Hash64

section Hash128

theorem cityMurmurBody_covers {st : MurmurState} (h0 : 0 ≤ st.s) (h : st.s + 16 ≤ text.length) :
    Covers text (cityMurmurBody st) (Within st.s 16)
      fun st' => st'.s = st.s + 16 ∧ st'.len = sizeSub st.len 16 := by
  refine Covers.congr
    (fetch64_bind (by omega) (by omega) fun _ =>
      fetch64_bind (by omega) (by omega) fun _ => Covers.pure ⟨rfl, rfl⟩) fun i => ?_
  simp only [Within, or_false]
  omega

theorem cityMurmurMix_covers {s : Int} {len : Nat} (h0 : 0 ≤ s) (h : s + len ≤ text.length)
    (a b : UInt64) : Covers text (cityMurmurMix s len a b) (Within s len) fun _ => True := by
  unfold cityMurmurMix
  split
  · by_cases h8 : len ≥ 8
    · simp only [if_pos h8]
      refine Covers.congr
        (Covers.bind (hashLen0to16_covers h0 h (by omega)) fun _ _ =>
          fetch64_bind h0 (by omega) fun _ => Covers.pure trivial) fun i => ?_
      simp only [Within, or_false]
      omega
    · simp only [if_neg h8]
      refine Covers.congr
        (Covers.bind (hashLen0to16_covers h0 h (by omega)) fun _ _ =>
          Covers.bind (Covers.pure trivial) fun _ (_ : True) => Covers.pure trivial) fun i => ?_
      simp only [or_false]
  · -- the loop leaves between 1 and 16 bytes, which were read before it
    have hbody : ∀ k (st : MurmurState), k < (len - 1) / 16 →
        st.s = s + (16 : Nat) * k ∧ st.len = len - 16 * k →
        Covers text (cityMurmurBody st) (Within (s + (16 : Nat) * k) 16) fun st =>
          st.s = s + (16 : Nat) * (k + 1 : Nat) ∧ st.len = len - 16 * (k + 1) := by
      rintro k st hk ⟨hs, hlen⟩
      rw [← hs]
      obtain ⟨st', ws, hst', hws, hnext, hleft⟩ :=
        @cityMurmurBody_covers text st (by omega) (by omega)
      refine ⟨st', ws, hst', hws, by omega, ?_⟩
      rw [hleft, sizeSub, if_pos (by omega)]
      omega
    have hagain : ∀ k (st : MurmurState), k < (len - 1) / 16 →
        st.s = s + (16 : Nat) * (k + 1 : Nat) ∧ st.len = len - 16 * (k + 1) →
        (decide (st.len > 16) = true ↔ k + 1 < (len - 1) / 16) := by
      rintro k st hk ⟨-, hlen⟩
      rw [decide_eq_true_iff, hlen]
      omega
    refine Covers.congr
      (fetch64_bind (by omega) (by omega) fun _ =>
        fetch64_bind (by omega) (by omega) fun _ =>
        Covers.mono (Covers.doWhile hbody hagain len 0 _ (by omega) (by omega)
          ⟨by simp, by simp⟩) fun _ _ => trivial) fun i => ?_
    simp only [Nat.zero_le, true_and, chunks_iff (by omega : 0 < 16)]
    simp only [Within]
    omega

theorem cityMurmur_covers {s : Int} {len : Nat} (h0 : 0 ≤ s) (h : s + len ≤ text.length)
    (seed : UInt128) : Covers text (cityMurmur s len seed) (Within s len) fun _ => True :=
  Covers.congr (Covers.bind (cityMurmurMix_covers h0 h _ _) fun _ _ => Covers.pure trivial)
    fun i => by simp

theorem tailBody_covers {s : Int} {len : Nat} {st : TailState}
    (h0 : 0 ≤ s + len - (st.tail_done + 32 : Nat))
    (h : s + len - st.tail_done ≤ text.length) :
    Covers text (tailBody s len st) (Within (s + len - (st.tail_done + 32 : Nat)) 32)
      fun st' => st'.tail_done = st.tail_done + 32 := by
  refine Covers.congr
    (fetch64_bind (by omega) (by omega) fun _ =>
      fetch64_bind (by omega) (by omega) fun _ =>
      Covers.bind (weakHashLen32WithSeeds_covers (by omega) (by omega) _ _) fun _ _ =>
      Covers.pure rfl) fun i => ?_
  simp only [Within, or_false]
  omega

/-- The tail loop, chunk by chunk from the end, at most 31 bytes further than it needs. -/
theorem tail_covers {s : Int} {len : Nat} (hback : 32 ≤ s) (h : s + len ≤ text.length)
    {s' : Int} {len' : Nat} (hs : s' = s) (hlen : len' = len) {fuel : Nat} (hfuel : len ≤ fuel)
    {st : TailState} (hst : st.tail_done = 0) :
    Covers text (Reader.whileDo (tailBody s' len') (fun t => decide (t.tail_done < len')) fuel st)
      (Within (s + len - (32 * ((len + 31) / 32) : Nat)) (32 * ((len + 31) / 32)))
      fun _ => True := by
  subst hs hlen
  have hbody : ∀ k (st : TailState), k < (len' + 31) / 32 → st.tail_done = 32 * k →
      Covers text (tailBody s' len' st) (Within (s' + len' - (32 * k + 32 : Nat)) 32)
        fun st => st.tail_done = 32 * (k + 1) := by
    intro k st hk hdone
    rw [← hdone]
    obtain ⟨st', ws, hst', hws, hnext⟩ :=
      @tailBody_covers text s' len' st (by omega) (by omega)
    exact ⟨st', ws, hst', hws, by omega⟩
  have hagain : ∀ k (t : TailState), k ≤ (len' + 31) / 32 → t.tail_done = 32 * k →
      (decide (t.tail_done < len') = true ↔ k < (len' + 31) / 32) := by
    intro k t hk hdone
    rw [decide_eq_true_iff, hdone]
    omega
  have hturns : (len' + 31) / 32 ≤ fuel := by omega
  have hloop := Covers.whileDo hbody hagain hturns (s := st) (by rw [hst])
  refine (hloop.mono fun _ _ => trivial).congr fun i => ?_
  rw [← chunks_iff (by omega)]
  -- chunk `j` from the end is chunk `n - 1 - j` from the start
  constructor
  · rintro ⟨j, hj, hi⟩
    refine ⟨(len' + 31) / 32 - 1 - j, by omega, ?_⟩
    simp only [Within] at hi ⊢
    omega
  · rintro ⟨j, hj, hi⟩
    refine ⟨(len' + 31) / 32 - 1 - j, by omega, ?_⟩
    simp only [Within] at hi ⊢
    omega

theorem cityHash128Body_covers {st : Hash64State} (h0 : 0 ≤ st.s)
    (h : st.s + 128 ≤ text.length) :
    Covers text (cityHash128Body st) (Within st.s 128)
      fun st' => st'.s = st.s + 128 ∧ st'.len = sizeSub st.len 128 := by
  have hsecond : ∀ st' : Hash64State, st'.s = st.s + 64 ∧ st'.len = st.len →
      Covers text (mixChunk st') (Within (st.s + 64) 64)
        fun st'' => st''.s = st.s + 128 ∧ st''.len = st.len := by
    rintro st' ⟨hs, hlen⟩
    rw [← hs, ← hlen]
    exact (mixChunk_covers (by omega) (by omega)).mono fun st'' hst => ⟨by omega, hst.2⟩
  refine Covers.congr
    (Covers.bind (mixChunk_covers h0 (by omega)) fun st' hst' =>
      Covers.bind (hsecond st' hst') fun st'' hst'' =>
      Covers.pure ⟨hst''.1, by rw [hst''.2]⟩) fun i => ?_
  simp only [Within, or_false]
  omega

theorem cityHash128Long_covers {s : Int} {len : Nat} (h0 : 0 ≤ s) (h : s + len ≤ text.length)
    (hlo : 128 ≤ len) (seed : UInt128) :
    Covers text (cityHash128Long s len seed) (Within s len) fun _ => True := by
  have hbody : ∀ k (st : Hash64State), k < len / 128 →
      st.s = s + (128 : Nat) * k ∧ st.len = len - 128 * k →
      Covers text (cityHash128Body st) (Within (s + (128 : Nat) * k) 128) fun st =>
        st.s = s + (128 : Nat) * (k + 1 : Nat) ∧ st.len = len - 128 * (k + 1) := by
    rintro k st hk ⟨hs, hlen⟩
    rw [← hs]
    obtain ⟨st', ws, hst', hws, hnext, hleft⟩ :=
      @cityHash128Body_covers text st (by omega) (by omega)
    refine ⟨st', ws, hst', hws, by omega, ?_⟩
    rw [hleft, sizeSub, if_pos (by omega)]
    omega
  have hagain : ∀ k (st : Hash64State), k < len / 128 →
      st.s = s + (128 : Nat) * (k + 1 : Nat) ∧ st.len = len - 128 * (k + 1) →
      (decide (st.len ≥ 128) = true ↔ k + 1 < len / 128) := by
    rintro k st hk ⟨-, hlen⟩
    rw [decide_eq_true_iff, hlen]
    omega
  refine Covers.congr
    (fetch64_bind (by omega) (by omega) fun _ =>
      fetch64_bind (by omega) (by omega) fun _ =>
      fetch64_bind (by omega) (by omega) fun _ =>
      Covers.bind (Covers.doWhile hbody hagain len 0 _ (by omega) (by omega)
        ⟨by simp, by simp⟩) fun st hst =>
      Covers.bind (tail_covers (by omega) (by omega) hst.1 hst.2 (by omega) rfl) fun _ _ =>
      Covers.pure trivial) fun i => ?_
  simp only [or_false, Nat.zero_le, true_and, chunks_iff (by omega : 0 < 128)]
  simp only [Within]
  omega

theorem cityHash128WithSeed_covers {s : Int} {len : Nat} (h0 : 0 ≤ s)
    (h : s + len ≤ text.length) (seed : UInt128) :
    Covers text (cityHash128WithSeed s len seed) (Within s len) fun _ => True := by
  unfold cityHash128WithSeed
  split
  · exact cityMurmur_covers h0 h seed
  · exact cityHash128Long_covers h0 h (by omega) seed

theorem cityHash128_covers {s : Int} {len : Nat} (h0 : 0 ≤ s) (h : s + len ≤ text.length) :
    Covers text (cityHash128 s len) (Within s len) fun _ => True := by
  unfold cityHash128
  split
  · refine Covers.congr
      (fetch64_bind (by omega) (by omega) fun _ =>
        fetch64_bind (by omega) (by omega) fun _ =>
        cityHash128WithSeed_covers (by omega) (by omega) _) fun i => ?_
    simp only [Within]
    omega
  · exact cityHash128WithSeed_covers h0 h _

end Hash128

section Exactly

/-- The computation comes to its end and looks at every byte of the text and at nothing else. -/
def ReadsExactly {α : Type} (text : List UInt8) (m : Reader α) : Prop :=
  ∃ hash windows, m text = some (hash, windows) ∧
    ∀ i : Int, (∃ w ∈ windows, w.Has i) ↔ 0 ≤ i ∧ i < text.length

theorem Covers.readsExactly {α : Type} {m : Reader α}
    (h : Covers text m (Within 0 text.length) fun _ => True) : ReadsExactly text m := by
  obtain ⟨hash, windows, hrun, hcover, -⟩ := h
  refine ⟨hash, windows, hrun, fun i => ?_⟩
  rw [hcover i, Within, zero_add]

/-- The hashes of keys and of interned strings read their whole text, and nothing outside it. -/
theorem string_hashes_read_exactly (text : List UInt8) (seed : UInt64) :
    ReadsExactly text (cityHash64WithSeed 0 text.length seed) ∧
      ReadsExactly text (cityHash32 0 text.length) :=
  ⟨Covers.readsExactly (cityHash64WithSeeds_covers le_rfl (by omega) k2 seed),
    Covers.readsExactly (cityHash32_covers le_rfl (by omega))⟩

/-- So do the 128-bit hashes, whose tail loop steps back over bytes that were read before. -/
theorem wide_hashes_read_exactly (text : List UInt8) (seed : UInt128) :
    ReadsExactly text (cityHash128WithSeed 0 text.length seed) ∧
      ReadsExactly text (cityHash128 0 text.length) :=
  ⟨Covers.readsExactly (cityHash128WithSeed_covers le_rfl (by omega) seed),
    Covers.readsExactly (cityHash128_covers le_rfl (by omega))⟩

end Exactly

end CityHash
end FBXRenderer
