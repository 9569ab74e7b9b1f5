import Mathlib
import FBXRenderer.Container.CityHashReads
import FBXRenderer.Container.SHasher
import FBXRenderer.Container.StringHashMapRuns
import FBXRenderer.NativeKeywords

/-!
# FBXRenderer.Container.CityHashSeed

What the seed of `CityHash64WithSeed` does, and what that means for a `StringHashMapA` that is
rebuilt under another seed.

`HashLen16` can be undone in its first argument (`unhashLen16`): a xor with its own high bits
undoes itself, and the multiplier is odd. So two texts that `CityHash64` cannot tell apart share a
home slot under every seed, and no other texts do so under all of them. `shared_hash_run` draws the
consequence for the map: however often it is rebuilt, it never holds more keys of one hash than its
collision limit, and a rebuild into a smaller limit fails.
-/

namespace FBXRenderer
namespace CityHash

open ByteReads

section Invert

theorem shiftMix_shiftMix (v : UInt64) : shiftMix (shiftMix v) = v := by
  apply UInt64.eq_of_toBitVec_eq
  apply BitVec.eq_of_getLsbD_eq
  intro i hi
  have hhigh : v.toBitVec.getLsbD (47 + (47 + i)) = false :=
    BitVec.getLsbD_of_ge _ _ (by omega)
  simp [shiftMix, hhigh]

/-- The inverse of `kMul` modulo `2 ^ 64`. -/
def kMulInverse : UInt64 := 15877131476434367193

theorem mul_kMul_inverse (x : UInt64) : x * kMul * kMulInverse = x := by
  rw [UInt64.mul_assoc, show kMul * kMulInverse = 1 from rfl, UInt64.mul_one]

theorem mul_inverse_kMul (x : UInt64) : x * kMulInverse * kMul = x := by
  rw [UInt64.mul_assoc, show kMulInverse * kMul = 1 from rfl, UInt64.mul_one]

theorem hashLen16_eq (u v : UInt64) :
    hashLen16 u v = shiftMix ((v ^^^ shiftMix ((u ^^^ v) * kMul)) * kMul) * kMul := rfl

/-- `HashLen16` undone in its first argument. -/
def unhashLen16 (h v : UInt64) : UInt64 :=
  (shiftMix ((shiftMix (h * kMulInverse)) * kMulInverse ^^^ v) * kMulInverse) ^^^ v

theorem unhashLen16_hashLen16 (u v : UInt64) : unhashLen16 (hashLen16 u v) v = u := by
  rw [hashLen16_eq, unhashLen16, mul_kMul_inverse, shiftMix_shiftMix, mul_kMul_inverse,
    UInt64.xor_comm v, UInt64.xor_assoc, UInt64.xor_self, UInt64.xor_zero, shiftMix_shiftMix,
    mul_kMul_inverse, UInt64.xor_assoc, UInt64.xor_self, UInt64.xor_zero]

theorem hashLen16_unhashLen16 (h v : UInt64) : hashLen16 (unhashLen16 h v) v = h := by
  rw [hashLen16_eq, unhashLen16, UInt64.xor_assoc, UInt64.xor_self, UInt64.xor_zero,
    mul_inverse_kMul, shiftMix_shiftMix, UInt64.xor_comm _ v, ← UInt64.xor_assoc,
    UInt64.xor_self, UInt64.zero_xor, mul_inverse_kMul, shiftMix_shiftMix, mul_inverse_kMul]

theorem hashLen16_inj {u u' v : UInt64} : hashLen16 u v = hashLen16 u' v ↔ u = u' := by
  constructor
  · intro h
    rw [← unhashLen16_hashLen16 u v, h, unhashLen16_hashLen16]
  · rintro rfl
    rfl

end Invert

section Values

/-- The value of a hash that comes to its end. -/
def hashValue (text : List UInt8) (m : Reader UInt64) (h : ReadsExactly text m) : UInt64 :=
  ((m text).get (by obtain ⟨hash, windows, hrun, -⟩ := h; rw [hrun]; rfl)).1

/-- `CityHash64` of a whole text. -/
def hash64 (text : List UInt8) : UInt64 :=
  hashValue text (cityHash64 0 text.length)
    (Covers.readsExactly (cityHash64_covers le_rfl (by omega)))

/-- `CityHash64WithSeeds` of a whole text. -/
def hash64WithSeeds (text : List UInt8) (seed0 seed1 : UInt64) : UInt64 :=
  hashValue text (cityHash64WithSeeds 0 text.length seed0 seed1)
    (Covers.readsExactly (cityHash64WithSeeds_covers le_rfl (by omega) seed0 seed1))

/-- The call of `StringHashMapA`: `CityHash64WithSeed(key, strlen(key), seed)`. -/
def keyHash (key : SS.CStr) (seed : UInt64) : UInt64 := hash64WithSeeds key.bytes k2 seed

theorem hash64WithSeeds_eq (text : List UInt8) (seed0 seed1 : UInt64) :
    hash64WithSeeds text seed0 seed1 = hashLen16 (hash64 text - seed0) seed1 := by
  obtain ⟨hash, windows, hrun, -⟩ := Covers.readsExactly
    (@cityHash64_covers text 0 text.length le_rfl (by omega))
  have hseeds : cityHash64WithSeeds 0 text.length seed0 seed1 text =
      some (hashLen16 (hash - seed0) seed1, windows ++ []) := by
    show Reader.bind (cityHash64 0 text.length)
      (fun h => Reader.pure (hashLen16 (h - seed0) seed1)) text = _
    simp [Reader.bind, hrun, Reader.pure]
  simp only [hash64WithSeeds, hash64, hashValue, hseeds, hrun, Option.get_some]

theorem sub_right_inj_iff {a b c : UInt64} : a - c = b - c ↔ a = b := by
  constructor
  · intro h
    rw [← UInt64.sub_add_cancel a c, h, UInt64.sub_add_cancel]
  · rintro rfl
    rfl

theorem sub_sub_cancel_self (a b : UInt64) : a - (a - b) = b := by
  rw [UInt64.sub_eq_add_neg, UInt64.neg_sub, UInt64.add_comm, UInt64.sub_add_cancel]

/-- Under every pair of seeds the texts that collide are those that collide under `CityHash64`,
and for a fixed text and second seed the first seed reaches every value once. -/
theorem seeds_keep_collisions (text text' : List UInt8) (seed1 : UInt64) :
    (∀ seed0, hash64WithSeeds text seed0 seed1 = hash64WithSeeds text' seed0 seed1 ↔
        hash64 text = hash64 text') ∧
      Function.Bijective fun seed0 => hash64WithSeeds text seed0 seed1 := by
  refine ⟨fun seed0 => ?_, fun seed0 seed0' h => ?_, fun value => ?_⟩
  · rw [hash64WithSeeds_eq, hash64WithSeeds_eq, hashLen16_inj, sub_right_inj_iff]
  · simp only [hash64WithSeeds_eq, hashLen16_inj] at h
    rw [← sub_sub_cancel_self (hash64 text) seed0, h, sub_sub_cancel_self]
  · refine ⟨hash64 text - unhashLen16 value seed1, ?_⟩
    show hash64WithSeeds text _ seed1 = value
    rw [hash64WithSeeds_eq, sub_sub_cancel_self, hashLen16_unhashLen16]

end Values

end CityHash

namespace SS
namespace StringHashMapA

open CityHash

variable {T : Type} {STR_LEN_MAX : Nat}

/-- Keys of one `CityHash64` have the same home, whatever the seed of the map. -/
theorem home_eq_of_hash64 (m : StringHashMapA T STR_LEN_MAX) {k k' : CStr}
    (h : hash64 k.bytes = hash64 k'.bytes) : m.home keyHash k = m.home keyHash k' := by
  have hseed : keyHash k m.seed = keyHash k' m.seed := by
    rw [keyHash, keyHash, hash64WithSeeds_eq, hash64WithSeeds_eq, h]
  rw [home, home, hseed]

/-- Some slot holds the key. -/
def Stores (m : StringHashMapA T STR_LEN_MAX) (k : CStr) : Prop :=
  ∃ p, p < m.poolCapacity ∧ m.Holds p k

/-- Keys with one home share one window, so the map stores no more of them than the window has
slots. -/
theorem WindowState.card_le {H : CStr → UInt64 → UInt64} {m : StringHashMapA T STR_LEN_MAX}
    (hm : WindowState H m) {keys : Finset CStr} {home : Nat}
    (hhome : ∀ k ∈ keys, m.home H k = home) (hstored : ∀ k ∈ keys, m.Stores k) :
    keys.card ≤ m.collisionLimit := by
  have hstep : ∀ k ∈ keys,
      ∃ i, i < m.collisionLimit ∧ m.Holds (Probe.slot m.poolCapacity home i) k := by
    intro k hk
    obtain ⟨p, hp, hh⟩ := hstored k hk
    obtain ⟨i, hi, rfl⟩ := hm.in_window p k hp hh
    refine ⟨i, hi, ?_⟩
    rwa [window, hhome k hk] at hh
  choose! step hlt hheld using hstep
  have hinj : Set.InjOn step keys := by
    intro k hk k' hk' heq
    have hh := hheld k hk
    rw [heq] at hh
    exact hh.key_unique (hheld k' hk')
  calc keys.card ≤ (Finset.range m.collisionLimit).card :=
        Finset.card_le_card_of_injOn step (fun k hk => Finset.mem_range.mpr (hlt k hk)) hinj
    _ = m.collisionLimit := Finset.card_range _

/-- A rebuild that succeeds stores every key of the old map. -/
theorem WindowState.rebuild_stores {H : CStr → UInt64 → UInt64} {m : StringHashMapA T STR_LEN_MAX}
    (hm : WindowState H m) (newRaw : Nat → T) {newCap : Nat} (hcap : 0 < newCap) (newLimit : Nat)
    (newSeed : UInt64) :
    (∃ m', m.tryRebuild H newRaw newCap newLimit newSeed = some (true, m') ∧ WindowState H m' ∧
      m'.collisionLimit = newLimit ∧ ∀ k, m.Stores k → m'.Stores k) ∨
    m.tryRebuild H newRaw newCap newLimit newSeed = some (false, m) := by
  let I : Nat → StringHashMapA T STR_LEN_MAX → Prop := fun i n =>
    WindowState H n ∧ ∀ p k, p < i → m.Holds p k → n.Stores k
  have hfresh : I 0 (new newRaw newCap newLimit newSeed) :=
    ⟨new_windowState newRaw hcap newLimit newSeed, fun _ _ hp _ => absurd hp (Nat.not_lt_zero _)⟩
  have hskip : ∀ i n, I i n → (m.strPool i).getLen = 0 → I (i + 1) n := by
    rintro i n ⟨hwin, hmoved⟩ hempty
    refine ⟨hwin, fun p k hp hh => ?_⟩
    rcases Nat.lt_succ_iff_lt_or_eq.mp hp with hlt | rfl
    · exact hmoved p k hlt hh
    · exact absurd hempty hh.1
  have hplace : ∀ i n k (hk : ValidKey STR_LEN_MAX k) j, i < m.poolCapacity → I i n →
      m.Holds i k → 0 < n.poolCapacity → j < n.collisionLimit →
      (n.strPool (n.window H k j)).getLen = 0 →
      (∀ l, l < j → (n.strPool (n.window H k l)).getLen ≠ 0) →
      I (i + 1) (n.store (n.window H k j) k (m.dataPool i) hk.2) := by
    rintro i n key hkey j - ⟨hwin, hmoved⟩ hheld hncap hj hempty -
    refine ⟨hwin.store hkey (m.dataPool i) hj, fun p k hp hh => ?_⟩
    rcases Nat.lt_succ_iff_lt_or_eq.mp hp with hlt | rfl
    · obtain ⟨q, hq, hhq⟩ := hmoved p k hlt hh
      have hne : q ≠ n.window H key j := by
        rintro rfl
        exact hhq.1 hempty
      exact ⟨q, hq, (holds_store hkey).mpr (Or.inr ⟨hne, hhq⟩)⟩
    · refine ⟨n.window H key j, window_lt hncap key j, (holds_store hkey).mpr (Or.inl ⟨rfl, ?_⟩)⟩
      exact hh.key_unique hheld
  rcases tryRebuild_cases hm.terminated newRaw hcap newLimit newSeed hfresh hskip hplace with
    ⟨m', hr, ⟨hwin, hmoved⟩, -, hlimit, -⟩ | hr
  · left
    refine ⟨m', hr, hwin, hlimit, ?_⟩
    rintro k ⟨p, hp, hh⟩
    exact hmoved p k hp hh
  · exact Or.inr hr

/-- `card_le` for keys of one hash. -/
theorem WindowState.shared_hash_le {m : StringHashMapA T STR_LEN_MAX}
    (hm : WindowState keyHash m) {hash : UInt64} {keys : Finset CStr}
    (hkeys : ∀ k ∈ keys, hash64 k.bytes = hash) (hstored : ∀ k ∈ keys, m.Stores k) :
    keys.card ≤ m.collisionLimit := by
  rcases keys.eq_empty_or_nonempty with rfl | ⟨k0, hk0⟩
  · exact Nat.zero_le _
  · have hhome : ∀ k ∈ keys, m.home keyHash k = m.home keyHash k0 := fun k hk =>
      home_eq_of_hash64 m ((hkeys k hk).trans (hkeys k0 hk0).symm)
    exact hm.card_le hhome hstored

theorem run_windowState (raw : Nat → T) {cap : Nat} (hcap : 0 < cap) (limit : Nat) (seed : UInt64)
    {ops : List (Op T)} (hops : ∀ op ∈ ops, op.CapPos) :
    ∃ m es, run keyHash (new raw cap limit seed : StringHashMapA T STR_LEN_MAX) ops =
      some (m, es) ∧ WindowState keyHash m :=
  run_ok (H := keyHash) (I := fun m _ => WindowState keyHash m) (P := Op.CapPos)
    (fun _ _ op hop hm => hm.opStep op hop) ops (new raw cap limit seed) [] hops
    (new_windowState raw hcap limit seed)

/-- In every state of a run, whatever seeds its rebuilds took, a map stores at most
`_collisionLimit` keys of one `CityHash64`; and no new seed and capacity let it be rebuilt into a
limit below the number it stores. -/
theorem shared_hash_run (raw : Nat → T) {cap : Nat} (hcap : 0 < cap) (limit : Nat)
    (seed : UInt64) (ops : List (Op T)) (hops : ∀ op ∈ ops, op.CapPos) :
    ∃ m es, run keyHash (new raw cap limit seed : StringHashMapA T STR_LEN_MAX) ops =
        some (m, es) ∧
      ∀ (hash : UInt64) (keys : Finset CStr), (∀ k ∈ keys, hash64 k.bytes = hash) →
        (∀ k ∈ keys, m.Stores k) → keys.card ≤ m.collisionLimit ∧
          ∀ newRaw newCap newLimit newSeed, 0 < newCap → newLimit < keys.card →
            m.tryRebuild keyHash newRaw newCap newLimit newSeed = some (false, m) := by
  obtain ⟨m, es, hr, hm⟩ := run_windowState raw hcap limit seed hops
  refine ⟨m, es, hr, fun hash keys hkeys hstored => ⟨hm.shared_hash_le hkeys hstored, ?_⟩⟩
  intro newRaw newCap newLimit newSeed hnewCap hless
  rcases hm.rebuild_stores newRaw hnewCap newLimit newSeed with
    ⟨m', -, hwin, hlimit, hmoved⟩ | hfail
  · have hle := hwin.shared_hash_le hkeys fun k hk => hmoved k (hstored k hk)
    omega
  · exact hfail

/-- Two keys, a lookup, and a rebuild under another seed. -/
def reseedOps : List (Op Nat) :=
  [.call (.insert keyA 1), .call (.insert keyB 2), .rebuild (fun _ => 0) 7 2 5,
    .call (.find keyA 0)]

theorem shared_hash_run_reseed :
    ∃ m es, run keyHash (new (fun _ => 0) 3 2 1 : StringHashMapA Nat 128) reseedOps =
        some (m, es) ∧
      ∀ (hash : UInt64) (keys : Finset CStr), (∀ k ∈ keys, hash64 k.bytes = hash) →
        (∀ k ∈ keys, m.Stores k) → keys.card ≤ m.collisionLimit ∧
          ∀ newRaw newCap newLimit newSeed, 0 < newCap → newLimit < keys.card →
            m.tryRebuild keyHash newRaw newCap newLimit newSeed = some (false, m) :=
  shared_hash_run (fun _ => 0) (by omega) 2 1 reseedOps (by simp [reseedOps, Op.CapPos])

section Pigeonhole

open SHashA

/-- There are more keys of `digits` binary digits than hash values, so some value is shared. -/
theorem exists_shared_hash {digits limit : Nat} (h : 2 ^ 64 * limit < 2 ^ digits) :
    ∃ (hash : UInt64) (keys : Finset CStr), limit < keys.card ∧
      ∀ k ∈ keys, k.strlen = digits ∧ hash64 k.bytes = hash := by
  classical
  let keys : Finset CStr := (Finset.range (2 ^ digits)).image (numeral digits)
  have hcard : keys.card = 2 ^ digits := by
    rw [Finset.card_image_of_injOn, Finset.card_range]
    intro i hi j hj hij
    have hij : numeral digits i = numeral digits j := hij
    exact numeral_folded_inj (Finset.mem_range.mp hi) (Finset.mem_range.mp hj) (by rw [hij])
  have hmaps : ∀ k ∈ keys, (hash64 k.bytes).toNat ∈ Finset.range (2 ^ 64) :=
    fun k _ => Finset.mem_range.mpr (UInt64.toNat_lt _)
  obtain ⟨value, -, hvalue⟩ := Finset.exists_lt_card_fiber_of_mul_lt_card_of_maps_to hmaps
    (n := limit) (by rw [Finset.card_range, hcard]; exact h)
  refine ⟨UInt64.ofNat value, _, hvalue, fun k hk => ?_⟩
  obtain ⟨hmem, hhash⟩ := Finset.mem_filter.mp hk
  obtain ⟨i, -, rfl⟩ := Finset.mem_image.mp hmem
  refine ⟨by simp [CStr.strlen, numeral], ?_⟩
  rw [← hhash, UInt64.ofNat_toNat]

/-- For every limit there are valid asset names, one more than the limit, that no map of this limit
holds together: not after any run, of any capacity and under any seeds. -/
theorem exists_unstorable_names (limit : Nat) (hlimit : limit < 2 ^ 32) :
    ∃ keys : Finset CStr, limit < keys.card ∧
      (∀ k ∈ keys, ValidKey ASSET_NAME_LEN_MAX k) ∧
      ∀ (raw : Nat → T) (cap startLimit : Nat) (seed : UInt64) (ops : List (Op T)), 0 < cap →
        (∀ op ∈ ops, op.CapPos) →
        ∃ m es, run keyHash
            (new raw cap startLimit seed : StringHashMapA T ASSET_NAME_LEN_MAX) ops =
            some (m, es) ∧
          (m.collisionLimit ≤ limit → ∃ k ∈ keys, ¬ m.Stores k) := by
  have hroom : 2 ^ 64 * limit < 2 ^ 97 := by omega
  obtain ⟨hash, keys, hcard, hkeys⟩ := exists_shared_hash hroom
  refine ⟨keys, hcard, fun k hk => ?_, fun raw cap startLimit seed ops hcap hops => ?_⟩
  · have hlen := (hkeys k hk).1
    exact ⟨by omega, by rw [hlen]; simp [ASSET_NAME_LEN_MAX]⟩
  · obtain ⟨m, es, hr, hm⟩ := run_windowState raw hcap startLimit seed hops
    refine ⟨m, es, hr, fun hle => ?_⟩
    by_contra hall
    simp only [not_exists, not_and, not_not] at hall
    have hbound := hm.shared_hash_le (fun k hk => (hkeys k hk).2) hall
    omega

theorem exists_unstorable_names_default :
    ∃ keys : Finset CStr, 10 < keys.card ∧ (∀ k ∈ keys, ValidKey ASSET_NAME_LEN_MAX k) ∧
      ∀ (raw : Nat → Nat) (cap startLimit : Nat) (seed : UInt64) (ops : List (Op Nat)), 0 < cap →
        (∀ op ∈ ops, op.CapPos) →
        ∃ m es, run keyHash
            (new raw cap startLimit seed : StringHashMapA Nat ASSET_NAME_LEN_MAX) ops =
            some (m, es) ∧
          (m.collisionLimit ≤ 10 → ∃ k ∈ keys, ¬ m.Stores k) :=
  exists_unstorable_names 10 (by omega)

end Pigeonhole

end StringHashMapA
end SS
end FBXRenderer
