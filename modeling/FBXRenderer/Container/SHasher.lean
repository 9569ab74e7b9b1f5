import Mathlib
import FBXRenderer.Container.FixedString
import FBXRenderer.Lib.FirstFit
import FBXRenderer.Lib.PartialRun

/-!
# FBXRenderer.Container.SHasher

`SS::SHashA` (`SHasher.h`, `SHasher.cpp`): interned strings. The pool is a table of chains; a
handle is the bucket of a string and its distance along the chain of that bucket.

* The bucket comes from the bytes of the string, the search along a chain compares with `strcmpi`.
  `CityHash32` is a parameter, any function of the bytes.
* `construct_run`: as long as every string has a `uint32` length, a run of constructions keeps one
  node for each `strcmpi` class of each bucket and answers `handleOf`.
* `handles_equal_iff`: equality of handles is `strcmpi` exactly when equal strings share a bucket.
* `handles_stable_iff`: handles stay and separate exactly as long as no chain outgrows the 32 bits
  of a distance.
-/

namespace FBXRenderer
namespace SS

/-- `tolower` of the C locale. -/
def toLower (b : UInt8) : UInt8 := if 65 ≤ b ∧ b ≤ 90 then b + 32 else b

/-- The bytes that `strcmpi` compares. -/
def CStr.folded (s : CStr) : List UInt8 := s.bytes.map toLower

def strcmpiBytes : List UInt8 → List UInt8 → Int
  | [], [] => 0
  | [], b :: _ => -((toLower b).toNat : Int)
  | a :: _, [] => (toLower a).toNat
  | a :: as, b :: bs =>
    if toLower a = toLower b then strcmpiBytes as bs
    else ((toLower a).toNat : Int) - (toLower b).toNat

def strcmpi (lhs rhs : CStr) : Int := strcmpiBytes lhs.bytes rhs.bytes

structure SHashPoolNode where
  _str : CStr
  _strLen : Nat

/-- The copy of the string is terminated as long as its length and one more are `uint32` values;
of a longer string the node keeps no text that ends. -/
def SHashPoolNode.new (inStr : CStr) : Option SHashPoolNode :=
  if inStr.strlen + 1 < 2 ^ 32 then some ⟨inStr, inStr.strlen⟩ else none

/-- The pool of heads. A head and the nodes behind it are one list, empty while the `_str` of the
head is null. -/
structure SHasherPool where
  heads : List (List SHashPoolNode)

namespace SHasherPool

def g_sHasherPoolCnt (pool : SHasherPool) : Nat := pool.heads.length

def chain (pool : SHasherPool) (bucket : Nat) : List SHashPoolNode := pool.heads[bucket]?.getD []

def setChain (pool : SHasherPool) (bucket : Nat) (nodes : List SHashPoolNode) : SHasherPool :=
  ⟨pool.heads.set bucket nodes⟩

end SHasherPool

/-- A handle; `_hashX` is the union of the two words. -/
structure SHashA where
  _hashH : UInt32
  _hashL : UInt32
deriving DecidableEq

namespace SHashA

def SHASHER_DEFAULT_POOL_SIZE : Nat := 1024

def _hashX (h : SHashA) : Nat := h._hashH.toNat + 2 ^ 32 * h._hashL.toNat

def initHashPool (hashPoolSize : Nat) : SHasherPool := ⟨List.replicate hashPoolSize []⟩

/-- The walk along a chain. It ends at the first node with the string, or at the last node. -/
def search (inStr : CStr) (curHashPoolNode : SHashPoolNode) :
    List SHashPoolNode → UInt32 → Bool × UInt32
  | [], sameHashValueCnt => (strcmpi curHashPoolNode._str inStr == 0, sameHashValueCnt)
  | next :: rest, sameHashValueCnt =>
    if strcmpi curHashPoolNode._str inStr == 0 then (true, sameHashValueCnt)
    else search inStr next rest (sameHashValueCnt + 1)

/-- The constructor, with the pool it leaves. A null pool is first initialised with the default
size. -/
def new (cityHash32 : CStr → UInt32) (g_SHasherPool : Option SHasherPool) (inStr : CStr) :
    Option (SHasherPool × SHashA) :=
  let pool := g_SHasherPool.getD (initHashPool SHASHER_DEFAULT_POOL_SIZE)
  if pool.g_sHasherPoolCnt = 0 then none -- a division by zero
  else
    let strHashValue := (cityHash32 inStr).toNat % pool.g_sHasherPoolCnt
    match pool.chain strHashValue with
    | [] => (SHashPoolNode.new inStr).map fun node =>
        (pool.setChain strHashValue [node], ⟨UInt32.ofNat strHashValue, 0⟩)
    | curHashPoolNode :: next =>
      match search inStr curHashPoolNode next 0 with
      | (true, sameHashValueCnt) => some (pool, ⟨UInt32.ofNat strHashValue, sameHashValueCnt⟩)
      | (false, sameHashValueCnt) => (SHashPoolNode.new inStr).map fun node =>
          (pool.setChain strHashValue (curHashPoolNode :: next ++ [node]),
            ⟨UInt32.ofNat strHashValue, sameHashValueCnt + 1⟩)

/-- `operator==`. -/
def eq (lhs rhs : SHashA) : Bool := lhs._hashX == rhs._hashX

/-- `c_str`: `none` where the walk leaves the chain. -/
def c_str (pool : SHasherPool) (h : SHashA) : Option CStr :=
  (pool.chain h._hashH.toNat)[h._hashL.toNat]?.map (·._str)

/-- A run of constructions, with the handles in order. -/
def run (cityHash32 : CStr → UInt32) (pool : SHasherPool) (strs : List CStr) :
    Option (SHasherPool × List SHashA) :=
  strs.foldlM (fun st s => (new cityHash32 (some st.1) s).map fun r => (r.1, st.2 ++ [r.2]))
    (pool, [])

end SHashA

section Strcmpi

theorem toLower_ne_zero {a : UInt8} (h : a ≠ 0) : toLower a ≠ 0 := by
  unfold toLower
  split
  · rename_i hab
    intro h0
    have ha := UInt8.le_iff_toNat_le.mp hab.1
    have hb := UInt8.le_iff_toNat_le.mp hab.2
    have hn := congrArg UInt8.toNat h0
    simp [UInt8.toNat_add] at ha hb hn
    omega
  · exact h

theorem toLower_toNat_ne_zero {a : UInt8} (h : a ≠ 0) : ((toLower a).toNat : Int) ≠ 0 := by
  intro h0
  refine toLower_ne_zero h (UInt8.toNat_inj.mp ?_)
  exact Int.natCast_eq_zero.mp h0

theorem strcmpiBytes_eq_zero_iff : ∀ {as bs : List UInt8}, (0 : UInt8) ∉ as → (0 : UInt8) ∉ bs →
    (strcmpiBytes as bs = 0 ↔ as.map toLower = bs.map toLower) := by
  intro as
  induction as with
  | nil =>
    intro bs _ hbs
    cases bs with
    | nil => simp [strcmpiBytes]
    | cons b bs =>
      have hb := toLower_toNat_ne_zero (a := b) fun h => hbs (h ▸ List.mem_cons_self ..)
      simpa [strcmpiBytes] using hb
  | cons a as ih =>
    intro bs has hbs
    cases bs with
    | nil =>
      have ha := toLower_toNat_ne_zero (a := a) fun h => has (h ▸ List.mem_cons_self ..)
      simpa [strcmpiBytes] using ha
    | cons b bs =>
      rw [strcmpiBytes, List.map_cons, List.map_cons, List.cons.injEq]
      by_cases hab : toLower a = toLower b
      · rw [if_pos hab, ih (fun h => has (List.mem_cons_of_mem _ h))
          (fun h => hbs (List.mem_cons_of_mem _ h))]
        exact (and_iff_right hab).symm
      · rw [if_neg hab]
        have hne : (toLower a).toNat ≠ (toLower b).toNat := fun h => hab (UInt8.toNat_inj.mp h)
        constructor
        · intro h
          omega
        · intro h
          exact absurd h.1 hab

theorem strcmpi_eq_zero_iff (s t : CStr) : strcmpi s t = 0 ↔ s.folded = t.folded :=
  strcmpiBytes_eq_zero_iff s.no_nul t.no_nul

theorem strlen_eq_of_folded {s t : CStr} (h : s.folded = t.folded) : s.strlen = t.strlen := by
  have hlen := congrArg List.length h
  simpa [CStr.folded, CStr.strlen] using hlen

end Strcmpi

namespace SHashA

/-- The comparison of the walk, kept string first. -/
def sameText (s t : CStr) : Bool := strcmpi s t == 0

theorem sameText_iff (s t : CStr) : sameText s t = true ↔ s.folded = t.folded := by
  rw [sameText, beq_iff_eq, strcmpi_eq_zero_iff]

theorem sameText_refl (s : CStr) : sameText s s = true := (sameText_iff s s).mpr rfl

/-- The node of a string that a node can hold. -/
def nodeOf (s : CStr) : SHashPoolNode := ⟨s, s.strlen⟩

/-- A string whose length and terminator fit a `uint32`. -/
def Short (s : CStr) : Prop := s.strlen + 1 < 2 ^ 32

theorem node_of_short {s : CStr} (h : Short s) : SHashPoolNode.new s = some (nodeOf s) := if_pos h

theorem node_of_long {s : CStr} (h : ¬ Short s) : SHashPoolNode.new s = none := if_neg h

theorem ofNat_succ_add (cnt : UInt32) (k : Nat) :
    cnt + 1 + UInt32.ofNat k = cnt + UInt32.ofNat (k + 1) := by
  rw [UInt32.ofNat_add, add_assoc, add_comm (UInt32.ofNat k)]
  rfl

/-- The walk stops at the first node with the string, its count says where. -/
theorem search_eq (inStr : CStr) (S : List CStr) : ∀ (s : CStr) (cnt : UInt32),
    search inStr (nodeOf s) (S.map nodeOf) cnt =
      if FirstFit.index sameText (s :: S) inStr < (s :: S).length then
        (true, cnt + UInt32.ofNat (FirstFit.index sameText (s :: S) inStr))
      else (false, cnt + UInt32.ofNat S.length) := by
  induction S with
  | nil =>
    intro s cnt
    have hfit : (strcmpi (nodeOf s)._str inStr == 0) = sameText s inStr := rfl
    rw [List.map_nil, search, hfit, FirstFit.index, List.findIdx_cons]
    cases sameText s inStr <;> simp
  | cons t S ih =>
    intro s cnt
    have hfit : (strcmpi (nodeOf s)._str inStr == 0) = sameText s inStr := rfl
    rw [List.map_cons, search, hfit, FirstFit.index, List.findIdx_cons]
    cases hs : sameText s inStr with
    | true => simp
    | false =>
      have hrest := ih t (cnt + 1)
      rw [FirstFit.index] at hrest
      rw [if_neg Bool.false_ne_true, hrest, cond_false]
      simp only [ofNat_succ_add, List.length_cons, Nat.add_lt_add_iff_right]

section Run

variable (N : Nat) (cityHash32 : CStr → UInt32)

def bucketOf (s : CStr) : Nat := (cityHash32 s).toNat % N

/-- The strings of a run that belong to a bucket. -/
def inBucket (bucket : Nat) (strs : List CStr) : List CStr :=
  strs.filter fun s => bucketOf N cityHash32 s == bucket

/-- The strings of a chain after a run: the first of each `strcmpi` class of the bucket. -/
def kept (bucket : Nat) (strs : List CStr) : List CStr :=
  FirstFit.stored sameText (inBucket N cityHash32 bucket strs)

/-- Where a string is found along its chain. -/
def position (strs : List CStr) (s : CStr) : Nat :=
  FirstFit.index sameText (kept N cityHash32 (bucketOf N cityHash32 s) strs) s

/-- The handle that a construction answers. -/
def handleOf (strs : List CStr) (s : CStr) : SHashA :=
  ⟨UInt32.ofNat (bucketOf N cityHash32 s), UInt32.ofNat (position N cityHash32 strs s)⟩

/-- What the pool holds after the strings of a run. -/
structure PoolAfter (strs : List CStr) (pool : SHasherPool) : Prop where
  count : pool.g_sHasherPoolCnt = N
  chain : ∀ b, b < N → pool.chain b = (kept N cityHash32 b strs).map nodeOf
  short : ∀ s ∈ strs, Short s

variable {N cityHash32}

theorem inBucket_concat_same {strs : List CStr} {s : CStr} :
    inBucket N cityHash32 (bucketOf N cityHash32 s) (strs ++ [s])
      = inBucket N cityHash32 (bucketOf N cityHash32 s) strs ++ [s] := by
  simp [inBucket, List.filter_append]

theorem inBucket_concat_other {strs : List CStr} {s : CStr} {b : Nat}
    (h : b ≠ bucketOf N cityHash32 s) :
    inBucket N cityHash32 b (strs ++ [s]) = inBucket N cityHash32 b strs := by
  have hs : (bucketOf N cityHash32 s == b) = false := beq_eq_false_iff_ne.mpr h.symm
  simp [inBucket, List.filter_append, hs]

theorem kept_concat_same {strs : List CStr} {s : CStr} :
    kept N cityHash32 (bucketOf N cityHash32 s) (strs ++ [s])
      = FirstFit.keep sameText (kept N cityHash32 (bucketOf N cityHash32 s) strs) s := by
  rw [kept, inBucket_concat_same, FirstFit.stored_concat]
  rfl

variable (N cityHash32) in
theorem mem_inBucket {strs : List CStr} {s : CStr} (h : s ∈ strs) :
    s ∈ inBucket N cityHash32 (bucketOf N cityHash32 s) strs := by
  simpa [inBucket] using h

theorem mem_of_mem_kept {b : Nat} {strs : List CStr} {s : CStr}
    (h : s ∈ kept N cityHash32 b strs) : s ∈ strs ∧ bucketOf N cityHash32 s = b := by
  have hin := FirstFit.mem_of_mem_stored sameText h
  simpa [inBucket] using hin

/-- A string that has arrived stays where it is found. -/
theorem position_append {strs : List CStr} (more : List CStr) {s : CStr} (h : s ∈ strs) :
    position N cityHash32 (strs ++ more) s = position N cityHash32 strs s := by
  unfold position kept inBucket
  rw [List.filter_append]
  exact FirstFit.index_stored_append sameText_refl _ (mem_inBucket N cityHash32 h)

variable (N cityHash32) in
theorem handleOf_append {strs : List CStr} (more : List CStr) {s : CStr} (h : s ∈ strs) :
    handleOf N cityHash32 (strs ++ more) s = handleOf N cityHash32 strs s := by
  rw [handleOf, position_append more h]
  rfl

variable (N cityHash32) in
theorem position_lt {strs : List CStr} {s : CStr} (h : s ∈ strs) :
    position N cityHash32 strs s < (kept N cityHash32 (bucketOf N cityHash32 s) strs).length :=
  FirstFit.index_lt_of_mem sameText_refl (mem_inBucket N cityHash32 h)

/-- The construction that arrives last finds its place where the walk left off. -/
theorem position_concat {strs : List CStr} {s : CStr} :
    position N cityHash32 (strs ++ [s]) s
      = FirstFit.index sameText (kept N cityHash32 (bucketOf N cityHash32 s) strs) s := by
  rw [position, kept_concat_same]
  exact (FirstFit.index_keep sameText_refl _ s).1

theorem new_nil {pool : SHasherPool} {s : CStr} (hcnt : pool.g_sHasherPoolCnt = N) (hN : 0 < N)
    (hchain : pool.chain (bucketOf N cityHash32 s) = []) :
    new cityHash32 (some pool) s = (SHashPoolNode.new s).map fun node =>
      (pool.setChain (bucketOf N cityHash32 s) [node],
        ⟨UInt32.ofNat (bucketOf N cityHash32 s), 0⟩) := by
  subst hcnt
  rw [bucketOf] at hchain
  simp only [new, Option.getD_some, if_neg hN.ne', bucketOf]
  rw [hchain]

theorem new_cons {pool : SHasherPool} {s : CStr} (hcnt : pool.g_sHasherPoolCnt = N) (hN : 0 < N)
    {cur : SHashPoolNode} {next : List SHashPoolNode}
    (hchain : pool.chain (bucketOf N cityHash32 s) = cur :: next) :
    new cityHash32 (some pool) s =
      if (search s cur next 0).1 = true then
        some (pool, ⟨UInt32.ofNat (bucketOf N cityHash32 s), (search s cur next 0).2⟩)
      else (SHashPoolNode.new s).map fun node =>
        (pool.setChain (bucketOf N cityHash32 s) (cur :: next ++ [node]),
          ⟨UInt32.ofNat (bucketOf N cityHash32 s), (search s cur next 0).2 + 1⟩) := by
  subst hcnt
  rw [bucketOf] at hchain
  simp only [new, Option.getD_some, if_neg hN.ne', bucketOf]
  rw [hchain]
  cases hs : search s cur next 0 with
  | mk found cnt => cases found <;> simp [hs]

/-- One construction, from what the pool holds: the string is found or its node is appended. -/
theorem new_eq (hN : 0 < N) {strs : List CStr} {pool : SHasherPool}
    (hp : PoolAfter N cityHash32 strs pool) (s : CStr) :
    new cityHash32 (some pool) s =
      if FirstFit.index sameText (kept N cityHash32 (bucketOf N cityHash32 s) strs) s
          < (kept N cityHash32 (bucketOf N cityHash32 s) strs).length then
        some (pool, handleOf N cityHash32 (strs ++ [s]) s)
      else (SHashPoolNode.new s).map fun node =>
        (pool.setChain (bucketOf N cityHash32 s)
            ((kept N cityHash32 (bucketOf N cityHash32 s) strs).map nodeOf ++ [node]),
          handleOf N cityHash32 (strs ++ [s]) s) := by
  have hchain := hp.chain _ (Nat.mod_lt (cityHash32 s).toNat hN)
  change pool.chain (bucketOf N cityHash32 s) =
    (kept N cityHash32 (bucketOf N cityHash32 s) strs).map nodeOf at hchain
  have hhandle : handleOf N cityHash32 (strs ++ [s]) s =
      ⟨UInt32.ofNat (bucketOf N cityHash32 s), UInt32.ofNat
        (FirstFit.index sameText (kept N cityHash32 (bucketOf N cityHash32 s) strs) s)⟩ := by
    rw [handleOf, position_concat]
  have hle := FirstFit.index_le_length sameText (kept N cityHash32 (bucketOf N cityHash32 s) strs) s
  rw [hhandle]
  generalize kept N cityHash32 (bucketOf N cityHash32 s) strs = S at hchain hle ⊢
  cases S with
  | nil =>
    rw [new_nil hp.count hN hchain]
    rfl
  | cons t S =>
    rw [new_cons hp.count hN hchain, search_eq]
    by_cases hlt : FirstFit.index sameText (t :: S) s < (t :: S).length
    · rw [if_pos hlt, if_pos hlt, if_pos rfl, zero_add]
    · have hlen : FirstFit.index sameText (t :: S) s = S.length + 1 := by
        rw [List.length_cons] at hlt hle
        omega
      rw [if_neg hlt, if_neg hlt, if_neg Bool.false_ne_true, zero_add, hlen, UInt32.ofNat_add]
      rfl

theorem chain_setChain_same {pool : SHasherPool} {b : Nat} (hb : b < pool.g_sHasherPoolCnt)
    (nodes : List SHashPoolNode) : (pool.setChain b nodes).chain b = nodes := by
  simp [SHasherPool.chain, SHasherPool.setChain, List.getElem?_set_self hb]

theorem chain_setChain_other {pool : SHasherPool} {b c : Nat} (h : c ≠ b)
    (nodes : List SHashPoolNode) : (pool.setChain b nodes).chain c = pool.chain c := by
  simp [SHasherPool.chain, SHasherPool.setChain, List.getElem?_set_ne h.symm]

theorem poolAfter_init : PoolAfter N cityHash32 [] (initHashPool N) where
  count := List.length_replicate
  chain := by
    intro b hb
    simp [SHasherPool.chain, initHashPool, kept, inBucket, FirstFit.stored, hb]
  short := fun _ hs => (List.not_mem_nil hs).elim

/-- A construction of a string that a node can hold. -/
theorem new_short (hN : 0 < N) {strs : List CStr} {pool : SHasherPool}
    (hp : PoolAfter N cityHash32 strs pool) {s : CStr} (hs : Short s) :
    ∃ pool', new cityHash32 (some pool) s = some (pool', handleOf N cityHash32 (strs ++ [s]) s) ∧
      PoolAfter N cityHash32 (strs ++ [s]) pool' := by
  have hshort : ∀ t ∈ strs ++ [s], Short t := by
    intro t ht
    obtain ht | ht := List.mem_append.mp ht
    · exact hp.short t ht
    · rw [List.mem_singleton.mp ht]
      exact hs
  have hb : bucketOf N cityHash32 s < N := Nat.mod_lt _ hN
  rw [new_eq hN hp]
  by_cases hlt : FirstFit.index sameText (kept N cityHash32 (bucketOf N cityHash32 s) strs) s
      < (kept N cityHash32 (bucketOf N cityHash32 s) strs).length
  · refine ⟨pool, if_pos hlt, hp.count, ?_, hshort⟩
    intro c hc
    by_cases hcb : c = bucketOf N cityHash32 s
    · rw [hcb, hp.chain _ hb, kept_concat_same, FirstFit.keep_of_fit sameText hlt]
    · rw [hp.chain c hc, kept, kept, inBucket_concat_other hcb]
  · rw [if_neg hlt, node_of_short hs]
    refine ⟨_, rfl, ?_, ?_, hshort⟩
    · rw [SHasherPool.g_sHasherPoolCnt, SHasherPool.setChain, List.length_set]
      exact hp.count
    · intro c hc
      by_cases hcb : c = bucketOf N cityHash32 s
      · rw [hcb, chain_setChain_same (by rw [hp.count]; exact hb), kept_concat_same,
          FirstFit.keep_of_no_fit sameText hlt, List.map_append, List.map_singleton]
      · rw [chain_setChain_other hcb, hp.chain c hc, kept, kept, inBucket_concat_other hcb]

/-- A longer string is in no chain and gets no node. -/
theorem new_long (hN : 0 < N) {strs : List CStr} {pool : SHasherPool}
    (hp : PoolAfter N cityHash32 strs pool) {s : CStr} (hs : ¬ Short s) :
    new cityHash32 (some pool) s = none := by
  rw [new_eq hN hp, if_neg, node_of_long hs, Option.map_none]
  intro hlt
  have hfit : sameText (kept N cityHash32 (bucketOf N cityHash32 s) strs)[FirstFit.index sameText
      (kept N cityHash32 (bucketOf N cityHash32 s) strs) s] s = true :=
    List.findIdx_getElem (w := hlt)
  have hmem := mem_of_mem_kept (List.getElem_mem hlt)
  have hlen := strlen_eq_of_folded ((sameText_iff _ _).mp hfit)
  have hshort := hp.short _ hmem.1
  rw [Short, hlen] at hshort
  exact hs hshort

theorem run_concat (pool : SHasherPool) (strs : List CStr) (s : CStr) :
    run cityHash32 pool (strs ++ [s]) = (run cityHash32 pool strs).bind fun st =>
      (new cityHash32 (some st.1) s).map fun r => (r.1, st.2 ++ [r.2]) := by
  rw [run, PartialRun.foldlM_concat]
  rfl

variable (cityHash32) in
/-- A run of strings that nodes can hold. -/
theorem construct_run (hN : 0 < N) (strs : List CStr) (h : ∀ s ∈ strs, Short s) :
    ∃ pool, run cityHash32 (initHashPool N) strs
        = some (pool, strs.map (handleOf N cityHash32 strs)) ∧
      PoolAfter N cityHash32 strs pool := by
  induction strs using List.reverseRecOn with
  | nil => exact ⟨initHashPool N, rfl, poolAfter_init⟩
  | append_singleton strs s ih =>
    obtain ⟨pool, hrun, hp⟩ := ih fun t ht => h t (List.mem_append_left _ ht)
    have hs : Short s := h s (List.mem_append_right _ (List.mem_singleton_self s))
    obtain ⟨pool', hnew, hp'⟩ := new_short hN hp hs
    refine ⟨pool', ?_, hp'⟩
    have hold : strs.map (handleOf N cityHash32 (strs ++ [s]))
        = strs.map (handleOf N cityHash32 strs) :=
      List.map_congr_left fun t ht => handleOf_append N cityHash32 [s] ht
    rw [run_concat, hrun, Option.bind_some, hnew, Option.map_some, List.map_append, hold,
      List.map_singleton]

/-- A run ends at its first string that no node can hold. -/
theorem run_long (hN : 0 < N) {strs : List CStr} (h : ∃ s ∈ strs, ¬ Short s) :
    run cityHash32 (initHashPool N) strs = none := by
  induction strs using List.reverseRecOn with
  | nil =>
    obtain ⟨s, hs, _⟩ := h
    cases hs
  | append_singleton strs s ih =>
    rw [run_concat]
    by_cases hlong : ∃ t ∈ strs, ¬ Short t
    · rw [ih hlong, Option.bind_none]
    · obtain ⟨t, ht, hlt⟩ := h
      have hshort : ∀ u ∈ strs, Short u := by
        intro u hu
        by_contra hu'
        exact hlong ⟨u, hu, hu'⟩
      obtain ⟨pool, hrun, hp⟩ := construct_run cityHash32 hN strs hshort
      have hs : ¬ Short s := by
        obtain ht | ht := List.mem_append.mp ht
        · exact absurd (hshort t ht) hlt
        · rw [← List.mem_singleton.mp ht]
          exact hlt
      rw [hrun, Option.bind_some, new_long hN hp hs, Option.map_none]

end Run

section Handles

theorem eq_iff (lhs rhs : SHashA) : lhs.eq rhs = true ↔ lhs = rhs := by
  rw [eq, beq_iff_eq]
  constructor
  · intro h
    have hH := lhs._hashH.toNat_lt
    have hH' := rhs._hashH.toNat_lt
    unfold _hashX at h
    have h1 : lhs._hashH.toNat = rhs._hashH.toNat := by omega
    have h2 : lhs._hashL.toNat = rhs._hashL.toNat := by omega
    cases lhs with
    | mk lhsH lhsL =>
      cases rhs with
      | mk rhsH rhsL => exact congrArg₂ SHashA.mk (UInt32.toNat_inj.mp h1) (UInt32.toNat_inj.mp h2)
  · rintro rfl
    rfl

theorem ofNat_inj {a b : Nat} (ha : a < 2 ^ 32) (hb : b < 2 ^ 32)
    (h : UInt32.ofNat a = UInt32.ofNat b) : a = b := by
  have hn := congrArg UInt32.toNat h
  rwa [UInt32.toNat_ofNat_of_lt' ha, UInt32.toNat_ofNat_of_lt' hb] at hn

variable (N : Nat) (cityHash32 : CStr → UInt32) (strs : List CStr)

/-- Strings of the run that differ in case only share a bucket. -/
def FoldsTogether : Prop :=
  ∀ s ∈ strs, ∀ t ∈ strs, strcmpi s t = 0 → bucketOf N cityHash32 s = bucketOf N cityHash32 t

/-- No bucket gets more strings that differ under `strcmpi` than a `uint32` can tell apart. -/
def ChainsFit : Prop :=
  ∀ b, ((inBucket N cityHash32 b strs).map CStr.folded).dedup.length ≤ 2 ^ 32

/-- Every construction answers, and two handles are equal exactly when `strcmpi` is zero. -/
def AnswersStrcmpi : Prop :=
  ∃ pool handles, run cityHash32 (initHashPool N) strs = some (pool, handles) ∧
    handles.length = strs.length ∧
    ∀ p ∈ strs.zip handles, ∀ q ∈ strs.zip handles,
      (p.2.eq q.2 = true ↔ strcmpi p.1 q.1 = 0)

variable {N cityHash32 strs}

theorem bucketOf_lt (s : CStr) : bucketOf N cityHash32 s < 2 ^ 32 :=
  (Nat.mod_le _ _).trans_lt (UInt32.toNat_lt _)

theorem length_kept (b : Nat) : (kept N cityHash32 b strs).length
    = ((inBucket N cityHash32 b strs).map CStr.folded).dedup.length :=
  FirstFit.length_stored sameText_iff _

/-- A place of a chain is the place of the string kept there. -/
theorem position_of_kept {b k : Nat} {s : CStr} (h : (kept N cityHash32 b strs)[k]? = some s) :
    s ∈ strs ∧ bucketOf N cityHash32 s = b ∧ position N cityHash32 strs s = k := by
  obtain ⟨hs, hb⟩ := mem_of_mem_kept (List.mem_of_getElem? h)
  refine ⟨hs, hb, ?_⟩
  rw [position]
  refine (FirstFit.index_eq_iff sameText_iff (mem_inBucket N cityHash32 hs)).mpr ⟨s, ?_, rfl⟩
  rw [hb]
  exact h

theorem position_eq_iff {s t : CStr} (hs : s ∈ strs) (ht : t ∈ strs)
    (hb : bucketOf N cityHash32 s = bucketOf N cityHash32 t) :
    position N cityHash32 strs s = position N cityHash32 strs t ↔ s.folded = t.folded := by
  have hs' := mem_inBucket N cityHash32 hs
  have ht' := mem_inBucket N cityHash32 ht
  rw [position, position, ← hb]
  rw [← hb] at ht'
  exact FirstFit.index_eq_index_iff sameText_iff hs' ht'

/-- A chain that outgrows the distances gives two strings one handle. -/
theorem handle_clash {b : Nat} (h : 2 ^ 32 < (kept N cityHash32 b strs).length) :
    ∃ s t, s ∈ strs ∧ t ∈ strs ∧ (kept N cityHash32 b strs)[0]? = some s ∧
      bucketOf N cityHash32 t = b ∧ handleOf N cityHash32 strs s = handleOf N cityHash32 strs t ∧
      strcmpi s t ≠ 0 := by
  obtain ⟨s, hs⟩ : ∃ s, (kept N cityHash32 b strs)[0]? = some s :=
    ⟨_, List.getElem?_eq_getElem (by omega)⟩
  obtain ⟨t, ht⟩ : ∃ t, (kept N cityHash32 b strs)[2 ^ 32]? = some t :=
    ⟨_, List.getElem?_eq_getElem h⟩
  obtain ⟨hsmem, hsb, hspos⟩ := position_of_kept hs
  obtain ⟨htmem, htb, htpos⟩ := position_of_kept ht
  refine ⟨s, t, hsmem, htmem, hs, htb, ?_, ?_⟩
  · rw [handleOf, handleOf, hsb, htb, hspos, htpos]
    rfl
  · rw [Ne, strcmpi_eq_zero_iff, ← position_eq_iff hsmem htmem (hsb.trans htb.symm), hspos, htpos]
    omega

theorem handleOf_eq_iff (hfit : ChainsFit N cityHash32 strs) {s t : CStr} (hs : s ∈ strs)
    (ht : t ∈ strs) : handleOf N cityHash32 strs s = handleOf N cityHash32 strs t ↔
      bucketOf N cityHash32 s = bucketOf N cityHash32 t ∧ s.folded = t.folded := by
  have hlt : ∀ u ∈ strs, position N cityHash32 strs u < 2 ^ 32 := by
    intro u hu
    have h1 := position_lt N cityHash32 hu
    rw [length_kept] at h1
    exact h1.trans_le (hfit _)
  rw [handleOf, handleOf, SHashA.mk.injEq]
  constructor
  · rintro ⟨hH, hL⟩
    have hb := ofNat_inj (bucketOf_lt s) (bucketOf_lt t) hH
    exact ⟨hb, (position_eq_iff hs ht hb).mp (ofNat_inj (hlt s hs) (hlt t ht) hL)⟩
  · rintro ⟨hb, hfold⟩
    rw [hb, (position_eq_iff hs ht hb).mpr hfold]
    exact ⟨rfl, rfl⟩

theorem zip_map_handleOf (f : CStr → SHashA) : strs.zip (strs.map f) = strs.map fun s => (s, f s) :=
  List.map_prod_left_eq_zip.symm

/-- What a run needs for its handles to answer `strcmpi`. -/
theorem answersStrcmpi_needs (hN : 0 < N) (h : AnswersStrcmpi N cityHash32 strs) :
    (∀ s ∈ strs, Short s) ∧ FoldsTogether N cityHash32 strs ∧ ChainsFit N cityHash32 strs := by
  obtain ⟨pool, handles, hrun, _, hans⟩ := h
  have hshort : ∀ s ∈ strs, Short s := by
    intro s hs
    by_contra hlong
    rw [run_long hN ⟨s, hs, hlong⟩] at hrun
    cases hrun
  obtain ⟨pool', hrun', _⟩ := construct_run cityHash32 hN strs hshort
  rw [hrun', Option.some.injEq, Prod.mk.injEq] at hrun
  rw [← hrun.2, zip_map_handleOf] at hans
  have hiff : ∀ s ∈ strs, ∀ t ∈ strs,
      (handleOf N cityHash32 strs s = handleOf N cityHash32 strs t ↔ strcmpi s t = 0) := by
    intro s hs t ht
    rw [← eq_iff]
    exact hans _ (List.mem_map_of_mem hs) _ (List.mem_map_of_mem ht)
  refine ⟨hshort, ?_, ?_⟩
  · intro s hs t ht hcmp
    have hh := congrArg SHashA._hashH ((hiff s hs t ht).mpr hcmp)
    exact ofNat_inj (bucketOf_lt s) (bucketOf_lt t) hh
  · intro b
    rw [← length_kept]
    by_contra hlong
    obtain ⟨s, t, hs, ht, _, _, heq, hne⟩ := handle_clash (Nat.lt_of_not_le hlong)
    exact hne ((hiff s hs t ht).mp heq)

/-- Handles compare like `strcmpi` exactly when no string is too long, strings that differ in case
only share a bucket, and no chain outgrows the distances. -/
theorem handles_equal_iff (N : Nat) (hN : 0 < N) (cityHash32 : CStr → UInt32) (strs : List CStr) :
    AnswersStrcmpi N cityHash32 strs ↔
      (∀ s ∈ strs, Short s) ∧ FoldsTogether N cityHash32 strs ∧ ChainsFit N cityHash32 strs := by
  constructor
  · exact answersStrcmpi_needs hN
  · rintro ⟨hshort, hfold, hfit⟩
    obtain ⟨pool, hrun, _⟩ := construct_run cityHash32 hN strs hshort
    refine ⟨pool, _, hrun, List.length_map _, ?_⟩
    rw [zip_map_handleOf]
    intro p hp q hq
    obtain ⟨s, hs, rfl⟩ := List.mem_map.mp hp
    obtain ⟨t, ht, rfl⟩ := List.mem_map.mp hq
    rw [eq_iff, handleOf_eq_iff hfit hs ht, strcmpi_eq_zero_iff]
    constructor
    · exact And.right
    · intro h
      exact ⟨hfold s hs t ht ((strcmpi_eq_zero_iff s t).mpr h), h⟩

/-- The string of one byte. -/
def letter (b : UInt8) : CStr := ⟨[b].filter (· != 0), by simp⟩

/-- A hash that tells `"A"` from every other string. -/
def hashOfA (s : CStr) : UInt32 := if s = letter 65 then 0 else 1

/-- `"B"`, `"b"` and `"C"` share a bucket. -/
def mixedStrings : List CStr := [letter 66, letter 98, letter 67, letter 65, letter 66]

theorem handles_equal_iff_mixed : AnswersStrcmpi 2 hashOfA mixedStrings ↔
    (∀ s ∈ mixedStrings, Short s) ∧ FoldsTogether 2 hashOfA mixedStrings ∧
      ChainsFit 2 hashOfA mixedStrings :=
  handles_equal_iff 2 (by decide) hashOfA mixedStrings

/-- `"A"` and `"a"` in different buckets get different handles. -/
theorem handles_equal_case_clash : ¬ AnswersStrcmpi 2 hashOfA [letter 65, letter 97] := by
  intro h
  have hfold := (answersStrcmpi_needs (by decide) h).2.1
  have hb := hfold (letter 65) (by simp) (letter 97) (by simp) (by decide)
  revert hb
  decide

end Handles

section Stable

variable (N : Nat) (cityHash32 : CStr → UInt32) (strs : List CStr)

/-- From the construction that answers it, a handle always reads back the same text, which is the
constructed string up to case; the same string always gets the same handle, and different handles
have different texts. -/
def HandlesStable : Prop :=
  ∃ (handles : List SHashA) (text : SHashA → Option CStr), handles.length = strs.length ∧
    (∀ m, m ≤ strs.length → ∃ pool,
      run cityHash32 (initHashPool N) (strs.take m) = some (pool, handles.take m) ∧
        ∀ h ∈ handles.take m, c_str pool h = text h) ∧
    (∀ p ∈ strs.zip handles, ∃ t, text p.2 = some t ∧ strcmpi t p.1 = 0) ∧
    (∀ p ∈ strs.zip handles, ∀ q ∈ strs.zip handles, p.1 = q.1 → p.2.eq q.2 = true) ∧
    ∀ h ∈ handles, ∀ g ∈ handles, h.eq g = false → text h ≠ text g

variable {N cityHash32 strs}

theorem c_str_handleOf (hN : 0 < N) {pool : SHasherPool} (hp : PoolAfter N cityHash32 strs pool)
    (s : CStr) : c_str pool (handleOf N cityHash32 strs s)
      = (kept N cityHash32 (bucketOf N cityHash32 s) strs)[
          (UInt32.ofNat (position N cityHash32 strs s)).toNat]? := by
  have hb : bucketOf N cityHash32 s < N := Nat.mod_lt (cityHash32 s).toNat hN
  rw [c_str, handleOf, UInt32.toNat_ofNat_of_lt' (bucketOf_lt s), hp.chain _ hb,
    List.getElem?_map, Option.map_map]
  cases (kept N cityHash32 (bucketOf N cityHash32 s) strs)[
    (UInt32.ofNat (position N cityHash32 strs s)).toNat]? <;> rfl

/-- The text kept for a string. -/
def textOf (N : Nat) (cityHash32 : CStr → UInt32) (strs : List CStr) (s : CStr) : Option CStr :=
  (kept N cityHash32 (bucketOf N cityHash32 s) strs)[position N cityHash32 strs s]?

variable (N cityHash32) in
theorem kept_append (b : Nat) (strs more : List CStr) :
    kept N cityHash32 b strs <+: kept N cityHash32 b (strs ++ more) := by
  unfold kept inBucket
  rw [List.filter_append]
  exact FirstFit.stored_extends sameText _ _

variable (N cityHash32) in
theorem textOf_append (more : List CStr) {s : CStr} (hs : s ∈ strs) :
    textOf N cityHash32 (strs ++ more) s = textOf N cityHash32 strs s := by
  have hpre := kept_append N cityHash32 (bucketOf N cityHash32 s) strs more
  rw [textOf, textOf, position_append more hs]
  exact (List.prefix_iff_getElem?.mp hpre _ (position_lt N cityHash32 hs)).trans
    (List.getElem?_eq_getElem _).symm

variable (N cityHash32) in
theorem textOf_folded {s : CStr} (hs : s ∈ strs) :
    ∃ t, textOf N cityHash32 strs s = some t ∧ t.folded = s.folded ∧
      bucketOf N cityHash32 t = bucketOf N cityHash32 s := by
  obtain ⟨t, ht, hfit⟩ := FirstFit.fits_at_index sameText_refl (mem_inBucket N cityHash32 hs)
  exact ⟨t, ht, (sameText_iff t s).mp hfit, (mem_of_mem_kept (List.mem_of_getElem? ht)).2⟩

theorem c_str_of_fit (hN : 0 < N) (hfit : ChainsFit N cityHash32 strs) {pool : SHasherPool}
    (hp : PoolAfter N cityHash32 strs pool) {s : CStr} (hs : s ∈ strs) :
    c_str pool (handleOf N cityHash32 strs s) = textOf N cityHash32 strs s := by
  have hlt := position_lt N cityHash32 hs
  have hle := hfit (bucketOf N cityHash32 s)
  rw [← length_kept] at hle
  rw [c_str_handleOf hN hp, UInt32.toNat_ofNat_of_lt' (hlt.trans_le hle), textOf]

theorem chainsFit_append (more : List CStr) (h : ChainsFit N cityHash32 (strs ++ more)) :
    ChainsFit N cityHash32 strs := by
  intro b
  have hpre := kept_append N cityHash32 b strs more
  have hlen := h b
  rw [← length_kept] at hlen ⊢
  exact hpre.length_le.trans hlen

theorem short_of_stable (hN : 0 < N) (h : HandlesStable N cityHash32 strs) :
    ∀ s ∈ strs, Short s := by
  obtain ⟨handles, text, _, hrun, _⟩ := h
  obtain ⟨pool, hrun, _⟩ := hrun strs.length (Nat.le_refl _)
  intro s hs
  by_contra hlong
  rw [List.take_length, run_long hN ⟨s, hs, hlong⟩] at hrun
  cases hrun

theorem fit_of_stable (hN : 0 < N) (h : HandlesStable N cityHash32 strs) :
    ChainsFit N cityHash32 strs := by
  have hshort := short_of_stable hN h
  obtain ⟨handles, text, hlen, hrun, htext, _⟩ := h
  obtain ⟨pool, hrun, hread⟩ := hrun strs.length (Nat.le_refl _)
  obtain ⟨pool', hrun', hp⟩ := construct_run cityHash32 hN strs hshort
  rw [← hlen, List.take_length] at hread
  rw [List.take_length, hrun', ← hlen, List.take_length, Option.some.injEq, Prod.mk.injEq] at hrun
  obtain ⟨rfl, rfl⟩ := hrun
  intro b
  rw [← length_kept]
  by_contra hlong
  obtain ⟨s, t, hs, ht, hfirst, hb, heq, hne⟩ := handle_clash (Nat.lt_of_not_le hlong)
  -- the handle of `t` reads the first text of the chain
  have hpos := (position_of_kept hfirst).2
  have hsread : c_str pool' (handleOf N cityHash32 strs t) = some s := by
    rw [← heq, c_str_handleOf hN hp, hpos.1, hpos.2]
    exact hfirst
  have hmem : handleOf N cityHash32 strs t ∈ strs.map (handleOf N cityHash32 strs) :=
    List.mem_map_of_mem ht
  rw [zip_map_handleOf] at htext
  obtain ⟨u, hu, hcmp⟩ := htext (t, _) (List.mem_map_of_mem ht)
  rw [← hread _ hmem, hsread] at hu
  cases hu
  exact hne hcmp

/-- Each construction leaves a pool that answers the handles so far with the final texts. -/
theorem run_take (hN : 0 < N) (hshort : ∀ s ∈ strs, Short s)
    (hfit : ChainsFit N cityHash32 strs) (m : Nat) :
    ∃ pool, run cityHash32 (initHashPool N) (strs.take m)
        = some (pool, (strs.map (handleOf N cityHash32 strs)).take m) ∧
      ∀ s ∈ strs.take m,
        c_str pool (handleOf N cityHash32 strs s) = textOf N cityHash32 strs s := by
  have hsplit : strs.take m ++ strs.drop m = strs := List.take_append_drop m strs
  have hhandle : ∀ s ∈ strs.take m,
      handleOf N cityHash32 strs s = handleOf N cityHash32 (strs.take m) s := by
    intro s hs
    have happ := handleOf_append N cityHash32 (strs.drop m) hs
    rwa [hsplit] at happ
  have htext : ∀ s ∈ strs.take m,
      textOf N cityHash32 strs s = textOf N cityHash32 (strs.take m) s := by
    intro s hs
    have happ := textOf_append N cityHash32 (strs.drop m) hs
    rwa [hsplit] at happ
  have hfitm : ChainsFit N cityHash32 (strs.take m) :=
    chainsFit_append (strs.drop m) (by rwa [hsplit])
  obtain ⟨pool, hrun, hp⟩ := construct_run cityHash32 hN (strs.take m)
    fun s hs => hshort s (List.mem_of_mem_take hs)
  refine ⟨pool, ?_, fun s hs => ?_⟩
  · rw [hrun, ← List.map_take, List.map_congr_left hhandle]
  · rw [hhandle s hs, htext s hs, c_str_of_fit hN hfitm hp hs]

theorem stable_of_fit (hN : 0 < N) (hshort : ∀ s ∈ strs, Short s)
    (hfit : ChainsFit N cityHash32 strs) : HandlesStable N cityHash32 strs := by
  obtain ⟨pool, _, hread⟩ := run_take hN hshort hfit strs.length
  rw [List.take_length] at hread
  refine ⟨strs.map (handleOf N cityHash32 strs), c_str pool, List.length_map _, ?_, ?_, ?_, ?_⟩
  · intro m _
    obtain ⟨poolm, hrunm, hreadm⟩ := run_take hN hshort hfit m
    refine ⟨poolm, hrunm, fun h hh => ?_⟩
    rw [← List.map_take] at hh
    obtain ⟨s, hs, rfl⟩ := List.mem_map.mp hh
    rw [hreadm s hs, hread s (List.mem_of_mem_take hs)]
  · rw [zip_map_handleOf]
    intro p hp
    obtain ⟨s, hs, rfl⟩ := List.mem_map.mp hp
    obtain ⟨t, ht, hfold, _⟩ := textOf_folded N cityHash32 hs
    exact ⟨t, (hread s hs).trans ht, (strcmpi_eq_zero_iff t s).mpr hfold⟩
  · rw [zip_map_handleOf]
    intro p hp q hq hpq
    obtain ⟨s, hs, rfl⟩ := List.mem_map.mp hp
    obtain ⟨t, ht, rfl⟩ := List.mem_map.mp hq
    cases hpq
    exact (eq_iff _ _).mpr rfl
  · intro h hh g hg hne heq
    obtain ⟨s, hs, rfl⟩ := List.mem_map.mp hh
    obtain ⟨t, ht, rfl⟩ := List.mem_map.mp hg
    obtain ⟨u, hu, hufold, hub⟩ := textOf_folded N cityHash32 hs
    obtain ⟨v, hv, hvfold, hvb⟩ := textOf_folded N cityHash32 ht
    rw [hread s hs, hread t ht, hu, hv] at heq
    cases heq
    have hsame := (handleOf_eq_iff hfit hs ht).mpr ⟨hub.symm.trans hvb, hufold.symm.trans hvfold⟩
    rw [(eq_iff _ _).mpr hsame] at hne
    cases hne

/-- Handles stay and separate exactly when no string is too long and no chain outgrows the
distances. -/
theorem handles_stable_iff (N : Nat) (hN : 0 < N) (cityHash32 : CStr → UInt32)
    (strs : List CStr) : HandlesStable N cityHash32 strs ↔
      (∀ s ∈ strs, Short s) ∧ ChainsFit N cityHash32 strs := by
  constructor
  · intro h
    exact ⟨short_of_stable hN h, fit_of_stable hN h⟩
  · rintro ⟨hshort, hfit⟩
    exact stable_of_fit hN hshort hfit

theorem handles_stable_iff_case : HandlesStable 2 hashOfA [letter 65, letter 97, letter 65] ↔
    (∀ s ∈ [letter 65, letter 97, letter 65], Short s) ∧
      ChainsFit 2 hashOfA [letter 65, letter 97, letter 65] :=
  handles_stable_iff 2 (by decide) hashOfA _

/-- The binary digits of a number as a string. -/
def numeral (digits i : Nat) : CStr where
  bytes := (List.range digits).map fun j => if i.testBit j then 49 else 48
  no_nul := by
    intro h
    obtain ⟨j, _, hj⟩ := List.mem_map.mp h
    revert hj
    cases i.testBit j <;> decide

theorem numeral_folded (digits i : Nat) : (numeral digits i).folded = (numeral digits i).bytes := by
  rw [CStr.folded, numeral, List.map_map]
  refine List.map_congr_left fun j _ => ?_
  rw [Function.comp_apply]
  cases i.testBit j <;> rfl

theorem numeral_folded_inj {digits i k : Nat} (hi : i < 2 ^ digits) (hk : k < 2 ^ digits)
    (h : (numeral digits i).folded = (numeral digits k).folded) : i = k := by
  rw [numeral_folded, numeral_folded] at h
  refine Nat.eq_of_testBit_eq fun j => ?_
  by_cases hj : j < digits
  · have hbit := List.map_inj_left.mp h j (List.mem_range.mpr hj)
    revert hbit
    cases i.testBit j <;> cases k.testBit j <;> decide
  · have hpow : 2 ^ digits ≤ 2 ^ j := Nat.pow_le_pow_right (by decide) (Nat.le_of_not_lt hj)
    rw [Nat.testBit_lt_two_pow (hi.trans_le hpow), Nat.testBit_lt_two_pow (hk.trans_le hpow)]

theorem numeral_short_iff (digits i : Nat) : Short (numeral digits i) ↔ digits + 1 < 2 ^ 32 := by
  rw [Short, CStr.strlen, numeral, List.length_map, List.length_range]

/-- All strings of a run in one bucket, no two equal up to case. -/
theorem not_chainsFit {n digits : Nat} (hn : n ≤ 2 ^ digits) (hlong : 2 ^ 32 < n) :
    ¬ ChainsFit 1 (fun _ => 0) ((List.range n).map (numeral digits)) := by
  intro h
  have h0 := h 0
  have hall : inBucket 1 (fun _ => 0) 0 ((List.range n).map (numeral digits))
      = (List.range n).map (numeral digits) :=
    List.filter_eq_self.mpr fun s _ => by simp [bucketOf]
  have hnodup : (((List.range n).map (numeral digits)).map CStr.folded).Nodup := by
    rw [List.map_map]
    refine List.Nodup.map_on ?_ List.nodup_range
    intro i hi k hk
    have hi' := (List.mem_range.mp hi).trans_le hn
    have hk' := (List.mem_range.mp hk).trans_le hn
    exact numeral_folded_inj hi' hk'
  rw [hall, hnodup.dedup, List.length_map, List.length_map, List.length_range] at h0
  omega

/-- One string more than a distance can count, or one string that is too long. -/
theorem handles_stable_fails :
    ¬ HandlesStable 1 (fun _ => 0) ((List.range (2 ^ 32 + 1)).map (numeral 33)) ∧
      ¬ HandlesStable 1 (fun _ => 0) [numeral (2 ^ 32 - 1) 0] := by
  constructor
  · intro h
    exact not_chainsFit (by omega) (by omega) (fit_of_stable Nat.one_pos h)
  · intro h
    have hshort := (numeral_short_iff _ 0).mp
      (short_of_stable Nat.one_pos h _ (List.mem_singleton.mpr rfl))
    omega

end Stable

end SHashA

end SS
end FBXRenderer
