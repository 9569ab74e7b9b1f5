import Mathlib
import FBXRenderer.Container.SHasher

/-!
# FBXRenderer.Container.SHasherPool

The memory of the string pool: what the constructor of `SHashA` and `InitHashPool` allocate, and
what `ClearHashPool` deletes. The table and the texts come from `new[]` and are deleted with
`delete`; neither has destructors to run, and it is taken to free the block as `delete[]` would.

* `clearHashPool_eq`: clearing deletes the blocks of the pool.
* `construct_step`: a construction allocates the blocks of a new string, and nothing for a known
  one.
* `hash_pool_memory`: in any run everything is deleted once, and at the next `ClearHashPool`.
* `known_strings_keep_pool`: a run goes on without allocating exactly as long as its strings are
  known, so the frames after the first one leave the pool as it is.
-/

namespace FBXRenderer
namespace SS
namespace SHashA

/-- A block of the heap: the table of heads, and the nodes and texts of a chain, named by the bucket
and the distance along the chain. A head is part of the table. -/
inductive Block where
  | table
  | node (bucket place : Nat)
  | text (bucket place : Nat)
deriving DecidableEq

/-- The static members of `SHashA`, and the blocks allocated and deleted so far. -/
structure PoolMemory where
  g_SHasherPool : Option SHasherPool
  g_sHasherPoolCnt : Nat
  allocated : List Block
  deleted : List Block

namespace PoolMemory

def start : PoolMemory := ⟨none, 0, [], []⟩

/-- `InitHashPool()`. -/
def init (m : PoolMemory) : PoolMemory where
  g_SHasherPool := some (initHashPool SHASHER_DEFAULT_POOL_SIZE)
  g_sHasherPoolCnt := SHASHER_DEFAULT_POOL_SIZE
  allocated := m.allocated ++ [.table]
  deleted := m.deleted

end PoolMemory

section Definitions

variable (cityHash32 : CStr → UInt32)

/-- What the constructor allocates for a string. -/
def newBlocks (pool : SHasherPool) (inStr : CStr) : List Block :=
  let strHashValue := (cityHash32 inStr).toNat % pool.g_sHasherPoolCnt
  match pool.chain strHashValue with
  | [] => [.text strHashValue 0]
  | curHashPoolNode :: next =>
    match search inStr curHashPoolNode next 0 with
    | (true, _) => []
    | (false, _) => [.node strHashValue (next.length + 1), .text strHashValue (next.length + 1)]

/-- The constructor. -/
def construct (m : PoolMemory) (inStr : CStr) : Option (PoolMemory × SHashA) :=
  let m := if m.g_SHasherPool.isNone then m.init else m
  m.g_SHasherPool.bind fun pool =>
    (new cityHash32 (some pool) inStr).map fun r =>
      ({ m with
          g_SHasherPool := some r.1
          allocated := m.allocated ++ newBlocks cityHash32 pool inStr }, r.2)

/-- The walk of `ClearHashPool` along the nodes behind a head. -/
def clearNodes (bucket : Nat) : Nat → List SHashPoolNode → List Block
  | _, [] => []
  | place, _ :: rest =>
    .text bucket place :: .node bucket place :: clearNodes bucket (place + 1) rest

/-- The turn of the loop for one bucket. -/
def clearChain (bucket : Nat) : List SHashPoolNode → List Block
  | [] => []
  | _ :: rest => .text bucket 0 :: clearNodes bucket 1 rest

/-- `ClearHashPool`. It keeps the count, so a null pool is read if there was a pool before. -/
def clearHashPool (m : PoolMemory) : Option PoolMemory :=
  match m.g_SHasherPool with
  | none => if m.g_sHasherPoolCnt = 0 then some m else none
  | some pool => some { m with
      g_SHasherPool := none
      deleted := m.deleted ++ ((List.range m.g_sHasherPoolCnt).flatMap fun i =>
        clearChain i (pool.chain i)) ++ [.table] }

inductive PoolOp where
  | construct (inStr : CStr)
  | clearHashPool

/-- One operation, with the handles answered so far. -/
def poolStep (st : PoolMemory × List SHashA) : PoolOp → Option (PoolMemory × List SHashA)
  | .construct inStr => (construct cityHash32 st.1 inStr).map fun r => (r.1, st.2 ++ [r.2])
  | .clearHashPool => (clearHashPool st.1).map fun m => (m, st.2)

def runPool (ops : List PoolOp) : Option (PoolMemory × List SHashA) :=
  ops.foldlM (poolStep cityHash32) (.start, [])

end Definitions

/-- The strings constructed since the pool was last cleared. -/
def since (ops : List PoolOp) : List CStr :=
  ops.foldl (fun strs op =>
    match op with
    | .construct inStr => strs ++ [inStr]
    | .clearHashPool => []) []

/-- The blocks of a pool. -/
def PoolMemory.live (m : PoolMemory) : List Block :=
  match m.g_SHasherPool with
  | none => []
  | some pool => ((List.range m.g_sHasherPoolCnt).flatMap fun i => clearChain i (pool.chain i)) ++
      [.table]

section Blocks

/-- The blocks of the node at a place of a chain. -/
def placeBlocks (bucket : Nat) : Nat → List Block
  | 0 => [.text bucket 0]
  | place + 1 => [.text bucket (place + 1), .node bucket (place + 1)]

theorem clearNodes_concat (bucket : Nat) (nodes : List SHashPoolNode) (node : SHashPoolNode) :
    ∀ place, clearNodes bucket place (nodes ++ [node]) = clearNodes bucket place nodes ++
      [.text bucket (place + nodes.length), .node bucket (place + nodes.length)] := by
  induction nodes with
  | nil => intro place; simp [clearNodes]
  | cons n nodes ih =>
    intro place
    rw [List.cons_append, clearNodes, clearNodes, ih, List.length_cons, Nat.add_assoc,
      Nat.add_comm 1]
    rfl

theorem clearChain_concat (bucket : Nat) (nodes : List SHashPoolNode) (node : SHashPoolNode) :
    clearChain bucket (nodes ++ [node]) =
      clearChain bucket nodes ++ placeBlocks bucket nodes.length := by
  cases nodes with
  | nil => rfl
  | cons n nodes =>
    rw [List.cons_append, clearChain, clearChain, clearNodes_concat, List.length_cons, placeBlocks,
      Nat.add_comm 1]
    rfl

/-- The blocks of a chain, place by place. -/
theorem clearChain_eq (bucket : Nat) (nodes : List SHashPoolNode) :
    clearChain bucket nodes = (List.range nodes.length).flatMap (placeBlocks bucket) := by
  induction nodes using List.reverseRecOn with
  | nil => rfl
  | append_singleton nodes node ih =>
    rw [clearChain_concat, ih, List.length_append, List.length_singleton, List.range_succ,
      List.flatMap_append, List.flatMap_singleton]

/-- One bucket's blocks grow, those of the others stay. -/
theorem flatMap_grown {f g : Nat → List Block} {extra : List Block} {b : Nat} :
    ∀ {buckets : List Nat}, buckets.Nodup → b ∈ buckets → f b = g b ++ extra →
      (∀ c, c ≠ b → f c = g c) → (buckets.flatMap f).Perm (buckets.flatMap g ++ extra) := by
  intro buckets
  induction buckets with
  | nil => intro _ hb; cases hb
  | cons c buckets ih =>
    intro hnodup hb hgrown hothers
    obtain ⟨hc, hrest⟩ := List.nodup_cons.mp hnodup
    rw [List.flatMap_cons, List.flatMap_cons]
    rcases List.mem_cons.mp hb with rfl | hmem
    · have hsame : buckets.flatMap f = buckets.flatMap g :=
        List.flatMap_congr fun d hd => hothers d fun heq => hc (heq ▸ hd)
      rw [hgrown, hsame, List.append_assoc, List.append_assoc]
      exact List.perm_append_comm.append_left (g b)
    · have hne : c ≠ b := fun heq => hc (heq ▸ hmem)
      rw [hothers c hne, List.append_assoc]
      exact (ih hrest hmem hgrown hothers).append_left (g c)

end Blocks

section Known

variable {N : Nat} {cityHash32 : CStr → UInt32} {strs : List CStr} {s : CStr}

/-- The walk finds the string. -/
def Found (N : Nat) (cityHash32 : CStr → UInt32) (strs : List CStr) (s : CStr) : Prop :=
  FirstFit.index sameText (kept N cityHash32 (bucketOf N cityHash32 s) strs) s <
    (kept N cityHash32 (bucketOf N cityHash32 s) strs).length

/-- The bucket of a string, and the text that is kept for it. -/
def classOf (N : Nat) (cityHash32 : CStr → UInt32) (s : CStr) : Nat × List UInt8 :=
  (bucketOf N cityHash32 s, s.folded)

theorem found_iff : Found N cityHash32 strs s ↔
    ∃ t ∈ strs, classOf N cityHash32 t = classOf N cityHash32 s := by
  have hmem : ∀ t, t ∈ inBucket N cityHash32 (bucketOf N cityHash32 s) strs ↔
      t ∈ strs ∧ bucketOf N cityHash32 t = bucketOf N cityHash32 s := by
    intro t
    simp [inBucket]
  unfold Found FirstFit.index
  rw [List.findIdx_lt_length]
  constructor
  · rintro ⟨t, ht, hfit⟩
    obtain ⟨hstrs, hb⟩ := mem_of_mem_kept ht
    exact ⟨t, hstrs, Prod.ext hb ((sameText_iff t s).mp hfit)⟩
  · rintro ⟨t, ht, hclass⟩
    obtain ⟨hb, hfolded⟩ := Prod.ext_iff.mp hclass
    have hin := List.mem_map_of_mem (f := CStr.folded) ((hmem t).mpr ⟨ht, hb⟩)
    obtain ⟨u, hu, hsame⟩ := List.mem_map.mp ((FirstFit.mem_keys_stored sameText_iff).mpr hin)
    exact ⟨u, hu, (sameText_iff u s).mpr (hsame.trans hfolded)⟩

/-- Known strings make no other string known. -/
theorem found_append {more : List CStr} (hmore : ∀ t ∈ more, Found N cityHash32 strs t) :
    Found N cityHash32 (strs ++ more) s ↔ Found N cityHash32 strs s := by
  simp only [found_iff] at hmore ⊢
  constructor
  · rintro ⟨t, ht, hclass⟩
    rcases List.mem_append.mp ht with hold | hlate
    · exact ⟨t, hold, hclass⟩
    · obtain ⟨u, hu, hsame⟩ := hmore t hlate
      exact ⟨u, hu, hsame.trans hclass⟩
  · rintro ⟨t, ht, hclass⟩
    exact ⟨t, List.mem_append_left _ ht, hclass⟩

theorem kept_ne_nil_iff : kept N cityHash32 (bucketOf N cityHash32 s) strs ≠ [] ↔
    bucketOf N cityHash32 s ∈ strs.map (bucketOf N cityHash32) := by
  constructor
  · intro hne
    obtain ⟨t, ht⟩ := List.exists_mem_of_ne_nil _ hne
    obtain ⟨hstrs, hb⟩ := mem_of_mem_kept ht
    exact List.mem_map.mpr ⟨t, hstrs, hb⟩
  · intro hmem
    obtain ⟨t, ht, hb⟩ := List.mem_map.mp hmem
    have hlt := position_lt N cityHash32 ht
    rw [hb] at hlt
    exact List.ne_nil_of_length_pos (by omega)

theorem kept_concat_other {b : Nat} (h : b ≠ bucketOf N cityHash32 s) :
    kept N cityHash32 b (strs ++ [s]) = kept N cityHash32 b strs := by
  rw [kept, kept, inBucket_concat_other h]

/-- The blocks of the pool that a run of strings leaves. -/
def blocksOf (N : Nat) (cityHash32 : CStr → UInt32) (strs : List CStr) : List Block :=
  ((List.range N).flatMap fun b => clearChain b ((kept N cityHash32 b strs).map nodeOf)) ++ [.table]

theorem blocksOf_found (h : Found N cityHash32 strs s) :
    blocksOf N cityHash32 (strs ++ [s]) = blocksOf N cityHash32 strs := by
  have hkept : ∀ b, kept N cityHash32 b (strs ++ [s]) = kept N cityHash32 b strs := by
    intro b
    by_cases hb : b = bucketOf N cityHash32 s
    · rw [hb, kept_concat_same, FirstFit.keep_of_fit sameText h]
    · exact kept_concat_other hb
  simp only [blocksOf, hkept]

theorem blocksOf_new (hN : 0 < N) (h : ¬ Found N cityHash32 strs s) :
    (blocksOf N cityHash32 (strs ++ [s])).Perm (blocksOf N cityHash32 strs ++
      placeBlocks (bucketOf N cityHash32 s)
        (kept N cityHash32 (bucketOf N cityHash32 s) strs).length) := by
  have hown : clearChain (bucketOf N cityHash32 s)
      ((kept N cityHash32 (bucketOf N cityHash32 s) (strs ++ [s])).map nodeOf) =
      clearChain (bucketOf N cityHash32 s)
        ((kept N cityHash32 (bucketOf N cityHash32 s) strs).map nodeOf) ++
      placeBlocks (bucketOf N cityHash32 s)
        (kept N cityHash32 (bucketOf N cityHash32 s) strs).length := by
    rw [kept_concat_same, FirstFit.keep_of_no_fit sameText h, List.map_append, List.map_singleton,
      clearChain_concat, List.length_map]
  have hgrown := flatMap_grown List.nodup_range
    (List.mem_range.mpr (Nat.mod_lt (cityHash32 s).toNat hN))
    (f := fun b => clearChain b ((kept N cityHash32 b (strs ++ [s])).map nodeOf))
    (g := fun b => clearChain b ((kept N cityHash32 b strs).map nodeOf)) hown
    fun c hc => by rw [kept_concat_other hc]
  unfold blocksOf
  refine (hgrown.append_right [Block.table]).trans ?_
  rw [List.append_assoc, List.append_assoc]
  exact List.perm_append_comm.append_left _

theorem blocksOf_nodup : (blocksOf N cityHash32 strs).Nodup := by
  have hplace : ∀ {b k : Nat} {x : Block}, x ∈ placeBlocks b k →
      x = .text b k ∨ x = .node b k := by
    intro b k x hx
    cases k <;> simp [placeBlocks] at hx <;> tauto
  have hchain : ∀ {b : Nat} {nodes : List SHashPoolNode} {x : Block}, x ∈ clearChain b nodes →
      ∃ k, x = .text b k ∨ x = .node b k := by
    intro b nodes x hx
    rw [clearChain_eq] at hx
    obtain ⟨k, _, hk⟩ := List.mem_flatMap.mp hx
    exact ⟨k, hplace hk⟩
  refine List.nodup_append.mpr ⟨List.nodup_flatMap.mpr ⟨fun b _ => ?_, ?_⟩,
    List.nodup_singleton _, ?_⟩
  · rw [clearChain_eq]
    refine List.nodup_flatMap.mpr ⟨fun k _ => ?_, ?_⟩
    · cases k <;> simp [placeBlocks]
    · refine List.nodup_range.pairwise_of_forall_ne fun k _ k' _ hne x hx hx' => hne ?_
      obtain rfl | rfl := hplace hx <;> cases hplace hx' <;> simp_all
  · refine List.nodup_range.pairwise_of_forall_ne fun b _ b' _ hne x hx hx' => hne ?_
    obtain ⟨k, rfl | rfl⟩ := hchain hx <;> obtain ⟨k', h | h⟩ := hchain hx' <;> simp_all
  · intro x hx y hy
    obtain ⟨b, _, hb⟩ := List.mem_flatMap.mp hx
    obtain ⟨k, rfl | rfl⟩ := hchain hb <;> simp_all

/-- The classes of the strings of a run, and the buckets they use. -/
def classes (N : Nat) (cityHash32 : CStr → UInt32) (strs : List CStr) :
    Finset (Nat × List UInt8) :=
  (strs.map (classOf N cityHash32)).toFinset

def usedBuckets (N : Nat) (cityHash32 : CStr → UInt32) (strs : List CStr) : Finset Nat :=
  (strs.map (bucketOf N cityHash32)).toFinset

theorem classes_concat : classes N cityHash32 (strs ++ [s]) =
    insert (classOf N cityHash32 s) (classes N cityHash32 strs) := by
  ext x
  simp [classes, eq_comm]

theorem usedBuckets_concat : usedBuckets N cityHash32 (strs ++ [s]) =
    insert (bucketOf N cityHash32 s) (usedBuckets N cityHash32 strs) := by
  ext x
  simp [usedBuckets, eq_comm]

/-- A text and a node for every class, but for the heads. -/
theorem blocksOf_length (hN : 0 < N) :
    (blocksOf N cityHash32 strs).length + (usedBuckets N cityHash32 strs).card =
      1 + 2 * (classes N cityHash32 strs).card := by
  induction strs using List.reverseRecOn with
  | nil =>
    have hempty : ((List.range N).flatMap fun b =>
        clearChain b ((kept N cityHash32 b []).map nodeOf)) = [] :=
      List.flatMap_eq_nil_iff.mpr fun b _ => rfl
    simp [blocksOf, hempty, usedBuckets, classes]
  | append_singleton strs s ih =>
    have hclass : classOf N cityHash32 s ∈ classes N cityHash32 strs ↔
        Found N cityHash32 strs s := by
      rw [found_iff, classes, List.mem_toFinset, List.mem_map]
    have hused : bucketOf N cityHash32 s ∈ usedBuckets N cityHash32 strs ↔
        kept N cityHash32 (bucketOf N cityHash32 s) strs ≠ [] := by
      rw [kept_ne_nil_iff, usedBuckets, List.mem_toFinset]
    rw [classes_concat, usedBuckets_concat]
    by_cases hfound : Found N cityHash32 strs s
    · have hne : kept N cityHash32 (bucketOf N cityHash32 s) strs ≠ [] := by
        rintro heq
        rw [Found, heq] at hfound
        exact Nat.not_lt_zero _ hfound
      rw [blocksOf_found hfound, Finset.insert_eq_of_mem (hclass.mpr hfound),
        Finset.insert_eq_of_mem (hused.mpr hne)]
      exact ih
    · rw [(blocksOf_new hN hfound).length_eq, List.length_append,
        Finset.card_insert_of_notMem (hclass.not.mpr hfound)]
      cases hkept : kept N cityHash32 (bucketOf N cityHash32 s) strs with
      | nil =>
        rw [Finset.card_insert_of_notMem (hused.not.mpr (not_not.mpr hkept))]
        show _ + 1 + _ = _
        omega
      | cons t rest =>
        have hmem := hused.mpr (hkept ▸ List.cons_ne_nil t rest)
        rw [Finset.insert_eq_of_mem hmem]
        show _ + 2 + _ = _
        omega

end Known

section Step

variable {N : Nat} {cityHash32 : CStr → UInt32} {strs : List CStr} {s : CStr}

/-- The constructor allocates exactly where the walk finds nothing. -/
theorem newBlocks_eq (hN : 0 < N) {pool : SHasherPool} (hp : PoolAfter N cityHash32 strs pool)
    (s : CStr) :
    (Found N cityHash32 strs s → newBlocks cityHash32 pool s = []) ∧
      (¬ Found N cityHash32 strs s → (newBlocks cityHash32 pool s).Perm
        (placeBlocks (bucketOf N cityHash32 s)
          (kept N cityHash32 (bucketOf N cityHash32 s) strs).length)) := by
  have hchain := hp.chain _ (Nat.mod_lt (cityHash32 s).toNat hN)
  change pool.chain (bucketOf N cityHash32 s) =
    (kept N cityHash32 (bucketOf N cityHash32 s) strs).map nodeOf at hchain
  have hbucket : (cityHash32 s).toNat % pool.g_sHasherPoolCnt = bucketOf N cityHash32 s := by
    rw [hp.count, bucketOf]
  unfold newBlocks Found
  simp only [hbucket, hchain]
  cases kept N cityHash32 (bucketOf N cityHash32 s) strs with
  | nil =>
    exact ⟨fun hlt => absurd hlt (Nat.not_lt_zero _), fun _ => List.Perm.refl _⟩
  | cons t rest =>
    simp only [List.map_cons, search_eq]
    by_cases hlt : FirstFit.index sameText (t :: rest) s < (t :: rest).length
    · rw [if_pos hlt]
      exact ⟨fun _ => rfl, fun hnot => absurd hlt hnot⟩
    · rw [if_neg hlt, List.length_map]
      exact ⟨fun h => absurd h hlt, fun _ => List.Perm.swap ..⟩

/-- The memory after the strings of a run, with nothing cleared since. -/
structure MemoryAfter (cityHash32 : CStr → UInt32) (strs : List CStr) (m : PoolMemory) : Prop where
  pool : ∃ pool, m.g_SHasherPool = some pool ∧
    PoolAfter SHASHER_DEFAULT_POOL_SIZE cityHash32 strs pool
  count : m.g_sHasherPoolCnt = SHASHER_DEFAULT_POOL_SIZE
  ledger : m.allocated.Perm
    (m.deleted ++ blocksOf SHASHER_DEFAULT_POOL_SIZE cityHash32 strs)

theorem MemoryAfter.live {m : PoolMemory} (h : MemoryAfter cityHash32 strs m) :
    m.live = blocksOf SHASHER_DEFAULT_POOL_SIZE cityHash32 strs := by
  obtain ⟨pool, hpool, hp⟩ := h.pool
  have hchains : ((List.range SHASHER_DEFAULT_POOL_SIZE).flatMap fun i =>
      clearChain i (pool.chain i)) = (List.range SHASHER_DEFAULT_POOL_SIZE).flatMap fun b =>
        clearChain b ((kept SHASHER_DEFAULT_POOL_SIZE cityHash32 b strs).map nodeOf) :=
    List.flatMap_congr fun b hb => by rw [hp.chain b (List.mem_range.mp hb)]
  simp only [PoolMemory.live, hpool, h.count, hchains, blocksOf]

theorem memoryAfter_init {m : PoolMemory} (h : m.allocated.Perm m.deleted) :
    MemoryAfter cityHash32 [] m.init where
  pool := ⟨_, rfl, poolAfter_init⟩
  count := rfl
  ledger := by
    have hempty : blocksOf SHASHER_DEFAULT_POOL_SIZE cityHash32 [] = [Block.table] := by
      have hnone : ((List.range SHASHER_DEFAULT_POOL_SIZE).flatMap fun b =>
          clearChain b ((kept SHASHER_DEFAULT_POOL_SIZE cityHash32 b []).map nodeOf)) = [] :=
        List.flatMap_eq_nil_iff.mpr fun b _ => rfl
      rw [blocksOf, hnone, List.nil_append]
    rw [hempty]
    exact h.append_right _

/-- A construction with a pool: the memory stays for a known string, and grows for a new one. -/
theorem construct_step {m : PoolMemory} (h : MemoryAfter cityHash32 strs m) (hs : Short s) :
    ∃ m', construct cityHash32 m s =
        some (m', handleOf SHASHER_DEFAULT_POOL_SIZE cityHash32 (strs ++ [s]) s) ∧
      MemoryAfter cityHash32 (strs ++ [s]) m' ∧
      (Found SHASHER_DEFAULT_POOL_SIZE cityHash32 strs s → m' = m) ∧
      (¬ Found SHASHER_DEFAULT_POOL_SIZE cityHash32 strs s →
        m.allocated.length < m'.allocated.length) := by
  have hN : 0 < SHASHER_DEFAULT_POOL_SIZE := by decide
  obtain ⟨pool, hpool, hp⟩ := h.pool
  obtain ⟨pool', hnew, hp'⟩ := new_short hN hp hs
  obtain ⟨hknown, hgrown⟩ := newBlocks_eq hN hp s
  refine ⟨{ m with
    g_SHasherPool := some pool'
    allocated := m.allocated ++ newBlocks cityHash32 pool s }, ?_, ⟨⟨pool', rfl, hp'⟩, h.count, ?_⟩,
    ?_, ?_⟩
  · simp only [construct, hpool, Option.isNone_some, Bool.false_eq_true, if_false, Option.bind_some,
      hnew, Option.map_some]
  · show (m.allocated ++ newBlocks cityHash32 pool s).Perm _
    by_cases hfound : Found SHASHER_DEFAULT_POOL_SIZE cityHash32 strs s
    · rw [hknown hfound, List.append_nil, blocksOf_found hfound]
      exact h.ledger
    · refine (h.ledger.append (hgrown hfound)).trans ?_
      rw [List.append_assoc]
      exact (blocksOf_new hN hfound).symm.append_left _
  · intro hfound
    have hsame : pool' = pool := by
      rw [new_eq hN hp, if_pos (show FirstFit.index _ _ _ < _ from hfound)] at hnew
      exact (congrArg Prod.fst (Option.some.inj hnew)).symm
    rw [hsame, hknown hfound, List.append_nil, ← hpool]
  · intro hfound
    have hlen := (hgrown hfound).length_eq
    show _ < (m.allocated ++ newBlocks cityHash32 pool s).length
    rw [List.length_append, hlen]
    cases (kept SHASHER_DEFAULT_POOL_SIZE cityHash32
        (bucketOf SHASHER_DEFAULT_POOL_SIZE cityHash32 s) strs).length with
    | zero => exact Nat.lt_add_one _
    | succ k => exact Nat.lt_add_of_pos_right (Nat.zero_lt_succ _)

end Step

section Runs

variable {cityHash32 : CStr → UInt32} {ops : List PoolOp}

theorem since_construct (ops : List PoolOp) (s : CStr) :
    since (ops ++ [.construct s]) = since ops ++ [s] := by
  rw [since, List.foldl_append]
  rfl

theorem since_clearHashPool (ops : List PoolOp) : since (ops ++ [.clearHashPool]) = [] := by
  rw [since, List.foldl_append]
  rfl

theorem runPool_concat (ops : List PoolOp) (op : PoolOp) :
    runPool cityHash32 (ops ++ [op]) =
      (runPool cityHash32 ops).bind fun st => poolStep cityHash32 st op := by
  rw [runPool, PartialRun.foldlM_concat]
  rfl

/-- The memory after a run. -/
structure PoolState (cityHash32 : CStr → UInt32) (ops : List PoolOp) (m : PoolMemory) : Prop where
  alive : since ops ≠ [] → MemoryAfter cityHash32 (since ops) m
  cleared : since ops = [] → m.g_SHasherPool = none ∧ m.allocated.Perm m.deleted ∧
    (m.g_sHasherPoolCnt = 0 ↔ ∀ s, .construct s ∉ ops)

theorem poolState_start : PoolState cityHash32 [] .start where
  alive := fun h => absurd rfl h
  cleared := fun _ => ⟨rfl, List.Perm.refl _, by simp [PoolMemory.start]⟩

/-- Before a construction the pool is there, or it is initialised. -/
theorem PoolState.ready {m : PoolMemory} (h : PoolState cityHash32 ops m) (s : CStr) :
    ∃ m', MemoryAfter cityHash32 (since ops) m' ∧
      construct cityHash32 m s = construct cityHash32 m' s := by
  by_cases hsince : since ops = []
  · obtain ⟨hpool, hledger, -⟩ := h.cleared hsince
    refine ⟨m.init, hsince ▸ memoryAfter_init hledger, ?_⟩
    unfold construct
    rw [hpool]
    rfl
  · exact ⟨m, h.alive hsince, rfl⟩

theorem PoolState.construct {m : PoolMemory} (h : PoolState cityHash32 ops m) {s : CStr}
    (hs : Short s) : ∃ m', construct cityHash32 m s =
        some (m', handleOf SHASHER_DEFAULT_POOL_SIZE cityHash32 (since ops ++ [s]) s) ∧
      PoolState cityHash32 (ops ++ [.construct s]) m' := by
  obtain ⟨m0, hready, hsame⟩ := h.ready s
  obtain ⟨m', hrun, hafter, -⟩ := construct_step hready hs
  refine ⟨m', hsame.trans hrun, fun _ => by rw [since_construct]; exact hafter, fun hnil => ?_⟩
  rw [since_construct] at hnil
  exact absurd hnil (List.append_ne_nil_of_right_ne_nil _ (List.cons_ne_nil s []))

theorem PoolState.construct_long {m : PoolMemory} (h : PoolState cityHash32 ops m) {s : CStr}
    (hs : ¬ Short s) : SHashA.construct cityHash32 m s = none := by
  obtain ⟨m0, hready, hsame⟩ := h.ready s
  obtain ⟨pool, hpool, hp⟩ := hready.pool
  have hnew := new_long (by decide : 0 < SHASHER_DEFAULT_POOL_SIZE) hp hs
  rw [hsame]
  simp only [SHashA.construct, hpool, Option.isNone_some, Bool.false_eq_true, if_false,
    Option.bind_some, hnew, Option.map_none]

theorem clearHashPool_eq {m : PoolMemory} {pool : SHasherPool} (h : m.g_SHasherPool = some pool) :
    clearHashPool m = some { m with
      g_SHasherPool := none
      deleted := m.deleted ++ m.live } := by
  simp only [clearHashPool, PoolMemory.live, h, List.append_assoc]

/-- The pool was cleared, and nothing was constructed since. -/
def JustCleared (ops : List PoolOp) : Prop := since ops = [] ∧ ∃ s, .construct s ∈ ops

theorem mem_of_mem_since {s : CStr} : ∀ {ops : List PoolOp}, s ∈ since ops →
    .construct s ∈ ops := by
  intro ops
  induction ops using List.reverseRecOn with
  | nil => intro h; cases h
  | append_singleton ops op ih =>
    intro h
    cases op with
    | construct t =>
      rw [since_construct] at h
      rcases List.mem_append.mp h with hold | hlast
      · exact List.mem_append_left _ (ih hold)
      · rw [List.mem_singleton.mp hlast]
        exact List.mem_append_right _ (List.mem_singleton_self _)
    | clearHashPool =>
      rw [since_clearHashPool] at h
      cases h

theorem PoolState.clear_just_cleared {m : PoolMemory} (h : PoolState cityHash32 ops m)
    (hjust : JustCleared ops) : clearHashPool m = none := by
  obtain ⟨hsince, s, hs⟩ := hjust
  obtain ⟨hpool, -, hcount⟩ := h.cleared hsince
  simp only [clearHashPool, hpool, if_neg fun hzero => hcount.mp hzero s hs]

/-- Clearing goes through with a pool, and without one before the first construction. -/
theorem PoolState.clear {m : PoolMemory} (h : PoolState cityHash32 ops m)
    (hnot : ¬ JustCleared ops) :
    ∃ m', clearHashPool m = some m' ∧ PoolState cityHash32 (ops ++ [.clearHashPool]) m' := by
  have hmem : (∀ s, .construct s ∉ ops ++ [.clearHashPool]) ↔ ∀ s, .construct s ∉ ops := by simp
  have halive : since (ops ++ [.clearHashPool]) ≠ [] → False := by
    rw [since_clearHashPool]
    exact fun hne => hne rfl
  by_cases hsince : since ops = []
  · obtain ⟨hpool, hledger, hcount⟩ := h.cleared hsince
    have hunused : ∀ s, .construct s ∉ ops := fun s hs => hnot ⟨hsince, s, hs⟩
    refine ⟨m, by simp only [clearHashPool, hpool, if_pos (hcount.mpr hunused)], ?_, fun _ => ?_⟩
    · exact fun hne => (halive hne).elim
    · exact ⟨hpool, hledger, hcount.trans hmem.symm⟩
  · have hafter := h.alive hsince
    obtain ⟨pool, hpool, -⟩ := hafter.pool
    refine ⟨_, clearHashPool_eq hpool, fun hne => (halive hne).elim, fun _ => ⟨rfl, ?_, ?_⟩⟩
    · show m.allocated.Perm (m.deleted ++ m.live)
      rw [hafter.live]
      exact hafter.ledger
    · refine iff_of_false ?_ fun hnone => ?_
      · show m.g_sHasherPoolCnt ≠ 0
        rw [hafter.count]
        decide
      · obtain ⟨s, hs⟩ := List.exists_mem_of_ne_nil _ hsince
        exact hmem.mp hnone s (mem_of_mem_since hs)

/-- Every string fits a node, and the pool is not cleared twice in a row. -/
def Sound (ops : List PoolOp) : Prop :=
  (∀ s, .construct s ∈ ops → Short s) ∧
    ∀ before, before ++ [.clearHashPool] <+: ops → ¬ JustCleared before

theorem sound_concat (ops : List PoolOp) (op : PoolOp) :
    Sound (ops ++ [op]) ↔ Sound ops ∧
      match op with
      | .construct s => Short s
      | .clearHashPool => ¬ JustCleared ops := by
  have hstart : ∀ before, before ++ [.clearHashPool] <+: ops ++ [op] ↔
      (before = ops ∧ op = .clearHashPool) ∨ before ++ [.clearHashPool] <+: ops := by
    intro before
    rw [List.prefix_concat_iff]
    refine or_congr_left ⟨fun heq => ?_, fun h => by rw [h.1, h.2]⟩
    obtain ⟨hbefore, hop⟩ := List.append_inj' heq rfl
    exact ⟨hbefore, (List.singleton_inj.mp hop).symm⟩
  unfold Sound
  simp only [hstart]
  cases op with
  | construct s => simp; grind
  | clearHashPool => simp; grind

/-- A run goes through exactly when it is sound. -/
theorem runPool_iff (cityHash32 : CStr → UInt32) (ops : List PoolOp) :
    ((runPool cityHash32 ops).isSome ↔ Sound ops) ∧
      ∀ st, runPool cityHash32 ops = some st → PoolState cityHash32 ops st.1 := by
  induction ops using List.reverseRecOn with
  | nil =>
    refine ⟨iff_of_true rfl ⟨fun s hs => (List.not_mem_nil hs).elim, fun before hpre => ?_⟩, ?_⟩
    · exact absurd (List.prefix_nil.mp hpre)
        (List.append_ne_nil_of_right_ne_nil _ (List.cons_ne_nil _ _))
    · rintro st hst
      cases hst
      exact poolState_start
  | append_singleton ops op ih =>
    obtain ⟨hiff, hstate⟩ := ih
    rw [runPool_concat, sound_concat, ← hiff]
    cases hrun : runPool cityHash32 ops with
    | none => simp
    | some st =>
      have h := hstate st hrun
      simp only [Option.bind_some, Option.isSome_some, true_and]
      cases op with
      | construct s =>
        by_cases hs : Short s
        · obtain ⟨m', hnew, hstate'⟩ := h.construct hs
          simp only [poolStep, hnew, Option.map_some, Option.isSome_some, true_iff]
          refine ⟨hs, ?_⟩
          intro st' hst'
          cases hst'
          exact hstate'
        · simp [poolStep, h.construct_long hs, hs]
      | clearHashPool =>
        by_cases hjust : JustCleared ops
        · simp [poolStep, h.clear_just_cleared hjust, hjust]
        · obtain ⟨m', hclear, hstate'⟩ := h.clear hjust
          simp only [poolStep, hclear, Option.map_some, Option.isSome_some, true_iff]
          refine ⟨hjust, ?_⟩
          intro st' hst'
          cases hst'
          exact hstate'

/-- Constructing and clearing in any order, from the start. The run fails exactly at a string that
no node can hold, or when a cleared pool is cleared again. Otherwise every block that was allocated
has been deleted once or belongs to the pool; after `ClearHashPool` nothing is left, and before the
pool has one text for every class of strings in it and one node fewer for every used bucket. -/
theorem hash_pool_memory (cityHash32 : CStr → UInt32) (ops : List PoolOp) :
    ((runPool cityHash32 ops).isSome ↔ Sound ops) ∧
      ∀ m handles, runPool cityHash32 ops = some (m, handles) →
        m.allocated.Perm (m.deleted ++ m.live) ∧ m.live.Nodup ∧
        (since ops = [] → m.live = []) ∧
        (since ops ≠ [] → m.live.length +
            (usedBuckets SHASHER_DEFAULT_POOL_SIZE cityHash32 (since ops)).card =
          1 + 2 * (classes SHASHER_DEFAULT_POOL_SIZE cityHash32 (since ops)).card) := by
  obtain ⟨hiff, hstate⟩ := runPool_iff cityHash32 ops
  refine ⟨hiff, fun m handles hrun => ?_⟩
  have h : PoolState cityHash32 ops m := hstate _ hrun
  by_cases hsince : since ops = []
  · obtain ⟨hpool, hledger, -⟩ := h.cleared hsince
    have hnone : m.live = [] := by rw [PoolMemory.live, hpool]
    rw [hnone, List.append_nil]
    exact ⟨hledger, List.nodup_nil, fun _ => rfl, fun hne => absurd hsince hne⟩
  · have hafter := h.alive hsince
    rw [hafter.live]
    exact ⟨hafter.ledger, blocksOf_nodup, fun hnil => absurd hnil hsince,
      fun _ => blocksOf_length (by decide)⟩

theorem since_map_construct (strs : List CStr) : since (strs.map .construct) = strs := by
  induction strs using List.reverseRecOn with
  | nil => rfl
  | append_singleton strs s ih => rw [List.map_append, List.map_singleton, since_construct, ih]

variable (cityHash32) in
/-- A run of constructions. -/
theorem runPool_construct {strs : List CStr} (h : ∀ s ∈ strs, Short s) :
    ∃ m, runPool cityHash32 (strs.map .construct) =
        some (m, strs.map (handleOf SHASHER_DEFAULT_POOL_SIZE cityHash32 strs)) ∧
      PoolState cityHash32 (strs.map .construct) m := by
  induction strs using List.reverseRecOn with
  | nil => exact ⟨.start, rfl, poolState_start⟩
  | append_singleton strs s ih =>
    obtain ⟨m, hrun, hstate⟩ := ih fun t ht => h t (List.mem_append_left _ ht)
    obtain ⟨m', hnew, hstate'⟩ :=
      hstate.construct (h s (List.mem_append_right _ (List.mem_singleton_self s)))
    rw [since_map_construct] at hnew
    refine ⟨m', ?_, by rw [List.map_append]; exact hstate'⟩
    have hold : strs.map (handleOf SHASHER_DEFAULT_POOL_SIZE cityHash32 (strs ++ [s])) =
        strs.map (handleOf SHASHER_DEFAULT_POOL_SIZE cityHash32 strs) :=
      List.map_congr_left fun t ht => handleOf_append _ cityHash32 [s] ht
    rw [List.map_append, List.map_singleton, runPool_concat, hrun, Option.bind_some,
      List.map_append, hold, List.map_singleton]
    simp only [poolStep, hnew, Option.map_some]

/-- More constructions after the first: the memory stays as long as every string is known. -/
theorem runPool_more {strs : List CStr} (hne : strs ≠ []) (hstrs : ∀ s ∈ strs, Short s)
    {more : List CStr} (hmore : ∀ s ∈ more, Short s) {m m' : PoolMemory}
    {handles handles' : List SHashA}
    (hrun : runPool cityHash32 (strs.map .construct) = some (m, handles))
    (hrun' : runPool cityHash32 ((strs ++ more).map .construct) = some (m', handles')) :
    ((∀ s ∈ more, Found SHASHER_DEFAULT_POOL_SIZE cityHash32 strs s) → m' = m) ∧
      ((∃ s ∈ more, ¬ Found SHASHER_DEFAULT_POOL_SIZE cityHash32 strs s) →
        m.allocated.length < m'.allocated.length) := by
  induction more using List.reverseRecOn generalizing m' handles' with
  | nil =>
    rw [List.append_nil, hrun] at hrun'
    cases hrun'
    exact ⟨fun _ => rfl, fun ⟨s, hs, _⟩ => (List.not_mem_nil hs).elim⟩
  | append_singleton more s ih =>
    have hmore' : ∀ t ∈ more, Short t := fun t ht => hmore t (List.mem_append_left _ ht)
    have hs : Short s := hmore s (List.mem_append_right _ (List.mem_singleton_self s))
    have hshort : ∀ t ∈ strs ++ more, Short t := fun t ht =>
      (List.mem_append.mp ht).elim (hstrs t) (hmore' t)
    obtain ⟨m1, hrun1, hstate1⟩ := runPool_construct cityHash32 hshort
    obtain ⟨hsame, hgrown⟩ := ih hmore' hrun1
    have hafter := hstate1.alive (by
      rw [since_map_construct]
      exact List.append_ne_nil_of_left_ne_nil hne _)
    rw [since_map_construct] at hafter
    obtain ⟨m2, hnew, -, hknown2, hgrown2⟩ := construct_step hafter hs
    have hm' : m' = m2 := by
      rw [← List.append_assoc, List.map_append, List.map_singleton, runPool_concat, hrun1,
        Option.bind_some, poolStep, hnew] at hrun'
      exact (congrArg Prod.fst (Option.some.inj hrun')).symm
    rw [hm']
    constructor
    · intro hall
      have hall' : ∀ t ∈ more, Found SHASHER_DEFAULT_POOL_SIZE cityHash32 strs t :=
        fun t ht => hall t (List.mem_append_left _ ht)
      have hs' := hall s (List.mem_append_right _ (List.mem_singleton_self s))
      rw [hknown2 ((found_append hall').mpr hs'), hsame hall']
    · rintro ⟨t, ht, hnot⟩
      by_cases hall' : ∀ t ∈ more, Found SHASHER_DEFAULT_POOL_SIZE cityHash32 strs t
      · have hts : t = s := by
          rcases List.mem_append.mp ht with hold | hlast
          · exact absurd (hall' t hold) hnot
          · exact List.mem_singleton.mp hlast
        subst hts
        rw [← hsame hall']
        exact hgrown2 fun hfound => hnot ((found_append hall').mp hfound)
      · push Not at hall'
        obtain ⟨u, hu, hunot⟩ := hall'
        have hlt := hgrown ⟨u, hu, hunot⟩
        by_cases hfound : Found SHASHER_DEFAULT_POOL_SIZE cityHash32 (strs ++ more) s
        · rw [hknown2 hfound]
          exact hlt
        · exact hlt.trans (hgrown2 hfound)

/-- After a run of strings, further ones leave the pool and the heap as they are exactly when each
has the bucket of an earlier string that `strcmpi` does not tell from it; their handles are then
those of the earlier strings. -/
theorem known_strings_keep_pool (cityHash32 : CStr → UInt32) (strs more : List CStr)
    (hne : strs ≠ []) (hstrs : ∀ s ∈ strs, Short s) (hmore : ∀ s ∈ more, Short s) :
    ∃ m m' handles, runPool cityHash32 (strs.map .construct) = some (m, handles) ∧
      runPool cityHash32 ((strs ++ more).map .construct) = some (m',
        handles ++ more.map (handleOf SHASHER_DEFAULT_POOL_SIZE cityHash32 (strs ++ more))) ∧
      (m' = m ↔ ∀ s ∈ more, ∃ t ∈ strs, bucketOf SHASHER_DEFAULT_POOL_SIZE cityHash32 t =
        bucketOf SHASHER_DEFAULT_POOL_SIZE cityHash32 s ∧ strcmpi t s = 0) ∧
      ∀ s ∈ more, ∀ t ∈ strs, bucketOf SHASHER_DEFAULT_POOL_SIZE cityHash32 t =
        bucketOf SHASHER_DEFAULT_POOL_SIZE cityHash32 s → strcmpi t s = 0 →
        handleOf SHASHER_DEFAULT_POOL_SIZE cityHash32 (strs ++ more) s =
          handleOf SHASHER_DEFAULT_POOL_SIZE cityHash32 strs t := by
  have hshort : ∀ s ∈ strs ++ more, Short s := fun s hs =>
    (List.mem_append.mp hs).elim (hstrs s) (hmore s)
  obtain ⟨m, hrun, -⟩ := runPool_construct cityHash32 hstrs
  obtain ⟨m', hrun', -⟩ := runPool_construct cityHash32 hshort
  obtain ⟨hsame, hgrown⟩ := runPool_more hne hstrs hmore hrun hrun'
  have hold : strs.map (handleOf SHASHER_DEFAULT_POOL_SIZE cityHash32 (strs ++ more)) =
      strs.map (handleOf SHASHER_DEFAULT_POOL_SIZE cityHash32 strs) :=
    List.map_congr_left fun t ht => handleOf_append _ cityHash32 more ht
  have hfound : ∀ s, Found SHASHER_DEFAULT_POOL_SIZE cityHash32 strs s ↔
      ∃ t ∈ strs, bucketOf SHASHER_DEFAULT_POOL_SIZE cityHash32 t =
        bucketOf SHASHER_DEFAULT_POOL_SIZE cityHash32 s ∧ strcmpi t s = 0 := by
    intro s
    simp only [found_iff, classOf, Prod.mk.injEq, strcmpi_eq_zero_iff]
  refine ⟨m, m', _, hrun, ?_, ?_, ?_⟩
  · rw [hrun', List.map_append, hold]
  · simp only [← hfound]
    constructor
    · rintro rfl s hs
      by_contra hnot
      exact Nat.lt_irrefl _ (hgrown ⟨s, hs, hnot⟩)
    · exact hsame
  · intro s hs t ht hbucket hcmp
    rw [← handleOf_append SHASHER_DEFAULT_POOL_SIZE cityHash32 more ht]
    have hfolded := (strcmpi_eq_zero_iff t s).mp hcmp
    have hposition := (position_eq_iff (List.mem_append_right _ hs)
      (List.mem_append_left more ht) hbucket.symm).mpr hfolded.symm
    rw [handleOf, handleOf, hposition, hbucket]

/-- `"b"` and `"C"` after `"B"`, `"C"` and `"A"`. -/
theorem known_strings_keep_pool_again :
    let strs : List CStr := [letter 66, letter 67, letter 65]
    let more : List CStr := [letter 98, letter 67]
    ∃ m m' handles, runPool hashOfA (strs.map .construct) = some (m, handles) ∧
      runPool hashOfA ((strs ++ more).map .construct) = some (m',
        handles ++ more.map (handleOf SHASHER_DEFAULT_POOL_SIZE hashOfA (strs ++ more))) ∧
      m' = m := by
  intro strs more
  have hshort : ∀ s ∈ strs ++ more, Short s := by
    intro s hs
    simp only [strs, more, List.cons_append, List.nil_append, List.mem_cons, List.not_mem_nil,
      or_false] at hs
    rcases hs with rfl | rfl | rfl | rfl | rfl
    all_goals
      rw [Short]
      decide
  obtain ⟨m, m', handles, hrun, hrun', hiff, -⟩ := known_strings_keep_pool hashOfA strs more
    (List.cons_ne_nil _ _) (fun s hs => hshort s (List.mem_append_left _ hs))
    fun s hs => hshort s (List.mem_append_right _ hs)
  refine ⟨m, m', handles, hrun, hrun', hiff.mpr fun s hs => ?_⟩
  simp only [more, List.mem_cons, List.not_mem_nil, or_false] at hs
  rcases hs with rfl | rfl
  · exact ⟨letter 66, List.mem_cons_self, by decide, by decide⟩
  · exact ⟨letter 67, List.mem_cons_of_mem _ List.mem_cons_self, rfl, by decide⟩

end Runs

end SHashA
end SS
end FBXRenderer
