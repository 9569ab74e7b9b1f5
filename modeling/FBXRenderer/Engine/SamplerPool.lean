import Mathlib.Logic.Function.Basic
import FBXRenderer.Asset.ShaderAsset

/-!
# FBXRenderer.Engine.SamplerPool

`SSSamplerPool`: the samplers of the device by filter and address modes, made at their first use. A
sampler is the number of the `CreateSamplerState` it comes from.

* `samplers_shared`: over any calls the device makes one sampler for each combination that is asked
  for, calls share a sampler exactly if they ask for the same, and the destructor releases each once.
-/

namespace FBXRenderer

inductive TexAddressMode where
  | Repeat
  | MirroredRepeat
  | ClampEdge
  | UserDefinedBorder
  deriving DecidableEq

inductive TexFilterMode where
  | Linear
  deriving DecidableEq

inductive D3D11_TEXTURE_ADDRESS_MODE where
  | WRAP
  | MIRROR
  | CLAMP
  | BORDER
  deriving DecidableEq

inductive D3D11_FILTER where
  | MIN_MAG_MIP_LINEAR
  deriving DecidableEq

/-- The fields that `GetSampler` does not set to the same value for all. -/
structure D3D11_SAMPLER_DESC where
  Filter : D3D11_FILTER
  AddressU : D3D11_TEXTURE_ADDRESS_MODE
  AddressV : D3D11_TEXTURE_ADDRESS_MODE
  deriving DecidableEq

namespace SSSamplerPool

def convertAddressModeToNative : TexAddressMode → D3D11_TEXTURE_ADDRESS_MODE
  | .Repeat => .WRAP
  | .MirroredRepeat => .MIRROR
  | .ClampEdge => .CLAMP
  | .UserDefinedBorder => .BORDER

def convertFilterModeToNative : TexFilterMode → D3D11_FILTER
  | .Linear => .MIN_MAG_MIP_LINEAR

/-- The three indices of `_samplerCache`. -/
structure SamplerKey where
  filterMode : TexFilterMode
  AddressU : TexAddressMode
  AddressV : TexAddressMode
  deriving DecidableEq

def sampDesc (key : SamplerKey) : D3D11_SAMPLER_DESC where
  Filter := convertFilterModeToNative key.filterMode
  AddressU := convertAddressModeToNative key.AddressU
  AddressV := convertAddressModeToNative key.AddressV

end SSSamplerPool

open SSSamplerPool

/-- The cache, what the device was asked to create, and the samplers that are out. -/
structure SSSamplerPool where
  _samplerCache : SamplerKey → Option Nat := fun _ => none
  created : List D3D11_SAMPLER_DESC := []
  handles : Handles := .empty

namespace SSSamplerPool

section Definitions

variable (createSamplerState : D3D11_SAMPLER_DESC → HRESULT)

/-- `GetSampler`, with the assertion on what the device answers. -/
def getSampler (pool : SSSamplerPool) (key : SamplerKey) : Option (Nat × SSSamplerPool) :=
  match pool._samplerCache key with
  | some sampler => some (sampler, pool)
  | none =>
    if FAILED (createSamplerState (sampDesc key)) then none
    else
      let (sampler, handles) := pool.handles.acquire
      some (sampler,
        { _samplerCache := Function.update pool._samplerCache key (some sampler)
          created := pool.created ++ [sampDesc key]
          handles := handles })

/-- Calls from wherever, one after another. -/
def getSamplers (pool : SSSamplerPool) : List SamplerKey → Option (List Nat × SSSamplerPool)
  | [] => some ([], pool)
  | key :: keys => do
    let (sampler, pool) ← getSampler createSamplerState pool key
    let (samplers, pool) ← getSamplers pool keys
    return (sampler :: samplers, pool)

def addressModes : List TexAddressMode :=
  [.Repeat, .MirroredRepeat, .ClampEdge, .UserDefinedBorder]

/-- The three loops of the destructor. -/
def allKeys : List SamplerKey :=
  [TexFilterMode.Linear].flatMap fun i =>
    addressModes.flatMap fun j => addressModes.map fun k => ⟨i, j, k⟩

/-- `~SSSamplerPool`. -/
def destruct (pool : SSSamplerPool) : Handles :=
  allKeys.foldl (fun handles key => (pool._samplerCache key).elim handles handles.release)
    pool.handles

end Definitions

section Run

variable {createSamplerState : D3D11_SAMPLER_DESC → HRESULT} {pool pool' : SSSamplerPool}
  {before keys : List SamplerKey} {key : SamplerKey} {sampler : Nat} {samplers : List Nat}

theorem convertAddressModeToNative_injective :
    Function.Injective convertAddressModeToNative := by
  intro a b h
  cases a <;> cases b <;> first | rfl | cases h

theorem sampDesc_injective : Function.Injective sampDesc := by
  rintro ⟨f, u, v⟩ ⟨f', u', v'⟩ h
  obtain ⟨-, hu, hv⟩ := D3D11_SAMPLER_DESC.mk.inj h
  obtain rfl := convertAddressModeToNative_injective hu
  obtain rfl := convertAddressModeToNative_injective hv
  cases f
  cases f'
  rfl

theorem mem_allKeys (key : SamplerKey) : key ∈ allKeys := by
  obtain ⟨f, u, v⟩ := key
  cases f
  cases u <;> cases v <;> simp [allKeys, addressModes]

theorem nodup_allKeys : allKeys.Nodup := by simp [allKeys, addressModes]

/-- The pool after some calls: the cache is the list of what was created, looked up from the other
side. -/
structure Holds (createSamplerState : D3D11_SAMPLER_DESC → HRESULT) (pool : SSSamplerPool)
    (asked : List SamplerKey) : Prop where
  cache : ∀ key sampler, pool._samplerCache key = some sampler ↔
    pool.created[sampler]? = some (sampDesc key)
  nodup : pool.created.Nodup
  mem_created : ∀ desc, desc ∈ pool.created ↔ ∃ key ∈ asked, sampDesc key = desc
  accepted : ∀ desc ∈ pool.created, ¬ FAILED (createSamplerState desc)
  handles : pool.handles = ⟨pool.created.length, []⟩

theorem Holds.start : Holds createSamplerState {} [] where
  cache := by simp
  nodup := List.nodup_nil
  mem_created := by simp
  accepted := by simp
  handles := rfl

theorem getElem?_concat_iff {A : Type} {xs : List A} {x y : A} {i : Nat} :
    (xs ++ [x])[i]? = some y ↔ xs[i]? = some y ∨ i = xs.length ∧ x = y := by
  rcases Nat.lt_trichotomy i xs.length with hlt | rfl | hgt
  · simp [List.getElem?_append_left hlt, hlt.ne]
  · simp
  · have hnone : xs[i]? = none := List.getElem?_eq_none hgt.le
    simp [hnone, hgt.ne', List.getElem?_eq_none, Nat.succ_le_of_lt hgt]

/-- One call: it answers from the cache, or makes the sampler that is missing. -/
theorem Holds.getSampler (h : Holds createSamplerState pool before)
    (hget : getSampler createSamplerState pool key = some (sampler, pool')) :
    Holds createSamplerState pool' (before ++ [key]) ∧ pool.created <+: pool'.created ∧
      pool'.created[sampler]? = some (sampDesc key) := by
  unfold SSSamplerPool.getSampler at hget
  cases hcache : pool._samplerCache key with
  | some found =>
    rw [hcache] at hget
    cases hget
    have hfound := (h.cache key sampler).mp hcache
    refine ⟨⟨h.cache, h.nodup, fun desc => ?_, h.accepted, h.handles⟩, List.prefix_rfl, hfound⟩
    have hmem := List.mem_of_getElem? hfound
    simp only [List.mem_append, List.mem_singleton, h.mem_created]
    constructor
    · rintro ⟨k, hk, rfl⟩
      exact ⟨k, Or.inl hk, rfl⟩
    · rintro ⟨k, hk | rfl, rfl⟩
      · exact ⟨k, hk, rfl⟩
      · exact (h.mem_created _).mp hmem
  | none =>
    rw [hcache] at hget
    simp only at hget
    split at hget
    · cases hget
    rename_i hok
    cases hget
    -- the missing sampler was not created under another key
    have hnew : sampDesc key ∉ pool.created := by
      intro hmem
      obtain ⟨s, hs⟩ := List.mem_iff_getElem?.mp hmem
      rw [(h.cache key s).mpr hs] at hcache
      cases hcache
    have hgiven : pool.handles.acquire.1 = pool.created.length := by
      rw [h.handles]
      rfl
    have hlast : (pool.created ++ [sampDesc key])[pool.created.length]? = some (sampDesc key) :=
      List.getElem?_concat_length
    rw [hgiven]
    refine ⟨⟨fun k s => ?_, ?_, fun desc => ?_, ?_, ?_⟩, List.prefix_append _ _, hlast⟩
    · show Function.update pool._samplerCache key (some pool.created.length) k = some s ↔
        (pool.created ++ [sampDesc key])[s]? = some (sampDesc k)
      by_cases hk : k = key
      · subst hk
        rw [Function.update_self, getElem?_concat_iff, Option.some_inj]
        have hnot : pool.created[s]? ≠ some (sampDesc k) := fun hs =>
          hnew (List.mem_of_getElem? hs)
        simp [hnot, eq_comm]
      · rw [Function.update_of_ne hk, h.cache, getElem?_concat_iff]
        have hne : sampDesc key ≠ sampDesc k := fun heq => hk (sampDesc_injective heq).symm
        simp [hne]
    · exact List.nodup_append_comm.mp (List.nodup_cons.mpr ⟨hnew, h.nodup⟩)
    · simp only [List.mem_append, List.mem_singleton, h.mem_created, or_and_right, exists_or,
        exists_eq_left]
      rw [eq_comm]
    · intro desc hdesc
      rcases List.mem_append.mp hdesc with hdesc | hdesc
      · exact h.accepted desc hdesc
      · rwa [List.mem_singleton.mp hdesc]
    · rw [h.handles, List.length_append]
      rfl

/-- By induction on the calls: a sampler once made is not made again, so a call is answered by what
was created for its combination. -/
theorem Holds.getSamplers (h : Holds createSamplerState pool before)
    (hget : getSamplers createSamplerState pool keys = some (samplers, pool')) :
    Holds createSamplerState pool' (before ++ keys) ∧ pool.created <+: pool'.created ∧
      samplers.map (pool'.created[·]?) = keys.map fun key => some (sampDesc key) := by
  induction keys generalizing pool before samplers with
  | nil =>
    cases hget
    rw [List.append_nil]
    exact ⟨h, List.prefix_rfl, rfl⟩
  | cons key keys ih =>
    obtain ⟨⟨sampler, pool1⟩, hfirst, hget⟩ := Option.bind_eq_some_iff.mp hget
    obtain ⟨⟨samplers', pool2⟩, hrest, hget⟩ := Option.bind_eq_some_iff.mp hget
    cases hget
    obtain ⟨h1, hprefix1, hsampler⟩ := h.getSampler hfirst
    obtain ⟨h2, hprefix2, hsamplers⟩ := ih h1 hrest
    rw [List.append_cons]
    refine ⟨h2, hprefix1.trans hprefix2, ?_⟩
    rw [List.map_cons, List.map_cons, hsamplers]
    obtain ⟨later, hlater⟩ := hprefix2
    have hlt := (List.getElem?_eq_some_iff.mp hsampler).1
    rw [← hlater, List.getElem?_append_left hlt, hsampler]

theorem Holds.getSampler_isSome_iff (h : Holds createSamplerState pool before) :
    (SSSamplerPool.getSampler createSamplerState pool key).isSome ↔
      ¬ FAILED (createSamplerState (sampDesc key)) := by
  unfold SSSamplerPool.getSampler
  cases hcache : pool._samplerCache key with
  | some found =>
    have hmem := List.mem_of_getElem? ((h.cache key found).mp hcache)
    simpa using h.accepted _ hmem
  | none =>
    simp only
    split
    · rename_i hfailed
      simpa using hfailed
    · rename_i hok
      simpa using hok

theorem Holds.getSamplers_isSome_iff (h : Holds createSamplerState pool before) :
    (SSSamplerPool.getSamplers createSamplerState pool keys).isSome ↔
      ∀ key ∈ keys, ¬ FAILED (createSamplerState (sampDesc key)) := by
  induction keys generalizing pool before with
  | nil => simp [SSSamplerPool.getSamplers]
  | cons key keys ih =>
    rw [List.forall_mem_cons, ← h.getSampler_isSome_iff, SSSamplerPool.getSamplers]
    cases hfirst : SSSamplerPool.getSampler createSamplerState pool key with
    | none => simp
    | some answer =>
      obtain ⟨sampler, pool1⟩ := answer
      rw [← ih (h.getSampler hfirst).1]
      cases hrest : SSSamplerPool.getSamplers createSamplerState pool1 keys <;> simp [hrest]

/-- The loops of the destructor give back what the cache holds. -/
theorem destruct_eq (pool : SSSamplerPool) : pool.destruct =
    ⟨pool.handles.given, pool.handles.returned ++ allKeys.filterMap pool._samplerCache⟩ := by
  unfold destruct
  generalize pool.handles = handles
  induction allKeys generalizing handles with
  | nil => simp
  | cons key keys ih =>
    rw [List.foldl_cons, ih]
    cases hcache : pool._samplerCache key with
    | none => simp [hcache]
    | some sampler => simp [hcache, Handles.release]

/-- Everything that is out is in the cache, under one combination. -/
theorem Holds.cached_perm (h : Holds createSamplerState pool before) :
    (allKeys.filterMap pool._samplerCache).Perm (List.range pool.created.length) := by
  have hnodup : (allKeys.filterMap pool._samplerCache).Nodup := by
    refine nodup_allKeys.filterMap fun k k' s hs hs' => sampDesc_injective ?_
    exact Option.some_inj.mp (((h.cache k s).mp hs).symm.trans ((h.cache k' s).mp hs'))
  rw [List.perm_ext_iff_of_nodup hnodup List.nodup_range]
  intro s
  rw [List.mem_filterMap, List.mem_range]
  constructor
  · rintro ⟨key, -, hkey⟩
    exact (List.getElem?_eq_some_iff.mp ((h.cache key s).mp hkey)).1
  · intro hlt
    have hget := List.getElem?_eq_getElem hlt
    obtain ⟨key, -, hkey⟩ := (h.mem_created _).mp (List.mem_of_getElem? hget)
    rw [← hkey] at hget
    exact ⟨key, mem_allKeys key, (h.cache key s).mpr hget⟩

theorem Holds.destruct (h : Holds createSamplerState pool before) :
    Handles.AllReturnedOnce pool.destruct := by
  have hnone : Handles.Outstanding pool.destruct [] := by
    rw [destruct_eq, h.handles]
    show ([] ++ allKeys.filterMap pool._samplerCache ++ []).Perm (List.range pool.created.length)
    rw [List.nil_append, List.append_nil]
    exact h.cached_perm
  exact hnone.allReturnedOnce_iff.mpr rfl

/-- Whatever is asked for, and however often: the calls return if the device takes every
combination. The device has then made one sampler for each combination, two calls share a sampler
exactly if they asked for the same, and the destructor releases each of them once. -/
theorem samplers_shared (createSamplerState : D3D11_SAMPLER_DESC → HRESULT)
    (keys : List SamplerKey) :
    ((getSamplers createSamplerState {} keys).isSome ↔
        ∀ key ∈ keys, ¬ FAILED (createSamplerState (sampDesc key))) ∧
      ∀ samplers pool, getSamplers createSamplerState {} keys = some (samplers, pool) →
        pool.created.Nodup ∧ (∀ desc, desc ∈ pool.created ↔ ∃ key ∈ keys, sampDesc key = desc) ∧
        samplers.map (pool.created[·]?) = keys.map (fun key => some (sampDesc key)) ∧
        (∀ i j, i < keys.length → j < keys.length →
          (samplers[i]? = samplers[j]? ↔ keys[i]? = keys[j]?)) ∧
        Handles.AllReturnedOnce pool.destruct ∧ pool.destruct.given = pool.created.length := by
  refine ⟨Holds.start.getSamplers_isSome_iff, fun samplers pool hget => ?_⟩
  obtain ⟨h, -, hsamplers⟩ := Holds.start.getSamplers hget
  rw [List.nil_append] at h
  refine ⟨h.nodup, h.mem_created, hsamplers, fun i j hi hj => ?_, h.destruct, ?_⟩
  · have hat : ∀ n, (hn : n < keys.length) → ∃ s, samplers[n]? = some s ∧
        pool.created[s]? = some (sampDesc keys[n]) := by
      intro n hn
      have hget := congrArg (·[n]?) hsamplers
      simp only [List.getElem?_map, List.getElem?_eq_getElem hn, Option.map_some] at hget
      obtain ⟨s, hs, hmade⟩ := Option.map_eq_some_iff.mp hget
      exact ⟨s, hs, hmade⟩
    obtain ⟨s, hs, hmade⟩ := hat i hi
    obtain ⟨t, ht, hmade'⟩ := hat j hj
    rw [hs, ht, List.getElem?_eq_getElem hi, List.getElem?_eq_getElem hj, Option.some_inj,
      Option.some_inj]
    constructor
    · rintro rfl
      exact sampDesc_injective (Option.some_inj.mp (hmade.symm.trans hmade'))
    · intro heq
      rw [← heq] at hmade'
      exact (List.getElem?_inj (List.getElem?_eq_some_iff.mp hmade).1 h.nodup).mp
        (hmade.trans hmade'.symm)
  · rw [destruct_eq, h.handles]

theorem samplers_shared_three :
    let clamped : SamplerKey := ⟨.Linear, .ClampEdge, .Repeat⟩
    let repeated : SamplerKey := ⟨.Linear, .Repeat, .Repeat⟩
    ∃ pool, getSamplers (fun _ => S_OK) {} [repeated, clamped, repeated] =
        some ([0, 1, 0], pool) ∧
      pool.created.Nodup ∧ Handles.AllReturnedOnce pool.destruct ∧
      pool.destruct.given = pool.created.length := by
  intro clamped repeated
  obtain ⟨hnodup, -, -, -, hreturned, hgiven⟩ :=
    (samplers_shared (fun _ => S_OK) [repeated, clamped, repeated]).2 [0, 1, 0] _ rfl
  exact ⟨_, rfl, hnodup, hreturned, hgiven⟩

end Run

end SSSamplerPool

end FBXRenderer
