import Mathlib
import FBXRenderer.Asset.AssetPools
import FBXRenderer.Asset.MaterialBuffers
import FBXRenderer.Engine.Vector

/-!
# FBXRenderer.Asset.PbrMaterial

Textures by name: `LoadTextures` and the lookup of `SSTextureAssetManager`, and the textures and
parameters of an `SSPbrMaterialAsset`. A texture is named by its index in `_textureList`. `none` is
a null pointer that is dereferenced, or an index outside the list.

* `Loaded.find_known`, `Loaded.find_unknown`: after loading, a name is found exactly if the hash map
  holds it, and what is found has the name.
* `instantiateGPUBuffer_bound`: every slot of a new material has a texture.
* `syncAllTextureItemWithName_bound`: a sync gives every slot the texture of its name where there is
  one, and leaves the others.
-/

namespace FBXRenderer

open SS

/-- The value of the enumeration is the index of the texture. -/
inductive TexToReturnOnFail where
  | MAGENTA
  | WHITE
  | BLACK
  | EMPTYNORMAL
  | Return_NULL
deriving DecidableEq

def TexToReturnOnFail.toIdx : TexToReturnOnFail → Nat
  | .MAGENTA => 0
  | .WHITE => 1
  | .BLACK => 2
  | .EMPTYNORMAL => 3
  | .Return_NULL => 4

structure SSTextureAsset where
  _assetName : AssetName
  _assetPath : String

namespace SSTextureAssetManager

abbrev Manager := AssetManager SSTextureAsset ASSET_NAME_LEN_MAX

variable (cityHash64WithSeed : CStr → UInt64 → UInt64)

/-- `_textureList[idx]`, as an index that is there. -/
def textureAt (m : Manager) (idx : Nat) : Option (Option Nat) :=
  (m._assetPool.get idx).map fun _ => some idx

/-- The inner `none` is the null pointer. -/
def findAssetWithNameInternal (m : Manager) (name : CStr) (OnFailReturn : TexToReturnOnFail) :
    Option (Option Nat) :=
  match m._assetHash.tryFind cityHash64WithSeed name SS_UINT32_MAX with
  | (.success, idxOut) => textureAt m idxOut
  | _ => if OnFailReturn = .Return_NULL then some none else textureAt m OnFailReturn.toIdx

/-- The first loop of `LoadTextures`. -/
def insertTextures (m : Manager) (texturePairList : List (AssetName × String)) : Option Manager :=
  texturePairList.foldlM (fun m pair =>
    (insertNewAsset cityHash64WithSeed SSTextureAsset._assetName m ⟨pair.1, pair.2⟩).map
      (·.manager)) m

/-- `LoadTextures` on a decoded list: the manager, and the views of its textures in order if all of
them can be created. -/
def loadTextures (createDDSTextureFromFile : String → Option Nat) (m : Manager)
    (texturePairList : List (AssetName × String)) : Option (Manager × Option (List Nat)) :=
  (insertTextures cityHash64WithSeed m texturePairList).map fun m =>
    (m, m._assetPool.data.mapM fun texture => createDDSTextureFromFile texture._assetPath)

/-- The hash map holds the name. -/
def Knows (m : Manager) (name : AssetName) : Prop :=
  ∃ p, p < m._assetHash.poolCapacity ∧ m._assetHash.Holds p name.1

instance (m : Manager) (name : AssetName) : Decidable (Knows m name) :=
  inferInstanceAs (Decidable (∃ p, p < m._assetHash.poolCapacity ∧ m._assetHash.Holds p name.1))

/-- The name of the texture at an index. -/
def nameAt (m : Manager) (idx : Nat) : Option AssetName :=
  (m._assetPool.data[idx]?).map (·._assetName)

end SSTextureAssetManager

inductive SS_PBR_TEXTURE_IDX where
  | SS_PBR_TX_BASE_COLOR_IDX
  | SS_PBR_TX_NORMAL_IDX
  | SS_PBR_TX_METALLIC_IDX
  | SS_PBR_TX_EMISSIVE_IDX
  | SS_PBR_TX_OCCLUSION_IDX
deriving DecidableEq

/-- The indices below `SS_PBR_TX_COUNT`, in order. -/
def SS_PBR_TEXTURE_IDX.all : List SS_PBR_TEXTURE_IDX :=
  [.SS_PBR_TX_BASE_COLOR_IDX, .SS_PBR_TX_NORMAL_IDX, .SS_PBR_TX_METALLIC_IDX,
    .SS_PBR_TX_EMISSIVE_IDX, .SS_PBR_TX_OCCLUSION_IDX]

structure PbrMaterialConstants (K : Type) where
  baseColorFactor : Vector4f K
  emissiveFactor : Vector4f K
  normalTextureScale : K
  metallicFactor : K
  roughnessFactor : K

/-- The members of an `SSPbrMaterialAsset` that change after it was made. -/
structure SSPbrMaterialState (K : Type) where
  _textureNames : SS_PBR_TEXTURE_IDX → AssetName
  _textureCache : SS_PBR_TEXTURE_IDX → Option Nat
  _constantBuffer : PbrMaterialConstants K
  /-- `_shaderReflectionCache->EntireConstBufferNum`. -/
  EntireConstBufferNum : Nat
  /-- What was written to the buffers of `ConstantBuffers`. -/
  bufferContents : Nat → Option (PbrMaterialConstants K)

namespace SSPbrMaterialState

open SS_PBR_TEXTURE_IDX SSTextureAssetManager

section Definitions

variable {K : Type}

def setPBRTextureName (material : SSPbrMaterialState K) (NewTextureName : AssetName)
    (TextureType : SS_PBR_TEXTURE_IDX) : SSPbrMaterialState K :=
  { material with
    _textureNames := Function.update material._textureNames TextureType NewTextureName }

/-- `SystemBufferData` after `InstantiateSystemBuffer`: the pointer to `_constantBuffer`. -/
def systemBufferData (material : SSPbrMaterialState K) (i : Nat) :
    Option (PbrMaterialConstants K) :=
  if i = MATERIAL_PARAM_START_IDX then some material._constantBuffer else none

/-- One turn of the loop of `SyncAllGPUBuffer`. -/
def syncGPUBuffer (material : SSPbrMaterialState K) (i : Nat) : SSPbrMaterialState K :=
  match material.systemBufferData i with
  | none => material
  | some data => { material with
      bufferContents := Function.update material.bufferContents i (some data) }

def syncAllGPUBuffer (material : SSPbrMaterialState K) : SSPbrMaterialState K :=
  (List.range' MATERIAL_PARAM_START_IDX
    (material.EntireConstBufferNum - MATERIAL_PARAM_START_IDX)).foldl syncGPUBuffer material

variable (cityHash64WithSeed : CStr → UInt64 → UInt64) (textures : Manager)

/-- What the lookup of a slot falls back to in `InstantiateGPUBuffer`. -/
def onFailReturn : SS_PBR_TEXTURE_IDX → TexToReturnOnFail
  | .SS_PBR_TX_NORMAL_IDX => .EMPTYNORMAL
  | _ => .WHITE

/-- The assignment to one slot. -/
def instantiateTexture (material : SSPbrMaterialState K) (i : SS_PBR_TEXTURE_IDX) :
    Option (SSPbrMaterialState K) :=
  (findAssetWithNameInternal cityHash64WithSeed textures (material._textureNames i).1
    (onFailReturn i)).map fun texture =>
      { material with _textureCache := Function.update material._textureCache i texture }

/-- `InstantiateGPUBuffer`; the buffers themselves are those of `Asset.MaterialBuffers`. -/
def instantiateGPUBuffer (material : SSPbrMaterialState K) : Option (SSPbrMaterialState K) :=
  SS_PBR_TEXTURE_IDX.all.foldlM (instantiateTexture cityHash64WithSeed textures) material

/-- One turn of the loop of `SyncAllTextureItemWithName`. -/
def syncTextureItem (material : SSPbrMaterialState K) (i : SS_PBR_TEXTURE_IDX) :
    Option (SSPbrMaterialState K) := do
  let cached ← material._textureCache i
  let texture ← textures._assetPool.get cached
  if material._textureNames i = texture._assetName then return material
  else
    let NewTexture ← findAssetWithNameInternal cityHash64WithSeed textures
      (material._textureNames i).1 .Return_NULL
    match NewTexture with
    | none => return material
    | some NewTexture => return { material with
        _textureCache := Function.update material._textureCache i (some NewTexture) }

def syncAllTextureItemWithName (material : SSPbrMaterialState K) : Option (SSPbrMaterialState K) :=
  SS_PBR_TEXTURE_IDX.all.foldlM (syncTextureItem cityHash64WithSeed textures) material

end Definitions

end SSPbrMaterialState

namespace SSTextureAssetManager

variable {H : CStr → UInt64 → UInt64} {m : Manager} {pairs : List (AssetName × String)}

/-- The manager after these textures were inserted: they are in the list in order, and the hash map
has indices of textures with the right names. -/
structure Loaded (H : CStr → UInt64 → UInt64) (m : Manager) (pairs : List (AssetName × String)) :
    Prop where
  data : m._assetPool.data = pairs.map fun pair => ⟨pair.1, pair.2⟩
  capacity_lt : m._assetPool.capacity < 2 ^ 32
  hash : ∃ es, StringHashMapA.EraseFreeState H m._assetHash es ∧
    ∀ k idx, .inserted k idx ∈ es → ∃ name, (pairs.map Prod.fst)[idx]? = some name ∧ name.1 = k

theorem Loaded.size (h : Loaded H m pairs) : m._assetPool.data.length = pairs.length := by
  rw [h.data, List.length_map]

theorem Loaded.nameAt_eq (h : Loaded H m pairs) (idx : Nat) :
    nameAt m idx = (pairs.map Prod.fst)[idx]? := by
  rw [nameAt, h.data, List.getElem?_map, List.getElem?_map, Option.map_map]
  rfl

theorem loaded_new (raw : Nat → Nat) {poolCapacity hashCapacity : Nat}
    (hpool : poolCapacity < 2 ^ 32) (hhash : 0 < hashCapacity) (limit : Nat) (seed : UInt64) :
    Loaded H (AssetManager.new raw poolCapacity hashCapacity limit seed) [] where
  data := rfl
  capacity_lt := hpool
  hash := ⟨[], StringHashMapA.eraseFreeState_new H raw hhash limit seed, fun _ _ h => by cases h⟩

/-- One insertion into a list with room. -/
theorem Loaded.insert (h : Loaded H m pairs) {pair : AssetName × String} {r : Stored _ _}
    (hinsert : insertNewAsset H SSTextureAsset._assetName m ⟨pair.1, pair.2⟩ = some r) :
    Loaded H r.manager (pairs ++ [pair]) := by
  obtain ⟨pool, hpush, hr⟩ := Option.bind_eq_some_iff.mp hinsert
  cases hr
  obtain ⟨hlt, hdata, hcapacity⟩ := PooledList.pushBack_some hpush
  have hidx : toUint32 ((pool.getSize : Int) - 1) = pairs.length := by
    have hcap := h.capacity_lt
    rw [PooledList.getSize_concat hdata, PooledList.getSize, Nat.cast_add, Nat.cast_one,
      add_sub_cancel_right, toUint32_natCast (by omega), h.size]
  obtain ⟨es, hes, hevents⟩ := h.hash
  obtain ⟨m', es', hstep, hes'⟩ := hes.opStep (.call (.insert pair.1.1 pairs.length))
    ⟨trivial, trivial⟩
  cases hstep
  refine ⟨?_, by rw [hcapacity]; exact h.capacity_lt, es ++ _, by rw [hidx]; exact hes', ?_⟩
  · rw [hdata, h.data, List.map_append]
    rfl
  · intro k idx hmem
    rw [List.map_append]
    rcases List.mem_append.mp hmem with hold | hnew
    · obtain ⟨name, hname, hk⟩ := hevents k idx hold
      exact ⟨name, by rw [List.getElem?_append_left (List.getElem?_eq_some_iff.mp hname).1, hname],
        hk⟩
    · obtain ⟨-, hk, rfl⟩ := AssetManagerContainer.insertEvent_eq_inserted.mp
        (List.mem_singleton.mp hnew).symm
      exact ⟨pair.1, by simp, hk⟩

/-- After the first loop of `LoadTextures`. -/
theorem insertTextures_loaded {start : Manager} (hstart : Loaded H start []) :
    ∀ {m : Manager}, insertTextures H start pairs = some m → Loaded H m pairs := by
  induction pairs using List.reverseRecOn with
  | nil =>
    intro m h
    cases h
    exact hstart
  | append_singleton pairs pair ih =>
    intro m h
    rw [insertTextures, PartialRun.foldlM_concat] at h
    obtain ⟨m0, hrun, hlast⟩ := Option.bind_eq_some_iff.mp h
    obtain ⟨r, hinsert, rfl⟩ := Option.map_eq_some_iff.mp hlast
    exact (ih hrun).insert hinsert

/-- A name that the hash map holds is found, at a texture of that name. -/
theorem Loaded.find_known (h : Loaded H m pairs) {name : AssetName} (hknown : Knows m name)
    (OnFailReturn : TexToReturnOnFail) :
    ∃ idx, findAssetWithNameInternal H m name.1 OnFailReturn = some (some idx) ∧
      nameAt m idx = some name := by
  obtain ⟨es, hes, hevents⟩ := h.hash
  obtain ⟨d, hd, hfrom⟩ := hes.contents
  obtain ⟨p, hp, hheld⟩ := hknown
  have hvalid := hes.terminated.validKey hp hheld
  obtain ⟨idx, hidx⟩ := Option.ne_none_iff_exists'.mp ((hd.held_iff name.1).mpr ⟨p, hp, hheld⟩)
  have hfind : m._assetHash.tryFind H name.1 SS_UINT32_MAX = (.success, idx) := by
    rw [hd.tryFind_eq hvalid, hidx]
  obtain ⟨name', hname', heq⟩ := hevents name.1 idx ((hfrom name.1 idx).mp hidx)
  have hat : nameAt m idx = some name := by rw [h.nameAt_eq, hname', Subtype.ext heq]
  obtain ⟨texture, htexture, -⟩ := Option.map_eq_some_iff.mp hat
  refine ⟨idx, ?_, hat⟩
  simp only [findAssetWithNameInternal, hfind, textureAt, PooledList.get_eq, htexture,
    Option.map_some]

/-- Another name is not. -/
theorem Loaded.find_unknown (h : Loaded H m pairs) {name : AssetName} (hunknown : ¬ Knows m name)
    (OnFailReturn : TexToReturnOnFail) :
    findAssetWithNameInternal H m name.1 OnFailReturn =
      if OnFailReturn = .Return_NULL then some none else textureAt m OnFailReturn.toIdx := by
  obtain ⟨es, hes, -⟩ := h.hash
  obtain ⟨d, hd, -⟩ := hes.contents
  have hnone : d name.1 = none := by
    by_contra hne
    exact hunknown ((hd.held_iff name.1).mp hne)
  have hfind : (m._assetHash.tryFind H name.1 SS_UINT32_MAX).1 ≠ .success := by
    by_cases hvalid : StringHashMapA.ValidKey ASSET_NAME_LEN_MAX name.1
    · simp [hd.tryFind_eq hvalid, hnone]
    · unfold StringHashMapA.tryFind StringHashMapA.tryFindIndex
      rw [if_pos (by unfold StringHashMapA.ValidKey at hvalid; omega)]
      simp
  unfold findAssetWithNameInternal
  split
  case h_1 idxOut heq =>
    rw [heq] at hfind
    exact absurd rfl hfind
  case h_2 => rfl

end SSTextureAssetManager

namespace SSPbrMaterialState

open SSTextureAssetManager

variable {K : Type} {H : CStr → UInt64 → UInt64} {m : Manager} {pairs : List (AssetName × String)}

/-- The slot has a texture of this name. -/
def BoundTo (m : Manager) (cached : Option Nat) (name : AssetName) : Prop :=
  ∃ idx, cached = some idx ∧ nameAt m idx = some name

section Slots

/-- A pass over the slots that looks at the name and the texture of each, and at nothing else. -/
theorem slots_foldlM
    {step : SSPbrMaterialState K → SS_PBR_TEXTURE_IDX → Option (SSPbrMaterialState K)}
    {f : AssetName → SS_PBR_TEXTURE_IDX → Option Nat → Option (Option Nat)}
    (hstep : ∀ material i, step material i =
      (f (material._textureNames i) i (material._textureCache i)).map fun texture =>
        { material with _textureCache := Function.update material._textureCache i texture })
    {slots : List SS_PBR_TEXTURE_IDX} (hnodup : slots.Nodup) : ∀ material : SSPbrMaterialState K,
    (∀ i ∈ slots, (f (material._textureNames i) i (material._textureCache i)).isSome) →
      ∃ cache, slots.foldlM step material = some { material with _textureCache := cache } ∧
        (∀ i ∈ slots, f (material._textureNames i) i (material._textureCache i) = some (cache i)) ∧
        ∀ i, i ∉ slots → cache i = material._textureCache i := by
  induction slots with
  | nil =>
    intro material _
    exact ⟨material._textureCache, rfl, fun _ h => (List.not_mem_nil h).elim, fun _ _ => rfl⟩
  | cons j slots ih =>
    intro material hsome
    obtain ⟨hj, hrest⟩ := List.nodup_cons.mp hnodup
    obtain ⟨texture, htexture⟩ := Option.isSome_iff_exists.mp (hsome j (List.mem_cons_self ..))
    -- the slots that follow are not the one just written
    have hother : ∀ i, i ≠ j →
        Function.update material._textureCache j texture i = material._textureCache i :=
      fun i hi => Function.update_of_ne hi ..
    have hne : ∀ i ∈ slots, i ≠ j := fun i hi heq => hj (heq ▸ hi)
    obtain ⟨cache, hrun, hslots, hothers⟩ := ih hrest
      { material with _textureCache := Function.update material._textureCache j texture }
      (fun i hi => by
        show (f _ i (Function.update material._textureCache j texture i)).isSome
        rw [hother i (hne i hi)]
        exact hsome i (List.mem_cons_of_mem _ hi))
    refine ⟨cache, ?_, fun i hi => ?_, fun i hi => ?_⟩
    · rw [List.foldlM_cons, hstep, htexture]
      exact hrun
    · rcases List.mem_cons.mp hi with rfl | hmem
      · rw [htexture, hothers i hj]
        show _ = some (Function.update material._textureCache i texture i)
        rw [Function.update_self]
      · have hslot := hslots i hmem
        rw [← hslot]
        show _ = f _ i (Function.update material._textureCache j texture i)
        rw [hother i (hne i hmem)]
    · rw [List.mem_cons, not_or] at hi
      rw [hothers i hi.2]
      exact hother i hi.1

theorem all_nodup : SS_PBR_TEXTURE_IDX.all.Nodup := by decide

theorem mem_all (i : SS_PBR_TEXTURE_IDX) : i ∈ SS_PBR_TEXTURE_IDX.all := by cases i <;> decide

/-- What `SyncAllTextureItemWithName` puts in a slot. -/
def syncedTexture (H : CStr → UInt64 → UInt64) (m : Manager) (name : AssetName)
    (cached : Option Nat) : Option (Option Nat) := do
  let idx ← cached
  let texture ← m._assetPool.get idx
  if name = texture._assetName then return cached
  else
    let NewTexture ← findAssetWithNameInternal H m name.1 .Return_NULL
    return NewTexture.or cached

theorem syncTextureItem_eq (material : SSPbrMaterialState K) (i : SS_PBR_TEXTURE_IDX) :
    syncTextureItem H m material i =
      (syncedTexture H m (material._textureNames i) (material._textureCache i)).map fun texture =>
        { material with _textureCache := Function.update material._textureCache i texture } := by
  have hsame : { material with
      _textureCache := Function.update material._textureCache i (material._textureCache i) } =
      material := by rw [Function.update_eq_self]
  unfold syncTextureItem syncedTexture
  cases hcached : material._textureCache i with
  | none => rfl
  | some idx =>
    rw [hcached] at hsame
    simp only [Option.bind_eq_bind, Option.bind_some]
    cases m._assetPool.get idx with
    | none => rfl
    | some texture =>
      simp only [Option.bind_some]
      split
      case isTrue => simp [hsame]
      case isFalse =>
        cases findAssetWithNameInternal H m (material._textureNames i).1 .Return_NULL with
        | none => rfl
        | some NewTexture => cases NewTexture <;> simp [hsame]

end Slots

section Names

/-- One slot of a sync. -/
theorem syncedTexture_bound (h : Loaded H m pairs) {name old : AssetName} {cached : Option Nat}
    (hold : BoundTo m cached old) : ∃ cached', syncedTexture H m name cached = some cached' ∧
      BoundTo m cached' (if Knows m name then name else old) := by
  obtain ⟨idx, rfl, hat⟩ := hold
  obtain ⟨texture, htexture, hname⟩ := Option.map_eq_some_iff.mp hat
  have hget : m._assetPool.get idx = some texture := by rw [PooledList.get_eq, htexture]
  unfold syncedTexture
  simp only [Option.bind_eq_bind, Option.bind_some, hget, hname]
  by_cases heq : name = old
  · -- the texture that is there has the name already
    refine ⟨some idx, if_pos heq, idx, rfl, ?_⟩
    rw [heq, ite_self]
    exact hat
  · rw [if_neg heq]
    by_cases hknown : Knows m name
    · obtain ⟨idx', hfind, hat'⟩ := h.find_known hknown .Return_NULL
      refine ⟨some idx', by rw [hfind]; rfl, idx', rfl, ?_⟩
      rw [if_pos hknown]
      exact hat'
    · have hfind := h.find_unknown hknown .Return_NULL
      refine ⟨some idx, by rw [hfind]; rfl, idx, rfl, ?_⟩
      rw [if_neg hknown]
      exact hat

/-- After a sync every slot has the texture of its name, or the one it had. -/
theorem syncAllTextureItemWithName_bound (h : Loaded H m pairs) {material : SSPbrMaterialState K}
    {old : SS_PBR_TEXTURE_IDX → AssetName}
    (hold : ∀ i, BoundTo m (material._textureCache i) (old i)) :
    ∃ cache, syncAllTextureItemWithName H m material =
        some { material with _textureCache := cache } ∧
      ∀ i, BoundTo m (cache i)
        (if Knows m (material._textureNames i) then material._textureNames i else old i) := by
  have hslot : ∀ i, ∃ cached, syncedTexture H m (material._textureNames i)
      (material._textureCache i) = some cached ∧ BoundTo m cached
        (if Knows m (material._textureNames i) then material._textureNames i else old i) :=
    fun i => syncedTexture_bound h (hold i)
  obtain ⟨cache, hrun, hcache, -⟩ := slots_foldlM (f := fun name _ => syncedTexture H m name)
    (fun material i => syncTextureItem_eq material i) all_nodup material fun i _ => by
      obtain ⟨cached', hsync, -⟩ := hslot i
      exact Option.isSome_iff_exists.mpr ⟨cached', hsync⟩
  refine ⟨cache, hrun, fun i => ?_⟩
  obtain ⟨cached', hsync, hbound⟩ := hslot i
  have hsame : cached' = cache i := Option.some.inj (hsync.symm.trans (hcache i (mem_all i)))
  rw [← hsame]
  exact hbound

/-- What `InstantiateGPUBuffer` finds for a slot. -/
theorem instantiateGPUBuffer_bound (h : Loaded H m pairs) (hfour : 4 ≤ pairs.length)
    (material : SSPbrMaterialState K) :
    ∃ cache, instantiateGPUBuffer H m material = some { material with _textureCache := cache } ∧
      ∀ i, ∃ fallback, nameAt m (onFailReturn i).toIdx = some fallback ∧ BoundTo m (cache i)
        (if Knows m (material._textureNames i) then material._textureNames i else fallback) := by
  have hslot : ∀ i, ∃ cached fallback,
      findAssetWithNameInternal H m (material._textureNames i).1 (onFailReturn i) = some cached ∧
      nameAt m (onFailReturn i).toIdx = some fallback ∧ BoundTo m cached
        (if Knows m (material._textureNames i) then material._textureNames i else fallback) := by
    intro i
    have hlt : (onFailReturn i).toIdx < m._assetPool.data.length := by
      have hlen := h.size
      have hle : (onFailReturn i).toIdx < 4 := by cases i <;> decide
      omega
    have hget := List.getElem?_eq_getElem hlt
    have hat : nameAt m (onFailReturn i).toIdx =
        some m._assetPool.data[(onFailReturn i).toIdx]._assetName := by rw [nameAt, hget]; rfl
    by_cases hknown : Knows m (material._textureNames i)
    · obtain ⟨idx, hfind, hname⟩ := h.find_known hknown (onFailReturn i)
      exact ⟨some idx, _, hfind, hat, idx, rfl, by rw [if_pos hknown]; exact hname⟩
    · have hnot : onFailReturn i ≠ .Return_NULL := by cases i <;> decide
      refine ⟨some (onFailReturn i).toIdx, _, ?_, hat, _, rfl, by rw [if_neg hknown]; exact hat⟩
      rw [h.find_unknown hknown, if_neg hnot, textureAt, PooledList.get_eq, hget]
      rfl
  obtain ⟨cache, hrun, hcache, -⟩ := slots_foldlM
    (f := fun name i _ => findAssetWithNameInternal H m name.1 (onFailReturn i))
    (fun material i => rfl) all_nodup material fun i _ => by
      obtain ⟨cached, _, hfind, -⟩ := hslot i
      exact Option.isSome_iff_exists.mpr ⟨cached, hfind⟩
  refine ⟨cache, hrun, fun i => ?_⟩
  obtain ⟨cached, fallback, hfind, hat, hbound⟩ := hslot i
  have hsame : cached = cache i := Option.some.inj (hfind.symm.trans (hcache i (mem_all i)))
  rw [← hsame]
  exact ⟨fallback, hat, hbound⟩

end Names

section Buffers

/-- `SyncAllGPUBuffer` writes the parameters to their slot, if the shader has one. -/
theorem syncAllGPUBuffer_eq (material : SSPbrMaterialState K) :
    syncAllGPUBuffer material = if MATERIAL_PARAM_START_IDX < material.EntireConstBufferNum then
      { material with
        bufferContents := Function.update material.bufferContents MATERIAL_PARAM_START_IDX
          (some material._constantBuffer) }
    else material := by
  -- the slots behind the first one have no system buffer
  have hrest : ∀ (n start : Nat), MATERIAL_PARAM_START_IDX < start →
      ∀ material : SSPbrMaterialState K,
        (List.range' start n).foldl syncGPUBuffer material = material := by
    intro n
    induction n with
    | zero => intro start _ material; rfl
    | succ n ih =>
      intro start hlt material
      have hne : start ≠ MATERIAL_PARAM_START_IDX := by omega
      rw [List.range'_succ, List.foldl_cons, syncGPUBuffer, systemBufferData, if_neg hne]
      exact ih (start + 1) (by omega) material
  unfold syncAllGPUBuffer
  cases hn : material.EntireConstBufferNum - MATERIAL_PARAM_START_IDX with
  | zero => rw [if_neg (by omega)]; rfl
  | succ n =>
    rw [if_pos (by omega), List.range'_succ, List.foldl_cons,
      hrest n _ (Nat.lt_add_one MATERIAL_PARAM_START_IDX), syncGPUBuffer, systemBufferData,
      if_pos rfl]

end Buffers

end SSPbrMaterialState

end FBXRenderer
