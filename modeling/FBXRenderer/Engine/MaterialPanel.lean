import Mathlib
import FBXRenderer.Asset.PbrMaterial
import FBXRenderer.Lib.Cells
import FBXRenderer.Lib.CommandStream

/-!
# FBXRenderer.Engine.MaterialPanel

The material list of `SSRenderer::PerFrame`: the controls of the panel edit a copy of the parameters
and texture names of a material, and two buttons bring the copy to the material. A run is what the
user does over any frames. The copies are those of `ImportFBXFileToAssetPool`, the materials have
been through `InstantiateAllMaterials`. The texts and colours of the panel are left out.

* `panelStep_follows`, `panel_follows`: one action, and a run on one material.
* `panel_params_follow`: the parameters on the GPU are those of the last sync.
* `panel_textures_follow`: the textures are those of the last sync that could find them.
-/

namespace FBXRenderer

open SS SSTextureAssetManager SSPbrMaterialState

structure PbrMaterialParamEditorCopy (K : Type) where
  pbrMaterialParam : PbrMaterialConstants K
  textureNames : SS_PBR_TEXTURE_IDX → AssetName

/-- What the user can do to one material; an item of a combo box is named by its texture. -/
inductive PanelAction (K : Type) where
  | BaseColorFactor (value : Vector4f K)
  | EmissiveColorFactor (value : Vector4f K)
  | MetallicFactor (value : K)
  | RoughnessFactor (value : K)
  | SyncMaterialParam
  | Selectable (TextureType : SS_PBR_TEXTURE_IDX) (j : Nat)
  | SyncTexture

/-- A material and its entry of `_pbrMaterialParamcopyList`. -/
structure PanelItem (K : Type) where
  material : SSPbrMaterialState K
  copy : PbrMaterialParamEditorCopy K

section Definitions

variable {K : Type} (cityHash64WithSeed : CStr → UInt64 → UInt64) (textures : Manager)

/-- What a control makes of the copy. -/
def editCopy (copy : PbrMaterialParamEditorCopy K) :
    PanelAction K → Option (PbrMaterialParamEditorCopy K)
  | .BaseColorFactor value =>
    some { copy with pbrMaterialParam := { copy.pbrMaterialParam with baseColorFactor := value } }
  | .EmissiveColorFactor value =>
    some { copy with pbrMaterialParam := { copy.pbrMaterialParam with emissiveFactor := value } }
  | .MetallicFactor value =>
    some { copy with pbrMaterialParam := { copy.pbrMaterialParam with metallicFactor := value } }
  | .RoughnessFactor value =>
    some { copy with pbrMaterialParam := { copy.pbrMaterialParam with roughnessFactor := value } }
  | .Selectable TextureType j => (textures._assetPool.get j).map fun comboBoxTextureItem =>
    { copy with
      textureNames :=
        Function.update copy.textureNames TextureType comboBoxTextureItem._assetName }
  | .SyncMaterialParam | .SyncTexture => some copy

/-- What a button makes of the material. -/
def syncMaterial (material : SSPbrMaterialState K) (copy : PbrMaterialParamEditorCopy K) :
    PanelAction K → Option (SSPbrMaterialState K)
  | .SyncMaterialParam =>
    some (syncAllGPUBuffer { material with _constantBuffer := copy.pbrMaterialParam })
  | .SyncTexture => syncAllTextureItemWithName cityHash64WithSeed textures
    (SS_PBR_TEXTURE_IDX.all.foldl (fun material j =>
      material.setPBRTextureName (copy.textureNames j) j) material)
  | _ => some material

def panelStep (item : PanelItem K) (action : PanelAction K) : Option (PanelItem K) := do
  let material ← syncMaterial cityHash64WithSeed textures item.material item.copy action
  let copy ← editCopy textures item.copy action
  return ⟨material, copy⟩

/-- The turn of the loop of `ImportFBXFileToAssetPool`, and of `InstantiateAllMaterials`. -/
def startItem (material : SSPbrMaterialState K) : Option (PanelItem K) :=
  (instantiateGPUBuffer cityHash64WithSeed textures material).map fun instantiated =>
    ⟨syncAllGPUBuffer instantiated, ⟨material._constantBuffer, material._textureNames⟩⟩

/-- The copy after an action. -/
def draftAfter (copy : PbrMaterialParamEditorCopy K) (action : PanelAction K) :
    PbrMaterialParamEditorCopy K :=
  (editCopy textures copy action).getD copy

/-- The copies at the presses of a button. -/
def draftsAt (button : PanelAction K → Bool) :
    PbrMaterialParamEditorCopy K → List (PanelAction K) → List (PbrMaterialParamEditorCopy K)
  | _, [] => []
  | copy, action :: actions =>
    (if button action then [copy] else []) ++
      draftsAt button (draftAfter textures copy action) actions

end Definitions

def isSyncMaterialParam {K : Type} : PanelAction K → Bool
  | .SyncMaterialParam => true
  | _ => false

def isSyncTexture {K : Type} : PanelAction K → Bool
  | .SyncTexture => true
  | _ => false

/-- The combo boxes have the textures of the list. -/
def InList {K : Type} (textures : Manager) (action : PanelAction K) : Prop :=
  ∀ TextureType j, action = .Selectable TextureType j → j < textures._assetPool.data.length

section Item

variable {K : Type} {H : CStr → UInt64 → UInt64} {textures : Manager}
  {pairs : List (AssetName × String)}

/-- A material after these actions, from one with textures of the names `old`. -/
structure Follows (textures : Manager) (item : PanelItem K) (old : SS_PBR_TEXTURE_IDX → AssetName)
    (actions : List (PanelAction K)) (item' : PanelItem K) : Prop where
  copy : item'.copy = actions.foldl (draftAfter textures) item.copy
  buffers : item'.material.EntireConstBufferNum = item.material.EntireConstBufferNum
  param : item'.material._constantBuffer =
    ((draftsAt textures isSyncMaterialParam item.copy actions).map (·.pbrMaterialParam)).getLastD
      item.material._constantBuffer
  contents : MATERIAL_PARAM_START_IDX < item.material.EntireConstBufferNum →
    item'.material.bufferContents MATERIAL_PARAM_START_IDX =
      ((draftsAt textures isSyncMaterialParam item.copy actions).map
        (some ·.pbrMaterialParam)).getLastD
          (item.material.bufferContents MATERIAL_PARAM_START_IDX)
  names : ∀ i, item'.material._textureNames i =
    ((draftsAt textures isSyncTexture item.copy actions).map (·.textureNames i)).getLastD
      (item.material._textureNames i)
  bound : ∀ i, BoundTo textures (item'.material._textureCache i)
    ((((draftsAt textures isSyncTexture item.copy actions).map (·.textureNames i)).filter
      fun name => decide (Knows textures name)).getLastD (old i))

/-- Setting all names. -/
theorem setPBRTextureName_all (material : SSPbrMaterialState K)
    (names : SS_PBR_TEXTURE_IDX → AssetName) :
    SS_PBR_TEXTURE_IDX.all.foldl (fun material j => material.setPBRTextureName (names j) j)
      material = { material with _textureNames := names } := by
  simp only [SS_PBR_TEXTURE_IDX.all, List.foldl_cons, List.foldl_nil, setPBRTextureName]
  congr 1
  funext i
  cases i <;> simp [Function.update]

/-- One action. -/
theorem panelStep_follows (h : Loaded H textures pairs) {action : PanelAction K}
    (hlist : InList textures action) {item : PanelItem K} {old : SS_PBR_TEXTURE_IDX → AssetName}
    (hold : ∀ i, BoundTo textures (item.material._textureCache i) (old i)) :
    ∃ item', panelStep H textures item action = some item' ∧
      Follows textures item old [action] item' := by
  have hcopy : editCopy textures item.copy action =
      some (draftAfter textures item.copy action) := by
    cases action with
    | Selectable TextureType j =>
      have hget := List.getElem?_eq_getElem (hlist TextureType j rfl)
      simp only [draftAfter, editCopy, PooledList.get_eq, hget, Option.map_some, Option.getD_some]
    | _ => rfl
  unfold panelStep
  rw [hcopy]
  cases action with
  | SyncMaterialParam =>
    refine ⟨_, rfl, ⟨rfl, ?_, ?_, fun hlt => ?_, fun i => ?_, fun i => ?_⟩⟩
    all_goals simp only [syncAllGPUBuffer_eq]
    · split <;> rfl
    · split <;> rfl
    · rw [if_pos hlt]
      simp [draftsAt, isSyncMaterialParam]
    · split <;> rfl
    · split <;> exact hold i
  | SyncTexture =>
    obtain ⟨cache, hsync, hbound⟩ := @syncAllTextureItemWithName_bound K H textures pairs h
      { item.material with _textureNames := item.copy.textureNames } old hold
    refine ⟨⟨{ item.material with
        _textureNames := item.copy.textureNames
        _textureCache := cache }, item.copy⟩, ?_, ⟨rfl, rfl, rfl, fun _ => rfl, fun i => rfl,
      fun i => ?_⟩⟩
    · simp only [syncMaterial, setPBRTextureName_all, hsync, Option.bind_eq_bind, Option.bind_some]
      rfl
    · have hslot := hbound i
      show BoundTo textures (cache i) ((([item.copy.textureNames i]).filter
        fun name => decide (Knows textures name)).getLastD (old i))
      by_cases hknown : Knows textures (item.copy.textureNames i)
      · rw [if_pos hknown] at hslot
        simpa [hknown] using hslot
      · rw [if_neg hknown] at hslot
        simpa [hknown] using hslot
  | _ => exact ⟨_, rfl, ⟨rfl, rfl, rfl, fun _ => rfl, fun i => rfl, hold⟩⟩

theorem draftsAt_cons (button : PanelAction K → Bool) (copy : PbrMaterialParamEditorCopy K)
    (action : PanelAction K) (actions : List (PanelAction K)) :
    draftsAt textures button copy (action :: actions) =
      draftsAt textures button copy [action] ++
        draftsAt textures button (draftAfter textures copy action) actions := by
  simp [draftsAt]

/-- The last of two lists. -/
theorem getLastD_append {α : Type} (xs ys : List α) (a : α) :
    (xs ++ ys).getLastD a = ys.getLastD (xs.getLastD a) := by
  cases ys using List.reverseRecOn with
  | nil => simp
  | append_singleton ys y => simp [← List.append_assoc]

theorem Follows.refl {item : PanelItem K} {old : SS_PBR_TEXTURE_IDX → AssetName}
    (hold : ∀ i, BoundTo textures (item.material._textureCache i) (old i)) :
    Follows textures item old [] item :=
  ⟨rfl, rfl, rfl, fun _ => rfl, fun _ => rfl, hold⟩

/-- One action, and those after it. -/
theorem Follows.cons {item item1 item' : PanelItem K} {old : SS_PBR_TEXTURE_IDX → AssetName}
    {action : PanelAction K} {actions : List (PanelAction K)}
    (h1 : Follows textures item old [action] item1)
    (h : Follows textures item1 (fun i =>
      (((draftsAt textures isSyncTexture item.copy [action]).map (·.textureNames i)).filter
        fun name => decide (Knows textures name)).getLastD (old i)) actions item') :
    Follows textures item old (action :: actions) item' := by
  have hcopy : item1.copy = draftAfter textures item.copy action := h1.copy
  refine ⟨?_, h.buffers.trans h1.buffers, ?_, fun hlt => ?_, fun i => ?_, fun i => ?_⟩
  · rw [h.copy, hcopy, List.foldl_cons]
  · rw [h.param, h1.param, hcopy, draftsAt_cons isSyncMaterialParam item.copy action actions,
      List.map_append, getLastD_append]
  · rw [h.contents (h1.buffers ▸ hlt), h1.contents hlt, hcopy,
      draftsAt_cons isSyncMaterialParam item.copy action actions, List.map_append,
      getLastD_append]
  · rw [h.names i, h1.names i, hcopy, draftsAt_cons isSyncTexture item.copy action actions,
      List.map_append, getLastD_append]
  · have hbound := h.bound i
    rw [hcopy] at hbound
    rw [draftsAt_cons isSyncTexture item.copy action actions, List.map_append, List.filter_append,
      getLastD_append]
    exact hbound

/-- A run on one material. -/
theorem panel_follows (h : Loaded H textures pairs) {actions : List (PanelAction K)} :
    (∀ action ∈ actions, InList textures action) →
    ∀ {item : PanelItem K} {old : SS_PBR_TEXTURE_IDX → AssetName},
      (∀ i, BoundTo textures (item.material._textureCache i) (old i)) →
      ∃ item', actions.foldlM (panelStep H textures) item = some item' ∧
        Follows textures item old actions item' := by
  induction actions with
  | nil => exact fun _ item old hold => ⟨item, rfl, .refl hold⟩
  | cons action actions ih =>
    intro hlist item old hold
    obtain ⟨item1, hstep, h1⟩ := panelStep_follows h (hlist action (List.mem_cons_self ..)) hold
    obtain ⟨item', hrun, h'⟩ := ih (fun a ha => hlist a (List.mem_cons_of_mem _ ha)) h1.bound
    exact ⟨item', by rw [List.foldlM_cons, hstep]; exact hrun, h1.cons h'⟩

/-- A material as the panel finds it. -/
theorem startItem_bound (h : Loaded H textures pairs) (hfour : 4 ≤ pairs.length)
    (material : SSPbrMaterialState K) :
    ∃ item, startItem H textures material = some item ∧
      item.copy = ⟨material._constantBuffer, material._textureNames⟩ ∧
      item.material._constantBuffer = material._constantBuffer ∧
      item.material._textureNames = material._textureNames ∧
      item.material.EntireConstBufferNum = material.EntireConstBufferNum ∧
      (MATERIAL_PARAM_START_IDX < material.EntireConstBufferNum →
        item.material.bufferContents MATERIAL_PARAM_START_IDX = some material._constantBuffer) ∧
      ∀ i, ∃ fallback, nameAt textures (onFailReturn i).toIdx = some fallback ∧
        BoundTo textures (item.material._textureCache i)
          (if Knows textures (material._textureNames i) then material._textureNames i
          else fallback) := by
  obtain ⟨cache, hrun, hbound⟩ := instantiateGPUBuffer_bound h hfour material
  refine ⟨⟨syncAllGPUBuffer { material with _textureCache := cache }, _⟩,
    by rw [startItem, hrun]; rfl, rfl, ?_⟩
  rw [syncAllGPUBuffer_eq]
  by_cases hlt : MATERIAL_PARAM_START_IDX < material.EntireConstBufferNum
  · rw [if_pos hlt]
    exact ⟨rfl, rfl, rfl, fun _ => by simp, hbound⟩
  · rw [if_neg hlt]
    exact ⟨rfl, rfl, rfl, fun h => absurd h hlt, hbound⟩

end Item

section Panel

variable {K : Type} {H : CStr → UInt64 → UInt64}

/-- The panel after these actions, each with the index of its material. -/
def runPanel (H : CStr → UInt64 → UInt64) (textures : Manager)
    (materials : List (SSPbrMaterialState K)) (actions : List (Nat × PanelAction K)) :
    Option (List (PanelItem K)) :=
  (materials.mapM (startItem H textures)).bind fun items =>
    Cells.run (panelStep H textures) items actions

/-- The actions that the panel offers. -/
def Offered (textures : Manager) (materials : List (SSPbrMaterialState K))
    (actions : List (Nat × PanelAction K)) : Prop :=
  ∀ action ∈ actions, action.1 < materials.length ∧ InList textures action.2

theorem mapM_isSome {α β : Type} {f : α → Option β} {xs : List α} (h : ∀ x ∈ xs, (f x).isSome) :
    (xs.mapM f).isSome := by
  induction xs with
  | nil => rfl
  | cons x xs ih =>
    obtain ⟨y, hy⟩ := Option.isSome_iff_exists.mp (h x (List.mem_cons_self ..))
    obtain ⟨ys, hys⟩ := Option.isSome_iff_exists.mp (ih fun z hz => h z (List.mem_cons_of_mem _ hz))
    rw [List.mapM_cons, hy, hys]
    rfl

theorem mapM_get {α β : Type} {f : α → Option β} {xs : List α} {ys : List β}
    (h : xs.mapM f = some ys) : ys.length = xs.length ∧
      ∀ (i : Nat) (x : α), xs[i]? = some x → ∃ y, ys[i]? = some y ∧ f x = some y := by
  obtain ⟨hlen, hget⟩ := List.forall₂_iff_get.mp (CommandStream.forall₂_of_mapM h)
  refine ⟨hlen.symm, fun i x hx => ?_⟩
  obtain ⟨hlt, rfl⟩ := List.getElem?_eq_some_iff.mp hx
  exact ⟨_, List.getElem?_eq_getElem (hlen ▸ hlt), hget i hlt (hlen ▸ hlt)⟩

/-- What a run does to every material: the run on its own actions. -/
theorem runPanel_follows {textures : Manager} {pairs : List (AssetName × String)}
    (h : Loaded H textures pairs) (hfour : 4 ≤ pairs.length)
    (materials : List (SSPbrMaterialState K)) {actions : List (Nat × PanelAction K)}
    (hoffered : Offered textures materials actions) :
    ∃ items, runPanel H textures materials actions = some items ∧
      ∀ i material, materials[i]? = some material → ∃ item item' old, items[i]? = some item' ∧
        startItem H textures material = some item ∧
        (∀ slot, ∃ fallback, nameAt textures (onFailReturn slot).toIdx = some fallback ∧
          old slot = if Knows textures (material._textureNames slot)
            then material._textureNames slot else fallback) ∧
        Follows textures item old (Cells.own i actions) item' := by
  have hown : ∀ i, ∀ action ∈ Cells.own i actions, InList textures action := by
    intro i action haction
    obtain ⟨op, hop, hsame⟩ := List.mem_filterMap.mp haction
    split at hsame
    · rw [← Option.some.inj hsame]
      exact (hoffered op hop).2
    · cases hsame
  have hitem := fun material => startItem_bound h hfour (K := K) material
  have hall : (materials.mapM (startItem H textures)).isSome := mapM_isSome fun material _ => by
    obtain ⟨item, hstart, -⟩ := hitem material
    exact Option.isSome_iff_exists.mpr ⟨item, hstart⟩
  obtain ⟨starts, hstarts⟩ := Option.isSome_iff_exists.mp hall
  obtain ⟨hlen, hget⟩ := mapM_get hstarts
  have hcell : ∀ i material, materials[i]? = some material → ∃ item item' old,
      starts[i]? = some item ∧ startItem H textures material = some item ∧
        (Cells.own i actions).foldlM (panelStep H textures) item = some item' ∧
        (∀ slot, ∃ fallback, nameAt textures (onFailReturn slot).toIdx = some fallback ∧
          old slot = if Knows textures (material._textureNames slot)
            then material._textureNames slot else fallback) ∧
        Follows textures item old (Cells.own i actions) item' := by
    intro i material hmaterial
    obtain ⟨item, hstart, -, -, -, -, -, hbound⟩ := hitem material
    choose fallback hfallback hslot using hbound
    obtain ⟨item0, hitem0, hstart0⟩ := hget i material hmaterial
    obtain rfl : item = item0 := Option.some.inj (hstart.symm.trans hstart0)
    obtain ⟨item', hrun, hfollows⟩ := panel_follows h (hown i) hslot
    exact ⟨item, item', _, hitem0, hstart, hrun, fun slot => ⟨fallback slot, hfallback slot, rfl⟩,
      hfollows⟩
  have hsome : (Cells.run (panelStep H textures) starts actions).isSome := by
    refine Cells.run_isSome (fun op hop => by rw [hlen]; exact (hoffered op hop).1) ?_
    intro i item hi
    have hlt : i < materials.length := by
      rw [← hlen]
      exact (List.getElem?_eq_some_iff.mp hi).1
    obtain ⟨item0, item', -, hitem0, -, hrun, -⟩ := hcell i _ (List.getElem?_eq_getElem hlt)
    obtain rfl : item0 = item := Option.some.inj (hitem0.symm.trans hi)
    rw [hrun]
    rfl
  obtain ⟨items, hitems⟩ := Option.isSome_iff_exists.mp hsome
  refine ⟨items, by rw [runPanel, hstarts]; exact hitems, fun i material hmaterial => ?_⟩
  obtain ⟨item, item', old, hstartItem, hstart, hrun, hold, hfollows⟩ := hcell i material hmaterial
  obtain ⟨item1, hitem1, hrun1⟩ := Cells.run_cell hitems i item hstartItem
  obtain rfl : item' = item1 := Option.some.inj (hrun.symm.trans hrun1)
  exact ⟨item, item', old, hitem1, hstart, hold, hfollows⟩

/-- The copy that the panel starts from. -/
def startCopy (material : SSPbrMaterialState K) : PbrMaterialParamEditorCopy K :=
  ⟨material._constantBuffer, material._textureNames⟩

theorem draftsAt_scale {textures : Manager} (button : PanelAction K → Bool) :
    ∀ {actions : List (PanelAction K)} {copy draft : PbrMaterialParamEditorCopy K},
      draft ∈ draftsAt textures button copy actions →
      draft.pbrMaterialParam.normalTextureScale = copy.pbrMaterialParam.normalTextureScale := by
  intro actions
  induction actions with
  | nil => intro copy draft h; cases h
  | cons action actions ih =>
    intro copy draft h
    rcases List.mem_append.mp h with hnow | hlater
    · split at hnow
      · rw [List.mem_singleton.mp hnow]
      · cases hnow
    · rw [ih hlater]
      cases action with
      | Selectable TextureType j =>
        simp only [draftAfter, editCopy]
        cases textures._assetPool.get j <;> rfl
      | _ => rfl

variable {textures : Manager} {pairs : List (AssetName × String)} {views : List Nat}

/-- A manager that `SSRenderer::Init` has loaded. -/
theorem loadTextures_loaded {raw : Nat → Nat} {poolCapacity hashCapacity limit : Nat}
    {seed : UInt64} {createDDSTextureFromFile : String → Option Nat}
    (hpool : poolCapacity < 2 ^ 32) (hhash : 0 < hashCapacity)
    (hload : loadTextures H createDDSTextureFromFile
      (AssetManager.new raw poolCapacity hashCapacity limit seed) pairs =
        some (textures, some views)) :
    Loaded H textures pairs ∧ pairs.mapM (fun pair => createDDSTextureFromFile pair.2) =
      some views := by
  obtain ⟨m, hinsert, hm⟩ := Option.map_eq_some_iff.mp hload
  obtain ⟨rfl, hviews⟩ := Prod.mk.inj hm
  have hloaded := insertTextures_loaded (loaded_new raw hpool hhash limit seed) hinsert
  refine ⟨hloaded, ?_⟩
  rw [← hviews, hloaded.data, List.mapM_map]
  rfl

/-- A material with the name of a texture that is loaded, and four that are not. -/
def panelMaterial : SSPbrMaterialState Int where
  _textureNames := fun i =>
    AssetManagers.letters (if i = .SS_PBR_TX_BASE_COLOR_IDX then 4 else 9)
  _textureCache := fun _ => none
  _constantBuffer := ⟨⟨1, 1, 1, 1⟩, ⟨0, 0, 0, 0⟩, 1, 0, 1⟩
  EntireConstBufferNum := 4
  bufferContents := fun _ => none

def twoMaterialsOfPanel : List (SSPbrMaterialState Int) := [panelMaterial, panelMaterial]

/-- The four textures that a lookup can fall back to, and one more. -/
def fiveTextures : List (AssetName × String) :=
  (List.range 5).map fun i => (AssetManagers.letters i, "Texture")

theorem fiveTextures_load : ∃ textures views, loadTextures (fun _ _ => 0) (fun _ => some 7)
    (AssetManager.new (fun _ => 0) 100 8 8 0) fiveTextures = some (textures, some views) := by
  have hsome : ((loadTextures (fun _ _ => 0) (fun _ => some 7)
      (AssetManager.new (fun _ => 0) 100 8 8 0) fiveTextures).bind (·.2)).isSome := by
    decide +kernel
  obtain ⟨views, hviews⟩ := Option.isSome_iff_exists.mp hsome
  obtain ⟨⟨textures, created⟩, hload, rfl⟩ := Option.bind_eq_some_iff.mp hviews
  exact ⟨textures, views, hload⟩

/-- Edits of two materials, the first of which is brought up to date. -/
def twoEdits : List (Nat × PanelAction Int) :=
  [(0, .MetallicFactor 1), (0, .Selectable .SS_PBR_TX_NORMAL_IDX 4), (1, .RoughnessFactor 0),
    (0, .SyncMaterialParam), (0, .SyncTexture), (0, .MetallicFactor 0)]

theorem twoEdits_offered {textures : Manager} {views : List Nat}
    (hload : loadTextures (fun _ _ => 0) (fun _ => some 7) (AssetManager.new (fun _ => 0) 100 8 8 0)
      fiveTextures = some (textures, some views)) :
    Offered textures twoMaterialsOfPanel twoEdits := by
  obtain ⟨hloaded, -⟩ := loadTextures_loaded (by decide) (by decide) hload
  have hsize : textures._assetPool.data.length = 5 := hloaded.size
  intro action haction
  simp only [twoEdits, List.mem_cons, List.not_mem_nil, or_false] at haction
  rcases haction with rfl | rfl | rfl | rfl | rfl | rfl
  all_goals
    refine ⟨by simp [twoMaterialsOfPanel], fun TextureType j heq => ?_⟩
    cases heq
  rw [hsize]
  decide

/-- Whatever the user does over any frames, to any materials: the parameters of a material and what
its buffer holds on the GPU are those of its copy at its last "Sync Material Param", or the imported
ones, and its normal scale is never another. -/
theorem panel_params_follow (raw : Nat → Nat) {poolCapacity hashCapacity limit : Nat}
    {seed : UInt64} (hpool : poolCapacity < 2 ^ 32) (hhash : 0 < hashCapacity)
    (createDDSTextureFromFile : String → Option Nat)
    (hload : loadTextures H createDDSTextureFromFile
      (AssetManager.new raw poolCapacity hashCapacity limit seed) pairs =
        some (textures, some views)) (hfour : 4 ≤ pairs.length)
    (materials : List (SSPbrMaterialState K)) (actions : List (Nat × PanelAction K))
    (hoffered : Offered textures materials actions) :
    ∃ items, runPanel H textures materials actions = some items ∧
      ∀ i material, materials[i]? = some material → ∃ item, items[i]? = some item ∧
        let own := Cells.own i actions
        let synced := (draftsAt textures isSyncMaterialParam (startCopy material) own).map
          (·.pbrMaterialParam)
        item.copy = own.foldl (draftAfter textures) (startCopy material) ∧
          item.material._constantBuffer = synced.getLastD material._constantBuffer ∧
          (MATERIAL_PARAM_START_IDX < material.EntireConstBufferNum →
            item.material.bufferContents MATERIAL_PARAM_START_IDX =
              some (synced.getLastD material._constantBuffer)) ∧
          item.material._constantBuffer.normalTextureScale =
            material._constantBuffer.normalTextureScale := by
  obtain ⟨hloaded, -⟩ := loadTextures_loaded hpool hhash hload
  obtain ⟨items, hrun, hall⟩ := runPanel_follows hloaded hfour materials hoffered
  refine ⟨items, hrun, fun i material hmaterial => ?_⟩
  obtain ⟨item, item', old, hitem', hstart, -, hfollows⟩ := hall i material hmaterial
  obtain ⟨item0, hstart0, hcopy, hparam, -, hnum, hcontents, -⟩ :=
    startItem_bound hloaded hfour material
  obtain rfl : item = item0 := Option.some.inj (hstart.symm.trans hstart0)
  have hcopy' : item.copy = startCopy material := hcopy
  refine ⟨item', hitem', by rw [← hcopy']; exact hfollows.copy, ?_, fun hlt => ?_, ?_⟩
  · rw [hfollows.param, hcopy', hparam]
  · rw [hfollows.contents (hnum ▸ hlt), hcopy', hcontents hlt, ← List.getLastD_map (f := some),
      List.map_map]
    rfl
  · rw [hfollows.param, hcopy', hparam]
    have hmem := List.getLastD_mem_cons (a := material._constantBuffer)
      (l := (draftsAt textures isSyncMaterialParam (startCopy material) (Cells.own i actions)).map
        (·.pbrMaterialParam))
    rcases List.mem_cons.mp hmem with heq | hdraft
    · rw [heq]
    · obtain ⟨draft, hdraft, heq⟩ := List.mem_map.mp hdraft
      rw [← heq]
      exact draftsAt_scale isSyncMaterialParam hdraft

theorem panel_params_follow_two : ∃ textures views,
    loadTextures (fun _ _ => 0) (fun _ => some 7) (AssetManager.new (fun _ => 0) 100 8 8 0)
        fiveTextures = some (textures, some views) ∧
      ∃ items, runPanel (fun _ _ => 0) textures twoMaterialsOfPanel twoEdits = some items ∧
        ∀ i material, twoMaterialsOfPanel[i]? = some material → ∃ item, items[i]? = some item ∧
          let own := Cells.own i twoEdits
          let synced := (draftsAt textures isSyncMaterialParam (startCopy material) own).map
            (·.pbrMaterialParam)
          item.copy = own.foldl (draftAfter textures) (startCopy material) ∧
            item.material._constantBuffer = synced.getLastD material._constantBuffer ∧
            (MATERIAL_PARAM_START_IDX < material.EntireConstBufferNum →
              item.material.bufferContents MATERIAL_PARAM_START_IDX =
                some (synced.getLastD material._constantBuffer)) ∧
            item.material._constantBuffer.normalTextureScale =
              material._constantBuffer.normalTextureScale := by
  obtain ⟨textures, views, hload⟩ := fiveTextures_load
  exact ⟨textures, views, hload, panel_params_follow (fun _ => 0) (by decide) (by decide) _ hload
    (by decide) twoMaterialsOfPanel twoEdits (twoEdits_offered hload)⟩

/-- And the textures: a material has the names of its copy at its last "Sync Texture"; every slot
has the view of a loaded texture, and its name is the last one synced that the texture manager
knows, or the one that the slot was given at the start. -/
theorem panel_textures_follow (raw : Nat → Nat) {poolCapacity hashCapacity limit : Nat}
    {seed : UInt64} (hpool : poolCapacity < 2 ^ 32) (hhash : 0 < hashCapacity)
    (createDDSTextureFromFile : String → Option Nat)
    (hload : loadTextures H createDDSTextureFromFile
      (AssetManager.new raw poolCapacity hashCapacity limit seed) pairs =
        some (textures, some views)) (hfour : 4 ≤ pairs.length)
    (materials : List (SSPbrMaterialState K)) (actions : List (Nat × PanelAction K))
    (hoffered : Offered textures materials actions) :
    ∃ items, runPanel H textures materials actions = some items ∧
      ∀ i material, materials[i]? = some material → ∃ item, items[i]? = some item ∧ ∀ slot,
        let synced := (draftsAt textures isSyncTexture (startCopy material)
          (Cells.own i actions)).map (·.textureNames slot)
        let name := material._textureNames slot
        item.material._textureNames slot = synced.getLastD name ∧
          ∃ fallback idx pair view, nameAt textures (onFailReturn slot).toIdx = some fallback ∧
            item.material._textureCache slot = some idx ∧ pairs[idx]? = some pair ∧
            views[idx]? = some view ∧ createDDSTextureFromFile pair.2 = some view ∧
            pair.1 = (synced.filter fun name => decide (Knows textures name)).getLastD
              (if Knows textures name then name else fallback) := by
  obtain ⟨hloaded, hviews⟩ := loadTextures_loaded hpool hhash hload
  obtain ⟨items, hrun, hall⟩ := runPanel_follows hloaded hfour materials hoffered
  refine ⟨items, hrun, fun i material hmaterial => ?_⟩
  obtain ⟨item, item', old, hitem', hstart, hold, hfollows⟩ := hall i material hmaterial
  obtain ⟨item0, hstart0, hcopy, -, hnames, -⟩ := startItem_bound hloaded hfour material
  obtain rfl : item = item0 := Option.some.inj (hstart.symm.trans hstart0)
  have hcopy' : item.copy = startCopy material := hcopy
  refine ⟨item', hitem', fun slot => ⟨by rw [hfollows.names, hcopy', hnames], ?_⟩⟩
  obtain ⟨fallback, hfallback, hslot⟩ := hold slot
  obtain ⟨idx, hcached, hat⟩ := hfollows.bound slot
  rw [hcopy', hslot] at hat
  rw [hloaded.nameAt_eq, List.getElem?_map] at hat
  obtain ⟨pair, hpair, hname⟩ := Option.map_eq_some_iff.mp hat
  obtain ⟨view, hview, hcreated⟩ := (mapM_get hviews).2 idx pair hpair
  exact ⟨fallback, idx, pair, view, hfallback, hcached, hpair, hview, hcreated, hname⟩

theorem panel_textures_follow_two : ∃ textures views,
    loadTextures (fun _ _ => 0) (fun _ => some 7) (AssetManager.new (fun _ => 0) 100 8 8 0)
        fiveTextures = some (textures, some views) ∧
      ∃ items, runPanel (fun _ _ => 0) textures twoMaterialsOfPanel twoEdits = some items ∧
        ∀ i material, twoMaterialsOfPanel[i]? = some material → ∃ item, items[i]? = some item ∧
          ∀ slot,
            let synced := (draftsAt textures isSyncTexture (startCopy material)
              (Cells.own i twoEdits)).map (·.textureNames slot)
            let name := material._textureNames slot
            item.material._textureNames slot = synced.getLastD name ∧
              ∃ fallback idx pair view, nameAt textures (onFailReturn slot).toIdx = some fallback ∧
                item.material._textureCache slot = some idx ∧ fiveTextures[idx]? = some pair ∧
                views[idx]? = some view ∧ some 7 = some view ∧
                pair.1 = (synced.filter fun name => decide (Knows textures name)).getLastD
                  (if Knows textures name then name else fallback) := by
  obtain ⟨textures, views, hload⟩ := fiveTextures_load
  exact ⟨textures, views, hload, panel_textures_follow (fun _ => 0) (by decide) (by decide) _ hload
    (by decide) twoMaterialsOfPanel twoEdits (twoEdits_offered hload)⟩

end Panel

end FBXRenderer
