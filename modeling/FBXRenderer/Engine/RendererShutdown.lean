import FBXRenderer.Engine.RendererCleanUp

/-!
# FBXRenderer.Engine.RendererShutdown

What `SSRenderer::CleanUp` finds after an `Init` that succeeded. `Init` does not look at the results
of the calls that create the joint buffers, `ReleaseGPUBuffer` releases the view of a buffer without
a test.

* `initialized_cleans_up_iff`: `CleanUp` releases and deletes every asset once, exactly when every
  joint buffer that was created was also filled and got its view.
-/

namespace FBXRenderer
namespace SSRenderer

/-- A joint buffer that is created is filled and gets its view; without bones nothing releases it. -/
def SkeletonCalls.GetsView (c : SkeletonCalls) : Prop :=
  c.boneCount ≠ 0 → ¬ FAILED c.createBuffer →
    ¬ FAILED c.map ∧ ¬ FAILED c.createShaderResourceView

def SkeletonAnimCalls.GetsView (c : SkeletonAnimCalls) : Prop :=
  ¬ FAILED c.createBuffer → ¬ FAILED c.createShaderResourceView

/-- The two files, in the order of their import. -/
def importedScenes (calls : InitCalls) : List SceneAssets :=
  calls.directionMesh.toList ++ calls.fbxFile.toList

def JointBuffersViewed (calls : InitCalls) : Prop :=
  ∀ scene ∈ importedScenes calls, (∀ c ∈ scene.skeleton, SkeletonCalls.GetsView c) ∧
    ∀ c ∈ scene.skeletonAnim, SkeletonAnimCalls.GetsView c

section Loops

variable {A B : Type} {type : AssetType} {release : A → Handles → Option Handles}
  {returns : A → Prop} {pool : List A} {l : Ledger}

/-- The loop returns exactly when every release does. -/
theorem releaseAndDeleteAll_isSome_iff
    (hreturns : ∀ item h, (release item h).isSome ↔ returns item) :
    (releaseAndDeleteAll type release pool l).isSome ↔ ∀ item ∈ pool, returns item := by
  unfold releaseAndDeleteAll
  generalize 0 = i
  induction pool generalizing i l with
  | nil => simp [releaseAndDeleteFrom]
  | cons item rest ih =>
    rw [releaseAndDeleteFrom, List.forall_mem_cons, ← hreturns item l.handles]
    cases release item l.handles with
    | none => simp
    | some handles => simpa using ih (i + 1)

theorem forall_mapM_iff {f : A → Option B} {P : B → Prop} {Q : A → Prop} {as : List A}
    {bs : List B} (h : as.mapM f = some bs)
    (hf : ∀ a ∈ as, ∀ b, f a = some b → (P b ↔ Q a)) : (∀ b ∈ bs, P b) ↔ ∀ a ∈ as, Q a := by
  induction as generalizing bs with
  | nil =>
    cases h
    simp
  | cons a as ih =>
    rw [List.mapM_cons] at h
    obtain ⟨b, hb, h⟩ := Option.bind_eq_some_iff.mp h
    obtain ⟨bs', hbs, h⟩ := Option.bind_eq_some_iff.mp h
    cases h
    rw [List.forall_mem_cons, List.forall_mem_cons, hf a List.mem_cons_self b hb,
      ih hbs fun a ha => hf a (List.mem_cons_of_mem _ ha)]

end Loops

section JointBuffers

/-- `ReleaseGPUBuffer` finds a view beside the buffer. -/
def SkeletonState.Viewed (s : SkeletonState) : Prop :=
  s.boneCount ≠ 0 → s._jointBuffer = true → s._jointBufferSRV = true

def SkeletonAnimState.Viewed (s : SkeletonAnimState) : Prop :=
  s._jointBuffer = true → s._jointBufferSRV = true

theorem SkeletonState.release_isSome_iff (s : SkeletonState) (h : Handles) :
    (s.releaseGPUBuffer h).isSome ↔ s.Viewed := by
  unfold releaseGPUBuffer Viewed
  split
  · rename_i hnull
    simp [hnull]
  · rename_i hnot
    simpa using hnot

theorem SkeletonAnimState.release_isSome_iff (s : SkeletonAnimState) (h : Handles) :
    (s.releaseGPUBuffer h).isSome ↔ s.Viewed := by
  unfold releaseGPUBuffer Viewed
  cases s._jointBuffer with
  | false => simp
  | true => cases s._jointBufferSRV <;> simp

theorem SkeletonState.instantiate_viewed_iff {c : SkeletonCalls} {s : SkeletonState}
    (h : ({ toSkeletonCalls := c } : SkeletonState).instantiateGPUBuffer = some s) :
    s.Viewed ↔ c.GetsView := by
  unfold instantiateGPUBuffer at h
  unfold Viewed SkeletonCalls.GetsView
  split at h
  · rename_i hbuffer
    cases h
    simp [hbuffer]
  rename_i hbuffer
  split at h
  · rename_i hmap
    cases h
    simp [hbuffer, hmap]
  · rename_i hmap
    split at h
    · cases h
    · cases h
      simp [hbuffer, hmap]

theorem SkeletonAnimState.instantiate_viewed_iff (c : SkeletonAnimCalls) :
    ({ toSkeletonAnimCalls := c } : SkeletonAnimState).instantiateGPUBuffer.Viewed ↔
      c.GetsView := by
  unfold instantiateGPUBuffer Viewed SkeletonAnimCalls.GetsView
  split
  · rename_i hbuffer
    simp [hbuffer]
  · rename_i hbuffer
    simp [hbuffer]

end JointBuffers

section Import

variable {r r' : SSRenderer} {hr : HRESULT}

def newSkeletons (scene : SceneAssets) : List SkeletonState :=
  scene.skeleton.toList.map fun c => { toSkeletonCalls := c }

def newSkeletonAnims (scene : SceneAssets) : List SkeletonAnimState :=
  scene.skeletonAnim.toList.map fun c => { toSkeletonAnimCalls := c }

/-- The two pools of the joint buffers. -/
def HoldsPools (r : SSRenderer) (scenes : List SceneAssets) : Prop :=
  r.skeletons = some (scenes.flatMap newSkeletons) ∧
    r.skeletonAnims = some (scenes.flatMap newSkeletonAnims)

theorem insertMaterials_pools {count : Nat} (hrun : insertMaterials count r = some r') :
    r'.skeletons = r.skeletons ∧ r'.skeletonAnims = r.skeletonAnims := by
  induction count generalizing r with
  | zero =>
    cases hrun
    exact ⟨rfl, rfl⟩
  | succ count ih =>
    obtain ⟨material, _, hrun⟩ := Option.bind_eq_some_iff.mp hrun
    obtain ⟨pool, _, hrun⟩ := Option.bind_eq_some_iff.mp hrun
    obtain ⟨pool', _, hrun⟩ := Option.bind_eq_some_iff.mp hrun
    have hrest := ih hrun
    exact hrest

theorem HoldsPools.storeScene {scenes : List SceneAssets} {scene : SceneAssets}
    (h : HoldsPools r scenes) (hrun : storeScene r scene = some r') :
    HoldsPools r' (scenes ++ [scene]) := by
  obtain ⟨r1, hmaterials, hrun⟩ := Option.bind_eq_some_iff.mp hrun
  obtain ⟨hskeletons, hanims⟩ := insertMaterials_pools hmaterials
  obtain ⟨skeletons, h1, hrun⟩ := Option.bind_eq_some_iff.mp hrun
  obtain ⟨skeletons', h1', hrun⟩ := Option.bind_eq_some_iff.mp hrun
  obtain ⟨anims, h2, hrun⟩ := Option.bind_eq_some_iff.mp hrun
  obtain ⟨anims', h2', hrun⟩ := Option.bind_eq_some_iff.mp hrun
  obtain ⟨_, _, hrun⟩ := Option.bind_eq_some_iff.mp hrun
  obtain ⟨_, _, hrun⟩ := Option.bind_eq_some_iff.mp hrun
  obtain ⟨_, _, hrun⟩ := Option.bind_eq_some_iff.mp hrun
  obtain ⟨_, _, hrun⟩ := Option.bind_eq_some_iff.mp hrun
  obtain ⟨_, _, hrun⟩ := Option.bind_eq_some_iff.mp hrun
  obtain ⟨_, _, hrun⟩ := Option.bind_eq_some_iff.mp hrun
  cases hrun
  rw [hskeletons, h.1] at h1
  rw [hanims, h.2] at h2
  cases h1
  cases h2
  unfold HoldsPools
  rw [insertAllInto_some h1', insertAllInto_some h2', List.flatMap_append, List.flatMap_append,
    List.flatMap_singleton, List.flatMap_singleton]
  exact ⟨rfl, rfl⟩

theorem HoldsPools.importFBX {directionMesh fbxFile : Option SceneAssets} (h : HoldsPools r [])
    (hrun : importFBXFileToAssetPool r directionMesh fbxFile = some (hr, r'))
    (hok : ¬ FAILED hr) : HoldsPools r' (directionMesh.toList ++ fbxFile.toList) := by
  cases directionMesh with
  | none =>
    cases hrun
    exact absurd failed_E_FAIL hok
  | some scene =>
    obtain ⟨r1, h1, hrun⟩ := Option.bind_eq_some_iff.mp hrun
    cases fbxFile with
    | none =>
      cases hrun
      exact absurd failed_E_FAIL hok
    | some scene2 =>
      obtain ⟨r2, h2, hrun⟩ := Option.bind_eq_some_iff.mp hrun
      cases hrun
      exact (h.storeScene h1).storeScene h2

/-- The way of an `Init` that succeeds: the managers before the upload. -/
theorem init_uploads {calls : InitCalls} (hinit : init {} calls = some (hr, r))
    (hok : ¬ FAILED hr) : ∃ r4, Loaded calls.pbrShader r4 ∧
      HoldsPools r4 (importedScenes calls) ∧ uploadAssets r4 = some (hr, r) := by
  unfold init at hinit
  simp only at hinit
  split at hinit
  · cases hinit
    contradiction
  obtain ⟨⟨hr1, r1⟩, hshaders, hinit⟩ := Option.bind_eq_some_iff.mp hinit
  obtain ⟨_, _, hready⟩ := initShaderManager_spec rfl hshaders
  simp only at hinit
  split at hinit
  · cases hinit
    contradiction
  rename_i hok1
  obtain ⟨pool1, h1, hready1, rfl⟩ := hready hok1
  obtain ⟨pool0, hpool0, hinit⟩ := Option.bind_eq_some_iff.mp hinit
  cases hpool0
  obtain ⟨⟨hr2, textures⟩, htextures, hinit⟩ := Option.bind_eq_some_iff.mp hinit
  obtain ⟨_, htexReady⟩ := loadTextures_spec htextures
  simp only at hinit
  split at hinit
  · cases hinit
    contradiction
  obtain ⟨r3, hmaterials, hinit⟩ := Option.bind_eq_some_iff.mp hinit
  obtain ⟨m, hcache, rfl⟩ := insertMaterials_spec hmaterials rfl hready1 rfl
  obtain ⟨⟨hr4, r4⟩, himport, hinit⟩ := Option.bind_eq_some_iff.mp hinit
  simp only at hinit
  split at hinit
  · cases hinit
    contradiction
  rename_i hok4
  refine ⟨r4, ((Loaded.start hready1 htexReady hcache).importFBX himport).1, ?_, hinit⟩
  exact HoldsPools.importFBX ⟨rfl, rfl⟩ himport hok4

end Import

section CleanUp

variable {r r' : SSRenderer} {hr : HRESULT} {pbrShader : ShaderCalls} {scenes : List SceneAssets}

theorem skeletons_viewed_iff {skeletons : List SkeletonState}
    (h : (scenes.flatMap newSkeletons).mapM SkeletonState.instantiateGPUBuffer = some skeletons) :
    (∀ s ∈ skeletons, s.Viewed) ↔
      ∀ scene ∈ scenes, ∀ c ∈ scene.skeleton, SkeletonCalls.GetsView c := by
  rw [forall_mapM_iff (Q := fun s => s.GetsView) h ?_]
  · simp only [newSkeletons, List.forall_mem_flatMap, List.forall_mem_map, Option.mem_toList,
      Option.mem_def]
  · intro s hs s' hs'
    obtain ⟨scene, _, hs⟩ := List.mem_flatMap.mp hs
    obtain ⟨c, _, rfl⟩ := List.mem_map.mp hs
    exact SkeletonState.instantiate_viewed_iff hs'

theorem skeletonAnims_viewed_iff :
    (∀ s ∈ (scenes.flatMap newSkeletonAnims).map SkeletonAnimState.instantiateGPUBuffer,
      s.Viewed) ↔
      ∀ scene ∈ scenes, ∀ c ∈ scene.skeletonAnim, SkeletonAnimCalls.GetsView c := by
  simp only [newSkeletonAnims, List.forall_mem_flatMap, List.forall_mem_map, Option.mem_toList,
    Option.mem_def, SkeletonAnimState.instantiate_viewed_iff]

/-- The managers after the upload: `InstantiateAllMaterials` needs the default shader, and the joint
buffers are those of the imported skeletons and animations. -/
structure Uploaded (scenes : List SceneAssets) (r : SSRenderer) : Prop where
  shaders : ∃ pool, r.shaders = some pool ∧ ∀ s ∈ pool, Releasable s.asset
  textures : ∃ pool, r.textures = some pool ∧ TexturesReady pool
  materials : ∃ pool, r.materials = some pool ∧ ∀ m ∈ pool, m._shaderReflectionCache = true
  skeletons : ∃ pool, r.skeletons = some pool ∧ ((∀ s ∈ pool, s.Viewed) ↔
    ∀ scene ∈ scenes, ∀ c ∈ scene.skeleton, SkeletonCalls.GetsView c)
  skeletonAnims : ∃ pool, r.skeletonAnims = some pool ∧ ((∀ s ∈ pool, s.Viewed) ↔
    ∀ scene ∈ scenes, ∀ c ∈ scene.skeletonAnim, SkeletonAnimCalls.GetsView c)
  geometries : ∃ pool, r.geometries = some pool
  models : ∃ pool, r.models = some pool
  modelCombinations : ∃ pool, r.modelCombinations = some pool
  released : r.ledger.released = []
  deleted : r.ledger.deleted = []

theorem Loaded.uploaded (h : Loaded pbrShader r) (hpools : HoldsPools r scenes)
    (hrun : uploadAssets r = some (hr, r')) (hok : ¬ FAILED hr) : Uploaded scenes r' := by
  obtain ⟨shaders, hshaders, hready⟩ := h.shaders
  obtain ⟨pool, hpool, hrun⟩ := Option.bind_eq_some_iff.mp hrun
  obtain ⟨materials, hinst, hrun⟩ := Option.bind_eq_some_iff.mp hrun
  obtain ⟨pool2, hpool2, hrun⟩ := Option.bind_eq_some_iff.mp hrun
  obtain ⟨skeletons, hskeletons, hrun⟩ := Option.bind_eq_some_iff.mp hrun
  obtain ⟨pool3, hpool3, hrun⟩ := Option.bind_eq_some_iff.mp hrun
  obtain ⟨geometries, _, hrun⟩ := Option.bind_eq_some_iff.mp hrun
  obtain ⟨⟨hr1, geometries', u⟩, _, hrun⟩ := Option.bind_eq_some_iff.mp hrun
  cases hpools.1.symm.trans hpool2
  cases hpools.2.symm.trans hpool3
  simp only at hrun
  split at hrun
  · obtain ⟨l, _, hrun⟩ := Option.bind_eq_some_iff.mp hrun
    cases hrun
    contradiction
  cases hrun
  constructor
  case shaders => exact ⟨shaders, hshaders, hready.releasable⟩
  case textures => exact h.textures
  case materials =>
    refine ⟨materials, rfl, (forall_mapM_iff (Q := fun _ => True) hinst ?_).mpr fun _ _ => trivial⟩
    intro m _ m' hm
    unfold MaterialState.instantiate at hm
    split at hm
    · cases hm
      simpa
    · cases hm
  case skeletons => exact ⟨skeletons, rfl, skeletons_viewed_iff hskeletons⟩
  case skeletonAnims => exact ⟨_, rfl, skeletonAnims_viewed_iff⟩
  case geometries => exact ⟨_, rfl⟩
  case models => exact h.models
  case modelCombinations => exact h.modelCombinations
  case released => exact h.released
  case deleted => exact h.deleted

/-- Two steps in a row, of which the second does not depend on what the first hands on. -/
theorem isSome_bind_iff {A B : Type} {o : Option A} {f : A → Option B} {p q : Prop}
    (h : o.isSome ↔ p) (hf : ∀ a, (f a).isSome ↔ q) : (o.bind f).isSome ↔ p ∧ q := by
  cases o with
  | none =>
    have hp : ¬ p := by simpa using h
    simp [hp]
  | some a =>
    have hp : p := by simpa using h
    simp [hp, hf a]

theorem Uploaded.cleanUp_isSome_iff (h : Uploaded scenes r) :
    (cleanUp r).isSome ↔ ∀ scene ∈ scenes, (∀ c ∈ scene.skeleton, SkeletonCalls.GetsView c) ∧
      ∀ c ∈ scene.skeletonAnim, SkeletonAnimCalls.GetsView c := by
  obtain ⟨shaders, hshaders, hreleasable⟩ := h.shaders
  obtain ⟨textures, htextures, hready⟩ := h.textures
  obtain ⟨materials, hmaterials, hcache⟩ := h.materials
  obtain ⟨skeletons, hskeletons, hviewed⟩ := h.skeletons
  obtain ⟨anims, hanims, hanimsViewed⟩ := h.skeletonAnims
  obtain ⟨geometries, hgeometries⟩ := h.geometries
  obtain ⟨models, hmodels⟩ := h.models
  obtain ⟨combinations, hcombinations⟩ := h.modelCombinations
  -- what the last three loops release is there
  have hrest : ∀ l, ((releaseAllMaterials materials l).bind fun l =>
      (releaseAndDeleteAll .Texture TextureState.releaseGPUData textures l).bind fun l =>
        (releaseAllShader shaders l).bind fun l =>
          some ({ ledger := l } : SSRenderer)).isSome ↔ True := by
    intro l
    obtain ⟨l1, e1⟩ : ∃ l1, releaseAllMaterials materials l = some l1 :=
      releaseAndDeleteAll_returns fun m hm h => by simp [MaterialState.release, hcache m hm]
    obtain ⟨l2, e2⟩ : ∃ l2, releaseAndDeleteAll .Texture TextureState.releaseGPUData textures l1 =
        some l2 :=
      releaseAndDeleteAll_returns fun t ht h => by
        simpa [TextureState.releaseGPUData] using hready t ht
    obtain ⟨l3, e3⟩ : ∃ l3, releaseAllShader shaders l2 = some l3 :=
      releaseAndDeleteAll_returns fun s hs h => hreleasable s hs h
    simp [e1, e2, e3]
  unfold cleanUp
  simp only [hshaders, htextures, hmaterials, hskeletons, hanims, hgeometries, hmodels,
    hcombinations, Option.bind_eq_bind, Option.bind_some, Option.pure_def]
  rw [isSome_bind_iff (releaseAndDeleteAll_isSome_iff SkeletonAnimState.release_isSome_iff)
      fun l => isSome_bind_iff
        (releaseAndDeleteAll_isSome_iff SkeletonState.release_isSome_iff) hrest,
    hviewed, hanimsViewed, and_true, and_comm]
  exact forall₂_and.symm

/-- A `CleanUp` that goes through from empty records deletes and releases everything once. -/
theorem cleansUp_iff_isSome (hreleased : r.ledger.released = []) (hdeleted : r.ledger.deleted = []) :
    CleansUp r ↔ (cleanUp r).isSome := by
  constructor
  · rintro ⟨r', hclean, _⟩
    rw [hclean]
    rfl
  · intro hsome
    obtain ⟨r', hclean⟩ := Option.isSome_iff_exists.mp hsome
    have hrun := cleanUp_some hclean
    refine ⟨r', hclean, fun type i hi => ⟨?_, fun htype => ?_⟩⟩
    · rw [hrun.deleted, hdeleted, List.nil_append, count_assetsOf _ (by decide) type i hi]
      cases type <;> rfl
    · rw [hrun.released, hreleased, List.nil_append, count_assetsOf _ (by decide) type i hi]
      cases type with
      | Model | ModelCombination => cases htype
      | _ => rfl

/-- After an `Init` that succeeded, whatever was imported: `CleanUp` goes through and releases and
deletes every asset of every manager once, exactly when no joint buffer was created without being
filled and viewed. -/
theorem initialized_cleans_up_iff (calls : InitCalls) (hr : HRESULT) (r : SSRenderer)
    (hinit : init {} calls = some (hr, r)) (hok : ¬ FAILED hr) :
    CleansUp r ↔ JointBuffersViewed calls := by
  obtain ⟨r4, hloaded, hpools, hupload⟩ := init_uploads hinit hok
  have huploaded := hloaded.uploaded hpools hupload hok
  rw [cleansUp_iff_isSome huploaded.released huploaded.deleted, huploaded.cleanUp_isSome_iff]
  rfl

/-- The file has a skeleton whose buffer cannot be mapped, and an animation. -/
def unmappedSkeleton : InitCalls :=
  { allSucceed with
    fbxFile := some ⟨1, some ⟨1, S_OK, E_FAIL, S_OK⟩, some ⟨S_OK, S_OK⟩, []⟩ }

theorem initialized_cleans_up_iff_unmapped :
    ∃ r, init {} unmappedSkeleton = some (S_OK, r) ∧ ¬ FAILED S_OK ∧
      (CleansUp r ↔ JointBuffersViewed unmappedSkeleton) :=
  ⟨_, rfl, not_failed_S_OK,
    initialized_cleans_up_iff unmappedSkeleton S_OK _ rfl not_failed_S_OK⟩

end CleanUp

end SSRenderer

end FBXRenderer
