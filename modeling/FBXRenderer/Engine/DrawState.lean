import Mathlib
import FBXRenderer.Engine.DrawScene

/-!
# FBXRenderer.Engine.DrawState

The state of the device context at the draws of a traversal, from any state before it.

* `subDraw_step`: what one sub-geometry binds, updates and draws.
* `draws_keep_last_binding`: shader and geometry are those of the last sub-geometry that could be
  bound; the transform is always written to the buffer of the sub-geometry's own material.
* `ready_draws_see_their_own`: with everything ready, nothing of an earlier draw is seen.
-/

namespace FBXRenderer

open SS PreorderList CommandStream ID3D11DeviceContext

namespace ID3D11DeviceContext

/-- Shader, input layout and geometry. -/
structure Pipeline where
  inputLayout : Option String
  vertexShader : Option String
  pixelShader : Option String
  vertexBuffer : Option Nat
  vertexStride : Nat
  indexBuffer : Option Nat

section State

variable {K : Type}

def State.pipeline (s : State K) : Pipeline where
  inputLayout := s.inputLayout
  vertexShader := s.vertexShader
  pixelShader := s.pixelShader
  vertexBuffer := s.vertexBuffer
  vertexStride := s.vertexStride
  indexBuffer := s.indexBuffer

def Command.isDraw : Command K → Bool
  | .DrawIndexed _ _ => true
  | _ => false

theorem observe_eq_none {c : Command K} (h : c.isDraw = false) (s : State K) :
    observe s c = none := by
  cases c <;> first | rfl | cases h

/-- Commands that draw nothing. -/
theorem exec_of_not_draw {cs : List (Command K)} (h : ∀ c ∈ cs, c.isDraw = false) (s : State K) :
    exec (machine K) s cs = (cs.foldl step s, []) :=
  exec_silent cs s fun s c hc => observe_eq_none (h c hc) s

/-- One slot after the other. -/
def setAll (table : Nat → Option Nat) (bindings : List (Nat × Option Nat)) : Nat → Option Nat :=
  bindings.foldl (fun table b => Function.update table b.1 b.2) table

theorem setAll_cons (table : Nat → Option Nat) (b : Nat × Option Nat)
    (bindings : List (Nat × Option Nat)) :
    setAll table (b :: bindings) = setAll (Function.update table b.1 b.2) bindings := rfl

theorem setAll_of_not_mem {slot : Nat} : ∀ (bindings : List (Nat × Option Nat))
    (table : Nat → Option Nat), slot ∉ bindings.map Prod.fst →
    setAll table bindings slot = table slot := by
  intro bindings
  induction bindings with
  | nil => intro table _; rfl
  | cons b bindings ih =>
    intro table hslot
    rw [List.map_cons, List.mem_cons, not_or] at hslot
    rw [setAll_cons, ih _ hslot.2, Function.update_of_ne hslot.1]

/-- A slot that is bound, where every binding has the value that `f` gives its slot. -/
theorem setAll_of_own {f : Nat → Option Nat} {slot : Nat} : ∀ {bindings : List (Nat × Option Nat)}
    {table : Nat → Option Nat}, (∀ b ∈ bindings, b.2 = f b.1) →
    slot ∈ bindings.map Prod.fst → setAll table bindings slot = f slot := by
  intro bindings
  induction bindings with
  | nil => intro table _ hslot; cases hslot
  | cons b bindings ih =>
    intro table hown hslot
    rw [setAll_cons]
    by_cases hlater : slot ∈ bindings.map Prod.fst
    · exact ih (fun c hc => hown c (List.mem_cons_of_mem _ hc)) hlater
    · have hfirst : slot = b.1 := by
        rw [List.map_cons] at hslot
        exact (List.mem_cons.mp hslot).resolve_right hlater
      rw [setAll_of_not_mem _ _ hlater, hfirst, Function.update_self]
      exact hown b (List.mem_cons_self ..)

theorem foldl_VSSetConstantBuffers : ∀ (bindings : List (Nat × Option Nat)) (s : State K),
    (bindings.map fun b => Command.VSSetConstantBuffers b.1 b.2).foldl step s =
      { s with vsConstantBuffers := setAll s.vsConstantBuffers bindings } := by
  intro bindings
  induction bindings with
  | nil => intro s; rfl
  | cons b bindings ih =>
    intro s
    rw [List.map_cons, List.foldl_cons, ih]
    rfl

theorem foldl_PSSetConstantBuffers : ∀ (bindings : List (Nat × Option Nat)) (s : State K),
    (bindings.map fun b => Command.PSSetConstantBuffers b.1 b.2).foldl step s =
      { s with psConstantBuffers := setAll s.psConstantBuffers bindings } := by
  intro bindings
  induction bindings with
  | nil => intro s; rfl
  | cons b bindings ih =>
    intro s
    rw [List.map_cons, List.foldl_cons, ih]
    rfl

theorem foldl_PSSetShaderResources : ∀ (bindings : List (Nat × Option Nat)) (s : State K),
    (bindings.map fun b => Command.PSSetShaderResources b.1 b.2).foldl step s =
      { s with psShaderResources := setAll s.psShaderResources bindings } := by
  intro bindings
  induction bindings with
  | nil => intro s; rfl
  | cons b bindings ih =>
    intro s
    rw [List.map_cons, List.foldl_cons, ih]
    rfl

end State

end ID3D11DeviceContext

section Bind

variable {K : Type}

/-- `bindShader` on a pipeline. -/
def withShader (shader : SSShaderAsset) (t : Pipeline) : Pipeline :=
  if shader._shaderInstanceStage = .Instantiated then
    { t with inputLayout := some shader._assetName
             vertexShader := some shader._assetName
             pixelShader := some shader._assetName }
  else t

def withGeometry (geometry : SSGeometryBuffers) (t : Pipeline) : Pipeline :=
  if geometry.usableOnGPU then
    { t with vertexBuffer := geometry._vertexBuffer
             vertexStride := geometry._eachVertexDataSize
             indexBuffer := geometry._indexBuffer }
  else t

/-- `textures` as pairs of a slot and a view. -/
def textureBindings (material : SSDrawnMaterial) : List (Nat × Option Nat) :=
  (List.range material.TexturePoolCount).map fun i => (i, material._textureCache i)

def constantBindings (material : SSDrawnMaterial) :
    List (Nat × Option Nat) × List (Nat × Option Nat) :=
  material.buffers.bindMaterial material._shader._assetName

theorem bindTextures_some {material : SSDrawnMaterial} {cs : List (Command K)}
    (h : SSRenderer.bindTextures material = some cs) :
    cs = (textureBindings material).map fun b => .PSSetShaderResources b.1 b.2 := by
  have hall := forall₂_of_mapM h
  unfold textureBindings
  rw [List.map_map]
  clear h
  generalize List.range material.TexturePoolCount = slots at hall ⊢
  induction hall with
  | nil => rfl
  | cons hhead _ ih =>
    obtain ⟨view, hview, rfl⟩ := Option.map_eq_some_iff.mp hhead
    rw [List.map_cons, ← ih]
    simp [hview]

/-- What binding a material leaves in the slots. -/
structure SetsResources (material : SSDrawnMaterial) (s s' : State K) : Prop where
  vs : s'.vsConstantBuffers = setAll s.vsConstantBuffers (constantBindings material).1
  ps : s'.psConstantBuffers = setAll s.psConstantBuffers (constantBindings material).2
  textures : s'.psShaderResources = setAll s.psShaderResources (textureBindings material)
  samplers : s'.psSamplers = setSlots s.psSamplers 0
    ((List.range material.SamplerCount).map material._sampleCache)

theorem bindMaterial_step {material : SSDrawnMaterial} {cs : List (Command K)}
    (hready : material.isBindingPossible) (h : SSRenderer.bindMaterial material = some cs)
    (s : State K) :
    ∃ s', exec (machine K) s cs = (s', []) ∧
      s'.pipeline = withShader material._shader s.pipeline ∧ SetsResources material s s' := by
  have hstage : material.buffers._materialStage ≠ .JustCreated := by
    intro hcreated
    unfold SSDrawnMaterial.isBindingPossible at hready
    rw [hcreated] at hready
    cases hready
  unfold SSRenderer.bindMaterial at h
  rw [if_neg hstage] at h
  obtain ⟨textures, htextures, hcs⟩ := Option.bind_eq_some_iff.mp h
  obtain rfl := Option.some_inj.mp hcs
  rw [bindTextures_some htextures]
  refine ⟨_, exec_of_not_draw (fun c hc => ?_) s, ?_⟩
  · simp only [List.mem_append, List.mem_map, List.mem_singleton] at hc
    rcases hc with (((hc | ⟨b, -, rfl⟩) | ⟨b, -, rfl⟩) | ⟨b, -, rfl⟩) | rfl
    · unfold SSRenderer.bindShader at hc
      split at hc
      · cases hc
      · simp only [List.mem_cons, List.not_mem_nil, or_false] at hc
        rcases hc with rfl | rfl | rfl <;> rfl
    · rfl
    · rfl
    · rfl
    · rfl
  · rw [List.foldl_append, List.foldl_append, List.foldl_append, List.foldl_append,
      foldl_VSSetConstantBuffers, foldl_PSSetConstantBuffers, foldl_PSSetShaderResources]
    unfold SSRenderer.bindShader withShader
    by_cases hinst : material._shader._shaderInstanceStage = .Instantiated
    · simp only [hinst, ne_eq, not_true_eq_false, if_false, if_true]
      exact ⟨rfl, rfl, rfl, rfl, rfl⟩
    · simp only [hinst, ne_eq, not_false_eq_true, if_true, if_false]
      exact ⟨rfl, rfl, rfl, rfl, rfl⟩

end Bind

section SubDraws

variable {K : Type}

/-- One sub-geometry of a model in the scene. -/
structure SubDraw (K : Type) where
  model : Nat
  modelAsset : SSModelAsset
  WMatrix : XMMATRIX K
  RotMatrix : XMMATRIX K
  subGeometry : Nat

variable (assets : DrawnAssets K)

def SubDraw.material (x : SubDraw K) : Option SSDrawnMaterial :=
  SSRenderer.materialOf assets x.modelAsset x.subGeometry

/-- `bindModel` on a pipeline: what cannot be bound leaves what was bound before. -/
def boundBy (t : Pipeline) (x : SubDraw K) : Pipeline :=
  match x.material assets with
  | none => t
  | some material =>
    if material.isBindingPossible then
      withGeometry (assets.geometryBuffers x.model) (withShader material._shader t)
    else t

def subDraws (item : MeshItem K) : List (SubDraw K) :=
  match item.model with
  | none => []
  | some model =>
    match assets.models[model]? with
    | none => []
    | some modelAsset => (List.range modelAsset._geometry.subGeometryNum).map fun i =>
      ⟨model, modelAsset, item.WMatrix, item.RotMatrix, i⟩

/-- The commands of one sub-geometry, if there are any. -/
def subDrawBlock [Field K] (dx : DirectXMath K) (x : SubDraw K) : Option (List (Command K)) :=
  SSRenderer.drawSubGeometry dx assets x.model x.modelAsset x.WMatrix x.RotMatrix x.subGeometry

variable {assets}

theorem subGeometry_lt {item : MeshItem K} {x : SubDraw K} (h : x ∈ subDraws assets item) :
    x.subGeometry < x.modelAsset._geometry.subGeometryNum := by
  unfold subDraws at h
  split at h
  · cases h
  · split at h
    · cases h
    · obtain ⟨i, hi, rfl⟩ := List.mem_map.mp h
      exact List.mem_range.mp hi

theorem drawMesh_some [Field K] {dx : DirectXMath K} {item : MeshItem K} {cs : List (Command K)}
    (h : drawMesh dx assets item = some cs) :
    emitAll (subDrawBlock assets dx) (subDraws assets item) = some cs := by
  unfold drawMesh at h
  obtain ⟨model, hmodel, h⟩ := Option.bind_eq_some_iff.mp h
  obtain ⟨modelAsset, hasset, h⟩ := Option.bind_eq_some_iff.mp h
  obtain ⟨commands, hcommands, h⟩ := Option.bind_eq_some_iff.mp h
  have hdraws : subDraws assets item = (List.range modelAsset._geometry.subGeometryNum).map
      fun i => ⟨model, modelAsset, item.WMatrix, item.RotMatrix, i⟩ := by
    unfold subDraws
    simp only [hmodel, hasset]
  obtain rfl := Option.some_inj.mp h
  rw [hdraws, emitAll, List.mapM_map]
  show Option.map List.flatten (List.mapM _ _) = _
  exact congrArg (Option.map List.flatten) hcommands

theorem bindModel_step {x : SubDraw K} {material : SSDrawnMaterial} {cs : List (Command K)}
    (hi : x.subGeometry < x.modelAsset._geometry.subGeometryNum)
    (hmaterial : x.material assets = some material)
    (h : SSRenderer.bindModel assets x.model x.modelAsset x.subGeometry = some cs)
    (s : State K) :
    ∃ s', exec (machine K) s cs = (s', []) ∧ s'.pipeline = boundBy assets s.pipeline x ∧
      (material.isBindingPossible → SetsResources material s s') := by
  unfold SSRenderer.bindModel at h
  rw [if_neg (Nat.not_le_of_lt hi)] at h
  obtain ⟨m, hm, h⟩ := Option.bind_eq_some_iff.mp h
  obtain rfl : m = material := Option.some_inj.mp (hm.symm.trans hmaterial)
  unfold boundBy
  rw [hmaterial]
  by_cases hready : m.isBindingPossible
  · rw [if_pos hready] at h
    obtain ⟨bound, hbound, h⟩ := Option.bind_eq_some_iff.mp h
    obtain ⟨s1, hs1, hpipeline, hsets⟩ := bindMaterial_step hready hbound s
    simp only [if_pos hready]
    unfold withGeometry
    by_cases husable : (assets.geometryBuffers x.model).usableOnGPU
    · rw [if_pos husable] at h
      obtain rfl := Option.some_inj.mp h
      rw [if_pos husable, ← hpipeline]
      refine ⟨(SSRenderer.bindGeometry (assets.geometryBuffers x.model)).foldl step s1, ?_, rfl,
        fun _ => ?_⟩
      · rw [exec_append, hs1]
        rfl
      · exact ⟨hsets.vs, hsets.ps, hsets.textures, hsets.samplers⟩
    · rw [if_neg husable] at h
      obtain rfl := Option.some_inj.mp h
      rw [if_neg husable]
      exact ⟨s1, hs1, hpipeline, fun _ => hsets⟩
  · rw [if_neg hready] at h
    obtain rfl := Option.some_inj.mp h
    simp only [if_neg hready]
    exact ⟨s, rfl, rfl, fun hpossible => absurd hpossible hready⟩

/-- The joints a skinned mesh is drawn with, where the view of the skeleton is `view`. -/
structure SetsJoints (assets : DrawnAssets K) (view : Option Nat) (anim : SSBoundSkeletonAnim K)
    (joints : Nat → JOINTMATRIX K) (s' : State K) : Prop where
  skeleton : assets._skeletonAssetCache = some view
  cached : assets._skeletonAnimCache = some anim
  inverseBind : s'.vsShaderResources 3 = view
  animation : s'.vsShaderResources 4 = anim._jointBufferSRV
  joints : s'.contents anim._jointBuffer = some (.joints joints)

/-- `bindJoints` leaves everything else alone. -/
structure KeepsBindings (s s' : State K) : Prop where
  pipeline : s'.pipeline = s.pipeline
  vs : s'.vsConstantBuffers = s.vsConstantBuffers
  ps : s'.psConstantBuffers = s.psConstantBuffers
  textures : s'.psShaderResources = s.psShaderResources
  samplers : s'.psSamplers = s.psSamplers

theorem SetsResources.keep {material : SSDrawnMaterial} {s s1 s2 : State K}
    (h : SetsResources material s s1) (hk : KeepsBindings s1 s2) : SetsResources material s s2 where
  vs := hk.vs.trans h.vs
  ps := hk.ps.trans h.ps
  textures := hk.textures.trans h.textures
  samplers := hk.samplers.trans h.samplers

variable [Field K]

theorem bindJoints_step {modelAsset : SSModelAsset} {cs : List (Command K)}
    (h : SSRenderer.bindJoints assets modelAsset = some cs) (s : State K) :
    ∃ s', exec (machine K) s cs = (s', []) ∧ KeepsBindings s s' ∧
      (modelAsset._geometry._meshType = .Skinned → ∃ view anim joints,
        anim.jointsAt (assets.elapsedTime / (2 : Nat)) = some joints ∧
          SetsJoints assets view anim joints s') := by
  unfold SSRenderer.bindJoints at h
  by_cases hskinned : modelAsset._geometry._meshType = .Skinned
  · rw [if_pos hskinned] at h
    obtain ⟨skeleton, hskeleton, h⟩ := Option.bind_eq_some_iff.mp h
    obtain ⟨anims, hanims, h⟩ := Option.bind_eq_some_iff.mp h
    obtain rfl := Option.some_inj.mp h
    obtain ⟨view, hview, rfl⟩ := Option.map_eq_some_iff.mp hskeleton
    obtain ⟨anim, hanim, h⟩ := Option.bind_eq_some_iff.mp hanims
    obtain ⟨joints, hjoints, h⟩ := Option.bind_eq_some_iff.mp h
    obtain rfl := Option.some_inj.mp h
    refine ⟨_, rfl, ⟨rfl, rfl, rfl, rfl, rfl⟩, fun _ => ⟨view, anim, joints, hjoints, hview, hanim,
      ?_, ?_, ?_⟩⟩
    · simp [exec, machine, step]
    · simp [exec, machine, step]
    · simp [exec, machine, step]
  · rw [if_neg hskinned] at h
    obtain rfl := Option.some_inj.mp h
    exact ⟨s, rfl, ⟨rfl, rfl, rfl, rfl, rfl⟩, fun hs => absurd hs hskinned⟩

/-- What a sub-geometry is drawn with, when the device was in state `s` before it. -/
structure Drawn (dx : DirectXMath K) (assets : DrawnAssets K) (s : State K) (x : SubDraw K)
    (material : SSDrawnMaterial) (o : DrawCall K) : Prop where
  ofMaterial : x.material assets = some material
  range : o.IndexCount = x.modelAsset._geometry.indexDataNum x.subGeometry ∧
    o.StartIndexLocation = x.modelAsset._geometry.indexDataStartIndex x.subGeometry
  pipeline : o.state.pipeline = boundBy assets s.pipeline x
  transform : ∃ buffer, material.buffers.ConstantBuffers W_TRANSFOMRM_IDX = some buffer ∧
    o.state.contents buffer = some
      (.transform (dx.XMMatrixTranspose x.WMatrix) (dx.XMMatrixTranspose x.RotMatrix))
  param : ∃ buffer,
    material.buffers.ConstantBuffers GLOBAL_RENDER_PARAM_IDX = some buffer ∧
      (material.buffers.ConstantBuffers W_TRANSFOMRM_IDX ≠ some buffer →
        o.state.contents buffer = some (.globalRenderParam assets._globalParamContext))
  resources : material.isBindingPossible → SetsResources material s o.state
  joints : x.modelAsset._geometry._meshType = .Skinned → ∃ view anim joints,
    assets._skeletonAnimCache = some anim ∧
      anim.jointsAt (assets.elapsedTime / (2 : Nat)) = some joints ∧
      (material.buffers.ConstantBuffers W_TRANSFOMRM_IDX ≠ some anim._jointBuffer →
        material.buffers.ConstantBuffers GLOBAL_RENDER_PARAM_IDX ≠
          some anim._jointBuffer →
        SetsJoints assets view anim joints o.state)

/-- The step lemma: one sub-geometry is one draw. -/
theorem subDraw_step {dx : DirectXMath K} {x : SubDraw K} {cs : List (Command K)}
    (hi : x.subGeometry < x.modelAsset._geometry.subGeometryNum)
    (h : subDrawBlock assets dx x = some cs) (s : State K) :
    ∃ o material, (exec (machine K) s cs).2 = [o] ∧ Drawn dx assets s x material o ∧
      (exec (machine K) s cs).1 = o.state := by
  unfold subDrawBlock SSRenderer.drawSubGeometry at h
  obtain ⟨bound, hbound, h⟩ := Option.bind_eq_some_iff.mp h
  obtain ⟨skin, hskin, h⟩ := Option.bind_eq_some_iff.mp h
  obtain ⟨material, hmaterial, h⟩ := Option.bind_eq_some_iff.mp h
  obtain ⟨param, hparam, h⟩ := Option.bind_eq_some_iff.mp h
  obtain ⟨transform, htransform, h⟩ := Option.bind_eq_some_iff.mp h
  obtain rfl := Option.some_inj.mp h
  obtain ⟨paramBuffer, hparamBuffer, rfl⟩ := Option.map_eq_some_iff.mp hparam
  obtain ⟨buffer, hbuffer, rfl⟩ := Option.map_eq_some_iff.mp htransform
  obtain ⟨s1, hs1, hpipeline, hsets⟩ := bindModel_step hi hmaterial hbound s
  obtain ⟨s2, hs2, hkeeps, hjoints⟩ := bindJoints_step hskin s1
  rw [exec_append, exec_append, hs1, hs2]
  refine ⟨_, material, rfl, ?_, rfl⟩
  refine ⟨hmaterial, ⟨rfl, rfl⟩, ?_, ⟨buffer, hbuffer, ?_⟩, ⟨paramBuffer, hparamBuffer, ?_⟩, ?_, ?_⟩
  · exact hkeeps.pipeline.trans hpipeline
  · simp [machine, step]
  · intro hne
    have hdistinct : paramBuffer ≠ buffer := fun heq => hne (heq ▸ hbuffer)
    simp [machine, step, Function.update_of_ne hdistinct]
  · intro hready
    have hbind := (hsets hready).keep hkeeps
    exact ⟨hbind.vs, hbind.ps, hbind.textures, hbind.samplers⟩
  · intro hskinned
    obtain ⟨view, anim, joints, hat, hset⟩ := hjoints hskinned
    refine ⟨view, anim, joints, hset.cached, hat, fun hne hne' => ?_⟩
    have hdistinct : anim._jointBuffer ≠ buffer := fun heq => hne (heq ▸ hbuffer)
    have hdistinct' : anim._jointBuffer ≠ paramBuffer := fun heq => hne' (heq ▸ hparamBuffer)
    refine ⟨hset.skeleton, hset.cached, hset.inverseBind, hset.animation, ?_⟩
    rw [← hset.joints]
    simp [machine, step, Function.update_of_ne hdistinct, Function.update_of_ne hdistinct']

end SubDraws

section Draws

variable {K : Type} [Field K] {dx : DirectXMath K} {assets : DrawnAssets K}

theorem emitAll_drawMesh {items : List (MeshItem K)} {cs : List (Command K)}
    (h : emitAll (drawMesh dx assets) items = some cs) :
    emitAll (subDrawBlock assets dx) (items.flatMap (subDraws assets)) = some cs := by
  induction items generalizing cs with
  | nil => exact h
  | cons item items ih =>
    rw [emitAll_cons] at h
    obtain ⟨block, hblock, hrest⟩ := Option.bind_eq_some_iff.mp h
    obtain ⟨rest, hall, rfl⟩ := Option.map_eq_some_iff.mp hrest
    rw [List.flatMap_cons, emitAll_append, drawMesh_some hblock, ih hall]
    rfl

/-- The run lemma: the draws of a list of models are their sub-geometries in order. -/
theorem exec_subDraws {P : State K → SubDraw K → DrawCall K → Prop} {Q : SubDraw K → Prop}
    (hP : ∀ before x material o, Q x → Drawn dx assets before x material o → P before x o)
    {items : List (MeshItem K)} {cs : List (Command K)}
    (h : emitAll (drawMesh dx assets) items = some cs)
    (hQ : ∀ x ∈ items.flatMap (subDraws assets), Q x) (s : State K) :
    let xs := items.flatMap (subDraws assets)
    let os := (exec (machine K) s cs).2
    os.length = xs.length ∧ ∀ (k : Nat) (x : SubDraw K) (o : DrawCall K), xs[k]? = some x →
      os[k]? = some o →
        let before := stateBefore DrawCall.state s os k
        before.pipeline = (xs.take k).foldl (boundBy assets) s.pipeline ∧ P before x o := by
  obtain ⟨hmade, rfl⟩ := emitAll_some (emitAll_drawMesh h)
  have hlt : ∀ x ∈ items.flatMap (subDraws assets),
      x.subGeometry < x.modelAsset._geometry.subGeometryNum := by
    intro x hx
    obtain ⟨item, -, hx⟩ := List.mem_flatMap.mp hx
    exact subGeometry_lt hx
  have hblock : ∀ (s : State K) (x : SubDraw K),
      (Q x ∧ x.subGeometry < x.modelAsset._geometry.subGeometryNum ∧
        (subDrawBlock assets dx x).isSome) →
      ∃ o, exec (machine K) s ((subDrawBlock assets dx x).getD []) = (DrawCall.state o, [o]) ∧
        P s x o ∧ o.state.pipeline = boundBy assets s.pipeline x := by
    rintro s x ⟨hx, hi, hsome⟩
    obtain ⟨block, hmake⟩ := Option.isSome_iff_exists.mp hsome
    obtain ⟨o, material, hdraw, hdrawn, hend⟩ := subDraw_step hi hmake s
    rw [hmake, Option.getD_some]
    exact ⟨o, Prod.ext hend hdraw, hP s x material o hx hdrawn, hdrawn.pipeline⟩
  exact exec_blocks hblock _ s fun x hx => ⟨hQ x hx, hlt x hx, hmade x hx⟩

variable {σ : Type} {context : ID3D11DeviceContext σ K}

/-- A sub-geometry that cannot be bound is drawn all the same, with the shader and the geometry of
the last one that could be; its transform goes to the buffer of its own material in any case. -/
theorem draws_keep_last_binding (hcontext : context.Documented) (parent : Option Nat)
    (t : RoseTree (AssetLabel K)) (n fuel : Nat) (W R : XMMATRIX K)
    (hstands : Stands (assets.placeables.map placeableEntry) n (layout n parent t))
    (hfuel : size t ≤ fuel) (cs : List (Command K))
    (h : SSRenderer.traverseModelCombinationAndDraw dx assets fuel n W R = some cs) (s : σ) :
    let xs := (traversalItems dx parent W R t).flatMap (subDraws assets)
    let os := context.draws s cs
    os.length = xs.length ∧ ∀ (k : Nat) (x : SubDraw K) (o : DrawCall K), xs[k]? = some x →
      os[k]? = some o →
        let before := stateBefore DrawCall.state (context.state s) os k
        before.pipeline = (xs.take k).foldl (boundBy assets) (context.state s).pipeline ∧
          ∃ material, Drawn dx assets before x material o := by
  intro xs os
  rw [traverse_items parent t W R hstands hfuel] at h
  rw [show os = _ from hcontext.draws_eq s cs]
  exact exec_subDraws (P := fun before x o => ∃ material, Drawn dx assets before x material o)
    (Q := fun _ => True) (fun _ _ material _ _ hdrawn => ⟨material, hdrawn⟩) h
    (fun _ _ => trivial) (context.state s)

/-- Material, shader and geometry of a sub-geometry are ready, and its buffers are those of its
slots and not shared. -/
structure Ready (assets : DrawnAssets K) (x : SubDraw K) (material : SSDrawnMaterial) : Prop where
  ofMaterial : x.material assets = some material
  buffers : material.isBindingPossible
  shader : material._shader._shaderInstanceStage = .Instantiated
  geometry : (assets.geometryBuffers x.model).usableOnGPU
  ownSlots : material.buffers.BoundToOwnSlots
  skinned : material._shader._assetName = SSShaderAssetManager.SSDefaultPbrSkinnedShaderName →
    2 ≤ material.buffers._shaderReflectionCache.VSConstBufferNum
  paramBuffer : material.buffers.ConstantBuffers W_TRANSFOMRM_IDX ≠
    material.buffers.ConstantBuffers GLOBAL_RENDER_PARAM_IDX
  jointBuffer : ∀ anim, assets._skeletonAnimCache = some anim →
    material.buffers.ConstantBuffers W_TRANSFOMRM_IDX ≠ some anim._jointBuffer ∧
      material.buffers.ConstantBuffers GLOBAL_RENDER_PARAM_IDX ≠ some anim._jointBuffer

/-- Everything the draw uses belongs to the sub-geometry. -/
structure SeesOwn (dx : DirectXMath K) (assets : DrawnAssets K) (x : SubDraw K)
    (material : SSDrawnMaterial) (o : DrawCall K) : Prop where
  range : o.IndexCount = x.modelAsset._geometry.indexDataNum x.subGeometry ∧
    o.StartIndexLocation = x.modelAsset._geometry.indexDataStartIndex x.subGeometry
  shader : o.state.inputLayout = some material._shader._assetName ∧
    o.state.vertexShader = some material._shader._assetName ∧
    o.state.pixelShader = some material._shader._assetName
  geometry : o.state.vertexBuffer = (assets.geometryBuffers x.model)._vertexBuffer ∧
    o.state.vertexStride = (assets.geometryBuffers x.model)._eachVertexDataSize ∧
    o.state.indexBuffer = (assets.geometryBuffers x.model)._indexBuffer
  vs : ∀ slot ∈ (constantBindings material).1.map Prod.fst,
    o.state.vsConstantBuffers slot = material.buffers.ConstantBuffers slot
  ps : ∀ slot ∈ (constantBindings material).2.map Prod.fst,
    o.state.psConstantBuffers slot = material.buffers.ConstantBuffers slot
  textures : ∀ i < material.TexturePoolCount,
    o.state.psShaderResources i = material._textureCache i
  samplers : ∀ i < material.SamplerCount, o.state.psSamplers i = material._sampleCache i
  transform : ∃ buffer, material.buffers.ConstantBuffers W_TRANSFOMRM_IDX = some buffer ∧
    o.state.contents buffer = some
      (.transform (dx.XMMatrixTranspose x.WMatrix) (dx.XMMatrixTranspose x.RotMatrix))
  param : ∃ buffer, material.buffers.ConstantBuffers GLOBAL_RENDER_PARAM_IDX = some buffer ∧
    o.state.contents buffer = some (.globalRenderParam assets._globalParamContext)
  joints : x.modelAsset._geometry._meshType = .Skinned → ∃ view anim joints,
    anim.jointsAt (assets.elapsedTime / (2 : Nat)) = some joints ∧
      SetsJoints assets view anim joints o.state

theorem boundOwn_eq {material : SSMaterialBuffers} {b : Nat × Option Nat}
    (h : material.BoundOwn b) : b.2 = material.ConstantBuffers b.1 := by
  obtain ⟨buffer, hslot, hbuffer⟩ := h
  rw [hslot, hbuffer]

theorem Drawn.seesOwn {before : State K} {x : SubDraw K} {material : SSDrawnMaterial}
    {o : DrawCall K} (h : Drawn dx assets before x material o) (hready : Ready assets x material) :
    SeesOwn dx assets x material o := by
  have hpipeline : o.state.pipeline = withGeometry (assets.geometryBuffers x.model)
      (withShader material._shader before.pipeline) := by
    rw [h.pipeline, boundBy, hready.ofMaterial]
    simp only [if_pos hready.buffers]
  rw [withGeometry, if_pos hready.geometry, withShader, if_pos hready.shader] at hpipeline
  have hsets := h.resources hready.buffers
  obtain ⟨hvs, hps⟩ := hready.ownSlots.bindMaterial hready.skinned
  refine ⟨h.range, ⟨congrArg Pipeline.inputLayout hpipeline,
    congrArg Pipeline.vertexShader hpipeline, congrArg Pipeline.pixelShader hpipeline⟩,
    ⟨congrArg Pipeline.vertexBuffer hpipeline, congrArg Pipeline.vertexStride hpipeline,
      congrArg Pipeline.indexBuffer hpipeline⟩, ?_, ?_, ?_, ?_, h.transform, ?_, ?_⟩
  · intro slot hslot
    rw [hsets.vs]
    exact setAll_of_own (fun b hb => boundOwn_eq (hvs b hb)) hslot
  · intro slot hslot
    rw [hsets.ps]
    exact setAll_of_own (fun b hb => boundOwn_eq (hps b hb)) hslot
  · intro i hi
    rw [hsets.textures]
    refine setAll_of_own (fun b hb => ?_) ?_
    · obtain ⟨j, -, rfl⟩ := List.mem_map.mp hb
      rfl
    · simpa [textureBindings] using hi
  · intro i hi
    rw [hsets.samplers]
    have hget := setSlots_get ((List.range material.SamplerCount).map material._sampleCache)
      before.psSamplers 0 i (material._sampleCache i) (by simp [hi])
    rwa [Nat.zero_add] at hget
  · obtain ⟨buffer, hbuffer, hcontents⟩ := h.param
    refine ⟨buffer, hbuffer, hcontents ?_⟩
    rw [← hbuffer]
    exact hready.paramBuffer
  · intro hskinned
    obtain ⟨view, anim, joints, hcached, hat, hset⟩ := h.joints hskinned
    obtain ⟨hne, hne'⟩ := hready.jointBuffer anim hcached
    exact ⟨view, anim, joints, hat, hset hne hne'⟩

/-- When everything is ready, a draw sees its own sub-geometry only, whatever was drawn before. -/
theorem ready_draws_see_their_own (hcontext : context.Documented) (items : List (MeshItem K))
    (cs : List (Command K)) (h : emitAll (drawMesh dx assets) items = some cs)
    (hready : ∀ x ∈ items.flatMap (subDraws assets), ∃ material, Ready assets x material) (s : σ) :
    let xs := items.flatMap (subDraws assets)
    let os := context.draws s cs
    os.length = xs.length ∧ ∀ (k : Nat) (x : SubDraw K) (o : DrawCall K), xs[k]? = some x →
      os[k]? = some o →
        ∃ material, x.material assets = some material ∧ SeesOwn dx assets x material o := by
  intro xs os
  have hown : ∀ (before : State K) (x : SubDraw K) (material : SSDrawnMaterial) (o : DrawCall K),
      (∃ material, Ready assets x material) → Drawn dx assets before x material o →
      ∃ material, x.material assets = some material ∧ SeesOwn dx assets x material o := by
    rintro before x material o ⟨m, hm⟩ hdrawn
    obtain rfl : m = material := Option.some_inj.mp (hm.ofMaterial.symm.trans hdrawn.ofMaterial)
    exact ⟨m, hm.ofMaterial, hdrawn.seesOwn hm⟩
  rw [show os = _ from hcontext.draws_eq s cs]
  obtain ⟨hlength, hall⟩ := exec_subDraws hown h hready (context.state s)
  exact ⟨hlength, fun k x o hx ho => (hall k x o hx ho).2⟩

end Draws

section Room

/-- A skeleton with a mesh below it, a mesh, and a group with two more. The chair has a material
that is not found. -/
def roomScene : FbxNode ℚ :=
  groupNode "room" [jointNode "hand" [triangleNode "glove" []], triangleNode "table" [],
    groupNode "group" [{ triangleNode "chair" [] with materials := [⟨"n", 8⟩] },
      triangleNode "lamp" []]]

/-- The assets after an import, but the shader of the fallback is not instantiated, and the third
model has no vertex buffer. -/
def unreadyAssets (s : ImportState ℚ) : DrawnAssets ℚ :=
  { importedAssets s with
    geometryBuffers := fun model =>
      ⟨64, if model = 2 then none else some (2 * model), some (2 * model + 1)⟩
    materials := fun i =>
      if i = 0 then some (plainMaterial ⟨"SSUnlit", .Compiled⟩)
      else if i = 1 then some (plainMaterial pbrShader) else none }

/-- The traversal of the room from its root. -/
def drawRoom (assets : DrawnAssets ℚ) : Option (List (Command ℚ)) :=
  SSRenderer.traverseModelCombinationAndDraw (DirectXMath.exact ℚ) assets 7 0 1 1

theorem draws_keep_last_binding_unready : ∃ s' cs,
    importCurrentSceneToModelAsset sharedContext [pbrShader, pbrSkinnedShader] [] twoMaterials
        roomScene = some s' ∧
      drawRoom (unreadyAssets s') = some cs ∧
      let xs := (traversalItems (DirectXMath.exact ℚ) none 1 1
        (sceneAssetTree "a" 0 roomScene)).flatMap (subDraws (unreadyAssets s'))
      let os := (plain ℚ).draws (State.cleared ℚ) cs
      os.length = xs.length ∧ ∀ (k : Nat) (x : SubDraw ℚ) (o : DrawCall ℚ), xs[k]? = some x →
        os[k]? = some o →
          let before := stateBefore DrawCall.state (State.cleared ℚ) os k
          before.pipeline =
              (xs.take k).foldl (boundBy (unreadyAssets s')) (State.cleared ℚ).pipeline ∧
            ∃ material, Drawn (DirectXMath.exact ℚ) (unreadyAssets s') before x material o := by
  have hsome : ((importCurrentSceneToModelAsset sharedContext [pbrShader, pbrSkinnedShader] []
      twoMaterials roomScene).bind fun s => drawRoom (unreadyAssets s)).isSome = true := by
    decide +kernel
  obtain ⟨cs, hcs⟩ := Option.isSome_iff_exists.mp hsome
  obtain ⟨s', hs', hdraw⟩ := Option.bind_eq_some_iff.mp hcs
  have hlayout := (import_some hs').2
  have hstands : Stands ((unreadyAssets s').placeables.map placeableEntry) 0
      (layout 0 none (sceneAssetTree "a" 0 roomScene)) := by
    show Stands (s'.placeables.map placeableEntry) 0 _
    rw [hlayout]
    exact stands_suffix [] _
  exact ⟨s', cs, hs', hdraw, draws_keep_last_binding (plain_documented ℚ) none
    (sceneAssetTree "a" 0 roomScene) 0 7 1 1 hstands (by decide +kernel) cs hdraw
    (State.cleared ℚ)⟩

/-- The chair is drawn with the shader of the table, the lamp with the geometry of the chair. -/
example : ((importCurrentSceneToModelAsset sharedContext [pbrShader, pbrSkinnedShader] []
    twoMaterials roomScene).bind fun s => (drawRoom (unreadyAssets s)).map fun cs =>
      ((plain ℚ).draws (State.cleared ℚ) cs).map fun o =>
        (o.state.vertexShader, o.state.vertexBuffer)) =
    some [(some pbrShader._assetName, some 0), (some pbrShader._assetName, some 2),
      (some pbrShader._assetName, some 2)] := by
  decide +kernel

/-- A sub-geometry that can be drawn has a material. -/
theorem subDrawBlock_material {dx : DirectXMath ℚ} {assets : DrawnAssets ℚ} {x : SubDraw ℚ}
    (h : (subDrawBlock assets dx x).isSome) : ∃ material, x.material assets = some material := by
  obtain ⟨block, hblock⟩ := Option.isSome_iff_exists.mp h
  unfold subDrawBlock SSRenderer.drawSubGeometry at hblock
  obtain ⟨bound, hbound, hrest⟩ := Option.bind_eq_some_iff.mp hblock
  obtain ⟨skin, hskin, hrest⟩ := Option.bind_eq_some_iff.mp hrest
  obtain ⟨material, hmaterial, hrest⟩ := Option.bind_eq_some_iff.mp hrest
  exact ⟨material, hmaterial⟩

theorem plainMaterial_ready {s : ImportState ℚ} {x : SubDraw ℚ} {material : SSDrawnMaterial}
    (hmaterial : x.material (importedAssets s) = some material) :
    Ready (importedAssets s) x (plainMaterial pbrShader) := by
  have hplain : material = plainMaterial pbrShader := by
    unfold SubDraw.material SSRenderer.materialOf at hmaterial
    split at hmaterial
    · obtain ⟨i, -, hi⟩ := Option.bind_eq_some_iff.mp hmaterial
      simp only [importedAssets] at hi
      split at hi
      · exact (Option.some_inj.mp hi).symm
      · cases hi
    · cases hmaterial
  refine ⟨hmaterial.trans (congrArg some hplain), rfl, rfl, nofun, ⟨?_, ?_⟩, nofun, nofun, nofun⟩
  · intro i hi
    have hlt : i < 2 := hi
    exact ⟨i, by unfold CONSTANT_BUFFER_COUNT_MAX; omega, rfl, i, rfl, rfl⟩
  · intro i hi
    have hlt : i < 2 := hi
    exact ⟨i + 1, by unfold CONSTANT_BUFFER_COUNT_MAX; omega, rfl, i + 1, rfl, rfl⟩

def roomPaths : List (List (FbxNode ℚ)) := meshPathsChilds [] roomScene.childs

/-- The models of the room. -/
def roomItems : List (MeshItem ℚ) := pathItems (DirectXMath.exact ℚ) 0 roomPaths

theorem roomItems_drawn : ∃ s' cs,
    importCurrentSceneToModelAsset sharedContext [pbrShader, pbrSkinnedShader] [] twoMaterials
        roomScene = some s' ∧
      emitAll (drawMesh (DirectXMath.exact ℚ) (importedAssets s')) roomItems = some cs := by
  have hsome : ((importCurrentSceneToModelAsset sharedContext [pbrShader, pbrSkinnedShader] []
      twoMaterials roomScene).bind fun s =>
        emitAll (drawMesh (DirectXMath.exact ℚ) (importedAssets s)) roomItems).isSome = true := by
    decide +kernel
  obtain ⟨cs, hcs⟩ := Option.isSome_iff_exists.mp hsome
  obtain ⟨s', hs', hdraw⟩ := Option.bind_eq_some_iff.mp hcs
  exact ⟨s', cs, hs', hdraw⟩

theorem ready_draws_see_their_own_room : ∃ s' cs,
    importCurrentSceneToModelAsset sharedContext [pbrShader, pbrSkinnedShader] [] twoMaterials
        roomScene = some s' ∧
      emitAll (drawMesh (DirectXMath.exact ℚ) (importedAssets s')) roomItems = some cs ∧
      let xs := roomItems.flatMap (subDraws (importedAssets s'))
      let os := (plain ℚ).draws (State.cleared ℚ) cs
      os.length = xs.length ∧ ∀ (k : Nat) (x : SubDraw ℚ) (o : DrawCall ℚ), xs[k]? = some x →
        os[k]? = some o → ∃ material, x.material (importedAssets s') = some material ∧
          SeesOwn (DirectXMath.exact ℚ) (importedAssets s') x material o := by
  obtain ⟨s', cs, hs', hcs⟩ := roomItems_drawn
  refine ⟨s', cs, hs', hcs, ready_draws_see_their_own (plain_documented ℚ) roomItems cs hcs
    (fun x hx => ?_) (State.cleared ℚ)⟩
  obtain ⟨material, hmaterial⟩ :=
    subDrawBlock_material ((emitAll_some (emitAll_drawMesh hcs)).1 x hx)
  exact ⟨_, plainMaterial_ready hmaterial⟩

end Room

end FBXRenderer
