import FBXRenderer.Engine.RendererCleanUp

/-!
# FBXRenderer.Engine.ShaderManagerInit

What a success of `SSRenderer::InitShaderManager` says about the shaders of the pool.

* `shaders_instantiated_iff`: the result of `InstantiateAllShader` is not looked at, so a success
  stands for instantiated shaders exactly where none of them fails to be instantiated, or where
  there is no success because one of them fails to compile.
-/

namespace FBXRenderer
namespace SSRenderer

/-- `InitShaderManager` with any shaders in the place of those that `LoadNewShaderTemp` loads. -/
def initShaderManagerWith (load : List ShaderState → Option (List ShaderState)) (r : SSRenderer) :
    Option (HRESULT × SSRenderer) := do
  let pool ← instantiate r.shaders
  let pool ← load pool
  let (hr, pool, handles) ← compileAllShader pool r.ledger.handles
  let ledger := { r.ledger with handles := handles }
  if FAILED hr then
    let ledger ← releaseAllShader pool ledger
    return (hr, { r with shaders := some pool, ledger := ledger })
  let (_, pool, handles) ← instantiateAllShader pool handles
  let ledger := { ledger with handles := handles }
  if FAILED hr then
    let ledger ← releaseAllShader pool ledger
    return (hr, { r with shaders := some pool, ledger := ledger })
  return (S_OK, { r with shaders := some pool, ledger := ledger })

example (r : SSRenderer) (pbrShader pbrSkinnedShader : ShaderCalls) :
    initShaderManager r pbrShader pbrSkinnedShader =
      initShaderManagerWith (loadNewShaderTemp pbrShader pbrSkinnedShader) r := rfl

section Calls

variable {calls : ShaderCalls} {hr : HRESULT} {asset asset' : D3DShaderAsset} {h h' : Handles}

/-- `CompileShader`, whatever the asset has been through. -/
theorem compileShader_stage
    (hrun : D3DShaderAsset.compileShader calls asset h = some (hr, asset', h')) :
    (FAILED hr ↔ ¬ ShaderCompiles calls) ∧ (¬ FAILED hr → asset'._curStage = .Compiled) := by
  cases D3DShaderAsset.compileShader_from hrun with
  | noBlobs hnot hfailed _ _ =>
    exact ⟨iff_of_true hfailed fun hc => hnot hc.1, fun hok => absurd hfailed hok⟩
  | blobsLeft _ hbad hfailed _ _ =>
    exact ⟨iff_of_true hfailed fun hc => hc.2 hbad, fun hok => absurd hfailed hok⟩
  | compiled hmade hgood _ =>
    exact ⟨iff_of_false not_failed_S_OK fun hnot => hnot ⟨hmade, hgood⟩, fun _ => rfl⟩

/-- `InstantiateShader` on a compiled asset. -/
theorem instantiateShader_stage (hstage : asset._curStage = .Compiled)
    (hrun : D3DShaderAsset.instantiateShader calls asset h = some (hr, asset', h')) :
    (FAILED hr ↔ ¬ ShaderInstantiates calls) ∧
      (asset'._curStage = .Instantiated ↔ ShaderInstantiates calls) := by
  have hne : asset._curStage ≠ .Instantiated := by
    rw [hstage]
    decide
  cases D3DShaderAsset.instantiateShader_from hstage hrun with
  | noShaders hfails hfailed _ _ hkept _ =>
    have hnot : ¬ ShaderInstantiates calls := fun hi => hfails.elim hi.1 hi.2.1
    exact ⟨iff_of_true hfailed hnot, iff_of_false (hkept ▸ hne) hnot⟩
  | shadersLeft _ _ hil hfailed _ _ hkept _ =>
    have hnot : ¬ ShaderInstantiates calls := fun hi => hi.2.2 hil
    exact ⟨iff_of_true hfailed hnot, iff_of_false (hkept ▸ hne) hnot⟩
  | instantiated hvs hps hil _ _ _ =>
    have hall : ShaderInstantiates calls := ⟨hvs, hps, hil⟩
    exact ⟨iff_of_false not_failed_S_OK fun hno => hno hall, iff_of_true rfl hall⟩

end Calls

section Loops

variable {hr : HRESULT} {pool pool' : List ShaderState} {h h' : Handles}

/-- A shader after a successful `CompileShader`. -/
def CompiledStage (s s' : ShaderState) : Prop := s'.calls = s.calls ∧ s'.asset._curStage = .Compiled

theorem compileAllShader_stage (hrun : compileAllShader pool h = some (hr, pool', h')) :
    (FAILED hr ↔ ∃ s ∈ pool, ¬ ShaderCompiles s.calls) ∧
      (¬ FAILED hr → List.Forall₂ CompiledStage pool pool') := by
  refine FailFast.update_outcome not_failed_S_OK (fun s _ h e s' h' hturn => ?_) hrun
  obtain ⟨asset, hcompile, rfl⟩ := ShaderState.compileShader_some hturn
  obtain ⟨hfailed, hok⟩ := compileShader_stage hcompile
  exact ⟨hfailed, fun hne => ⟨rfl, hok hne⟩⟩

/-- After the loop over compiled shaders all are instantiated exactly where none of them failed:
the one that failed is still in the pool. -/
theorem instantiateAllShader_stage (hcompiled : ∀ s ∈ pool, s.asset._curStage = .Compiled)
    (hrun : instantiateAllShader pool h = some (hr, pool', h')) :
    (∀ s ∈ pool', s.asset._curStage = .Instantiated) ↔
      ∀ s ∈ pool, ShaderInstantiates s.calls := by
  have hbody : ∀ s ∈ pool, ∀ (h : Handles) (e : HRESULT) (s' : ShaderState) (h' : Handles),
      s.instantiateShader h = some (e, s', h') →
      (FAILED e ↔ ¬ ShaderInstantiates s.calls) ∧
        (s'.asset._curStage = .Instantiated ↔ ShaderInstantiates s.calls) := by
    intro s hs h e s' h' hturn
    obtain ⟨asset, hinst, rfl⟩ := ShaderState.instantiateShader_some hturn
    exact instantiateShader_stage (hcompiled s hs) hinst
  have hfailed : FAILED hr ↔ ∃ s ∈ pool, ¬ ShaderInstantiates s.calls :=
    FailFast.update_failed_iff not_failed_S_OK
      (fun s hs h e s' h' hmap => (hbody s hs h e s' h' hmap).1) hrun
  by_cases hbad : FAILED hr
  · obtain ⟨s, hs, s', hs', h1, h2, hmap⟩ := FailFast.update_failed_mem not_failed_S_OK hrun hbad
    obtain ⟨hcall, hstage⟩ := hbody s hs h1 hr s' h2 hmap
    have hnot := hcall.mp hbad
    exact iff_of_false (fun hall => hnot (hstage.mp (hall s' hs'))) fun hall => hnot (hall s hs)
  · have hall : ∀ s ∈ pool, ShaderInstantiates s.calls := by
      simpa only [hfailed, not_exists, not_and, not_not] using hbad
    refine iff_of_true ?_ hall
    have hdone : List.Forall₂ (fun _ s' => s'.asset._curStage = .Instantiated) pool pool' :=
      FailFast.update_done
        (fun s hs h e s' h' hmap _ => (hbody s hs h e s' h' hmap).2.mpr (hall s hs)) hrun hbad
    intro s' hs'
    obtain ⟨_, _, hstage⟩ := FailFast.exists_source hdone s' hs'
    exact hstage

/-- `CompileAllShader` keeps the calls, in both directions. -/
theorem forall_calls_iff (h : List.Forall₂ CompiledStage pool pool') (P : ShaderCalls → Prop) :
    (∀ s ∈ pool', P s.calls) ↔ ∀ s ∈ pool, P s.calls := by
  induction h with
  | nil => rfl
  | cons hs _ ih => rw [List.forall_mem_cons, List.forall_mem_cons, ih, hs.1]

end Loops

/-- A success code stands for instantiated shaders. -/
def SuccessMeansInstantiated (hr : HRESULT) (pool : List ShaderState) : Prop :=
  ¬ FAILED hr → ∀ s ∈ pool, s.asset._curStage = .Instantiated

/-- For any shaders in the pool and any answers of the D3D calls. -/
theorem shaders_instantiated_iff (load : List ShaderState → Option (List ShaderState))
    (r : SSRenderer) {pool : List ShaderState} {hr : HRESULT} {r' : SSRenderer}
    (hload : (instantiate r.shaders).bind load = some pool)
    (hrun : initShaderManagerWith load r = some (hr, r')) :
    ∃ pool', r'.shaders = some pool' ∧ (SuccessMeansInstantiated hr pool' ↔
      (∃ s ∈ pool, ¬ ShaderCompiles s.calls) ∨ ∀ s ∈ pool, ShaderInstantiates s.calls) := by
  unfold initShaderManagerWith at hrun
  obtain ⟨pool0, hpool0, hrun⟩ := Option.bind_eq_some_iff.mp hrun
  rw [hpool0, Option.bind_some] at hload
  obtain ⟨pool1, hpool1, hrun⟩ := Option.bind_eq_some_iff.mp hrun
  rw [hload] at hpool1
  cases hpool1
  obtain ⟨⟨hr1, compiled, h1⟩, hcompile, hrun⟩ := Option.bind_eq_some_iff.mp hrun
  obtain ⟨hfailed, hdone⟩ := compileAllShader_stage hcompile
  simp only at hrun
  split at hrun
  · rename_i hbad
    obtain ⟨l, _, hrun⟩ := Option.bind_eq_some_iff.mp hrun
    cases hrun
    exact ⟨_, rfl, iff_of_true (fun hok => absurd hbad hok) (Or.inl (hfailed.mp hbad))⟩
  · rename_i hok
    obtain ⟨⟨hr2, instantiated, h2⟩, hinst, hrun⟩ := Option.bind_eq_some_iff.mp hrun
    cases hrun
    have hall := hdone hok
    have hcompiled : ∀ s ∈ compiled, s.asset._curStage = .Compiled := by
      intro s hs
      obtain ⟨_, _, _, hstage⟩ := FailFast.exists_source hall s hs
      exact hstage
    refine ⟨_, rfl, ?_⟩
    rw [or_iff_right (fun hbad => hok (hfailed.mpr hbad)),
      ← forall_calls_iff hall ShaderInstantiates, ← instantiateAllShader_stage hcompiled hinst]
    exact imp_iff_right not_failed_S_OK

/-- The calls about a shader all of which succeed. -/
def allShaderCalls : ShaderCalls := { D3DShaderAsset.layoutFails with createInputLayout := S_OK }

theorem shaders_instantiated_iff_two :
    ∃ r', initShaderManagerWith (loadNewShaderTemp allShaderCalls allShaderCalls) {} =
        some (S_OK, r') ∧
      ∃ pool', r'.shaders = some pool' ∧ SuccessMeansInstantiated S_OK pool' := by
  obtain ⟨pool', hpool', hiff⟩ := shaders_instantiated_iff
    (loadNewShaderTemp allShaderCalls allShaderCalls) {} rfl rfl
  refine ⟨_, rfl, pool', hpool', hiff.mpr (Or.inr ?_)⟩
  unfold ShaderInstantiates
  decide

/-- The input layout of the second shader cannot be created, and `InitShaderManager` succeeds. -/
theorem initShaderManager_drops_failure :
    ∃ r' pool', initShaderManager {} allShaderCalls D3DShaderAsset.layoutFails = some (S_OK, r') ∧
      r'.shaders = some pool' ∧ ¬ SuccessMeansInstantiated S_OK pool' := by
  refine ⟨_, _, rfl, rfl, fun hall => ?_⟩
  have hstages := hall not_failed_S_OK
  revert hstages
  decide

end SSRenderer
end FBXRenderer
