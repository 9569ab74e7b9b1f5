import FBXRenderer.Importer.ImportSkeleton
import FBXRenderer.Importer.IndexLayout
import FBXRenderer.Importer.TraverseShaders

/-!
# FBXRenderer.Importer.ShaderFit

Whether the materials of every imported model have the shader of its geometry. A material that a
skinned node finds gets the skinned shader and never gets the other one back, so it no longer fits
a rigid node that shares it; the fallback material of a skinned node is not changed at all.

* `shaders_fit_iff`: when every model's materials have the shader of its geometry.
-/

namespace FBXRenderer

open SS

section Fit

/-- The shader that fits a geometry. -/
def shaderFor : EMeshType → String
  | .Skinned => SSShaderAssetManager.SSDefaultPbrSkinnedShaderName
  | _ => SSShaderAssetManager.SSDefaultPbrShaderName

def HasShader (manager : SSMaterialAssetManager) (m : Nat) (name : String) : Prop :=
  ∃ shader, manager.shaderOf m = some shader ∧ shader._assetName = name

/-- Every material drawn with the model has the shader of its geometry. -/
def ModelFits (manager : SSMaterialAssetManager) (model : SSModelAsset) : Prop :=
  ∀ m, model.UsesMaterial m → HasShader manager m (shaderFor model._geometry._meshType)

/-- A change to the skinned shader goes through. -/
def SkinnedShaderReady (shaders : List SSShaderAsset) : Prop :=
  (instantiatedShader shaders SSShaderAssetManager.SSDefaultPbrSkinnedShaderName).isSome

variable {K : Type} {shaders : List SSShaderAsset} {named : Nat → Prop}
  {before after : SSMaterialAssetManager}

/-- The materials of a mesh node: those that some skinned node finds may only be used by skinned
nodes, and the others must have the right shader from the start. -/
def NodeFits (shaders : List SSShaderAsset) (named : Nat → Prop)
    (before : SSMaterialAssetManager) (e : FbxNode K × FbxSceneMesh K) : Prop :=
  ∀ i m, i < e.2.toFbxMesh.subGeometryNum →
    slotMaterial before._assetHash e.1.materials i = some m →
    (named m ∧ SkinnedShaderReady shaders → e.2.meshType = .Skinned) ∧
    (¬ (named m ∧ SkinnedShaderReady shaders) → HasShader before m (shaderFor e.2.meshType))

theorem hasShader_changed (h : ShadersChanged shaders named before after) {m : Nat}
    (hnamed : named m) (hready : SkinnedShaderReady shaders) (meshType : EMeshType) :
    HasShader after m (shaderFor meshType) ↔ meshType = .Skinned := by
  obtain ⟨shader, hshader⟩ := Option.isSome_iff_exists.mp hready
  have hafter : after.shaderOf m = some shader := by
    rw [h.changed m hnamed, hshader, Option.some_or]
  have hname := instantiatedShader_name hshader
  unfold HasShader
  rw [hafter]
  simp only [Option.some_inj, exists_eq_left', hname]
  cases meshType with
  | None => simp [shaderFor, SSShaderAssetManager.SSDefaultPbrSkinnedShaderName,
      SSShaderAssetManager.SSDefaultPbrShaderName]
  | Rigid => simp [shaderFor, SSShaderAssetManager.SSDefaultPbrSkinnedShaderName,
      SSShaderAssetManager.SSDefaultPbrShaderName]
  | Skinned => simp [shaderFor]

theorem hasShader_kept (h : ShadersChanged shaders named before after) {m : Nat}
    (hnot : ¬ (named m ∧ SkinnedShaderReady shaders)) (name : String) :
    HasShader after m name ↔ HasShader before m name := by
  have hsame : after.shaderOf m = before.shaderOf m := by
    by_cases hnamed : named m
    · have hnone : instantiatedShader shaders
          SSShaderAssetManager.SSDefaultPbrSkinnedShaderName = none :=
        Option.not_isSome_iff_eq_none.mp fun hready => hnot ⟨hnamed, hready⟩
      rw [h.changed m hnamed, hnone, Option.none_or]
    · exact h.kept m hnamed
  unfold HasShader
  rw [hsame]

theorem modelFits_iff (h : ShadersChanged shaders named before after)
    {e : FbxNode K × FbxSceneMesh K} {model : SSModelAsset}
    (hmodel : ModelOf before._assetHash e model) :
    ModelFits after model ↔ NodeFits shaders named before e := by
  have hslot : ∀ m, HasShader after m (shaderFor e.2.meshType) ↔
      (named m ∧ SkinnedShaderReady shaders → e.2.meshType = .Skinned) ∧
      (¬ (named m ∧ SkinnedShaderReady shaders) →
        HasShader before m (shaderFor e.2.meshType)) := by
    intro m
    by_cases hc : named m ∧ SkinnedShaderReady shaders
    · rw [hasShader_changed h hc.1 hc.2]
      simp only [hc, not_true_eq_false, false_imp_iff, and_true, true_imp_iff]
    · rw [hasShader_kept h hc]
      simp only [hc, not_false_eq_true, false_imp_iff, true_and, true_imp_iff]
  unfold ModelFits SSModelAsset.UsesMaterial NodeFits
  rw [hmodel.meshType, hmodel.subGeometryNum]
  constructor
  · intro hfit i m hi hm
    exact (hslot m).mp (hfit m ⟨i, hi, by rw [hmodel.slots i hi, hm]⟩)
  · intro hfit m hm
    obtain ⟨i, hi, hget⟩ := hm
    exact (hslot m).mpr (hfit i m hi (by rw [← hmodel.slots i hi, hget]))

/-- A property of the models that is a property of their nodes. -/
theorem forall_models_iff {hash : String → Option Nat} {P : SSModelAsset → Prop}
    {Q : FbxNode K × FbxSceneMesh K → Prop}
    (hPQ : ∀ e model, ModelOf hash e model → (P model ↔ Q e)) :
    ∀ {nodes : List (FbxNode K × FbxSceneMesh K)} {new : List SSModelAsset},
      List.Forall₂ (ModelOf hash) nodes new → ((∀ model ∈ new, P model) ↔ ∀ e ∈ nodes, Q e) := by
  intro nodes new h
  induction h with
  | nil => simp
  | cons hmodel _ ih => simp only [List.forall_mem_cons, ih, hPQ _ _ hmodel]

variable [Field K] [LinearOrder K] {ctx : ImportContext K}

/-- After the traversal of a scene, every model made for it has materials with the shader of its
geometry exactly when no material that a skinned node finds is used by a rigid node, and every
other material had the right shader before. -/
theorem shaders_fit_iff {models : List SSModelAsset} {materials : SSMaterialAssetManager}
    {rootNode : FbxNode K} {s' : ImportState K}
    (h : importCurrentSceneToModelAsset ctx shaders models materials rootNode = some s') :
    ∃ new, s'.models = models ++ new ∧
      List.Forall₂ (ModelOf materials._assetHash) (meshNodesChilds rootNode.childs) new ∧
      ((∀ model ∈ new, ModelFits s'.materials model) ↔
        ∀ e ∈ meshNodesChilds rootNode.childs, NodeFits shaders
          (NamedBySkinned materials._assetHash (meshNodesChilds rootNode.childs)) materials e) := by
  obtain ⟨assetName, _, htraverse⟩ := Option.bind_eq_some_iff.mp h
  have hprocessed := traverseChilds_processed _ _ _ _ htraverse
  obtain ⟨new, hnew, hall⟩ := hprocessed.models
  exact ⟨new, hnew, hall,
    forall_models_iff (fun e model => modelFits_iff hprocessed.shaders) hall⟩

end Fit

section SharedMaterial

/-- A node with a triangle and one material. -/
def triangleNode (name : String) (deformers : List (FbxSkin ℚ)) : FbxNode ℚ where
  name := name
  nodeAttribute := some (.eMesh
    { triangleMesh none 1 with
      controlPointAt := fun n => ⟨n, 0, 0, 1⟩
      elementNormal := ⟨.eByControlPoint, .eDirect, fun _ => ⟨0, 0, 1, 0⟩, fun n => n⟩
      elementUV := []
      elementTangent := none
      textureUVIndex := fun _ _ => 0
      nodeName := name
      deformers := deformers })
  materials := [⟨"m", 7⟩]
  fbxMat := fun _ => ⟨fun _ => 0, fun _ => 1, Quaternion.one⟩
  childs := []

/-- A skinned and a rigid node that share their material. -/
def sharedScene : FbxNode ℚ where
  name := "root"
  nodeAttribute := none
  materials := []
  fbxMat := fun _ => ⟨fun _ => 0, fun _ => 1, Quaternion.one⟩
  childs := [triangleNode "s" [⟨[]⟩], triangleNode "r" []]

def sharedContext : ImportContext ℚ where
  _fileName := "a"
  sdk := ⟨id, ⟨0, 0⟩⟩
  skeletonAsset := fun _ => some (oneBoneSkeleton ![1, 1, 1])

def pbrShader : SSShaderAsset :=
  ⟨SSShaderAssetManager.SSDefaultPbrShaderName, .Instantiated⟩

def pbrSkinnedShader : SSShaderAsset :=
  ⟨SSShaderAssetManager.SSDefaultPbrSkinnedShaderName, .Instantiated⟩

/-- The fallback and the shared material, both with the rigid shader. -/
def twoMaterials : SSMaterialAssetManager where
  _assetPool := PooledList.ofList [⟨"SSDefaultPbr", some pbrShader⟩, ⟨"m_7", some pbrShader⟩]
  _assetHash := fun name => if name = "m_7" then some 1 else none

theorem sharedScene_imported : ((importCurrentSceneToModelAsset sharedContext
    [pbrShader, pbrSkinnedShader] [] twoMaterials sharedScene).map fun s =>
      ((s.models[1]?).map fun model => (model._geometry._meshType,
        model._geometry.subGeometryNum, model._multiMaterialList 0), s.materials.shaderOf 1)) =
    some (some (.Rigid, 1, some 1), some pbrSkinnedShader) := by decide +kernel

theorem shaders_fit_iff_shared :
    ∃ s', importCurrentSceneToModelAsset sharedContext [pbrShader, pbrSkinnedShader] []
        twoMaterials sharedScene = some s' ∧
      ∃ new, s'.models = [] ++ new ∧
        List.Forall₂ (ModelOf twoMaterials._assetHash) (meshNodesChilds sharedScene.childs) new ∧
        ((∀ model ∈ new, ModelFits s'.materials model) ↔
          ∀ e ∈ meshNodesChilds sharedScene.childs, NodeFits [pbrShader, pbrSkinnedShader]
            (NamedBySkinned twoMaterials._assetHash (meshNodesChilds sharedScene.childs))
            twoMaterials e) := by
  obtain ⟨s', hs', _⟩ := Option.map_eq_some_iff.mp sharedScene_imported
  exact ⟨s', hs', shaders_fit_iff hs'⟩

/-- The model of the rigid node draws with the skinned shader. -/
theorem shared_material_misfit :
    ∃ s', importCurrentSceneToModelAsset sharedContext [pbrShader, pbrSkinnedShader] []
        twoMaterials sharedScene = some s' ∧
      ∃ model ∈ s'.models, model._geometry._meshType = .Rigid ∧
        ¬ ModelFits s'.materials model := by
  obtain ⟨s', hs', hstate⟩ := Option.map_eq_some_iff.mp sharedScene_imported
  obtain ⟨hmodel, hshader⟩ := Prod.mk.inj hstate
  obtain ⟨model, hget, hfields⟩ := Option.map_eq_some_iff.mp hmodel
  obtain ⟨htype, hrest⟩ := Prod.mk.inj hfields
  obtain ⟨hnum, hslot⟩ := Prod.mk.inj hrest
  refine ⟨s', hs', model, List.mem_of_getElem? hget, htype, fun hfit => ?_⟩
  obtain ⟨shader, hfound, hname⟩ := hfit 1 ⟨0, by rw [hnum]; exact Nat.one_pos, hslot⟩
  rw [hshader] at hfound
  cases hfound
  rw [htype] at hname
  exact absurd hname (by decide)

end SharedMaterial

end FBXRenderer
