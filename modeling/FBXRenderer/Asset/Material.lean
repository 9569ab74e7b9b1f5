import FBXRenderer.Container.PooledList

/-!
# FBXRenderer.Asset.Material

Shader and material assets as far as a material's shader is concerned: `SSMaterialAsset::
ChangeShader` and the lookups of the two asset managers. Materials are shared, so they are named by
their index in the pool of `SSMaterialAssetManager`.

* `changeShader_some`: a shader is replaced only by an instantiated one.
-/

namespace FBXRenderer

open SS

inductive ShaderAssetInstanceStage where
  | JustCreated
  | Compiled
  | Instantiated
deriving DecidableEq

structure SSShaderAsset where
  _assetName : String
  _shaderInstanceStage : ShaderAssetInstanceStage
deriving DecidableEq

structure SSMaterialAsset where
  _assetName : String
  _shader : Option SSShaderAsset
deriving DecidableEq

namespace SSShaderAssetManager

def SSDefaultPbrShaderName : String := "SSDefaultPbr"

def SSDefaultPbrSkinnedShaderName : String := "SSDefaultPbrSkinned"

/-- `FindShaderWithName` on the pool; the names are unique. -/
def findShaderWithName (assetPool : List SSShaderAsset) (name : String) : Option SSShaderAsset :=
  assetPool.find? (·._assetName == name)

end SSShaderAssetManager

/-- `ChangeShader(InShaderAssetName)`. Its null check is on the name, so a shader that is not found
is dereferenced. -/
def SSMaterialAsset.changeShader (shaders : List SSShaderAsset) (InShaderAssetName : String)
    (material : SSMaterialAsset) : Option SSMaterialAsset :=
  match SSShaderAssetManager.findShaderWithName shaders InShaderAssetName with
  | none => none
  | some shaderAsset =>
    if shaderAsset._shaderInstanceStage ≠ .Instantiated then some material
    else some { material with _shader := some shaderAsset }

/-- `_assetHash` only ever answers lookups here. -/
structure SSMaterialAssetManager where
  _assetPool : PooledList SSMaterialAsset
  _assetHash : String → Option Nat

namespace SSMaterialAssetManager

def findAssetWithName (manager : SSMaterialAssetManager) (name : String) : Option Nat :=
  manager._assetHash name

/-- `GetEmptyAsset()`: the first material of the pool. -/
def getEmptyAsset : Nat := 0

/-- The shader of the material with the given index. -/
def shaderOf (manager : SSMaterialAssetManager) (material : Nat) : Option SSShaderAsset :=
  (manager._assetPool.data[material]?).bind (·._shader)

/-- `ChangeShader` on a material of the pool. -/
def changeShader (manager : SSMaterialAssetManager) (shaders : List SSShaderAsset)
    (InShaderAssetName : String) (material : Nat) : Option SSMaterialAssetManager :=
  (manager._assetPool.modify material
    (SSMaterialAsset.changeShader shaders InShaderAssetName)).map
      fun assetPool => { manager with _assetPool := assetPool }

end SSMaterialAssetManager

/-- The shader that a change to the given name puts in place, when it does. -/
def instantiatedShader (shaders : List SSShaderAsset) (name : String) : Option SSShaderAsset :=
  (SSShaderAssetManager.findShaderWithName shaders name).filter
    (·._shaderInstanceStage = .Instantiated)

theorem instantiatedShader_name {shaders : List SSShaderAsset} {name : String}
    {shader : SSShaderAsset} (h : instantiatedShader shaders name = some shader) :
    shader._assetName = name := by
  unfold instantiatedShader at h
  obtain ⟨hfind, _⟩ := Option.filter_eq_some_iff.mp h
  simpa using List.find?_some hfind

theorem SSMaterialAsset.changeShader_some {shaders : List SSShaderAsset} {name : String}
    {material material' : SSMaterialAsset}
    (h : material.changeShader shaders name = some material') :
    material'._shader = (instantiatedShader shaders name).or material._shader := by
  unfold SSMaterialAsset.changeShader at h
  unfold instantiatedShader
  split at h
  · cases h
  · rename_i shaderAsset hfind
    rw [hfind]
    split at h
    · rename_i hstage
      cases h
      rw [Option.filter_some, if_neg (by simpa using hstage), Option.none_or]
    · rename_i hstage
      cases h
      rw [Option.filter_some, if_pos (by simpa using hstage), Option.some_or]

namespace SSMaterialAssetManager

theorem changeShader_some {manager manager' : SSMaterialAssetManager}
    {shaders : List SSShaderAsset} {name : String} {material : Nat}
    (h : manager.changeShader shaders name material = some manager') :
    manager'._assetHash = manager._assetHash ∧ ∀ m, manager'.shaderOf m =
      if m = material then (instantiatedShader shaders name).or (manager.shaderOf m)
      else manager.shaderOf m := by
  unfold changeShader at h
  obtain ⟨assetPool, hmodify, rfl⟩ := Option.map_eq_some_iff.mp h
  refine ⟨rfl, fun m => ?_⟩
  have hmod := PooledList.modify_some hmodify
  unfold shaderOf
  split
  · rename_i hm
    subst hm
    obtain ⟨x, hx⟩ := PooledList.modify_found hmodify
    obtain ⟨y, hy, hget⟩ := hmod.here x hx
    rw [hget, hx]
    exact SSMaterialAsset.changeShader_some hy
  · rename_i hm
    rw [hmod.others m hm]

end SSMaterialAssetManager

end FBXRenderer
