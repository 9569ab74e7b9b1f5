import Mathlib
import FBXRenderer.Asset.PbrMaterial
import FBXRenderer.Engine.Projection
import FBXRenderer.Lib.UnitVector

/-!
# FBXRenderer.Engine.PixelShader

The pixel shader of `SSDefaultPbr.fxh` in exact arithmetic. A texture is what its sampler answers
at a coordinate, the square root behind `normalize` is a parameter.

* `lit_pixel_bounded`: in every frame a pixel in front of the camera reflects at most the light of
  the sun times the clamped product of its normal and the sun's direction.
* `computeNormal_unit`: where the tangent is at a right angle to the normal, that product is the
  cosine of the angle between them. Elsewhere the frame is skewed and the normal can be longer.
-/

namespace FBXRenderer

open DirectXMath UnitVector
open scoped Matrix

namespace SSDefaultPbr

section Definitions

/-- What `samLinear` answers for the textures of the material. -/
structure Textures (K : Type) where
  txBaseColor : Vector2f K → XMVECTOR K
  txNormal : Vector2f K → Fin 3 → K
  txMetallic : Vector2f K → K
  txEmissive : Vector2f K → XMVECTOR K
  txOcclusion : Vector2f K → K

structure SurfaceProperties (K : Type) where
  N : Fin 3 → K
  V : Fin 3 → K
  c_diff : Fin 3 → K
  c_spec : Fin 3 → K
  roughness : K
  alpha : K
  alphaSqr : K
  NdotV : K

variable {K : Type} [Field K]

def lerp (x y s : K) : K := x + s * (y - x)

def kDielectricSpecular : K := (4 : Nat) / (100 : Nat)

def PI : K := (314159265 : Nat) / (10 : Nat) ^ 8

def pow5 (x : K) : K :=
  let xSq := x * x
  xSq * xSq * x

def fresnelShlick (F0 F90 cosine : K) : K := lerp F0 F90 (pow5 (1 - cosine))

variable (sqrt : K → K)

def computeNormal (tx : Textures K) (material : PbrMaterialConstants K) (psInput : PS_INPUT K) :
    Fin 3 → K :=
  let normal := normalize sqrt psInput.Normal
  let tangent := normalize sqrt (float3 psInput.Tangent)
  let bitangent := normalize sqrt (crossProduct normal tangent)
  let tangentFrame := Matrix.of ![tangent, bitangent, normal]
  let normal : Fin 3 → K := fun i => tx.txNormal psInput.UV0 i * (2 : Nat) - 1
  let normal := normalize sqrt normal
  let normal := normalize sqrt
    (normal * ![material.normalTextureScale, material.normalTextureScale, 1])
  normal ᵥ* tangentFrame

variable [LinearOrder K]

def saturate (x : K) : K := max 0 (min x 1)

def specularDGGX (Surface : SurfaceProperties K) (L : Fin 3 → K) : K :=
  let H := normalize sqrt (Surface.V + L)
  let NdotH := Surface.N ⬝ᵥ H
  let lower := lerp 1 Surface.alphaSqr (NdotH * NdotH)
  Surface.alphaSqr / max (1 / (10 : Nat) ^ 6 : K) (PI * lower * lower)

def gSchlickSmith (Surface : SurfaceProperties K) (L : Fin 3 → K) : K :=
  let NdotL := Surface.N ⬝ᵥ L
  let half := Surface.alpha * (1 / (2 : Nat))
  1 / max (1 / (10 : Nat) ^ 6 : K) (lerp Surface.NdotV 1 half * lerp NdotL 1 half)

variable (tx : Textures K) (material : PbrMaterialConstants K) (param : GlobalRenderParam K)
  (input : PS_INPUT K)

def baseColor : XMVECTOR K := fun c =>
  material.baseColorFactor.SimdVec c * tx.txBaseColor input.UV0 c

def metallic : K := material.metallicFactor * tx.txMetallic input.UV0

def emissive : Fin 3 → K := fun c =>
  float3 material.emissiveFactor.SimdVec c * float3 (tx.txEmissive input.UV0) c *
    tx.txEmissive input.UV0 (Fin.last 3)

def surfaceOf : SurfaceProperties K :=
  let baseColor := float3 (baseColor tx material input)
  let metallic := metallic tx material input
  let occlusion := tx.txOcclusion input.UV0
  let roughness := material.roughnessFactor
  let N := computeNormal sqrt tx material input
  let V := normalize sqrt (float3 param.ViewerPos.SimdVec - input.WorldPos)
  { N := N
    V := V
    c_diff := fun c => baseColor c * (1 - kDielectricSpecular) * (1 - metallic) * occlusion
    c_spec := fun c => lerp kDielectricSpecular (baseColor c) metallic * occlusion
    roughness := roughness
    alpha := roughness * roughness
    alphaSqr := roughness * roughness * (roughness * roughness)
    NdotV := saturate (N ⬝ᵥ V) }

/-- The part of the light that a surface mirrors, of a share `k_s`. -/
def cookTorrence (surface : SurfaceProperties K) (L : Fin 3 → K) (k_s : K) : K :=
  let NdotL := saturate (surface.N ⬝ᵥ L)
  let cookTorrenceNumerator :=
    specularDGGX sqrt surface L * gSchlickSmith surface L * k_s
  let cookTorrenceDenominator := max ((4 : Nat) * surface.NdotV * NdotL) (1 / (10 : Nat) ^ 6 : K)
  min k_s (cookTorrenceNumerator / cookTorrenceDenominator)

def sunDirection : Fin 3 → K := normalize sqrt (float3 param.SunDirection.SimdVec)

/-- The share of the light that is mirrored, seen from the viewer. -/
def k_s : K :=
  let surface := surfaceOf sqrt tx material param input
  let H := normalize sqrt (surface.V + sunDirection sqrt param)
  let VdotH := surface.V ⬝ᵥ H
  fresnelShlick (metallic tx material input) 1 VdotH

def BRDF (c : Fin 3) : K :=
  let k_s := k_s sqrt tx material param input
  let k_d := 1 - k_s
  k_d * float3 (baseColor tx material input) c +
    cookTorrence sqrt (surfaceOf sqrt tx material param input) (sunDirection sqrt param) k_s

def PS : XMVECTOR K :=
  let NdotL := saturate
    ((surfaceOf sqrt tx material param input).N ⬝ᵥ sunDirection sqrt param)
  let colorAccum : Fin 3 → K := fun c => emissive tx material input c +
    BRDF sqrt tx material param input c * NdotL * float3 param.SunIntensity.SimdVec c
  Fin.snoc colorAccum (baseColor tx material input (Fin.last 3))

end Definitions

section Terms

variable {K : Type} [Field K] [LinearOrder K] [IsStrictOrderedRing K] {sqrt : K → K}

theorem epsilon_pos : (0 : K) < 1 / (10 : Nat) ^ 6 := by positivity

theorem saturate_mem (x : K) : 0 ≤ saturate x ∧ saturate x ≤ 1 :=
  ⟨le_max_left _ _, max_le zero_le_one (min_le_right _ _)⟩

theorem lerp_mem {x y s : K} (hxy : x ≤ y) (hs : 0 ≤ s ∧ s ≤ 1) :
    x ≤ lerp x y s ∧ lerp x y s ≤ y := by
  have hdiff : 0 ≤ y - x := sub_nonneg.mpr hxy
  have hlow := mul_nonneg hs.1 hdiff
  have hhigh := mul_le_of_le_one_left hdiff hs.2
  unfold lerp
  constructor <;> linarith

theorem pow5_mem {x : K} (hx : 0 ≤ x ∧ x ≤ 1) : 0 ≤ pow5 x ∧ pow5 x ≤ 1 := by
  have hpow : pow5 x = x ^ 5 := by
    unfold pow5
    ring
  rw [hpow]
  exact ⟨pow_nonneg hx.1 5, pow_le_one₀ hx.1 hx.2⟩

/-- The share that is mirrored is at least the one that is mirrored straight on. -/
theorem fresnelShlick_mem {F0 cosine : K} (hF0 : F0 ≤ 1) (hcosine : 0 ≤ cosine ∧ cosine ≤ 1) :
    F0 ≤ fresnelShlick F0 1 cosine ∧ fresnelShlick F0 1 cosine ≤ 1 :=
  lerp_mem hF0 (pow5_mem ⟨sub_nonneg.mpr hcosine.2, sub_le_self 1 hcosine.1⟩)

/-- Whatever the distribution and the visibility are, they are not negative, and no more than the
share comes out. -/
theorem cookTorrence_mem {surface : SurfaceProperties K} (halpha : 0 ≤ surface.alphaSqr)
    (L : Fin 3 → K) {k_s : K} (hk : 0 ≤ k_s) :
    0 ≤ cookTorrence sqrt surface L k_s ∧ cookTorrence sqrt surface L k_s ≤ k_s := by
  have hdistribution : 0 ≤ specularDGGX sqrt surface L :=
    div_nonneg halpha (epsilon_pos.le.trans (le_max_left _ _))
  have hvisibility : 0 ≤ gSchlickSmith surface L :=
    div_nonneg zero_le_one (epsilon_pos.le.trans (le_max_left _ _))
  refine ⟨le_min hk (div_nonneg ?_ (epsilon_pos.le.trans (le_max_right _ _))), min_le_left _ _⟩
  exact mul_nonneg (mul_nonneg hdistribution hvisibility) hk

end Terms

section Light

variable {K : Type} [Field K] {dx : DirectXMath K} {camera : SSCamera K}

/-- The light comes from behind the camera. -/
theorem float3_backward (hexact : dx.Computes) :
    float3 (camera._transform.getBackward dx).SimdVec =
      -float3 (camera._transform.getForward dx).SimdVec := by
  unfold Transform.getBackward Transform.getForward
  rw [hexact.vector3Rotate, hexact.vector3Rotate]
  funext i
  fin_cases i <;>
    simp [float3, Vector4f.SimdVec, vector3Rotate, quaternionMultiply, Vector4f.Back,
      Vector4f.Forward] <;> ring

theorem forward_unit (hexact : dx.Computes) (hq : camera._transform.Rotation.IsUnit) :
    float3 (camera._transform.getForward dx).SimdVec ⬝ᵥ
      float3 (camera._transform.getForward dx).SimdVec = 1 := by
  have hlength := dot3D_rotate (Vector4f.Forward : Vector4f K) Vector4f.Forward hq
  rw [← hexact.vector3Rotate, ← get3DSqrLength_eq Vector4f.Forward,
    get3DSqrLength_Forward] at hlength
  rw [← hlength]
  simp [dotProduct, Fin.sum_univ_three, float3, Vector4f.SimdVec, Vector4f.dot3D,
    Transform.getForward]

variable [LinearOrder K] [IsStrictOrderedRing K] {sqrt : K → K}

/-- A point in front of the camera is seen at an acute angle to the light. -/
theorem view_light (hexact : dx.Computes) (hsqrt : IsSqrt sqrt)
    (hq : camera._transform.Rotation.IsUnit) {point : Fin 3 → K}
    (hfront : 0 < camera.distance dx point) :
    let V := normalize sqrt (float3 camera._transform.Position.SimdVec - point)
    let L := normalize sqrt (float3 (camera._transform.getBackward dx).SimdVec)
    V ⬝ᵥ V = 1 ∧ L ⬝ᵥ L = 1 ∧ 0 < V ⬝ᵥ L := by
  intro V L
  have hunit := forward_unit hexact hq
  have hbackward : float3 (camera._transform.getBackward dx).SimdVec ⬝ᵥ
      float3 (camera._transform.getBackward dx).SimdVec = 1 := by
    rw [float3_backward hexact, neg_dotProduct_neg, hunit]
  have hL : L = -float3 (camera._transform.getForward dx).SimdVec := by
    rw [← float3_backward hexact]
    exact normalize_of_unit hsqrt hbackward
  have hdistance : camera.distance dx point =
      float3 (camera._transform.getForward dx).SimdVec ⬝ᵥ
        (point - float3 camera._transform.Position.SimdVec) := rfl
  -- the eye is not at the point
  have hpos : 0 < (float3 camera._transform.Position.SimdVec - point) ⬝ᵥ
      (float3 camera._transform.Position.SimdVec - point) := by
    refine lt_of_le_of_ne (dot_self_nonneg _) fun hzero => hfront.ne' ?_
    have hsame := dotProduct_self_eq_zero.mp hzero.symm
    rw [hdistance, ← neg_sub, hsame, neg_zero, dotProduct_zero]
  refine ⟨normalize_unit hsqrt hpos, ?_, ?_⟩
  · rw [hL, neg_dotProduct_neg, hunit]
  · have hangle : (float3 camera._transform.Position.SimdVec - point) ⬝ᵥ
        -float3 (camera._transform.getForward dx).SimdVec = camera.distance dx point := by
      rw [hdistance, dotProduct_comm, ← neg_sub point, neg_dotProduct_neg]
    rw [hL, show V = _ from normalize_eq sqrt _, smul_dotProduct, smul_eq_mul, hangle]
    exact mul_pos (inv_pos.mpr (hsqrt.pos hpos)) hfront

end Light

section Bounds

variable {K : Type} [Field K] [LinearOrder K]

/-- The colours of the material and of its textures, and its metallic factors, are in range. -/
structure InRange (tx : Textures K) (material : PbrMaterialConstants K) : Prop where
  baseColorFactor : ∀ c, 0 ≤ material.baseColorFactor.SimdVec c ∧
    material.baseColorFactor.SimdVec c ≤ 1
  txBaseColor : ∀ uv c, 0 ≤ tx.txBaseColor uv c ∧ tx.txBaseColor uv c ≤ 1
  metallicFactor : 0 ≤ material.metallicFactor ∧ material.metallicFactor ≤ 1
  txMetallic : ∀ uv, 0 ≤ tx.txMetallic uv ∧ tx.txMetallic uv ≤ 1

variable [IsStrictOrderedRing K] {sqrt : K → K} {tx : Textures K}
  {material : PbrMaterialConstants K}

theorem mul_mem {x y : K} (hx : 0 ≤ x ∧ x ≤ 1) (hy : 0 ≤ y ∧ y ≤ 1) :
    0 ≤ x * y ∧ x * y ≤ 1 :=
  ⟨mul_nonneg hx.1 hy.1, mul_le_one₀ hx.2 hy.1 hy.2⟩

/-- What is mirrored and what is not are shares of one light. -/
theorem brdf_mem {k_s lambert mirrored : K} (hk : k_s ≤ 1) (hlambert : 0 ≤ lambert ∧ lambert ≤ 1)
    (hmirrored : 0 ≤ mirrored ∧ mirrored ≤ k_s) :
    0 ≤ (1 - k_s) * lambert + mirrored ∧ (1 - k_s) * lambert + mirrored ≤ 1 := by
  have hk_d : 0 ≤ 1 - k_s := sub_nonneg.mpr hk
  have hlow := mul_nonneg hk_d hlambert.1
  have hhigh := mul_le_of_le_one_right hk_d hlambert.2
  constructor <;> linarith

/-- The shader under a light that is not right behind the point. -/
theorem PS_bounded (hsqrt : IsSqrt sqrt) (hrange : InRange tx material)
    {param : GlobalRenderParam K} {input : PS_INPUT K}
    (hV : (surfaceOf sqrt tx material param input).V ⬝ᵥ
      (surfaceOf sqrt tx material param input).V = 1)
    (hL : sunDirection sqrt param ⬝ᵥ sunDirection sqrt param = 1)
    (hangle : -1 < (surfaceOf sqrt tx material param input).V ⬝ᵥ sunDirection sqrt param)
    {c : Fin 3} (hsun : 0 ≤ float3 param.SunIntensity.SimdVec c) :
    let NdotL := saturate
      ((surfaceOf sqrt tx material param input).N ⬝ᵥ sunDirection sqrt param)
    emissive tx material input c ≤ PS sqrt tx material param input c.castSucc ∧
      PS sqrt tx material param input c.castSucc ≤
        emissive tx material input c + NdotL * float3 param.SunIntensity.SimdVec c := by
  intro NdotL
  have hmetallic := mul_mem hrange.metallicFactor (hrange.txMetallic input.UV0)
  have hshare : metallic tx material input ≤ k_s sqrt tx material param input ∧
      k_s sqrt tx material param input ≤ 1 :=
    fresnelShlick_mem hmetallic.2 (half_dot_mem hsqrt hV hL hangle)
  have halpha : 0 ≤ (surfaceOf sqrt tx material param input).alphaSqr := mul_self_nonneg _
  have hbrdf : 0 ≤ BRDF sqrt tx material param input c ∧
      BRDF sqrt tx material param input c ≤ 1 :=
    brdf_mem hshare.2
      (mul_mem (hrange.baseColorFactor c.castSucc) (hrange.txBaseColor input.UV0 c.castSucc))
      (cookTorrence_mem halpha _ (hmetallic.1.trans hshare.1))
  have hlight : 0 ≤ NdotL * float3 param.SunIntensity.SimdVec c :=
    mul_nonneg (saturate_mem _).1 hsun
  have hPS : PS sqrt tx material param input c.castSucc = emissive tx material input c +
      BRDF sqrt tx material param input c * NdotL * float3 param.SunIntensity.SimdVec c := by
    simp only [PS, Fin.snoc_castSucc, NdotL]
  rw [hPS, mul_assoc]
  exact ⟨le_add_of_nonneg_right (mul_nonneg hbrdf.1 hlight),
    add_le_add_right (mul_le_of_le_one_left hlight hbrdf.2) _⟩

/-- The normal and the tangent of the pixel are at a right angle, and its normal map does not lie in
the surface. -/
structure RightAngled (tx : Textures K) (input : PS_INPUT K) : Prop where
  normal : 0 < input.Normal ⬝ᵥ input.Normal
  tangent : 0 < float3 input.Tangent ⬝ᵥ float3 input.Tangent
  right : input.Normal ⬝ᵥ float3 input.Tangent = 0
  map : tx.txNormal input.UV0 (Fin.last 2) * (2 : Nat) - 1 ≠ 0

/-- A vector with a third component is none of length 0. -/
theorem dot_self_pos {v : Fin 3 → K} (hv : v (Fin.last 2) ≠ 0) : 0 < v ⬝ᵥ v := by
  refine lt_of_le_of_ne (dot_self_nonneg v) fun hzero => hv ?_
  rw [dotProduct_self_eq_zero.mp hzero.symm, Pi.zero_apply]

theorem computeNormal_unit (hsqrt : IsSqrt sqrt) {input : PS_INPUT K}
    (h : RightAngled tx input) : computeNormal sqrt tx material input ⬝ᵥ
      computeNormal sqrt tx material input = 1 := by
  have hn := normalize_unit hsqrt h.normal
  have ht := normalize_unit hsqrt h.tangent
  have hright : normalize sqrt input.Normal ⬝ᵥ normalize sqrt (float3 input.Tangent) = 0 := by
    rw [UnitVector.normalize_eq, UnitVector.normalize_eq, smul_dotProduct, dotProduct_smul, h.right,
      smul_zero, smul_zero]
  have hframe := frame_orthonormal ht hn hright
  have hbitangent := normalize_of_unit hsqrt (hframe 1 1)
  -- the scale is for the two components in the surface, so the third is still there
  have hmap : 0 < (fun i => tx.txNormal input.UV0 i * (2 : Nat) - 1) ⬝ᵥ
      fun i => tx.txNormal input.UV0 i * (2 : Nat) - 1 := dot_self_pos h.map
  have hscaled : 0 < (normalize sqrt (fun i => tx.txNormal input.UV0 i * (2 : Nat) - 1) *
      ![material.normalTextureScale, material.normalTextureScale, 1]) ⬝ᵥ
      (normalize sqrt (fun i => tx.txNormal input.UV0 i * (2 : Nat) - 1) *
        ![material.normalTextureScale, material.normalTextureScale, 1]) := by
    refine dot_self_pos ?_
    have hthird := div_ne_zero h.map (hsqrt.pos hmap).ne'
    rw [Pi.mul_apply]
    exact mul_ne_zero hthird one_ne_zero
  unfold computeNormal
  dsimp only
  rw [show normalize sqrt (crossProduct (normalize sqrt input.Normal)
    (normalize sqrt (float3 input.Tangent))) = _ from hbitangent]
  exact (vecMul_dot_self hframe _).trans (normalize_unit hsqrt hscaled)

end Bounds

section White

variable (K : Type) [Field K]

/-- White textures and a material that emits nothing. -/
def whiteTextures : Textures K where
  txBaseColor _ _ := 1
  txNormal _ := ![0, 0, 1]
  txMetallic _ := 1
  txEmissive _ _ := 1
  txOcclusion _ := 1

def whiteMaterial : PbrMaterialConstants K :=
  ⟨⟨1, 1, 1, 1⟩, ⟨0, 0, 0, 0⟩, 1, 0, 1⟩

/-- A point at the origin. -/
def originPixel : PS_INPUT K :=
  ⟨![0, 0, 0, 1], ![0, 0, -1], ![1, 0, 0, 0], ⟨0, 0⟩, ⟨0, 0⟩, 0⟩

theorem white_inRange [LinearOrder K] [IsStrictOrderedRing K] :
    InRange (whiteTextures K) (whiteMaterial K) where
  baseColorFactor c := by fin_cases c <;> simp [whiteMaterial, Vector4f.SimdVec]
  txBaseColor _ _ := ⟨zero_le_one, le_rfl⟩
  metallicFactor := ⟨le_rfl, zero_le_one⟩
  txMetallic _ := ⟨zero_le_one, le_rfl⟩

theorem white_rightAngled [LinearOrder K] [IsStrictOrderedRing K] :
    RightAngled (whiteTextures K) (originPixel K) where
  normal := by simp [originPixel]
  tangent := by simp [originPixel, float3, Matrix.vec3_dotProduct]
  right := by simp [originPixel, dotProduct, Fin.sum_univ_three, float3]
  map := by
    show (1 : K) * (2 : Nat) - 1 ≠ 0
    norm_num

end White

section Frames

variable {K : Type} [Field K] [LinearOrder K] [IsStrictOrderedRing K] [FloorRing K]
  {dx : DirectXMath K} {cm : CameraMath K} {sqrt : K → K} {tx : Textures K}
  {material : PbrMaterialConstants K}

/-- In every frame, for a pixel in front of the camera: a channel is at least what the surface
emits, and what comes on top of that is at most the light of the sun times the clamped product of
normal and direction of the sun. So a surface that is turned away from the sun shows only what it
emits. Where the tangent frame is a right-angled one, both are of length 1. -/
theorem lit_pixel_bounded (hexact : dx.Computes) (hcm : cm.Lawful) (hsqrt : IsSqrt sqrt)
    (frames : List (FrameInput K)) (pm : ProjectionMath K) (ScreenRect : RECT)
    (context : GlobalRenderParam K)
    (hsun : ∀ c, 0 ≤ float3 context.SunIntensity.SimdVec c) (hrange : InRange tx material)
    (input : PS_INPUT K) :
    let camera := (frames.foldl (SSRenderer.cameraFrame dx cm)
      (SSRenderer.beginFrame cm, .new)).1
    let param := camera.globalParam dx cm pm ScreenRect context
    0 < camera.distance dx input.WorldPos →
    let NdotL := saturate (computeNormal sqrt tx material input ⬝ᵥ sunDirection sqrt param)
    (∀ c : Fin 3, emissive tx material input c ≤ PS sqrt tx material param input c.castSucc ∧
      PS sqrt tx material param input c.castSucc ≤
        emissive tx material input c + NdotL * float3 context.SunIntensity.SimdVec c) ∧
      (RightAngled tx input →
        computeNormal sqrt tx material input ⬝ᵥ computeNormal sqrt tx material input = 1 ∧
          sunDirection sqrt param ⬝ᵥ sunDirection sqrt param = 1) := by
  intro camera param hfront NdotL
  have hinv : SSRenderer.CameraInv (frames.foldl (SSRenderer.cameraFrame dx cm)
      (SSRenderer.beginFrame cm, .new)) :=
    SSRenderer.cameraInv_run hcm frames (SSRenderer.cameraInv_beginFrame hcm)
  obtain ⟨hV, hL, hangle⟩ := view_light hexact hsqrt hinv.unit hfront
  refine ⟨fun c => ?_, fun hright => ⟨computeNormal_unit hsqrt hright, hL⟩⟩
  exact @PS_bounded K _ _ _ sqrt tx material hsqrt hrange param input hV hL
    (neg_one_lt_zero.trans hangle) c (hsun c)

theorem lit_pixel_bounded_white :
    let camera : SSCamera ℝ := SSRenderer.beginFrame (viewMath Real.sqrt)
    let param := camera.globalParam (exact ℝ) (viewMath Real.sqrt)
      (projectionOf fun x => (Real.sin x, Real.cos x)) walkScreen
      ⟨0, ⟨0, 0, 0, 0⟩, ⟨1, 1, 1, 1⟩, ⟨0, 0, 0, 0⟩⟩
    let NdotL := saturate (computeNormal Real.sqrt (whiteTextures ℝ) (whiteMaterial ℝ)
      (originPixel ℝ) ⬝ᵥ sunDirection Real.sqrt param)
    (∀ c : Fin 3, emissive (whiteTextures ℝ) (whiteMaterial ℝ) (originPixel ℝ) c ≤
        PS Real.sqrt (whiteTextures ℝ) (whiteMaterial ℝ) param (originPixel ℝ) c.castSucc ∧
      PS Real.sqrt (whiteTextures ℝ) (whiteMaterial ℝ) param (originPixel ℝ) c.castSucc ≤
        emissive (whiteTextures ℝ) (whiteMaterial ℝ) (originPixel ℝ) c +
          NdotL * float3 (⟨1, 1, 1, 1⟩ : Vector4f ℝ).SimdVec c) ∧
      computeNormal Real.sqrt (whiteTextures ℝ) (whiteMaterial ℝ) (originPixel ℝ) ⬝ᵥ
          computeNormal Real.sqrt (whiteTextures ℝ) (whiteMaterial ℝ) (originPixel ℝ) = 1 ∧
        sunDirection Real.sqrt param ⬝ᵥ sunDirection Real.sqrt param = 1 := by
  refine (lit_pixel_bounded exact_computes (viewMath_lawful fun length h => Real.sqrt_sq h.le)
    (fun x hx => ⟨Real.sqrt_nonneg x, Real.sq_sqrt hx⟩) [] _ walkScreen _ (fun c => ?_)
    (white_inRange ℝ) (originPixel ℝ) ?_).imp_right fun h => h (white_rightAngled ℝ)
  · fin_cases c <;> simp [float3, Vector4f.SimdVec]
  · simp only [List.foldl_nil]
    unfold SSCamera.distance Transform.getForward
    rw [SSRenderer.beginFrame_transform, exact_computes.vector3Rotate]
    simp [along_eq, originPixel, vector3Rotate, quaternionMultiply, Quaternion.fromLookDirect,
      viewMath, Quaternion.one, Vector4f.Forward]

end Frames

end SSDefaultPbr

end FBXRenderer
