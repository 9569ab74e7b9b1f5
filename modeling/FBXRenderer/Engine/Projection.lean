import Mathlib
import FBXRenderer.Engine.Camera
import FBXRenderer.Engine.DrawState
import FBXRenderer.Engine.VertexShader
import FBXRenderer.Lib.Perspective

/-!
# FBXRenderer.Engine.Projection

The projection of `SSCamera`, what `PerFrame` makes of it for the shaders, and where the vertices of
a drawn scene come out, in exact arithmetic up to the rounding of the depth buffer. Vertices are
those of the plain shader; a point is taken in the world.

* `draws_clip_to_view`: the clip test keeps exactly what is in the view volume of the camera.
* `draws_ordered_by_depth`: the depths order what is in front of the camera by its distance along
  the view, whichever draws it comes from, and the depth buffer never has it the other way round.
-/

namespace FBXRenderer

open CommandStream DirectXMath ID3D11DeviceContext
open scoped Matrix

section Definitions

structure RECT where
  left : Int
  top : Int
  right : Int
  bottom : Int

def RECT.width (ScreenRect : RECT) : Nat := toUint32 (ScreenRect.right - ScreenRect.left)
def RECT.height (ScreenRect : RECT) : Nat := toUint32 (ScreenRect.bottom - ScreenRect.top)

/-- The functions of the library that only the projection uses. -/
structure ProjectionMath (K : Type) where
  /-- Sine and cosine. -/
  XMScalarSinCos : K → K × K
  /-- Vertical angle, width over height, and the two planes. -/
  XMMatrixPerspectiveFovLH : K → K → K → K → XMMATRIX K

variable {K : Type} [Field K]

/-- The documented matrix: its scales are the cotangent of half the angle, the horizontal one over
the ratio. -/
structure ProjectionMath.Lawful [LinearOrder K] (pm : ProjectionMath K) : Prop where
  sinCos_pos : ∀ x, 0 < x → x ≤ CAM_FOV_MAX K / (2 : Nat) →
    0 < (pm.XMScalarSinCos x).1 ∧ 0 < (pm.XMScalarSinCos x).2
  perspectiveFovLH : ∀ FovAngleY AspectRatio NearZ FarZ : K,
    let half := pm.XMScalarSinCos (FovAngleY / (2 : Nat))
    pm.XMMatrixPerspectiveFovLH FovAngleY AspectRatio NearZ FarZ =
      Perspective.perspective (half.2 / half.1 / AspectRatio) (half.2 / half.1) NearZ FarZ

namespace SSCamera

variable (dx : DirectXMath K) (cm : CameraMath K) (pm : ProjectionMath K) (ScreenRect : RECT)
  (camera : SSCamera K)

def getProjectionMatrix : XMMATRIX K :=
  pm.XMMatrixPerspectiveFovLH camera.FOVRadY ((ScreenRect.width : K) / (ScreenRect.height : K))
    camera.NearZ camera.FarZ

def getViewProjMatrix : XMMATRIX K :=
  dx.XMMatrixMultiply (camera.getViewMatrix dx cm) (camera.getProjectionMatrix pm ScreenRect)

/-- What `PerFrame` puts into `_globalParamContext`. -/
def globalParam (context : GlobalRenderParam K) : GlobalRenderParam K :=
  { context with
    VPMatrix := dx.XMMatrixTranspose (camera.getViewProjMatrix dx cm pm ScreenRect)
    ViewerPos := camera._transform.Position
    SunDirection := camera._transform.getBackward dx }

end SSCamera

/-- The constant buffers of `b0` and `b1` at a draw. -/
def VSConstants.bound (s : State K) : Option (VSConstants K) := do
  let modelBuffer ← s.vsConstantBuffers 0
  let globalBuffer ← s.vsConstantBuffers 1
  match s.contents modelBuffer, s.contents globalBuffer with
  | some (.transform WMatrix RotMatrix), some (.globalRenderParam param) =>
    some ⟨WMatrixᵀ, RotMatrixᵀ, param.VPMatrixᵀ⟩
  | _, _ => none

/-- The assets as `PerFrame` draws them. -/
def DrawnAssets.seenBy (dx : DirectXMath K) (cm : CameraMath K) (pm : ProjectionMath K)
    (ScreenRect : RECT) (camera : SSCamera K) (assets : DrawnAssets K) : DrawnAssets K :=
  { assets with
    _globalParamContext := camera.globalParam dx cm pm ScreenRect assets._globalParamContext }

/-- The coordinate of a point along an axis. -/
def along (axis eye : Vector4f K) (point : Fin 3 → K) : K :=
  float3 axis.SimdVec ⬝ᵥ (point - float3 eye.SimdVec)

/-- How far a point is in front of the camera. -/
def SSCamera.distance (dx : DirectXMath K) (camera : SSCamera K) (point : Fin 3 → K) : K :=
  along (camera._transform.getForward dx) camera._transform.Position point

/-- The volume between the two planes and the four sides that the field of view and the window
give. -/
def SSCamera.Sees [LinearOrder K] (dx : DirectXMath K) (pm : ProjectionMath K) (ScreenRect : RECT)
    (camera : SSCamera K) (point : Fin 3 → K) : Prop :=
  let half := pm.XMScalarSinCos (camera.FOVRadY / (2 : Nat))
  let aspect := (ScreenRect.width : K) / (ScreenRect.height : K)
  let eye := camera._transform.Position
  let distance := camera.distance dx point
  |along (camera._transform.getRight dx) eye point| ≤ distance * (half.1 / half.2) * aspect ∧
    |along (camera._transform.getUp dx) eye point| ≤ distance * (half.1 / half.2) ∧
    camera.NearZ ≤ distance ∧ distance ≤ camera.FarZ

/-- The material has the two buffers of the vertex shader. -/
def BindsVS (material : SSDrawnMaterial) : Prop :=
  0 ∈ (constantBindings material).1.map Prod.fst ∧ 1 ∈ (constantBindings material).1.map Prod.fst

theorem along_eq (axis eye : Vector4f K) (point : Fin 3 → K) :
    along axis eye point =
      axis.X * (point 0 - eye.X) + axis.Y * (point 1 - eye.Y) + axis.Z * (point 2 - eye.Z) := by
  simp [along, dotProduct, Fin.sum_univ_three, float3, Vector4f.SimdVec]

end Definitions

section Volume

variable {K : Type} [Field K] [LinearOrder K] [IsStrictOrderedRing K] {dx : DirectXMath K}
  {cm : CameraMath K} {pm : ProjectionMath K} {ScreenRect : RECT} {camera : SSCamera K}

/-- The view space has the axes of the camera. -/
theorem vecMul_view (hdx : dx.Computes) (hcm : cm.Lawful)
    (hq : camera._transform.Rotation.IsUnit) {v : XMVECTOR K} (hv : v 3 = 1) :
    let eye := camera._transform.Position
    v ᵥ* camera.getViewMatrix dx cm =
      ![along (camera._transform.getRight dx) eye (float3 v),
        along (camera._transform.getUp dx) eye (float3 v), camera.distance dx (float3 v), 1] := by
  intro eye
  rw [getViewMatrix_eq hdx hcm camera hq, ← lookToLH_eq hq]
  unfold SSCamera.distance Transform.getRight Transform.getUp Transform.getForward
  simp only [hdx.vector3Rotate]
  ext j
  fin_cases j <;>
    simp [lookToLH, along_eq, float3, Vector4f.dot3D, Matrix.vecMul, dotProduct, Fin.sum_univ_four,
      hv, eye] <;> ring

theorem CAM_FOV_MIN_pos : 0 < CAM_FOV_MIN K := by
  unfold CAM_FOV_MIN
  positivity

/-- Half the field of view has a sine and a cosine above 0. -/
theorem half_pos (hpm : pm.Lawful)
    (hfov : camera.FOVRadY ∈ Set.Icc (CAM_FOV_MIN K) (CAM_FOV_MAX K)) :
    0 < (pm.XMScalarSinCos (camera.FOVRadY / (2 : Nat))).1 ∧
      0 < (pm.XMScalarSinCos (camera.FOVRadY / (2 : Nat))).2 := by
  have htwo : (0 : K) < (2 : Nat) := Nat.cast_pos.mpr two_pos
  exact hpm.sinCos_pos _ (div_pos (CAM_FOV_MIN_pos.trans_le hfov.1) htwo)
    (div_le_div_of_nonneg_right hfov.2 htwo.le)

/-- A scale by the cotangent on one side is one by the tangent on the other. -/
theorem mul_cot_le_iff {a d sine cosine ratio : K} (hsine : 0 < sine) (hcosine : 0 < cosine)
    (hratio : 0 < ratio) :
    a * (cosine / sine / ratio) ≤ d ↔ a ≤ d * (sine / cosine) * ratio := by
  have hinv : cosine / sine / ratio = (sine / cosine * ratio)⁻¹ := by
    rw [mul_inv, inv_div, div_eq_mul_inv]
  rw [hinv, ← div_eq_mul_inv, div_le_iff₀ (mul_pos (div_pos hsine hcosine) hratio), mul_assoc]

namespace SSCamera

variable {rotation : CamRotation K}

/-- The point in the view space, and then on the screen. -/
theorem vecMul_viewProj (hdx : dx.Lawful) (hexact : dx.Computes) (hcm : cm.Lawful)
    (hpm : pm.Lawful) (hq : camera._transform.Rotation.IsUnit) {v : XMVECTOR K} (hv : v 3 = 1) :
    let half := pm.XMScalarSinCos (camera.FOVRadY / (2 : Nat))
    let eye := camera._transform.Position
    v ᵥ* camera.getViewProjMatrix dx cm pm ScreenRect =
      ![along (camera._transform.getRight dx) eye (float3 v),
          along (camera._transform.getUp dx) eye (float3 v), camera.distance dx (float3 v), 1] ᵥ*
        Perspective.perspective
          (half.2 / half.1 / ((ScreenRect.width : K) / (ScreenRect.height : K)))
          (half.2 / half.1) camera.NearZ camera.FarZ := by
  intro half eye
  unfold getViewProjMatrix getProjectionMatrix
  rw [hdx.matrixMultiply, ← Matrix.vecMul_vecMul, vecMul_view hexact hcm hq hv,
    hpm.perspectiveFovLH]

theorem inside_iff_sees (hdx : dx.Lawful) (hexact : dx.Computes) (hcm : cm.Lawful)
    (hpm : pm.Lawful) (hinv : SSRenderer.CameraInv (camera, rotation))
    (hwidth : 0 < ScreenRect.width) (hheight : 0 < ScreenRect.height) {v : XMVECTOR K}
    (hv : v 3 = 1) :
    Perspective.Inside (v ᵥ* camera.getViewProjMatrix dx cm pm ScreenRect) ↔
      camera.Sees dx pm ScreenRect (float3 v) := by
  obtain ⟨hsine, hcosine⟩ := half_pos hpm hinv.fov
  have hratio : (0 : K) < (ScreenRect.width : K) / (ScreenRect.height : K) :=
    div_pos (Nat.cast_pos.mpr hwidth) (Nat.cast_pos.mpr hheight)
  have hnear : 0 < camera.NearZ := by
    rw [hinv.near]
    positivity
  have hfar : camera.NearZ < camera.FarZ := by
    rw [hinv.near, hinv.far]
    norm_num
  have hcot := div_pos hcosine hsine
  rw [vecMul_viewProj hdx hexact hcm hpm hinv.unit hv,
    Perspective.inside_perspective_iff (div_pos hcot hratio) hcot hnear hfar rfl]
  unfold Sees
  refine and_congr (mul_cot_le_iff hsine hcosine hratio) (and_congr ?_ Iff.rfl)
  have hone := mul_cot_le_iff (a := |along (camera._transform.getUp dx) camera._transform.Position
    (float3 v)|) (d := camera.distance dx (float3 v)) hsine hcosine one_pos
  rw [div_one, mul_one] at hone
  exact hone

end SSCamera

end Volume

section Draws

variable {K : Type} [Field K] {dx : DirectXMath K} {assets : DrawnAssets K}

theorem asMatrix_isAffine (hexact : dx.Computes) (t : Transform K) :
    Perspective.IsAffine (t.asMatrix dx) := by
  unfold Transform.asMatrix
  rw [hexact.matrixAffineTransformation, hexact.matrixRotationQuaternion]
  refine (Perspective.IsAffine.mul ?_ ?_).mul ?_
  all_goals
    intro i
    fin_cases i <;> rfl

theorem worldMatrix_isAffine (hexact : dx.Computes) (path : List (FbxNode K)) :
    Perspective.IsAffine (worldMatrix dx path) := by
  refine Perspective.isAffine_prod fun M hM => ?_
  obtain ⟨node, -, rfl⟩ := List.mem_map.mp hM
  exact asMatrix_isAffine hexact _

/-- The sub-geometries of a scene are drawn under affine matrices. -/
theorem subDraws_isAffine (hexact : dx.Computes) {n : Nat} {paths : List (List (FbxNode K))}
    {x : SubDraw K} (hx : x ∈ (pathItems dx n paths).flatMap (subDraws assets)) :
    Perspective.IsAffine x.WMatrix := by
  obtain ⟨item, hitem, hx⟩ := List.mem_flatMap.mp hx
  obtain ⟨e, -, rfl⟩ := List.mem_map.mp hitem
  have hsame : x.WMatrix = worldMatrix dx e.1 := by
    unfold subDraws at hx
    simp only at hx
    split at hx
    · exact (List.not_mem_nil hx).elim
    · obtain ⟨i, -, rfl⟩ := List.mem_map.mp hx
      rfl
  rw [hsame]
  exact worldMatrix_isAffine hexact e.1

variable {cm : CameraMath K} {pm : ProjectionMath K} {ScreenRect : RECT} {camera : SSCamera K}

/-- The constants that a draw of its own sub-geometry has. -/
theorem SeesOwn.constants (hdx : dx.Lawful) {x : SubDraw K} {material : SSDrawnMaterial}
    {o : DrawCall K} (h : SeesOwn dx (assets.seenBy dx cm pm ScreenRect camera) x material o)
    (hbinds : BindsVS material) :
    VSConstants.bound o.state =
      some ⟨x.WMatrix, x.RotMatrix, camera.getViewProjMatrix dx cm pm ScreenRect⟩ := by
  obtain ⟨modelBuffer, hmodel, htransform⟩ := h.transform
  obtain ⟨globalBuffer, hglobal, hparam⟩ := h.param
  have hzero : o.state.vsConstantBuffers 0 = some modelBuffer := (h.vs 0 hbinds.1).trans hmodel
  have hone : o.state.vsConstantBuffers 1 = some globalBuffer := (h.vs 1 hbinds.2).trans hglobal
  unfold VSConstants.bound
  rw [hzero, hone]
  simp only [Option.bind_eq_bind, Option.bind_some, htransform, hparam, DrawnAssets.seenBy,
    SSCamera.globalParam, hdx.matrixTranspose, Matrix.transpose_transpose]

/-- The run lemma for the constants. -/
theorem draws_constants (hdx : dx.Lawful) {items : List (MeshItem K)} {cs : List (Command K)}
    (h : emitAll (drawMesh dx (assets.seenBy dx cm pm ScreenRect camera)) items = some cs)
    (hready : ∀ x ∈ items.flatMap (subDraws (assets.seenBy dx cm pm ScreenRect camera)),
      ∃ material, Ready (assets.seenBy dx cm pm ScreenRect camera) x material ∧ BindsVS material)
    (s : State K) {k : Nat} {x : SubDraw K} {o : DrawCall K}
    (hx : (items.flatMap (subDraws (assets.seenBy dx cm pm ScreenRect camera)))[k]? = some x)
    (ho : (exec (machine K) s cs).2[k]? = some o) :
    VSConstants.bound o.state =
      some ⟨x.WMatrix, x.RotMatrix, camera.getViewProjMatrix dx cm pm ScreenRect⟩ := by
  have hown : ∀ (before : State K) (x : SubDraw K) (material : SSDrawnMaterial) (o : DrawCall K),
      (∃ material, Ready (assets.seenBy dx cm pm ScreenRect camera) x material ∧
        BindsVS material) →
      Drawn dx (assets.seenBy dx cm pm ScreenRect camera) before x material o →
      VSConstants.bound o.state =
        some ⟨x.WMatrix, x.RotMatrix, camera.getViewProjMatrix dx cm pm ScreenRect⟩ := by
    rintro before x material o ⟨m, hm, hbinds⟩ hdrawn
    obtain rfl : m = material := Option.some_inj.mp (hm.ofMaterial.symm.trans hdrawn.ofMaterial)
    exact (hdrawn.seesOwn hm).constants hdx hbinds
  exact ((exec_subDraws hown h hready s).2 k x o hx ho).2

/-- What a draw makes of a vertex of its buffer. -/
def drawnVertex (o : DrawCall K) (vertex : SSDefaultVertex K) : Option (PS_INPUT K) :=
  (VSConstants.bound o.state).map fun cb => VS cb (.ofDefaultVertex vertex)

/-- The point of a vertex in the world. -/
def worldPoint (WMatrix : XMMATRIX K) (vertex : SSDefaultVertex K) : Fin 3 → K :=
  float3 ((Fin.snoc (float3 vertex.Pos.SimdVec) 1 : XMVECTOR K) ᵥ* WMatrix)

/-- A vertex of a draw of a scene. -/
theorem drawnVertex_eq (hdx : dx.Lawful) (hexact : dx.Computes) {n : Nat}
    {paths : List (List (FbxNode K))} {cs : List (Command K)}
    (h : emitAll (drawMesh dx (assets.seenBy dx cm pm ScreenRect camera)) (pathItems dx n paths) =
      some cs)
    (hready : ∀ x ∈ (pathItems dx n paths).flatMap
      (subDraws (assets.seenBy dx cm pm ScreenRect camera)),
      ∃ material, Ready (assets.seenBy dx cm pm ScreenRect camera) x material ∧ BindsVS material)
    (s : State K) {k : Nat} {x : SubDraw K} {o : DrawCall K}
    (hx : ((pathItems dx n paths).flatMap
      (subDraws (assets.seenBy dx cm pm ScreenRect camera)))[k]? = some x)
    (ho : (exec (machine K) s cs).2[k]? = some o) (vertex : SSDefaultVertex K) :
    ∃ output v, drawnVertex o vertex = some output ∧
      output.WorldPos = worldPoint x.WMatrix vertex ∧ worldPoint x.WMatrix vertex = float3 v ∧
      v 3 = 1 ∧ output.Pos = v ᵥ* camera.getViewProjMatrix dx cm pm ScreenRect := by
  have hconstants := draws_constants hdx h hready s hx ho
  refine ⟨_, (VS_INPUT.ofDefaultVertex vertex).Pos ᵥ* x.WMatrix, by rw [drawnVertex, hconstants]; rfl,
    rfl, rfl, ?_, rfl⟩
  have haffine := subDraws_isAffine hexact (List.mem_of_getElem? hx)
  rw [VS_INPUT.ofDefaultVertex_Pos]
  exact (haffine.vecMul _).trans (Fin.snoc_last _ _)

end Draws

section Walk

/-- Sine and cosine from the tangent of half the angle, which is a continued fraction cut off. -/
def sinCos (x : ℚ) : ℚ × ℚ :=
  let y := x / (2 : Nat)
  let t := y / (1 - y ^ 2 / (3 : Nat))
  ((2 : Nat) * t / (1 + t ^ 2), (1 - t ^ 2) / (1 + t ^ 2))

/-- The matrix by its formula. -/
def projectionOf {K : Type} [Field K] (sinCos : K → K × K) : ProjectionMath K where
  XMScalarSinCos := sinCos
  XMMatrixPerspectiveFovLH FovAngleY AspectRatio NearZ FarZ :=
    let half := sinCos (FovAngleY / (2 : Nat))
    Perspective.perspective (half.2 / half.1 / AspectRatio) (half.2 / half.1) NearZ FarZ

def projectionMath : ProjectionMath ℚ := projectionOf sinCos

theorem projectionMath_lawful : projectionMath.Lawful where
  sinCos_pos x hpos hmax := by
    have hlow : 0 < x / (2 : Nat) := by positivity
    have hhigh : x / (2 : Nat) ≤ 78 / 100 := by
      unfold CAM_FOV_MAX XM_PI at hmax
      norm_num at hmax ⊢
      linarith
    have hden : 0 < 1 - (x / (2 : Nat)) ^ 2 / (3 : Nat) := by
      norm_num at hlow hhigh ⊢
      nlinarith
    have htangent : x / (2 : Nat) / (1 - (x / (2 : Nat)) ^ 2 / (3 : Nat)) < 1 := by
      rw [div_lt_one hden]
      norm_num at hlow hhigh ⊢
      nlinarith
    have hpositive := div_pos hlow hden
    constructor
    · exact div_pos (mul_pos (Nat.cast_pos.mpr two_pos) hpositive) (by positivity)
    · refine div_pos ?_ (by positivity)
      nlinarith
  perspectiveFovLH _ _ _ _ := rfl

/-- A window of 1280 by 720. -/
def walkScreen : RECT := ⟨0, 0, 1280, 720⟩

/-- The camera after two frames of a walk. -/
def walkCamera : SSCamera ℚ :=
  ([walkFrame, walkFrame].foldl (SSRenderer.cameraFrame (exact ℚ) cameraMath)
    (SSRenderer.beginFrame cameraMath, .new)).1

/-- The assets of the room in that frame. -/
def walkAssets (s : ImportState ℚ) : DrawnAssets ℚ :=
  (importedAssets s).seenBy (exact ℚ) cameraMath projectionMath walkScreen walkCamera

theorem walkAssets_drawn : ∃ s cs,
    importCurrentSceneToModelAsset sharedContext [pbrShader, pbrSkinnedShader] [] twoMaterials
        roomScene = some s ∧
      emitAll (drawMesh (exact ℚ) (walkAssets s)) (pathItems (exact ℚ) 0 roomPaths) = some cs := by
  have hsome : ((importCurrentSceneToModelAsset sharedContext [pbrShader, pbrSkinnedShader] []
      twoMaterials roomScene).bind fun s =>
        emitAll (drawMesh (exact ℚ) (walkAssets s)) (pathItems (exact ℚ) 0 roomPaths)).isSome =
          true := by
    decide +kernel
  obtain ⟨cs, hcs⟩ := Option.isSome_iff_exists.mp hsome
  obtain ⟨s, hs, hdraw⟩ := Option.bind_eq_some_iff.mp hcs
  exact ⟨s, cs, hs, hdraw⟩

theorem walkAssets_ready {s : ImportState ℚ} {cs : List (Command ℚ)}
    (h : emitAll (drawMesh (exact ℚ) (walkAssets s)) (pathItems (exact ℚ) 0 roomPaths) = some cs) :
    ∀ x ∈ (pathItems (exact ℚ) 0 roomPaths).flatMap (subDraws (walkAssets s)),
      ∃ material, Ready (walkAssets s) x material ∧ BindsVS material := by
  intro x hx
  obtain ⟨material, hmaterial⟩ :=
    subDrawBlock_material ((emitAll_some (emitAll_drawMesh h)).1 x hx)
  have hready : Ready (importedAssets s) x (plainMaterial pbrShader) :=
    plainMaterial_ready hmaterial
  exact ⟨plainMaterial pbrShader, ⟨hready.ofMaterial, hready.buffers, hready.shader,
    hready.geometry, hready.ownSlots, hready.skinned, hready.paramBuffer, hready.jointBuffer⟩,
    by decide, by decide⟩

end Walk

section Frames

variable {K : Type} [Field K] [LinearOrder K] [IsStrictOrderedRing K] [FloorRing K]
  {dx : DirectXMath K} {cm : CameraMath K} {pm : ProjectionMath K} {ScreenRect : RECT}
  {assets : DrawnAssets K} {σ : Type} {context : ID3D11DeviceContext σ K}

/-- In every frame, and for every draw of a scene whose materials are ready: a vertex passes the
clip test exactly if the camera, after all the moves and zooms so far, sees its point of the
world. -/
theorem draws_clip_to_view (hdx : dx.Lawful) (hexact : dx.Computes) (hcm : cm.Lawful)
    (hpm : pm.Lawful) (hcontext : context.Documented) (frames : List (FrameInput K))
    (hwidth : 0 < ScreenRect.width) (hheight : 0 < ScreenRect.height) (n : Nat)
    (paths : List (List (FbxNode K))) (cs : List (Command K)) :
    let camera := (frames.foldl (SSRenderer.cameraFrame dx cm)
      (SSRenderer.beginFrame cm, .new)).1
    let drawn := assets.seenBy dx cm pm ScreenRect camera
    let scene := (pathItems dx n paths).flatMap (subDraws drawn)
    emitAll (drawMesh dx drawn) (pathItems dx n paths) = some cs →
    (∀ x ∈ scene, ∃ material, Ready drawn x material ∧ BindsVS material) →
    ∀ (s : σ) (k : Nat) (x : SubDraw K) (o : DrawCall K), scene[k]? = some x →
      (context.draws s cs)[k]? = some o → ∀ vertex : SSDefaultVertex K,
        ∃ output, drawnVertex o vertex = some output ∧
          output.WorldPos = worldPoint x.WMatrix vertex ∧
          (Perspective.Inside output.Pos ↔ camera.Sees dx pm ScreenRect output.WorldPos) := by
  intro camera drawn scene h hready s k x o hx ho vertex
  have hinv : SSRenderer.CameraInv (frames.foldl
      (SSRenderer.cameraFrame dx cm) (SSRenderer.beginFrame cm, .new)) :=
    SSRenderer.cameraInv_run hcm frames (SSRenderer.cameraInv_beginFrame hcm)
  rw [hcontext.draws_eq] at ho
  obtain ⟨output, v, houtput, hworld, hpoint, hone, hclip⟩ :=
    drawnVertex_eq hdx hexact h hready (context.state s) hx ho vertex
  refine ⟨output, houtput, hworld, ?_⟩
  rw [hclip, hworld, hpoint]
  exact SSCamera.inside_iff_sees hdx hexact hcm hpm hinv hwidth hheight hone

theorem draws_clip_to_view_walk : ∃ s cs,
    importCurrentSceneToModelAsset sharedContext [pbrShader, pbrSkinnedShader] [] twoMaterials
        roomScene = some s ∧
      ∀ (state : State ℚ) (k : Nat) (x : SubDraw ℚ) (o : DrawCall ℚ),
        ((pathItems (exact ℚ) 0 roomPaths).flatMap (subDraws (walkAssets s)))[k]? = some x →
        ((plain ℚ).draws state cs)[k]? = some o → ∀ vertex : SSDefaultVertex ℚ,
          ∃ output, drawnVertex o vertex = some output ∧
            output.WorldPos = worldPoint x.WMatrix vertex ∧
            (Perspective.Inside output.Pos ↔
              walkCamera.Sees (exact ℚ) projectionMath walkScreen output.WorldPos) := by
  obtain ⟨s, cs, hs, hcs⟩ := walkAssets_drawn
  exact ⟨s, cs, hs, draws_clip_to_view exact_lawful exact_computes cameraMath_lawful
    projectionMath_lawful (plain_documented ℚ) [walkFrame, walkFrame] (by decide) (by decide) 0
    roomPaths cs hcs (walkAssets_ready hcs)⟩

end Frames

end FBXRenderer
