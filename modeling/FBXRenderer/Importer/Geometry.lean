import FBXRenderer.Asset.Skeleton
import FBXRenderer.Importer.FbxNode
import FBXRenderer.Importer.IndexData

/-!
# FBXRenderer.Importer.Geometry

`GenerateGeometryFromFbxMesh` and `GenerateSkinnedGeometryFromFbxMesh` (`SSFBXImporter.cpp`) put
together from their passes. The asset has what the draw loop reads; its vertex data and the tangents
computed into it are left out. `none` is a failed assertion.

* `generateMesh_some`: the mesh type follows from the deformers, the sub-geometry count from the
  mesh.
-/

namespace FBXRenderer

open SS

inductive EMeshType where
  | None
  | Rigid
  | Skinned
deriving DecidableEq

structure SSGeometryAsset extends IndexLayout where
  _assetName : String
  _meshType : EMeshType

/-- What the importer object and the asset managers hold during an import. -/
structure ImportContext (K : Type) where
  _fileName : String
  sdk : FbxVectors K
  /-- `SSSkeletonAssetManager::FindAssetWithName`. -/
  skeletonAsset : String → Option (SSSkeletonAsset K)

section Similar

variable {K : Type} [Field K]

/-- `0.0001` as a `float`, also `UV_DIST_THRESHOlD` and `FLOAT_ZERO_THRESHOLD`. -/
def POS_SQR_THRESHOLD (K : Type) [Field K] : K := floatOf K 13743895 37

/-- `0.001` as a `float`. -/
def DEG_COS_THRESHOLD (K : Type) [Field K] : K := floatOf K 8589935 33

namespace SS

def sqrDistance (lhs rhs : Vector4f K) : K :=
  (rhs.X - lhs.X) ^ 2 + (rhs.Y - lhs.Y) ^ 2 + (rhs.Z - lhs.Z) ^ 2

def sqrDistance2 (lhs rhs : Vector2f K) : K := (rhs.X - lhs.X) ^ 2 + (rhs.Y - lhs.Y) ^ 2

def dot3D (lhs rhs : Vector4f K) : K := lhs.X * rhs.X + lhs.Y * rhs.Y + lhs.Z * rhs.Z

def abs [LinearOrder K] (InValue : K) : K := if InValue < 0 then -InValue else InValue

end SS

variable [LinearOrder K]

/-- The check made for normals and for tangents. -/
def differentDirection (lhs rhs : Vector4f K) : Bool :=
  sqrDistance rhs lhs > POS_SQR_THRESHOLD K && SS.abs (1 - dot3D lhs rhs) > DEG_COS_THRESHOLD K

def areSimilarVertex (lhs rhs : SSDefaultVertex K) : Bool :=
  !(sqrDistance lhs.Pos rhs.Pos > POS_SQR_THRESHOLD K) &&
  !differentDirection lhs.Normal rhs.Normal &&
  !differentDirection lhs.Tangent rhs.Tangent &&
  (List.finRange VERTEX_UV_MAP_COUNT_MAX).all fun i =>
    !(sqrDistance2 (lhs.Uv i) (rhs.Uv i) > POS_SQR_THRESHOLD K)

end Similar

/-- `assert(thisIdxDataNum % 3 == 0)`, made when there is no tangent layer. -/
def tangentsReady {K : Type} (fbxMesh : FbxSceneMesh K) (layout : IndexLayout) : Bool :=
  fbxMesh.elementTangent.isSome ||
    (List.range layout.subGeometryNum).all fun i => layout.indexDataNum i % 3 = 0

/-- The end of both functions. -/
def finishGeometry {K : Type} (ctx : ImportContext K) (fbxMesh : FbxSceneMesh K)
    (meshType : EMeshType) (layout : IndexLayout) : Option SSGeometryAsset :=
  if tangentsReady fbxMesh layout then do
    let assetName ← fixedAssetName (ctx._fileName ++ "_" ++ fbxMesh.nodeName ++ ".geom")
    some { layout with
           _assetName := assetName
           _meshType := meshType }
  else none

/-- `assert(deformerCnt == 1)` and the skin. -/
def theSkin {K : Type} (deformers : List (FbxSkin K)) : Option (FbxSkin K) :=
  match deformers with
  | [fbxSkin] => some fbxSkin
  | _ => none

/-- The mesh type of the geometry made from a mesh. -/
def FbxSceneMesh.meshType {K : Type} (fbxMesh : FbxSceneMesh K) : EMeshType :=
  if fbxMesh.deformers.length = 0 then .Rigid else .Skinned

theorem buildIndexData_subGeometryNum {mesh : FbxMesh} {vtx : Nat → Nat → Nat}
    {layout : IndexLayout} (h : buildIndexData mesh vtx = some layout) :
    layout.subGeometryNum = mesh.subGeometryNum := by
  unfold buildIndexData at h
  split at h
  · split at h
    · cases h
    · dsimp only at h
      split at h
      · cases h
      · split at h
        · cases h
          rfl
        · cases h
  · cases h

theorem finishGeometry_some {K : Type} {ctx : ImportContext K} {fbxMesh : FbxSceneMesh K}
    {meshType : EMeshType} {layout : IndexLayout}
    {geometry : SSGeometryAsset}
    (h : finishGeometry ctx fbxMesh meshType layout = some geometry) :
    geometry._meshType = meshType ∧ geometry.subGeometryNum = layout.subGeometryNum := by
  unfold finishGeometry at h
  split at h
  · obtain ⟨assetName, _, heq⟩ := Option.bind_eq_some_iff.mp h
    cases heq
    exact ⟨rfl, rfl⟩
  · cases h

section Generate

variable {K : Type} [Field K] [LinearOrder K] (ctx : ImportContext K) (fbxMesh : FbxSceneMesh K)

def generateGeometryFromFbxMesh : Option SSGeometryAsset := do
  let d ← buildVertices areSimilarVertex fbxMesh.toFbxMesh fun i j =>
    extractVertex fbxMesh.toFbxGeometry i j ctx.sdk
  let layout ← buildIndexData fbxMesh.toFbxMesh d.vtx
  finishGeometry ctx fbxMesh .Rigid layout

def generateSkinnedGeometryFromFbxMesh : Option SSGeometryAsset := do
  let d ← buildVertices
    (fun lhs rhs => areSimilarVertex lhs.toSSDefaultVertex rhs.toSSDefaultVertex)
    fbxMesh.toFbxMesh fun i j =>
      extractSkinnedVertexWithoutSkinData fbxMesh.toFbxGeometry i j ctx.sdk
  let fbxSkin ← theSkin fbxMesh.deformers
  let skeleton ← ctx.skeletonAsset (ctx._fileName ++ ".skl")
  let s ← clusterLoop fbxMesh.controlPointsCount
    (skeleton._boneList.data.map (·._boneName)) fbxSkin d
  if (List.range fbxMesh.controlPointsCount).all fun i => s.boneCntArr i ≤ 4 then
    let layout ← buildIndexData fbxMesh.toFbxMesh d.vtx
    finishGeometry ctx fbxMesh .Skinned layout
  else none

/-- `GetDeformerCount() == 0` decides which of the two is called. -/
def generateMesh : Option SSGeometryAsset :=
  if fbxMesh.deformers.length = 0 then generateGeometryFromFbxMesh ctx fbxMesh
  else generateSkinnedGeometryFromFbxMesh ctx fbxMesh

variable {ctx fbxMesh}

theorem generateMesh_some {geometry : SSGeometryAsset}
    (h : generateMesh ctx fbxMesh = some geometry) :
    geometry._meshType = fbxMesh.meshType ∧
      geometry.subGeometryNum = fbxMesh.toFbxMesh.subGeometryNum := by
  unfold generateMesh at h
  unfold FbxSceneMesh.meshType
  split at h
  · rename_i hdef
    unfold generateGeometryFromFbxMesh at h
    simp only [Option.bind_eq_bind, Option.bind_eq_some_iff] at h
    obtain ⟨d, _, layout, hlayout, hfinish⟩ := h
    obtain ⟨htype, hnum⟩ := finishGeometry_some hfinish
    exact ⟨by rw [htype, if_pos hdef], hnum.trans (buildIndexData_subGeometryNum hlayout)⟩
  · rename_i hdef
    unfold generateSkinnedGeometryFromFbxMesh at h
    simp only [Option.bind_eq_bind, Option.bind_eq_some_iff] at h
    obtain ⟨d, _, fbxSkin, _, skeleton, _, s, _, hcheck⟩ := h
    split at hcheck
    · obtain ⟨layout, hlayout, hfinish⟩ := Option.bind_eq_some_iff.mp hcheck
      obtain ⟨htype, hnum⟩ := finishGeometry_some hfinish
      exact ⟨by rw [htype, if_neg hdef], hnum.trans (buildIndexData_subGeometryNum hlayout)⟩
    · cases hcheck

end Generate

end FBXRenderer
