import FBXRenderer.Engine.Transform
import FBXRenderer.Importer.Skin

/-!
# FBXRenderer.Importer.FbxNode

The scene tree as the importer reads it, and the three functions of `SSFBXImporter.cpp` that only
read it: `FindSkeletonRootRecursion`, `FindFbxNodeWholeChildCnt` and `ExtractTransformFromNode`.
-/

namespace FBXRenderer

/-- `FBXSDK_TIME_INFINITE`, or a frame number. -/
inductive FbxTime where
  | infinite
  | frame (frameIdx : Int)
deriving DecidableEq

/-- `GetT`, `GetS` and `GetQ` of a transformation. -/
structure FbxAMatrix (K : Type) where
  T : Fin 3 → K
  S : Fin 3 → K
  Q : Quaternion K

structure FbxSurfaceMaterial where
  nameOnly : String
  uniqueID : Nat
deriving DecidableEq

/-- `nodeName` and `nodeMaterialCount` are those of `GetNode()`, the first node with this mesh. -/
structure FbxSceneMesh (K : Type) extends FbxGeometry K where
  nodeName : String
  deformers : List (FbxSkin K)

inductive FbxNodeAttribute (K : Type) where
  | eMesh (mesh : FbxSceneMesh K)
  | eSkeleton (limbLength : K)
  | other

/-- `fbxMat` is the local transformation at a time, with the geometric one applied. -/
structure FbxNode (K : Type) where
  name : String
  nodeAttribute : Option (FbxNodeAttribute K)
  materials : List FbxSurfaceMaterial
  fbxMat : FbxTime → FbxAMatrix K
  childs : List (FbxNode K)

/-- `GetNodeAttribute() != nullptr` and its type is `eSkeleton`. -/
def FbxNode.isSkeleton {K : Type} (node : FbxNode K) : Bool :=
  match node.nodeAttribute with
  | some (.eSkeleton _) => true
  | _ => false

mutual

def findSkeletonRootRecursion {K : Type} : FbxNode K → Option (FbxNode K)
  | ⟨name, nodeAttribute, materials, fbxMat, childs⟩ =>
    let searchNode : FbxNode K := ⟨name, nodeAttribute, materials, fbxMat, childs⟩
    if searchNode.isSkeleton then some searchNode else findSkeletonRootChilds childs

/-- The loop over the children. -/
def findSkeletonRootChilds {K : Type} : List (FbxNode K) → Option (FbxNode K)
  | [] => none
  | child :: rest =>
    match findSkeletonRootRecursion child with
    | some childItem =>
      if childItem.isSkeleton then some childItem else findSkeletonRootChilds rest
    | none => findSkeletonRootChilds rest

end

mutual

def findFbxNodeWholeChildCnt {K : Type} : FbxNode K → Nat
  | ⟨_, _, _, _, childs⟩ => wholeChildCntChilds 1 childs

/-- The loop over the children, with the sum so far. -/
def wholeChildCntChilds {K : Type} : Nat → List (FbxNode K) → Nat
  | sum, [] => sum
  | sum, child :: rest =>
    wholeChildCntChilds (toUint32 (sum + findFbxNodeWholeChildCnt child : Nat)) rest

end

section Transform

variable {K : Type} [Field K]

def extractTransformFromNode (node : FbxNode K) (fbxTime : FbxTime) : Transform K :=
  let fbxMat := node.fbxMat fbxTime
  { Position :=
      ⟨-fbxMat.T 0 * CENTIMETER K, fbxMat.T 1 * CENTIMETER K, fbxMat.T 2 * CENTIMETER K, 0⟩
    Scale := ⟨fbxMat.S 0, fbxMat.S 1, fbxMat.S 2, 0⟩
    Rotation := ⟨fbxMat.Q.X, -fbxMat.Q.Y, -fbxMat.Q.Z, fbxMat.Q.W⟩ }

end Transform

end FBXRenderer
