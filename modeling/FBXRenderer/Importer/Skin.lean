import FBXRenderer.Importer.Extract

/-!
# FBXRenderer.Importer.Skin

The skinning part of `GenerateSkinnedGeometryFromFbxMesh` (`SSFBXImporter.cpp`): the cluster loop,
the check on the bone counts, and the vertex shader's loop over the bone slots
(`SSDefaultPbr.fxh`).

Every cluster entry is added to all vertices of its control point, in slot `boneCntArr[cp]`. An
entry at or below the threshold claims no bone and leaves the count alone. A store past the fourth
slot is kept in the list of writes and changes no vertex of the model.
-/

namespace FBXRenderer

open SS

/-- A cluster: the name of its link and its control points with their weights. -/
structure FbxCluster (K : Type) where
  linkName : String
  entries : List (Nat × K)

structure FbxSkin (K : Type) where
  clusters : List (FbxCluster K)

/-- The index of the bone with the given name, or -1. -/
def findBoneIdxWithNameFromSkeleton (bones : List String) (name : String) : Int :=
  match bones.findIdx? (· == name) with
  | some i => i
  | none => -1

/-- A bone of that name is found. -/
theorem findBoneIdx_of_mem {bones : List String} {name : String} (h : name ∈ bones) :
    ∃ i : Nat, i < bones.length ∧ findBoneIdxWithNameFromSkeleton bones name = i := by
  have hsome : (bones.findIdx? (· == name)).isSome := by
    rw [List.findIdx?_isSome]
    exact List.any_eq_true.mpr ⟨name, h, beq_self_eq_true _⟩
  obtain ⟨i, hi⟩ := Option.isSome_iff_exists.mp hsome
  refine ⟨i, (List.findIdx?_eq_some_iff_getElem.mp hi).1, ?_⟩
  unfold findBoneIdxWithNameFromSkeleton
  rw [hi]

/-- The joint index a cluster stores: the bone's index as a `uint32`. -/
def FbxCluster.jointIdx {K : Type} (bones : List String) (curCluster : FbxCluster K) : Nat :=
  toUint32 (findBoneIdxWithNameFromSkeleton bones curCluster.linkName)

structure SkinState (K : Type) where
  ssVertexBuffer : PooledList (SSSkinnedVertex K)
  boneCntArr : Nat → Nat
  /-- Vertex and slot of every store to `BoneIdx` and `Weight`. -/
  writes : List (Nat × Nat)

/-- A store to slot `boneCnt` of one of the two arrays. -/
def writeSlot {α : Type} (slots : Fin VERTEX_SKINNING_BONE_COUNT_MAX → α) (boneCnt : Nat)
    (f : α → α) : Fin VERTEX_SKINNING_BONE_COUNT_MAX → α :=
  if h : boneCnt < VERTEX_SKINNING_BONE_COUNT_MAX then
    Function.update slots ⟨boneCnt, h⟩ (f (slots ⟨boneCnt, h⟩))
  else slots

/-- The loop over the vertices of a control point. -/
def updateVertices {K : Type} (boneCnt : Nat) (f : SSSkinnedVertex K → SSSkinnedVertex K) :
    List Nat → SkinState K → Option (SkinState K)
  | [], s => some s
  | ssIdx :: rest, s => do
    let vertex ← s.ssVertexBuffer.get ssIdx
    let buffer ← s.ssVertexBuffer.set ssIdx (f vertex)
    updateVertices boneCnt f rest
      { s with ssVertexBuffer := buffer, writes := s.writes ++ [(ssIdx, boneCnt)] }

section Clusters

variable {K : Type} [Field K]

/-- `0.03` as a `float`. -/
def SKIN_WEIGHT_THRESHOLD (K : Type) [Field K] : K := floatOf K 16106127 29

def addWeight (boneCnt : Nat) (ctrlPointWeight : K) (v : SSSkinnedVertex K) : SSSkinnedVertex K :=
  { v with Weight := writeSlot v.Weight boneCnt (· + ctrlPointWeight) }

def addBone (boneCnt jointIdx : Nat) (ctrlPointWeight : K) (v : SSSkinnedVertex K) :
    SSSkinnedVertex K :=
  { v with
    BoneIdx := writeSlot v.BoneIdx boneCnt fun _ => jointIdx
    Weight := writeSlot v.Weight boneCnt (· + ctrlPointWeight) }

@[simp] theorem addWeight_BoneIdx (b : Nat) (w : K) (v : SSSkinnedVertex K) :
    (addWeight b w v).BoneIdx = v.BoneIdx := rfl

@[simp] theorem addWeight_Weight (b : Nat) (w : K) (v : SSSkinnedVertex K) :
    (addWeight b w v).Weight = writeSlot v.Weight b (· + w) := rfl

@[simp] theorem addBone_BoneIdx (b joint : Nat) (w : K) (v : SSSkinnedVertex K) :
    (addBone b joint w v).BoneIdx = writeSlot v.BoneIdx b fun _ => joint := rfl

@[simp] theorem addBone_Weight (b joint : Nat) (w : K) (v : SSSkinnedVertex K) :
    (addBone b joint w v).Weight = writeSlot v.Weight b (· + w) := rfl

variable [LinearOrder K]

/-- The body of the loop over the entries of a cluster. -/
def clusterEntry (controlPointCnt : Nat) (controlPointToSSIdxMap : Nat → PooledList Nat)
    (jointIdx ctrlPointIdx : Nat) (ctrlPointWeight : K) (s : SkinState K) :
    Option (SkinState K) :=
  if ctrlPointIdx < controlPointCnt then
    let boneCnt := s.boneCntArr ctrlPointIdx
    let vertices := (controlPointToSSIdxMap ctrlPointIdx).data
    if ctrlPointWeight ≤ SKIN_WEIGHT_THRESHOLD K then
      updateVertices boneCnt (addWeight boneCnt ctrlPointWeight) vertices s
    else
      (updateVertices boneCnt (addBone boneCnt jointIdx ctrlPointWeight) vertices s).map fun s =>
        { s with
          boneCntArr := Function.update s.boneCntArr ctrlPointIdx (toUint8 (boneCnt + 1 : Nat)) }
  else none

def clusterEntries (controlPointCnt : Nat) (controlPointToSSIdxMap : Nat → PooledList Nat)
    (jointIdx : Nat) (entries : List (Nat × K)) (s : SkinState K) : Option (SkinState K) :=
  entries.foldlM (fun s e =>
    clusterEntry controlPointCnt controlPointToSSIdxMap jointIdx e.1 e.2 s) s

/-- The cluster loop, started on the vertices of the de-duplication loop. -/
def clusterLoop (controlPointCnt : Nat) (bones : List String) (skin : FbxSkin K)
    (d : DedupState (SSSkinnedVertex K)) : Option (SkinState K) :=
  skin.clusters.foldlM (fun s curCluster =>
    clusterEntries controlPointCnt d.controlPointToSSIdxMap (curCluster.jointIdx bones)
      curCluster.entries s)
    { ssVertexBuffer := d.ssVertexBuffer, boneCntArr := fun _ => 0, writes := [] }

end Clusters

/-- The assertion after the loop. -/
def BoneCntAccepted {K : Type} (controlPointCnt : Nat) (s : SkinState K) : Prop :=
  ∀ i, i < controlPointCnt → s.boneCntArr i ≤ 4

/-- Sum of the weights the vertex shader uses: its loop breaks at the first invalid bone. -/
def shaderWeightSum {K : Type} [Field K] (v : SSSkinnedVertex K) : K :=
  (((List.finRange VERTEX_SKINNING_BONE_COUNT_MAX).takeWhile
    fun i => v.BoneIdx i ≠ SS_UINT32_MAX).map v.Weight).sum

end FBXRenderer
