import FBXRenderer.Container.PooledList
import FBXRenderer.Importer.Mesh

/-!
# FBXRenderer.Importer.Dedup

The vertex loop of `GenerateGeometryFromFbxMesh` and `GenerateSkinnedGeometryFromFbxMesh`
(`SSFBXImporter.cpp`), which has the same text in both functions up to the vertex type: every
corner of every polygon is extracted, compared with the vertices already made from its control
point, and appended to the vertex buffer when none of them is similar.

The vertex type `V`, the extraction and the similarity are parameters. The two outer lists are
functions of a control point and of a polygon index, which stay below their sizes. `none` is a
failed assertion or a read of something that was never stored.
-/

namespace FBXRenderer

open SS

structure DedupState (V : Type) where
  controlPointToSSIdxMap : Nat → PooledList Nat
  ssVertexBuffer : PooledList V
  polygonVertexToCtrlPointMap : Nat → PooledList (Nat × Nat)

namespace FbxMesh

/-- `GetPolygonVertex(i, j)`. -/
def controlPoint (m : FbxMesh) (i j : Nat) : Nat := (m.polygon i).getD j 0

/-- `(i, j)` is a corner: vertex `j` of polygon `i`. -/
def IsCorner (m : FbxMesh) (i j : Nat) : Prop := i < m.polygonCount ∧ j < m.polygonSize i

theorem controlPoint_lt (m : FbxMesh) {i j : Nat} (h : m.IsCorner i j) :
    m.controlPoint i j < m.controlPointsCount := by
  obtain ⟨hi, hj⟩ := h
  unfold controlPoint
  rw [List.getD_eq_getElem _ _ hj]
  exact m.corner_lt _ (m.polygon_mem hi) _ (List.getElem_mem hj)

end FbxMesh

/-- The loop over `k`: the first entry of the list whose vertex is similar. The `-1` of the
source is the inner `none`. -/
def findSimilar {V : Type} (similar : V → V → Bool) (buffer : PooledList V) (extracted : V) :
    List Nat → Nat → Option (Option Nat)
  | [], _ => some none
  | ssIdx :: rest, k =>
    match buffer.get ssIdx with
    | none => none
    | some stored =>
      if similar stored extracted then some (some k)
      else findSimilar similar buffer extracted rest (k + 1)

section Loop

variable {V : Type} (similar : V → V → Bool)

def dedupCorner (controlPointIdx i : Nat) (extracted : V) (s : DedupState V) :
    Option (DedupState V) := do
  let idxMap := s.controlPointToSSIdxMap controlPointIdx
  let found ← findSimilar similar s.ssVertexBuffer extracted idxMap.data 0
  match found with
  | none =>
    let corners ← (s.polygonVertexToCtrlPointMap i).pushBack (controlPointIdx, idxMap.getSize)
    let idxMap' ← idxMap.pushBackCapacity s.ssVertexBuffer.getSize
    let buffer ← s.ssVertexBuffer.pushBackCapacity extracted
    some { controlPointToSSIdxMap :=
             Function.update s.controlPointToSSIdxMap controlPointIdx idxMap'
           ssVertexBuffer := buffer
           polygonVertexToCtrlPointMap :=
             Function.update s.polygonVertexToCtrlPointMap i corners }
  | some k =>
    let corners ← (s.polygonVertexToCtrlPointMap i).pushBack (controlPointIdx, k)
    some { s with
           polygonVertexToCtrlPointMap :=
             Function.update s.polygonVertexToCtrlPointMap i corners }

/-- The loop over the first `n` corners of polygon `i`. -/
def dedupCorners (mesh : FbxMesh) (extract : Nat → Nat → V) (i n : Nat) (s : DedupState V) :
    Option (DedupState V) :=
  (List.range n).foldlM (fun s j => dedupCorner similar (mesh.controlPoint i j) i (extract i j) s) s

def dedupPolygon (mesh : FbxMesh) (extract : Nat → Nat → V) (s : DedupState V) (i : Nat) :
    Option (DedupState V) := do
  let corners ← (s.polygonVertexToCtrlPointMap i).increaseCapacityAndCopy (mesh.polygonSize i)
  dedupCorners similar mesh extract i (mesh.polygonSize i)
    { s with
      polygonVertexToCtrlPointMap := Function.update s.polygonVertexToCtrlPointMap i corners }

end Loop

def PLENTY_VALUE_FOR_EACH_IDX_MAP : Nat := 10

/-- The lists as they are allocated before the loop. -/
def dedupStart (V : Type) (mesh : FbxMesh) : DedupState V where
  controlPointToSSIdxMap := fun _ => PooledList.new PLENTY_VALUE_FOR_EACH_IDX_MAP
  ssVertexBuffer := PooledList.new (toUint32 (mesh.controlPointsCount * 2 : Nat))
  polygonVertexToCtrlPointMap := fun _ => PooledList.new 0

/-- The vertex loop over the first `n` polygons. -/
def dedupPolygons {V : Type} (similar : V → V → Bool) (mesh : FbxMesh) (extract : Nat → Nat → V)
    (n : Nat) : Option (DedupState V) :=
  (List.range n).foldlM (dedupPolygon similar mesh extract) (dedupStart V mesh)

def buildVertices {V : Type} (similar : V → V → Bool) (mesh : FbxMesh) (extract : Nat → Nat → V) :
    Option (DedupState V) :=
  dedupPolygons similar mesh extract mesh.polygonCount

/-- The vertices that the copy of `validVertexBufferSize` bytes covers. -/
def copiedVertices {V : Type} (ssVertexBuffer : PooledList V) (eachVertexDataSize : Nat) : List V :=
  ssVertexBuffer.data.take
    (toUint32 (eachVertexDataSize * ssVertexBuffer.getSize : Nat) / eachVertexDataSize)

namespace DedupState

variable {V : Type}

/-- `_vertexCnt`. -/
def vertexCnt (s : DedupState V) : Nat := s.ssVertexBuffer.getSize

/-- `_vertexData`. -/
def vertexData (s : DedupState V) (eachVertexDataSize : Nat) : List V :=
  copiedVertices s.ssVertexBuffer eachVertexDataSize

/-- `ControlPointToSSIdxMap[p.first][p.second]` with `p = PolygonVertexToCtrlPointMap[i][j]`. -/
def cornerIndex (s : DedupState V) (i j : Nat) : Option Nat := do
  let p ← (s.polygonVertexToCtrlPointMap i).get j
  (s.controlPointToSSIdxMap p.1).get p.2

/-- What the emission loops read for a corner. -/
def vtx (s : DedupState V) (i j : Nat) : Nat := (s.cornerIndex i j).getD 0

end DedupState

end FBXRenderer
