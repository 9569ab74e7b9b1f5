import FBXRenderer.NativeKeywords

/-!
# FBXRenderer.Importer.Mesh

What the importer reads of an `FbxMesh` (`fbxmesh.h`): its polygons as lists of control point
indices, the material layer and the material count of its node.
-/

namespace FBXRenderer

inductive EMappingMode where
  | eNone
  | eByControlPoint
  | eByPolygonVertex
  | eByPolygon
  | eByEdge
  | eAllSame
deriving DecidableEq

inductive EReferenceMode where
  | eDirect
  | eIndex
  | eIndexToDirect
deriving DecidableEq

def SUBGEOM_COUNT_MAX : Nat := 16

/-- The material layer: its mapping mode and `GetIndexArray()`. -/
structure FbxGeometryElementMaterial where
  mappingMode : EMappingMode
  indexArray : Nat → Int

/-- The bounds are those of the SDK: counts are `int`s and corners index the control points. -/
structure FbxMesh where
  controlPointsCount : Nat
  polygons : List (List Nat)
  elementMaterial : Option FbxGeometryElementMaterial
  nodeMaterialCount : Nat
  corner_lt : ∀ poly ∈ polygons, ∀ c ∈ poly, c < controlPointsCount
  polygonVertexCount_lt : (polygons.map List.length).sum < 2 ^ 31
  controlPointsCount_lt : controlPointsCount < 2 ^ 31

namespace FbxMesh

def polygonCount (m : FbxMesh) : Nat := m.polygons.length

def polygon (m : FbxMesh) (i : Nat) : List Nat := m.polygons.getD i []

def polygonSize (m : FbxMesh) (i : Nat) : Nat := (m.polygon i).length

/-- `GetElementMaterial() != nullptr` and its mapping mode is `eByPolygon`. -/
def mappedByPolygon (m : FbxMesh) : Bool :=
  match m.elementMaterial with
  | some e => e.mappingMode = .eByPolygon
  | none => false

/-- `materialIndices->GetAt(i)`; only read when the layer is mapped `eByPolygon`. -/
def materialIndex (m : FbxMesh) (i : Nat) : Int :=
  match m.elementMaterial with
  | some e => e.indexArray i
  | none => 0

/-- `_subGeometryNum`, a `uint8`: the node's material count, or 1 when `GetMaterial(0)` is null. -/
def subGeometryNum (m : FbxMesh) : Nat :=
  if m.nodeMaterialCount ≠ 0 then toUint8 m.nodeMaterialCount else 1

/-- The counts of a mesh of one triangle. -/
theorem three_lt : 3 < 2 ^ 31 := by decide

theorem polygon_mem (m : FbxMesh) {i : Nat} (h : i < m.polygonCount) :
    m.polygon i ∈ m.polygons := by
  rw [polygon, List.getD_eq_getElem _ _ h]
  exact List.getElem_mem h

theorem polygonSize_lt (m : FbxMesh) (i : Nat) : m.polygonSize i < 2 ^ 31 := by
  rcases Nat.lt_or_ge i m.polygonCount with h | h
  · have hmem : m.polygonSize i ∈ m.polygons.map List.length :=
      List.mem_map.mpr ⟨_, m.polygon_mem h, rfl⟩
    have := List.le_sum_of_mem hmem
    have := m.polygonVertexCount_lt
    omega
  · rw [polygonSize, polygon, List.getD_eq_default _ _ h]
    decide

end FbxMesh

end FBXRenderer
