import FBXRenderer.Importer.Mesh
import FBXRenderer.Lib.PartialRun

/-!
# FBXRenderer.Importer.IndexData

The index buffer part of `GenerateGeometryFromFbxMesh` and `GenerateSkinnedGeometryFromFbxMesh`
(`SSFBXImporter.cpp`), which have the same text in both functions: a counting pass over the
polygons, prefix sums over the sub-geometries, and an emission pass that writes a fan of triangles
for every polygon. Each of the two passes has a branch for a material layer mapped `eByPolygon`
and one for everything else.

`vtx i j` is the vertex index that `PolygonVertexToCtrlPointMap` and `ControlPointToSSIdxMap`
hold for corner `j` of polygon `i`. The stores to `_indexData` are kept as a list of writes,
address and value, in program order. `none` is a failed assertion or an access outside the
16-entry arrays.
-/

namespace FBXRenderer

/-- The index fields of `SSGeometryAsset`. -/
structure IndexLayout where
  subGeometryNum : Nat
  indexDataNum : Nat → Nat
  indexDataStartIndex : Nat → Nat
  wholeIndexDataNum : Nat
  writes : List (Nat × Nat)
  subMaterialIdxDataCounter : Nat → Nat

/-- Counting pass, `eByPolygon` branch. -/
def countByPolygon (mesh : FbxMesh) (polygonCount : Nat) : Option (Nat → Nat) :=
  (List.range polygonCount).foldlM (fun num i =>
    let matIdx := toUint8 (mesh.materialIndex i)
    if matIdx < SUBGEOM_COUNT_MAX then
      some (Function.update num matIdx
        (toUint32 (num matIdx + ((mesh.polygonSize i : Int) - 2) * 3)))
    else none) fun _ => 0

/-- Counting pass, other branch: the triangles are summed up and then multiplied by 3. -/
def countAllSame (mesh : FbxMesh) (polygonCount : Nat) : Nat → Nat :=
  let triangles := (List.range polygonCount).foldl (fun sum i =>
    toUint32 (sum + ((mesh.polygonSize i : Int) - 2))) 0
  Function.update (fun _ => 0) 0 (toUint32 (triangles * 3 : Nat))

/-- `_indexDataStartIndex` and `idxAcc` after the prefix sum loop. -/
def startIndices (num : Nat → Nat) (subGeometryNum : Nat) : (Nat → Nat) × Nat :=
  (List.range subGeometryNum).foldl (fun s i =>
    (Function.update s.1 i s.2, toUint32 (s.2 + num i : Nat))) (fun _ => 0, 0)

structure EmitState where
  writes : List (Nat × Nat)
  counter : Nat → Nat

/-- Three stores behind the cursor of `matIdx`, which then advances by 3. -/
def emitTriangle (idxDataStart matIdx : Nat) (tri : Nat × Nat × Nat) (s : EmitState) : EmitState :=
  let base := idxDataStart + s.counter matIdx
  { writes := s.writes ++ [(toUint32 base, tri.1), (toUint32 (base + 1 : Nat), tri.2.1),
      (toUint32 (base + 2 : Nat), tri.2.2)]
    counter := Function.update s.counter matIdx (toUint32 (s.counter matIdx + 3 : Nat)) }

/-- Last value of `j` plus one in `for (uint32 j = 1; j < PolygonVertexCount - 1; j++)`. -/
def fanBound (polygonVertexCount : Nat) : Nat := toUint32 ((polygonVertexCount : Int) - 1)

def emitFan (idxDataStart matIdx polygonVertexCount : Nat) (tri : Nat → Nat × Nat × Nat)
    (s : EmitState) : EmitState :=
  (List.range' 1 (fanBound polygonVertexCount - 1)).foldl
    (fun s j => emitTriangle idxDataStart matIdx (tri j) s) s

/-- The triangle of fan step `j` in the `eByPolygon` branch. -/
def byPolygonTriangle (vtx : Nat → Nat → Nat) (i j : Nat) : Nat × Nat × Nat :=
  (vtx i 0, vtx i j, vtx i (j + 1))

/-- The triangle of fan step `j` in the other branch. -/
def allSameTriangle (vtx : Nat → Nat → Nat) (i j : Nat) : Nat × Nat × Nat :=
  (vtx i (j + 1), vtx i j, vtx i 0)

/-- Emission pass, `eByPolygon` branch. -/
def emitByPolygon (mesh : FbxMesh) (vtx : Nat → Nat → Nat) (indexDataStartIndex : Nat → Nat)
    (polygonCount : Nat) : Option EmitState :=
  (List.range polygonCount).foldlM (fun s i =>
    let matIdx := toUint32 (mesh.materialIndex i)
    if matIdx < SUBGEOM_COUNT_MAX then
      some (emitFan (indexDataStartIndex matIdx) matIdx (mesh.polygonSize i)
        (byPolygonTriangle vtx i) s)
    else none) ⟨[], fun _ => 0⟩

/-- Emission pass, other branch: the cursor of material 0 is the address. -/
def emitAllSame (mesh : FbxMesh) (vtx : Nat → Nat → Nat) (polygonCount : Nat) : EmitState :=
  (List.range polygonCount).foldl (fun s i =>
    emitFan 0 0 (mesh.polygonSize i) (allSameTriangle vtx i) s) ⟨[], fun _ => 0⟩

def countIndexData (mesh : FbxMesh) : Option (Nat → Nat) :=
  if mesh.mappedByPolygon then countByPolygon mesh mesh.polygonCount
  else some (countAllSame mesh mesh.polygonCount)

def emitIndexData (mesh : FbxMesh) (vtx : Nat → Nat → Nat) (indexDataStartIndex : Nat → Nat) :
    Option EmitState :=
  if mesh.mappedByPolygon then emitByPolygon mesh vtx indexDataStartIndex mesh.polygonCount
  else some (emitAllSame mesh vtx mesh.polygonCount)

/-- The index part of the import, from `assert(_subGeometryNum < SUBGEOM_COUNT_MAX)` to the
closing assertion on the counters. -/
def buildIndexData (mesh : FbxMesh) (vtx : Nat → Nat → Nat) : Option IndexLayout :=
  if mesh.subGeometryNum < SUBGEOM_COUNT_MAX then
    match countIndexData mesh with
    | none => none
    | some num =>
      let st := startIndices num mesh.subGeometryNum
      match emitIndexData mesh vtx st.1 with
      | none => none
      | some s =>
        if ∀ i, i < mesh.subGeometryNum → num i = s.counter i then
          some { subGeometryNum := mesh.subGeometryNum
                 indexDataNum := num
                 indexDataStartIndex := st.1
                 wholeIndexDataNum := st.2
                 writes := s.writes
                 subMaterialIdxDataCounter := s.counter }
        else none
  else none

section Steps

variable {mesh : FbxMesh} {n k : Nat}

theorem countByPolygon_succ {num : Nat → Nat} (hnum : countByPolygon mesh n = some num)
    (hidx : toUint8 (mesh.materialIndex n) = k) (hk : k < SUBGEOM_COUNT_MAX) :
    countByPolygon mesh (n + 1) = some (Function.update num k
      (toUint32 (num k + ((mesh.polygonSize n : Int) - 2) * 3))) := by
  unfold countByPolygon at hnum ⊢
  rw [PartialRun.foldlM_range_succ, hnum, Option.bind_some, hidx, if_pos hk]

theorem emitByPolygon_succ {vtx : Nat → Nat → Nat} {st : Nat → Nat} {s : EmitState}
    (hs : emitByPolygon mesh vtx st n = some s) (hidx : toUint32 (mesh.materialIndex n) = k)
    (hk : k < SUBGEOM_COUNT_MAX) : emitByPolygon mesh vtx st (n + 1) =
      some (emitFan (st k) k (mesh.polygonSize n) (byPolygonTriangle vtx n) s) := by
  unfold emitByPolygon at hs ⊢
  rw [PartialRun.foldlM_range_succ, hs, Option.bind_some, hidx, if_pos hk]

theorem emitAllSame_succ (mesh : FbxMesh) (vtx : Nat → Nat → Nat) (n : Nat) :
    emitAllSame mesh vtx (n + 1) =
      emitFan 0 0 (mesh.polygonSize n) (allSameTriangle vtx n) (emitAllSame mesh vtx n) := by
  unfold emitAllSame
  rw [List.range_succ, List.foldl_append]
  rfl

/-- The number of fan steps, where the subtractions of the source do not wrap. -/
theorem fanBound_sub_one {sz : Nat} (h3 : 3 ≤ sz) (hsz : sz < 2 ^ 31) :
    fanBound sz - 1 = sz - 2 := by
  rw [fanBound, toUint32_eq (by omega) (by omega)]
  omega

end Steps

end FBXRenderer
