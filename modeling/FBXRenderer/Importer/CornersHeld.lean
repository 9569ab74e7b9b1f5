import FBXRenderer.Importer.CornerIndex

/-!
# FBXRenderer.Importer.CornersHeld

What the finished index buffer holds for the corners of the mesh. `corner_index` is about the
values that the emission pass stores; here they are looked up where they were stored, in the buffer
of `_wholeIndexDataNum` entries, and in the bytes of `_vertexData`.

* `fanCorners`: the corners in the order in which the emission pass stores their indices.
* `CornersHeld`: each of these places is in the buffer, and its entry names a vertex of the corner.
* `corner_index_iff`: this holds exactly where the segments are laid out, the index total fits 32
  bits and so does the size of the vertex data. Past that the last address of 32 bits is written,
  which no buffer has.
-/

namespace FBXRenderer

open SS FirstFit Scatter

/-- The corners of step `j` of the fan of polygon `i`, as the branch of the mesh stores them. -/
def fanStepCorners (mesh : FbxMesh) (i j : Nat) : List (Nat × Nat) :=
  if mesh.mappedByPolygon then [(i, 0), (i, j), (i, j + 1)] else [(i, j + 1), (i, j), (i, 0)]

def fanCorners (mesh : FbxMesh) : List (Nat × Nat) :=
  (List.range mesh.polygonCount).flatMap fun i =>
    (List.range' 1 (mesh.polygonSize i - 2)).flatMap fun j => fanStepCorners mesh i j

section Corners

variable {mesh : FbxMesh}

theorem fanCorners_values (vtx : Nat → Nat → Nat) :
    (fanCorners mesh).map (fun c => vtx c.1 c.2) =
      fanValues mesh (fanTriangle mesh vtx) mesh.polygonCount := by
  have hstep : ∀ i j, (fanStepCorners mesh i j).map (fun c => vtx c.1 c.2) =
      [(fanTriangle mesh vtx i j).1, (fanTriangle mesh vtx i j).2.1,
        (fanTriangle mesh vtx i j).2.2] := by
    intro i j
    unfold fanStepCorners fanTriangle
    split <;> rfl
  simp only [fanCorners, fanValues, fanBlock, List.map_flatMap, hstep]

/-- Every corner of a polygon is in one of its fan triangles. -/
theorem mem_fanCorners (h3 : ∀ i, i < mesh.polygonCount → 3 ≤ mesh.polygonSize i) {i j : Nat}
    (hc : mesh.IsCorner i j) : (i, j) ∈ fanCorners mesh := by
  obtain ⟨hi, hj⟩ := hc
  have hsize := h3 i hi
  have hstep : ∃ t, t ∈ List.range' 1 (mesh.polygonSize i - 2) ∧
      (i, j) ∈ fanStepCorners mesh i t := by
    unfold fanStepCorners
    rcases Nat.eq_zero_or_pos j with rfl | hpos
    · refine ⟨1, ?_, ?_⟩
      · rw [List.mem_range'_1]
        omega
      · split <;> simp
    · rcases Nat.lt_or_ge (j + 1) (mesh.polygonSize i) with hlt | hge
      · refine ⟨j, ?_, ?_⟩
        · rw [List.mem_range'_1]
          omega
        · split <;> simp
      · -- the last corner closes the last triangle
        refine ⟨j - 1, ?_, ?_⟩
        · rw [List.mem_range'_1]
          omega
        · have hlast : j - 1 + 1 = j := by omega
          rw [hlast]
          split <;> simp
  obtain ⟨t, ht, hmem⟩ := hstep
  exact List.mem_flatMap.mpr ⟨i, List.mem_range.mpr hi, List.mem_flatMap.mpr ⟨t, ht, hmem⟩⟩

theorem isCorner_of_mem (h3 : ∀ i, i < mesh.polygonCount → 3 ≤ mesh.polygonSize i) {i j : Nat}
    (h : (i, j) ∈ fanCorners mesh) : mesh.IsCorner i j := by
  obtain ⟨i', hi, hmem⟩ := List.mem_flatMap.mp h
  obtain ⟨t, ht, hmem⟩ := List.mem_flatMap.mp hmem
  have hi := List.mem_range.mp hi
  have hsize := h3 i' hi
  rw [List.mem_range'_1] at ht
  unfold fanStepCorners at hmem
  unfold FbxMesh.IsCorner
  split at hmem
  all_goals
    simp only [List.mem_cons, Prod.mk.injEq, List.not_mem_nil, or_false] at hmem
    obtain ⟨rfl, rfl⟩ | ⟨rfl, rfl⟩ | ⟨rfl, rfl⟩ := hmem
    all_goals omega

end Corners

section Held

variable {V : Type} (similar : V → V → Bool) (mesh : FbxMesh) (extract : Nat → Nat → V)

/-- The index `v` names a vertex of `_vertexData` that was extracted from a corner with the control
point of corner `(i, j)`: from that corner, or from one with a similar vertex. -/
structure NamesHeld (s : DedupState V) (eachVertexDataSize i j v : Nat) : Prop where
  index_lt : v < s.vertexCnt
  names : ∃ i' j', mesh.IsCorner i' j' ∧
    mesh.controlPoint i' j' = mesh.controlPoint i j ∧
    (s.vertexData eachVertexDataSize)[v]? = some (extract i' j') ∧
    ((i', j') = (i, j) ∨ similar (extract i' j') (extract i j) = true)

/-- For every corner of every fan triangle, at the address its index was stored at: the address is
in the buffer, and what the finished buffer holds there names a vertex of the corner. -/
def CornersHeld (eachVertexDataSize : Nat) : Prop :=
  ∃ s a, buildVertices similar mesh extract = some s ∧ buildIndexData mesh s.vtx = some a ∧
    ∀ k x i j : Nat, (a.writes.map Prod.fst)[k]? = some x → (fanCorners mesh)[k]? = some (i, j) →
      x < a.wholeIndexDataNum ∧ ∃ v, lastWrite a.writes x = some v ∧
        NamesHeld similar mesh extract s eachVertexDataSize i j v

/-- How many vertices the similarity leaves: the corners that none before them stands for. -/
def keptCount : Nat := (kept similar mesh extract (corners mesh mesh.polygonCount)).length

variable {similar mesh extract} {s : DedupState V} {eachVertexDataSize : Nat}

theorem writes_length {a : IndexLayout} {vtx : Nat → Nat → Nat}
    (hvals : a.writes.map Prod.snd = fanValues mesh (fanTriangle mesh vtx) mesh.polygonCount) :
    a.writes.length = (fanCorners mesh).length := by
  rw [← fanCorners_values] at hvals
  simpa using congrArg List.length hvals

/-- The place of a corner among the writes. -/
theorem exists_write {a : IndexLayout} {vtx : Nat → Nat → Nat}
    (hvals : a.writes.map Prod.snd = fanValues mesh (fanTriangle mesh vtx) mesh.polygonCount)
    {c : Nat × Nat} (hc : c ∈ fanCorners mesh) :
    ∃ k x : Nat, (a.writes.map Prod.fst)[k]? = some x ∧ (fanCorners mesh)[k]? = some c := by
  obtain ⟨k, hk, hget⟩ := List.getElem_of_mem hc
  have hlt : k < (a.writes.map Prod.fst).length := by
    rw [List.length_map, writes_length hvals]
    exact hk
  exact ⟨k, _, List.getElem?_eq_getElem hlt,
    (List.getElem?_eq_getElem hk).trans (congrArg some hget)⟩

/-- Where everything fits, the write of a corner is the only one to its address. -/
theorem lastWrite_of_corner (h : IndexInput mesh) (hsub : mesh.subGeometryNum < SUBGEOM_COUNT_MAX)
    (hseg : mesh.mappedByPolygon = true ∨ mesh.polygons = [] ∨ 0 < mesh.subGeometryNum)
    {vtx : Nat → Nat → Nat} {a : IndexLayout} (ha : buildIndexData mesh vtx = some a)
    {k x i j : Nat} (hx : (a.writes.map Prod.fst)[k]? = some x)
    (hc : (fanCorners mesh)[k]? = some (i, j)) :
    x < a.wholeIndexDataNum ∧ lastWrite a.writes x = some (vtx i j) := by
  obtain ⟨a', ha', hvals⟩ := buildIndexData_values vtx h.toFanInput hsub
  obtain rfl : a = a' := Option.some.inj (ha.symm.trans ha')
  obtain rfl : scatterLayout mesh vtx = a :=
    Option.some.inj ((buildIndexData_eq vtx h hsub hseg).symm.trans ha)
  have haddr := scatter_addresses mesh.subGeometryNum (fanItems mesh vtx mesh.polygonCount)
    (fanItems_key_lt vtx h.toFanInput hseg)
  have hvalue : ((scatterLayout mesh vtx).writes.map Prod.snd)[k]? = some (vtx i j) := by
    rw [hvals, ← fanCorners_values, List.getElem?_map, hc, Option.map_some]
  rw [List.getElem?_map, Option.map_eq_some_iff] at hx hvalue
  obtain ⟨w, hw, rfl⟩ := hx
  obtain ⟨w', hw', hv⟩ := hvalue
  obtain rfl : w = w' := Option.some.inj (hw.symm.trans hw')
  have hmem : w ∈ (scatterLayout mesh vtx).writes := List.mem_of_getElem? hw
  refine ⟨List.mem_range.mp (haddr.mem_iff.mp (List.mem_map_of_mem hmem)), ?_⟩
  refine lastWrite_of_mem (haddr.nodup_iff.mpr List.nodup_range) ?_
  rw [← hv]
  exact hmem

theorem cornersHeld_of_fits (hsize : 0 < eachVertexDataSize) (h : IndexInput mesh)
    (hsub : mesh.subGeometryNum < SUBGEOM_COUNT_MAX)
    (hseg : mesh.mappedByPolygon = true ∨ mesh.polygons = [] ∨ 0 < mesh.subGeometryNum)
    (hbytes : eachVertexDataSize * keptCount similar mesh extract < 2 ^ 32) :
    CornersHeld similar mesh extract eachVertexDataSize := by
  obtain ⟨s, hs, hrep⟩ := buildVertices_eq similar mesh extract
  obtain ⟨a, ha, _⟩ := buildIndexData_values s.vtx h.toFanInput hsub
  have hdata : s.vertexData eachVertexDataSize = s.ssVertexBuffer.data := by
    refine vertexData_eq s hsize ?_
    rw [vertexCnt_eq hrep]
    exact hbytes
  refine ⟨s, a, hs, ha, fun k x i j hx hc => ?_⟩
  obtain ⟨hlt, hread⟩ := lastWrite_of_corner h hsub hseg ha hx hc
  have hcorner : mesh.IsCorner i j := isCorner_of_mem h.three_le (List.mem_of_getElem? hc)
  obtain ⟨⟨v, hv, hvlt⟩, i', j', hcorner', hsame, hget, hor⟩ :=
    namesVertex_of_represents hrep hcorner
  refine ⟨hlt, s.vtx i j, hread, ?_, i', j', hcorner', hsame, ?_, hor⟩
  · rw [DedupState.vtx, hv]
    exact hvlt
  · rw [hdata, ← PooledList.get_eq]
    exact hget

/-- Where the total does not fit, the cursors run over all addresses of 32 bits. -/
theorem last_address_written (h : FanInput mesh) (vtx : Nat → Nat → Nat)
    (hseg : mesh.mappedByPolygon = true ∨ mesh.polygons = [] ∨ 0 < mesh.subGeometryNum)
    (htotal : 2 ^ 32 ≤ mesh.indexTotal) :
    2 ^ 32 - 1 ∈ (wrappedLayout mesh vtx).writes.map Prod.fst := by
  have hkeys := fanItems_key_lt vtx h hseg
  have haddr := scatter_addresses mesh.subGeometryNum _ hkeys
  have hend : start (fanItems mesh vtx mesh.polygonCount) mesh.subGeometryNum = mesh.indexTotal := by
    have hlen := haddr.length_eq
    rw [List.length_map, List.length_range, scatter_length, total_fanItems] at hlen
    exact hlen.symm
  have hmem : 2 ^ 32 - 1 ∈ List.range
      (start (fanItems mesh vtx mesh.polygonCount) mesh.subGeometryNum) := by
    rw [List.mem_range, hend]
    omega
  obtain ⟨w, hw, hx⟩ := List.mem_map.mp (haddr.mem_iff.mpr hmem)
  have hstarts : scatter (fun m => if m < mesh.subGeometryNum then
      start (fanItems mesh vtx mesh.polygonCount) m else 0) (fun _ => 0)
        (fanItems mesh vtx mesh.polygonCount) =
      scatter (start (fanItems mesh vtx mesh.polygonCount)) (fun _ => 0)
        (fanItems mesh vtx mesh.polygonCount) :=
    scatter_congr _ _ fun it hit => if_pos (hkeys it hit)
  show 2 ^ 32 - 1 ∈ ((scatter _ _ _).map wrapWrite).map Prod.fst
  rw [hstarts, List.map_map]
  refine List.mem_map.mpr ⟨w, hw, ?_⟩
  show toUint32 w.1 = 2 ^ 32 - 1
  rw [hx]
  rfl

/-- Every vertex is the one of some corner. -/
theorem exists_corner_of_vertex
    (h : Represents similar mesh extract (corners mesh mesh.polygonCount) s) {v : Nat}
    (hv : v < keptCount similar mesh extract) :
    ∃ i j, mesh.IsCorner i j ∧ s.vtx i j = v := by
  set S := kept similar mesh extract (corners mesh mesh.polygonCount) with hS
  have hmem : S[v] ∈ corners mesh mesh.polygonCount :=
    mem_of_mem_stored _ (List.getElem_mem hv)
  refine ⟨S[v].1, S[v].2, mem_corners.mp hmem, ?_⟩
  rw [DedupState.vtx, cornerIndex_eq h hmem, Option.getD_some, keptIndex, index,
    List.findIdx_eq hv]
  refine ⟨sameVertex_refl similar mesh extract _, fun u hu => ?_⟩
  exact List.pairwise_iff_getElem.mp
    (pairwise_stored (sameVertex similar mesh extract) (corners mesh mesh.polygonCount)) u v
    (Nat.lt_trans hu hv) hv hu

/-- A size that does not fit 32 bits leaves out the last vertex. -/
theorem vertexData_last (hsize : 0 < eachVertexDataSize)
    (hbytes : 2 ^ 32 ≤ eachVertexDataSize * s.vertexCnt) :
    (s.vertexData eachVertexDataSize)[s.vertexCnt - 1]? = none := by
  have hwrap : toUint32 (eachVertexDataSize * s.vertexCnt : Nat) + 2 ^ 32 ≤
      eachVertexDataSize * s.vertexCnt := by
    unfold toUint32
    omega
  have hlt : toUint32 (eachVertexDataSize * s.vertexCnt : Nat) / eachVertexDataSize <
      s.vertexCnt := by
    rw [Nat.div_lt_iff_lt_mul hsize, Nat.mul_comm s.vertexCnt]
    omega
  rw [List.getElem?_eq_none_iff, DedupState.vertexData, copiedVertices, List.length_take]
  exact Nat.le_trans (Nat.min_le_left _ _) (Nat.le_sub_one_of_lt hlt)

/-- Where all corners are looked up in the buffer, all writes go into it. -/
theorem address_lt_of_corners {a : IndexLayout} {vtx : Nat → Nat → Nat}
    (hvals : a.writes.map Prod.snd = fanValues mesh (fanTriangle mesh vtx) mesh.polygonCount)
    (hheld : ∀ k x i j : Nat, (a.writes.map Prod.fst)[k]? = some x →
      (fanCorners mesh)[k]? = some (i, j) → x < a.wholeIndexDataNum) :
    ∀ x ∈ a.writes.map Prod.fst, x < a.wholeIndexDataNum := by
  intro x hmem
  obtain ⟨k, hk, hx⟩ := List.getElem_of_mem hmem
  have hlt : k < (fanCorners mesh).length := by
    rw [← writes_length hvals]
    simpa using hk
  exact hheld k x (fanCorners mesh)[k].1 (fanCorners mesh)[k].2
    ((List.getElem?_eq_getElem hk).trans (congrArg some hx)) (List.getElem?_eq_getElem hlt)

/-- A buffer without segments has no entries. -/
theorem segments_of_addresses (h : FanInput mesh) {vtx : Nat → Nat → Nat}
    (hvals : (wrappedLayout mesh vtx).writes.map Prod.snd =
      fanValues mesh (fanTriangle mesh vtx) mesh.polygonCount)
    (hin : ∀ x ∈ (wrappedLayout mesh vtx).writes.map Prod.fst,
      x < (wrappedLayout mesh vtx).wholeIndexDataNum) :
    mesh.mappedByPolygon = true ∨ mesh.polygons = [] ∨ 0 < mesh.subGeometryNum := by
  by_contra hnone
  rw [not_or, not_or] at hnone
  obtain ⟨_, hpoly, hzero⟩ := hnone
  have hpos : 0 < mesh.polygonCount := List.length_pos_iff.mpr hpoly
  have hcorner : mesh.IsCorner 0 0 := ⟨hpos, Nat.lt_of_lt_of_le (by decide) (h.three_le 0 hpos)⟩
  obtain ⟨k, x, hx, _⟩ := exists_write hvals (mem_fanCorners h.three_le hcorner)
  have hlt := hin x (List.mem_of_getElem? hx)
  have hempty : (wrappedLayout mesh vtx).wholeIndexDataNum = 0 := by
    show toUint32 (start _ mesh.subGeometryNum) = 0
    rw [Nat.eq_zero_of_not_pos hzero]
    rfl
  omega

/-- No buffer has an entry at the last address of 32 bits. -/
theorem total_of_addresses (h : FanInput mesh) {vtx : Nat → Nat → Nat}
    (hseg : mesh.mappedByPolygon = true ∨ mesh.polygons = [] ∨ 0 < mesh.subGeometryNum)
    (hin : ∀ x ∈ (wrappedLayout mesh vtx).writes.map Prod.fst,
      x < (wrappedLayout mesh vtx).wholeIndexDataNum) : mesh.indexTotal < 2 ^ 32 := by
  by_contra hge
  have hlast := hin _ (last_address_written h vtx hseg (Nat.le_of_not_lt hge))
  have hwhole : (wrappedLayout mesh vtx).wholeIndexDataNum < 2 ^ 32 := by
    show toUint32 (start _ _ : Nat) < 2 ^ 32
    exact toUint32_lt _
  omega

/-- The corner of the last vertex is not held where the size of the vertex data wraps. -/
theorem bytes_of_held (hsize : 0 < eachVertexDataSize) (h : IndexInput mesh)
    (hrep : Represents similar mesh extract (corners mesh mesh.polygonCount) s)
    (hsub : mesh.subGeometryNum < SUBGEOM_COUNT_MAX)
    (hseg : mesh.mappedByPolygon = true ∨ mesh.polygons = [] ∨ 0 < mesh.subGeometryNum)
    {a : IndexLayout} (ha : buildIndexData mesh s.vtx = some a)
    (hvals : a.writes.map Prod.snd = fanValues mesh (fanTriangle mesh s.vtx) mesh.polygonCount)
    (hheld : ∀ k x i j : Nat, (a.writes.map Prod.fst)[k]? = some x →
      (fanCorners mesh)[k]? = some (i, j) → ∃ v, lastWrite a.writes x = some v ∧
        NamesHeld similar mesh extract s eachVertexDataSize i j v) :
    eachVertexDataSize * keptCount similar mesh extract < 2 ^ 32 := by
  by_contra hge
  have hcnt : s.vertexCnt = keptCount similar mesh extract := vertexCnt_eq hrep
  have hpos : 0 < keptCount similar mesh extract := by
    by_contra hzero
    rw [Nat.eq_zero_of_not_pos hzero, Nat.mul_zero] at hge
    exact hge (by decide)
  obtain ⟨i, j, hcorner, hvtx⟩ := exists_corner_of_vertex hrep (Nat.sub_lt hpos Nat.one_pos)
  obtain ⟨k, x, hx, hc⟩ := exists_write hvals (mem_fanCorners h.three_le hcorner)
  obtain ⟨v, hv, _, _, _, _, _, hget, _⟩ := hheld k x i j hx hc
  have hread := (lastWrite_of_corner h hsub hseg ha hx hc).2
  have hlast := vertexData_last (s := s) hsize (by rw [hcnt]; omega)
  rw [hv, Option.some.injEq, hvtx, ← hcnt] at hread
  rw [hread, hlast] at hget
  cases hget

variable (similar mesh extract)

/-- The index buffer holds for every corner what it should exactly when the layout is right and
neither the index total nor the size of the vertex data wraps. -/
theorem corner_index_iff (hsize : 0 < eachVertexDataSize) (h : FanInput mesh) :
    CornersHeld similar mesh extract eachVertexDataSize ↔
      mesh.subGeometryNum < SUBGEOM_COUNT_MAX ∧
        (mesh.mappedByPolygon = true ∨ mesh.polygons = [] ∨ 0 < mesh.subGeometryNum) ∧
        mesh.indexTotal < 2 ^ 32 ∧
        eachVertexDataSize * keptCount similar mesh extract < 2 ^ 32 := by
  constructor
  · rintro ⟨s, a, hs, ha, hheld⟩
    obtain ⟨s', hs', hrep⟩ := buildVertices_eq similar mesh extract
    obtain rfl : s' = s := Option.some.inj (hs'.symm.trans hs)
    have hsub : mesh.subGeometryNum < SUBGEOM_COUNT_MAX := by
      by_contra hge
      simp [buildIndexData, hge] at ha
    obtain rfl : wrappedLayout mesh s'.vtx = a :=
      Option.some.inj ((buildIndexData_wraps s'.vtx h hsub).symm.trans ha)
    obtain ⟨a, ha', hvals⟩ := buildIndexData_values s'.vtx h hsub
    obtain rfl : wrappedLayout mesh s'.vtx = a := Option.some.inj (ha.symm.trans ha')
    have hin := address_lt_of_corners hvals fun k x i j hx hc => (hheld k x i j hx hc).1
    have hseg := segments_of_addresses h hvals hin
    have htotal := total_of_addresses h hseg hin
    exact ⟨hsub, hseg, htotal, bytes_of_held hsize ⟨h, htotal⟩ hrep hsub hseg ha hvals
      fun k x i j hx hc => (hheld k x i j hx hc).2⟩
  · rintro ⟨hsub, hseg, htotal, hbytes⟩
    exact cornersHeld_of_fits hsize ⟨h, htotal⟩ hsub hseg hbytes

end Held

/-- Vertices are numbers, similar when they differ by at most one. -/
theorem corner_index_iff_mixed :
    CornersHeld (fun a b : Nat => a ≤ b + 1 && b ≤ a + 1) mixedMesh (fun i j => i + j) 64 :=
  (corner_index_iff _ _ _ (by decide) mixedMesh_input.toFanInput).mpr
    ⟨by decide, Or.inl rfl, by decide, by decide⟩

/-- The triangle of a node with 256 materials: its indices go into a buffer of no entries. -/
theorem corner_not_held_256_materials : FanInput (triangleMesh none 256) ∧
    ¬ CornersHeld (fun _ _ : Nat => false) (triangleMesh none 256) (fun _ j => j) 64 := by
  refine ⟨(triangleMesh_input 256).toFanInput, ?_⟩
  rintro ⟨s, a, hs, ha, hheld⟩
  have hbuild := buildIndexData_wraps s.vtx (triangleMesh_input 256).toFanInput (by decide)
  obtain rfl : wrappedLayout (triangleMesh none 256) s.vtx = a :=
    Option.some.inj (hbuild.symm.trans ha)
  exact Nat.not_lt_zero 0 (hheld 0 0 0 2 rfl rfl).1

end FBXRenderer
