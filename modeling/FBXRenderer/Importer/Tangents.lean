import FBXRenderer.Importer.CornersHeld
import FBXRenderer.Importer.Geometry
import FBXRenderer.Importer.IndexChecked
import FBXRenderer.Importer.Winding

/-!
# FBXRenderer.Importer.Tangents

The tangents that `GenerateGeometryFromFbxMesh` and `GenerateSkinnedGeometryFromFbxMesh` compute
for a mesh without a tangent layer, in exact arithmetic. The loop has the same text in both; it
reads and writes the part of a vertex that both types have, in the bytes that were copied to
`_vertexData`. `none` is a division by zero, or an access outside the index or the vertex data.

* `calculateTangents_iff`: the loop goes through where every triangle of the index buffer has a
  signed UV area other than zero.
* `passLayout_good_iff`: those triangles are the fan steps of the polygons, with the vertices kept
  for their corners.
* `tangents_defined_iff`: when a mesh without a tangent layer gets its tangents.
-/

namespace FBXRenderer

open PartialRun Scatter

section Shape

variable {K : Type}

/-- `_indexData[a]`. -/
def IndexLayout.indexData (layout : IndexLayout) (a : Nat) : Option Nat := lastWrite layout.writes a

/-- `sizeof(SSDefaultVertex)`. -/
def SSDefaultVertex.byteSize : Nat := 3 * 16 + VERTEX_UV_MAP_COUNT_MAX * 8

/-- `sizeof(SSSkinnedVertex)`. -/
def SSSkinnedVertex.byteSize : Nat :=
  SSDefaultVertex.byteSize + VERTEX_SKINNING_BONE_COUNT_MAX * (4 + 4)

theorem SSDefaultVertex.byteSize_pos : 0 < SSDefaultVertex.byteSize := by decide

theorem SSSkinnedVertex.byteSize_pos : 0 < SSSkinnedVertex.byteSize := by decide

def setTangent (ssVertex : List (SSDefaultVertex K)) (i : Nat) (tangent : Vector4f K) :
    List (SSDefaultVertex K) :=
  ssVertex.modify i fun v => { v with Tangent := tangent }

/-- What the loop does not write: positions and texture coordinates. -/
def SameShape (ssVertex ssVertex' : List (SSDefaultVertex K)) : Prop :=
  ssVertex'.map (fun v => (v.Pos, v.Uv)) = ssVertex.map fun v => (v.Pos, v.Uv)

variable {ssVertex ssVertex' : List (SSDefaultVertex K)}

theorem sameShape_setTangent (i : Nat) (tangent : Vector4f K) (h : SameShape ssVertex ssVertex') :
    SameShape ssVertex (setTangent ssVertex' i tangent) := by
  unfold SameShape at h ⊢
  rw [← h]
  apply List.ext_getElem?
  intro k
  rw [setTangent, List.getElem?_map, List.getElem?_map, List.getElem?_modify]
  cases ssVertex'[k]? with
  | none => rfl
  | some v =>
    by_cases hk : i = k
    · simp [hk]
    · simp [hk]

theorem SameShape.getElem? (h : SameShape ssVertex ssVertex') {i : Nat} {v' : SSDefaultVertex K}
    (hv' : ssVertex'[i]? = some v') : ∃ v, ssVertex[i]? = some v ∧ v.Uv = v'.Uv := by
  have hi := congrArg (·[i]?) h
  simp only [List.getElem?_map, hv', Option.map_some] at hi
  obtain ⟨v, hv, heq⟩ := Option.map_eq_some_iff.mp hi.symm
  exact ⟨v, hv, congrArg Prod.snd heq⟩

theorem SameShape.symm (h : SameShape ssVertex ssVertex') : SameShape ssVertex' ssVertex :=
  Eq.symm h

variable [Field K]

/-- `Uv[0]`. -/
def SSDefaultVertex.firstUv (v : SSDefaultVertex K) : Vector2f K := v.Uv ⟨0, Nat.two_pos⟩

/-- The signed area of a triangle in UV space, times two. -/
def uvDet (v0 v1 v2 : SSDefaultVertex K) : K :=
  let duv1 := v1.firstUv - v0.firstUv
  let duv2 := v2.firstUv - v0.firstUv
  duv1.X * duv2.Y - duv1.Y * duv2.X

/-- The three indices from `a` on are of the vertices `v0`, `v1` and `v2`. -/
def TriangleAt (layout : IndexLayout) (ssVertex : List (SSDefaultVertex K)) (a : Nat)
    (v0 v1 v2 : SSDefaultVertex K) : Prop :=
  ∃ i0 i1 i2, layout.indexData a = some i0 ∧ layout.indexData (a + 1) = some i1 ∧
    layout.indexData (a + 2) = some i2 ∧
    ssVertex[i0]? = some v0 ∧ ssVertex[i1]? = some v1 ∧ ssVertex[i2]? = some v2

/-- There are such vertices, and they do not lie on a line in UV space. -/
def GoodTriangle (layout : IndexLayout) (ssVertex : List (SSDefaultVertex K)) (a : Nat) : Prop :=
  ∃ v0 v1 v2, TriangleAt layout ssVertex a v0 v1 v2 ∧ uvDet v0 v1 v2 ≠ 0

theorem uvDet_congr {v0 v1 v2 w0 w1 w2 : SSDefaultVertex K} (h0 : v0.Uv = w0.Uv)
    (h1 : v1.Uv = w1.Uv) (h2 : v2.Uv = w2.Uv) : uvDet v0 v1 v2 = uvDet w0 w1 w2 := by
  simp only [uvDet, SSDefaultVertex.firstUv, h0, h1, h2]

/-- A triangle is as good before the loop as in it. -/
theorem SameShape.good {layout : IndexLayout} (h : SameShape ssVertex ssVertex') {a : Nat}
    (hgood : GoodTriangle layout ssVertex' a) : GoodTriangle layout ssVertex a := by
  obtain ⟨v0, v1, v2, ⟨i0, i1, i2, h0, h1, h2, hv0, hv1, hv2⟩, hdet⟩ := hgood
  obtain ⟨w0, hw0, huv0⟩ := h.getElem? hv0
  obtain ⟨w1, hw1, huv1⟩ := h.getElem? hv1
  obtain ⟨w2, hw2, huv2⟩ := h.getElem? hv2
  refine ⟨w0, w1, w2, ⟨i0, i1, i2, h0, h1, h2, hw0, hw1, hw2⟩, ?_⟩
  rwa [uvDet_congr huv0 huv1 huv2]

end Shape

section Loop

variable {K : Type} [Field K] [DecidableEq K]

/-- `1.0f / z`. -/
def reciprocal (z : K) : Option K := if z = 0 then none else some (1 / z)

def tangentOf (v0 v1 v2 : SSDefaultVertex K) : Option (Vector4f K) := do
  let dv1 := v1.Pos - v0.Pos
  let dv2 := v2.Pos - v0.Pos
  let duv1 := v1.firstUv - v0.firstUv
  let duv2 := v2.firstUv - v0.firstUv
  let detInverse ← reciprocal (uvDet v0 v1 v2)
  some ((dv1.scale duv2.Y - dv2.scale duv1.Y).scale detInverse)

/-- One turn of the inner loop, for the three indices from `a` on. -/
def tangentTriangle (layout : IndexLayout) (ssVertex : List (SSDefaultVertex K)) (a : Nat) :
    Option (List (SSDefaultVertex K)) := do
  let i0 ← layout.indexData a
  let i1 ← layout.indexData (a + 1)
  let i2 ← layout.indexData (a + 2)
  let tangent ← tangentOf (← ssVertex[i0]?) (← ssVertex[i1]?) (← ssVertex[i2]?)
  some (setTangent (setTangent (setTangent ssVertex i0 tangent) i1 tangent) i2 tangent)

/-- One sub-geometry, its assertion first. -/
def tangentSegment (layout : IndexLayout) (ssVertex : List (SSDefaultVertex K))
    (subGeomIdx : Nat) : Option (List (SSDefaultVertex K)) :=
  if layout.indexDataNum subGeomIdx % 3 = 0 then
    (List.range (layout.indexDataNum subGeomIdx / 3)).foldlM (fun ssVertex t =>
      tangentTriangle layout ssVertex (layout.indexDataStartIndex subGeomIdx + 3 * t)) ssVertex
  else none

def calculateTangents (layout : IndexLayout) (ssVertex : List (SSDefaultVertex K)) :
    Option (List (SSDefaultVertex K)) :=
  (List.range layout.subGeometryNum).foldlM (tangentSegment layout) ssVertex

/-- The loop is for meshes without a tangent layer. -/
def loadTangents (fbxMesh : FbxGeometry K) (layout : IndexLayout)
    (ssVertex : List (SSDefaultVertex K)) : Option (List (SSDefaultVertex K)) :=
  match fbxMesh.elementTangent with
  | none => calculateTangents layout ssVertex
  | some _ => some ssVertex

variable {layout : IndexLayout} {ssVertex ssVertex' : List (SSDefaultVertex K)}

theorem tangentOf_isSome (v0 v1 v2 : SSDefaultVertex K) :
    (tangentOf v0 v1 v2).isSome ↔ uvDet v0 v1 v2 ≠ 0 := by
  unfold tangentOf reciprocal
  by_cases hdet : uvDet v0 v1 v2 = 0
  · simp [hdet]
  · simp [hdet]

theorem tangentTriangle_isSome (a : Nat) :
    (tangentTriangle layout ssVertex a).isSome ↔ GoodTriangle layout ssVertex a := by
  rw [Option.isSome_iff_exists]
  simp only [tangentTriangle, Option.bind_eq_bind, Option.bind_eq_some_iff]
  constructor
  · rintro ⟨_, i0, h0, i1, h1, i2, h2, v0, hv0, v1, hv1, v2, hv2, tangent, htangent, _⟩
    have hsome := Option.isSome_iff_exists.mpr ⟨tangent, htangent⟩
    exact ⟨v0, v1, v2, ⟨i0, i1, i2, h0, h1, h2, hv0, hv1, hv2⟩,
      (tangentOf_isSome v0 v1 v2).mp hsome⟩
  · rintro ⟨v0, v1, v2, ⟨i0, i1, i2, h0, h1, h2, hv0, hv1, hv2⟩, hdet⟩
    obtain ⟨tangent, htangent⟩ := Option.isSome_iff_exists.mp ((tangentOf_isSome v0 v1 v2).mpr hdet)
    exact ⟨_, i0, h0, i1, h1, i2, h2, v0, hv0, v1, hv1, v2, hv2, tangent, htangent, rfl⟩

theorem tangentTriangle_sameShape {start : List (SSDefaultVertex K)} {a : Nat}
    (h : SameShape start ssVertex) (hstep : tangentTriangle layout ssVertex a = some ssVertex') :
    SameShape start ssVertex' := by
  simp only [tangentTriangle, Option.bind_eq_bind, Option.bind_eq_some_iff] at hstep
  obtain ⟨i0, _, i1, _, i2, _, v0, _, v1, _, v2, _, tangent, _, hset⟩ := hstep
  cases hset
  exact sameShape_setTangent i2 tangent
    (sameShape_setTangent i1 tangent (sameShape_setTangent i0 tangent h))

theorem tangentSegment_isSome (k : Nat) : (tangentSegment layout ssVertex k).isSome ↔
    layout.indexDataNum k % 3 = 0 ∧ ∀ t, t < layout.indexDataNum k / 3 →
      GoodTriangle layout ssVertex (layout.indexDataStartIndex k + 3 * t) := by
  unfold tangentSegment
  by_cases hdvd : layout.indexDataNum k % 3 = 0
  · have hturn : ∀ s t, SameShape ssVertex s →
        ((tangentTriangle layout s (layout.indexDataStartIndex k + 3 * t)).isSome ↔
          GoodTriangle layout ssVertex (layout.indexDataStartIndex k + 3 * t)) := by
      intro s t hs
      exact (tangentTriangle_isSome _).trans ⟨hs.good, hs.symm.good⟩
    rw [if_pos hdvd, foldlM_isSome_iff hturn
      (fun _ _ _ hs hstep => tangentTriangle_sameShape hs hstep) rfl]
    simp [hdvd]
  · rw [if_neg hdvd]
    simp [hdvd]

theorem tangentSegment_sameShape {start : List (SSDefaultVertex K)} {k : Nat}
    (h : SameShape start ssVertex) (hstep : tangentSegment layout ssVertex k = some ssVertex') :
    SameShape start ssVertex' := by
  unfold tangentSegment at hstep
  split at hstep
  · exact foldlM_inv (fun _ _ _ hs hstep => tangentTriangle_sameShape hs hstep) h hstep
  · cases hstep

/-- The whole loop goes through where all triangles are good before it. -/
theorem calculateTangents_iff (layout : IndexLayout) (ssVertex : List (SSDefaultVertex K)) :
    (calculateTangents layout ssVertex).isSome ↔
      ∀ k, k < layout.subGeometryNum → layout.indexDataNum k % 3 = 0 ∧
        ∀ t, t < layout.indexDataNum k / 3 →
          GoodTriangle layout ssVertex (layout.indexDataStartIndex k + 3 * t) := by
  have hturn : ∀ s k, SameShape ssVertex s → ((tangentSegment layout s k).isSome ↔
      layout.indexDataNum k % 3 = 0 ∧ ∀ t, t < layout.indexDataNum k / 3 →
        GoodTriangle layout ssVertex (layout.indexDataStartIndex k + 3 * t)) := by
    intro s k hs
    rw [tangentSegment_isSome]
    constructor
    · rintro ⟨hdvd, hgood⟩
      exact ⟨hdvd, fun t ht => hs.good (hgood t ht)⟩
    · rintro ⟨hdvd, hgood⟩
      exact ⟨hdvd, fun t ht => hs.symm.good (hgood t ht)⟩
  rw [calculateTangents, foldlM_isSome_iff hturn
    (fun _ _ _ hs hstep => tangentSegment_sameShape hs hstep) rfl]
  simp

end Loop

/-! The index buffer as triangles. -/

section Triangles

variable {mesh : FbxMesh} {vtx : Nat → Nat → Nat}

/-- Fewer than three indices are no triangle. -/
theorem length_of_no_triple {l : List Nat}
    (hshort : ∀ a b c rest, l = a :: b :: c :: rest → False) : l.length < 3 := by
  match l, hshort with
  | [], _ => simp
  | [_], _ => simp
  | [_, _], _ => simp
  | a :: b :: c :: rest, hshort => exact (hshort a b c rest rfl).elim

theorem triples_getElem? (l : List Nat) : ∀ t a b c : Nat, (triples l)[t]? = some (a, b, c) ↔
    l[3 * t]? = some a ∧ l[3 * t + 1]? = some b ∧ l[3 * t + 2]? = some c := by
  induction l using triples.induct with
  | case1 x y z rest ih =>
    intro t a b c
    cases t with
    | zero => simp [triples]
    | succ t =>
      have hthree : 3 * (t + 1) = 3 * t + 1 + 1 + 1 := by omega
      have hplus : 3 * (t + 1) + 1 = 3 * t + 1 + 1 + 1 + 1 := by omega
      have hplus2 : 3 * (t + 1) + 2 = 3 * t + 2 + 1 + 1 + 1 := by omega
      rw [triples, hplus, hplus2, hthree]
      simp only [List.getElem?_cons_succ]
      exact ih t a b c
  | case2 l hshort =>
    intro t a b c
    have hlen := length_of_no_triple hshort
    rw [triples.eq_2 l hshort]
    constructor
    · intro h
      simp at h
    · rintro ⟨_, _, hc⟩
      obtain ⟨hlt, _⟩ := List.getElem?_eq_some_iff.mp hc
      omega

theorem triples_length (l : List Nat) : (triples l).length = l.length / 3 := by
  induction l using triples.induct with
  | case1 x y z rest ih =>
    rw [triples, List.length_cons, ih]
    simp only [List.length_cons]
    omega
  | case2 l hshort =>
    have hlen := length_of_no_triple hshort
    rw [triples.eq_2 l hshort, List.length_nil]
    omega

/-- The triangles of a material are the fan steps of its polygons. -/
theorem triples_bucket (mesh : FbxMesh) (vtx : Nat → Nat → Nat) (n m : Nat) :
    triples (bucket (fanItems mesh vtx n) m) =
      ((fanSteps mesh n).filter fun c => mesh.material c.1 = m).map
        fun c => fanTriangle mesh vtx c.1 c.2 := by
  unfold fanItems fanSteps
  induction List.range n with
  | nil => rfl
  | cons i l ih =>
    rw [List.map_cons, bucket_cons, List.flatMap_cons, List.filter_append, List.map_append, ← ih]
    by_cases hm : mesh.material i = m
    · rw [if_pos hm, fanBlock, triples_steps]
      congr 1
      rw [List.filter_eq_self.mpr, List.map_map]
      · rfl
      · intro c hc
        obtain ⟨j, _, rfl⟩ := List.mem_map.mp hc
        exact decide_eq_true hm
    · rw [if_neg hm, List.nil_append, List.filter_eq_nil_iff.mpr, List.map_nil, List.nil_append]
      intro c hc
      obtain ⟨j, _, rfl⟩ := List.mem_map.mp hc
      simpa using hm

/-- Every place of the index buffer holds the vertex of some corner. -/
theorem passLayout_read (mesh : FbxMesh) (vtx : Nat → Nat → Nat) {k x : Nat}
    (hx : x < size (fanItems mesh vtx mesh.polygonCount) k) :
    ∃ i j, mesh.IsCorner i j ∧
      (passLayout mesh vtx).indexData (passStart mesh vtx k + x) = some (vtx i j) := by
  have hwritten := scatter_address (passStart mesh vtx) k
    (fanItems mesh vtx mesh.polygonCount) (fun _ => 0) hx
  obtain ⟨v, hread, hvalue⟩ := lastWrite_of_address hwritten
  rw [scatter_values, List.mem_flatMap] at hvalue
  obtain ⟨it, hit, hv⟩ := hvalue
  obtain ⟨i, hi, rfl⟩ := List.mem_map.mp hit
  have hi : i < mesh.polygonCount := List.mem_range.mp hi
  obtain ⟨j, hj, hv⟩ := List.mem_flatMap.mp hv
  rw [List.mem_range'_1] at hj
  have hcorner : ∃ j', j' < mesh.polygonSize i ∧ v = vtx i j' := by
    simp only [fanTriangle, byPolygonTriangle, allSameTriangle] at hv
    split at hv
    all_goals
      simp only [List.mem_cons, List.not_mem_nil, or_false] at hv
      obtain hv | hv | hv := hv
      all_goals exact ⟨_, by omega, hv⟩
  obtain ⟨j', hj', rfl⟩ := hcorner
  exact ⟨i, j', ⟨hi, hj'⟩, hread⟩

/-- Where all materials have a sub-geometry, none is overwritten. -/
theorem passLayout_segment
    (hmat : ∀ i, i < mesh.polygonCount → mesh.material i < mesh.subGeometryNum) {k x : Nat}
    (hk : k < mesh.subGeometryNum) (hx : x < size (fanItems mesh vtx mesh.polygonCount) k) :
    (passLayout mesh vtx).indexData (passStart mesh vtx k + x) =
      (bucket (fanItems mesh vtx mesh.polygonCount) k)[x]? := by
  have hkeys : ∀ it ∈ fanItems mesh vtx mesh.polygonCount, it.1 < mesh.subGeometryNum := by
    intro it hit
    obtain ⟨i, hi, rfl⟩ := List.mem_map.mp hit
    exact hmat i (List.mem_range.mp hi)
  have hwrites : (passLayout mesh vtx).writes =
      scatter (start (fanItems mesh vtx mesh.polygonCount)) (fun _ => 0)
        (fanItems mesh vtx mesh.polygonCount) :=
    scatter_congr _ _ fun it hit => if_pos (hkeys it hit)
  have hread := congrArg (·[x]?) (scatter_read hkeys hk)
  simp only [List.getElem?_map, List.getElem?_range' hx, Option.map_some, Nat.one_mul] at hread
  rw [IndexLayout.indexData, hwrites, passStart, if_pos hk]
  rw [List.getElem?_eq_getElem hx, Option.map_some, Option.some.injEq] at hread
  rw [hread, List.getElem?_eq_getElem hx]

/-- The triangles of a sub-geometry are those of its material. -/
theorem passLayout_triangle
    (hmat : ∀ i, i < mesh.polygonCount → mesh.material i < mesh.subGeometryNum) {k t : Nat}
    (hk : k < mesh.subGeometryNum) (a b c : Nat) :
    (t < (passLayout mesh vtx).indexDataNum k / 3 ∧
      (passLayout mesh vtx).indexData ((passLayout mesh vtx).indexDataStartIndex k + 3 * t) =
        some a ∧
      (passLayout mesh vtx).indexData ((passLayout mesh vtx).indexDataStartIndex k + 3 * t + 1) =
        some b ∧
      (passLayout mesh vtx).indexData ((passLayout mesh vtx).indexDataStartIndex k + 3 * t + 2) =
        some c) ↔
      (triples (bucket (fanItems mesh vtx mesh.polygonCount) k))[t]? = some (a, b, c) := by
  have hsize : (passLayout mesh vtx).indexDataNum k =
      size (fanItems mesh vtx mesh.polygonCount) k := rfl
  have hstart : (passLayout mesh vtx).indexDataStartIndex k = passStart mesh vtx k := rfl
  rw [hsize, hstart, triples_getElem?]
  constructor
  · rintro ⟨ht, ha, hb, hc⟩
    rw [Nat.add_assoc] at hb hc
    rw [passLayout_segment hmat hk (by omega)] at ha hb hc
    exact ⟨ha, hb, hc⟩
  · rintro ⟨ha, hb, hc⟩
    obtain ⟨hlt, _⟩ := List.getElem?_eq_some_iff.mp hc
    have hlt : 3 * t + 2 < size (fanItems mesh vtx mesh.polygonCount) k := hlt
    refine ⟨by omega, ?_, ?_, ?_⟩
    · rw [passLayout_segment hmat hk (by omega)]
      exact ha
    · rw [Nat.add_assoc, passLayout_segment hmat hk (by omega)]
      exact hb
    · rw [Nat.add_assoc, passLayout_segment hmat hk (by omega)]
      exact hc

end Triangles

/-! The vertices of the triangles. -/

section Corners

variable {K V : Type} (similar : V → V → Bool) (mesh : FbxMesh) (extract : Nat → Nat → V)
  (base : V → SSDefaultVertex K)

/-- The corner whose vertex a corner was given. -/
def keptCorner (c : Nat × Nat) : Nat × Nat :=
  ((kept similar mesh extract (corners mesh mesh.polygonCount))[
    keptIndex similar mesh extract (corners mesh mesh.polygonCount) c]?).getD c

/-- The vertex of corner `j` of polygon `i` in the vertex buffer. -/
def keptVertex (i j : Nat) : SSDefaultVertex K :=
  base (extract (keptCorner similar mesh extract (i, j)).1
    (keptCorner similar mesh extract (i, j)).2)

/-- The triangles of every fan have the vertices of their corners, with an area in UV space. -/
def FanUvGood [Field K] : Prop :=
  ∀ i j, i < mesh.polygonCount → 1 ≤ j → j + 1 < mesh.polygonSize i →
    uvDet (keptVertex similar mesh extract base i 0) (keptVertex similar mesh extract base i j)
      (keptVertex similar mesh extract base i (j + 1)) ≠ 0

/-- The meshes whose index buffer holds the fans of all polygons. -/
structure IndexesFit (mesh : FbxMesh) : Prop extends PassInput mesh where
  material_lt : ∀ i, i < mesh.polygonCount → mesh.material i < mesh.subGeometryNum

variable {similar mesh extract} {s : DedupState V}

variable (similar extract) in
theorem keptCorner_get {i j : Nat} (hc : mesh.IsCorner i j) :
    (kept similar mesh extract (corners mesh mesh.polygonCount))[
      keptIndex similar mesh extract (corners mesh mesh.polygonCount) (i, j)]? =
        some (keptCorner similar mesh extract (i, j)) ∧
      sameVertex similar mesh extract (keptCorner similar mesh extract (i, j)) (i, j) = true := by
  have hmem : (i, j) ∈ corners mesh mesh.polygonCount := mem_corners.mpr hc
  obtain ⟨c, hfirst, hfit⟩ :=
    FirstFit.fits_at_index (sameVertex_refl similar mesh extract) hmem
  have hget : (kept similar mesh extract (corners mesh mesh.polygonCount))[
      keptIndex similar mesh extract (corners mesh mesh.polygonCount) (i, j)]? = some c := hfirst
  have hkept : keptCorner similar mesh extract (i, j) = c := by
    rw [keptCorner, hget, Option.getD_some]
  rw [hkept]
  exact ⟨hget, hfit⟩

variable (similar extract) in
theorem keptCorner_controlPoint {i j : Nat} (hc : mesh.IsCorner i j) :
    mesh.controlPoint (keptCorner similar mesh extract (i, j)).1
      (keptCorner similar mesh extract (i, j)).2 = mesh.controlPoint i j := by
  obtain ⟨_, hfit⟩ := keptCorner_get similar extract hc
  simp only [sameVertex, Bool.or_eq_true, Bool.and_eq_true, decide_eq_true_eq] at hfit
  cases hfit with
  | inl heq => rw [heq]
  | inr hsame => exact hsame.1

theorem vertex_of_corner (h : Represents similar mesh extract (corners mesh mesh.polygonCount) s)
    {i j : Nat} (hc : mesh.IsCorner i j) : (s.ssVertexBuffer.data.map base)[s.vtx i j]? =
      some (keptVertex similar mesh extract base i j) := by
  rw [vtx_eq h hc, h.buffer, List.map_map, List.getElem?_map, (keptCorner_get similar extract hc).1]
  rfl

variable [Field K]

theorem goodTriangle_iff {layout : IndexLayout} {ssVertex : List (SSDefaultVertex K)}
    {a i0 i1 i2 : Nat} {v0 v1 v2 : SSDefaultVertex K} (h0 : layout.indexData a = some i0)
    (h1 : layout.indexData (a + 1) = some i1) (h2 : layout.indexData (a + 2) = some i2)
    (hv0 : ssVertex[i0]? = some v0) (hv1 : ssVertex[i1]? = some v1)
    (hv2 : ssVertex[i2]? = some v2) : GoodTriangle layout ssVertex a ↔ uvDet v0 v1 v2 ≠ 0 := by
  constructor
  · rintro ⟨w0, w1, w2, ⟨k0, k1, k2, g0, g1, g2, hw0, hw1, hw2⟩, hdet⟩
    rw [h0] at g0
    rw [h1] at g1
    rw [h2] at g2
    cases g0
    cases g1
    cases g2
    rw [hv0] at hw0
    rw [hv1] at hw1
    rw [hv2] at hw2
    cases hw0
    cases hw1
    cases hw2
    exact hdet
  · intro hdet
    exact ⟨v0, v1, v2, ⟨i0, i1, i2, h0, h1, h2, hv0, hv1, hv2⟩, hdet⟩

theorem uvDet_eq (v0 v1 v2 : SSDefaultVertex K) : uvDet v0 v1 v2 =
    ((v1.Uv 0).X - (v0.Uv 0).X) * ((v2.Uv 0).Y - (v0.Uv 0).Y) -
      ((v1.Uv 0).Y - (v0.Uv 0).Y) * ((v2.Uv 0).X - (v0.Uv 0).X) := rfl

theorem uvDet_reverse (v0 v1 v2 : SSDefaultVertex K) : uvDet v2 v1 v0 = -uvDet v0 v1 v2 := by
  rw [uvDet_eq, uvDet_eq]
  ring

/-- A fan step is as good in the index buffer as its corners are, whichever way round it is. -/
theorem goodTriangle_fan
    (h : Represents similar mesh extract (corners mesh mesh.polygonCount) s)
    {layout : IndexLayout} {a i j i0 i1 i2 : Nat} (hi : i < mesh.polygonCount)
    (hj : j + 1 < mesh.polygonSize i) (h0 : layout.indexData a = some i0)
    (h1 : layout.indexData (a + 1) = some i1) (h2 : layout.indexData (a + 2) = some i2)
    (htri : fanTriangle mesh s.vtx i j = (i0, i1, i2)) :
    GoodTriangle layout (s.ssVertexBuffer.data.map base) a ↔
      uvDet (keptVertex similar mesh extract base i 0) (keptVertex similar mesh extract base i j)
        (keptVertex similar mesh extract base i (j + 1)) ≠ 0 := by
  have hv0 := vertex_of_corner base h (i := i) (j := 0) ⟨hi, by omega⟩
  have hv1 := vertex_of_corner base h (i := i) (j := j) ⟨hi, by omega⟩
  have hv2 := vertex_of_corner base h (i := i) (j := j + 1) ⟨hi, hj⟩
  unfold fanTriangle at htri
  split at htri
  · cases htri
    exact goodTriangle_iff h0 h1 h2 hv0 hv1 hv2
  · cases htri
    rw [goodTriangle_iff h0 h1 h2 hv2 hv1 hv0, uvDet_reverse, neg_ne_zero]

/-- All triangles of the index buffer are good where those of the fans are. -/
theorem passLayout_good_iff
    (h : Represents similar mesh extract (corners mesh mesh.polygonCount) s)
    (hmat : ∀ i, i < mesh.polygonCount → mesh.material i < mesh.subGeometryNum) :
    (∀ k, k < mesh.subGeometryNum → (passLayout mesh s.vtx).indexDataNum k % 3 = 0 ∧
      ∀ t, t < (passLayout mesh s.vtx).indexDataNum k / 3 →
        GoodTriangle (passLayout mesh s.vtx) (s.ssVertexBuffer.data.map base)
          ((passLayout mesh s.vtx).indexDataStartIndex k + 3 * t)) ↔
      FanUvGood similar mesh extract base := by
  constructor
  · intro hgood i j hi hj1 hj
    have hk := hmat i hi
    have hstep : fanTriangle mesh s.vtx i j ∈
        triples (bucket (fanItems mesh s.vtx mesh.polygonCount) (mesh.material i)) := by
      rw [triples_bucket, List.mem_map]
      refine ⟨(i, j), List.mem_filter.mpr ⟨mem_fanSteps.mpr ⟨hi, hj1, hj⟩, ?_⟩, rfl⟩
      exact decide_eq_true rfl
    obtain ⟨t, ht⟩ := List.mem_iff_getElem?.mp hstep
    obtain ⟨hlt, h0, h1, h2⟩ := (passLayout_triangle hmat hk _ _ _).mpr ht
    exact (goodTriangle_fan base h hi hj h0 h1 h2 rfl).mp ((hgood _ hk).2 t hlt)
  · intro hgood k hk
    refine ⟨Nat.mod_eq_zero_of_dvd (three_dvd_size s.vtx mesh.polygonCount k), fun t ht => ?_⟩
    have hlen : t < (triples (bucket (fanItems mesh s.vtx mesh.polygonCount) k)).length := by
      rw [triples_length]
      exact ht
    obtain ⟨tri, hread⟩ : ∃ tri,
        (triples (bucket (fanItems mesh s.vtx mesh.polygonCount) k))[t]? = some tri :=
      ⟨_, List.getElem?_eq_getElem hlen⟩
    have hmem := List.mem_of_getElem? hread
    rw [triples_bucket] at hmem
    obtain ⟨c, hc, htri⟩ := List.mem_map.mp hmem
    obtain ⟨hi, hj1, hj⟩ := mem_fanSteps.mp (List.mem_filter.mp hc).1
    obtain ⟨_, h0, h1, h2⟩ := (passLayout_triangle hmat hk _ _ _).mpr hread
    exact (goodTriangle_fan base h hi hj h0 h1 h2 htri).mpr (hgood c.1 c.2 hi hj1 hj)

/-- In a mesh that the index passes can deal with, only a division can go wrong. -/
theorem passLayout_division_iff
    (h : Represents similar mesh extract (corners mesh mesh.polygonCount) s) :
    (∀ k, k < mesh.subGeometryNum → (passLayout mesh s.vtx).indexDataNum k % 3 = 0 ∧
      ∀ t, t < (passLayout mesh s.vtx).indexDataNum k / 3 →
        GoodTriangle (passLayout mesh s.vtx) (s.ssVertexBuffer.data.map base)
          ((passLayout mesh s.vtx).indexDataStartIndex k + 3 * t)) ↔
      ∀ k t, k < mesh.subGeometryNum → t < (passLayout mesh s.vtx).indexDataNum k / 3 →
        ∀ v0 v1 v2, TriangleAt (passLayout mesh s.vtx) (s.ssVertexBuffer.data.map base)
          ((passLayout mesh s.vtx).indexDataStartIndex k + 3 * t) v0 v1 v2 →
          uvDet v0 v1 v2 ≠ 0 := by
  constructor
  · rintro hgood k t hk ht v0 v1 v2 ⟨i0, i1, i2, h0, h1, h2, hv0, hv1, hv2⟩
    exact (goodTriangle_iff h0 h1 h2 hv0 hv1 hv2).mp ((hgood k hk).2 t ht)
  · intro hdet k hk
    refine ⟨Nat.mod_eq_zero_of_dvd (three_dvd_size s.vtx mesh.polygonCount k), fun t ht => ?_⟩
    have ht' : t < size (fanItems mesh s.vtx mesh.polygonCount) k / 3 := ht
    obtain ⟨_, _, hc0, h0⟩ := passLayout_read mesh s.vtx (k := k) (x := 3 * t) (by omega)
    obtain ⟨_, _, hc1, h1⟩ := passLayout_read mesh s.vtx (k := k) (x := 3 * t + 1) (by omega)
    obtain ⟨_, _, hc2, h2⟩ := passLayout_read mesh s.vtx (k := k) (x := 3 * t + 2) (by omega)
    have htriangle : TriangleAt (passLayout mesh s.vtx) (s.ssVertexBuffer.data.map base)
        ((passLayout mesh s.vtx).indexDataStartIndex k + 3 * t) _ _ _ :=
      ⟨_, _, _, h0, h1, h2, vertex_of_corner base h hc0, vertex_of_corner base h hc1,
        vertex_of_corner base h hc2⟩
    exact ⟨_, _, _, htriangle, hdet k t hk ht _ _ _ htriangle⟩

end Corners

/-! The cluster loop of the skinned function comes between, and leaves alone what is read here. -/

section Skinned

variable {K : Type}

theorem set_base {ssVertexBuffer buffer : SS.PooledList (SSSkinnedVertex K)} {idx : Nat}
    {v v' : SSSkinnedVertex K} (hget : ssVertexBuffer.get idx = some v)
    (hset : ssVertexBuffer.set idx v' = some buffer)
    (hbase : v'.toSSDefaultVertex = v.toSSDefaultVertex) :
    buffer.data.map (fun v => v.toSSDefaultVertex) =
      ssVertexBuffer.data.map fun v => v.toSSDefaultVertex := by
  unfold SS.PooledList.set at hset
  split at hset
  · rename_i hlt
    cases hset
    rw [SS.PooledList.get_of_lt hlt, Option.some.injEq] at hget
    apply List.ext_getElem
    · simp
    · intro k _ _
      rw [List.getElem_map, List.getElem_map, List.getElem_set]
      split
      · rename_i hk
        subst hk
        rw [hbase, ← hget]
      · rfl
  · cases hset

theorem updateVertices_base {b : Nat} {f : SSSkinnedVertex K → SSSkinnedVertex K}
    (hf : ∀ v, (f v).toSSDefaultVertex = v.toSSDefaultVertex) (l : List Nat) :
    ∀ {s s' : SkinState K}, updateVertices b f l s = some s' →
      s'.ssVertexBuffer.data.map (fun v => v.toSSDefaultVertex) =
        s.ssVertexBuffer.data.map fun v => v.toSSDefaultVertex := by
  induction l with
  | nil =>
    intro s s' h
    cases h
    rfl
  | cons idx rest ih =>
    intro s s' h
    simp only [updateVertices, Option.bind_eq_bind, Option.bind_eq_some_iff] at h
    obtain ⟨v, hget, buffer, hset, hrest⟩ := h
    rw [ih hrest]
    exact set_base hget hset (hf v)

/-- The copy covers the same vertices. -/
theorem copiedVertices_base {buffer ssVertexBuffer : SS.PooledList (SSSkinnedVertex K)} {size : Nat}
    (h : buffer.data.map (fun v => v.toSSDefaultVertex) =
      ssVertexBuffer.data.map fun v => v.toSSDefaultVertex) :
    (copiedVertices buffer size).map (fun v => v.toSSDefaultVertex) =
      (copiedVertices ssVertexBuffer size).map fun v => v.toSSDefaultVertex := by
  have hlen : buffer.getSize = ssVertexBuffer.getSize := by
    simpa [SS.PooledList.getSize] using congrArg List.length h
  rw [copiedVertices, copiedVertices, hlen, List.map_take, List.map_take, h]

variable [Field K] [LinearOrder K]

theorem clusterEntry_base {cnt joint cp : Nat} {idxMap : Nat → SS.PooledList Nat} {w : K}
    {s s' : SkinState K} (h : clusterEntry cnt idxMap joint cp w s = some s') :
    s'.ssVertexBuffer.data.map (fun v => v.toSSDefaultVertex) =
      s.ssVertexBuffer.data.map fun v => v.toSSDefaultVertex := by
  unfold clusterEntry at h
  split at h
  · dsimp only at h
    split at h
    · refine updateVertices_base ?_ _ h
      intro v
      rfl
    · obtain ⟨s1, hs1, rfl⟩ := Option.map_eq_some_iff.mp h
      show s1.ssVertexBuffer.data.map (fun v => v.toSSDefaultVertex) = _
      refine updateVertices_base ?_ _ hs1
      intro v
      rfl
  · cases h

theorem clusterLoop_base {cnt : Nat} {bones : List String} {skin : FbxSkin K}
    {d : DedupState (SSSkinnedVertex K)} {s : SkinState K}
    (h : clusterLoop cnt bones skin d = some s) :
    s.ssVertexBuffer.data.map (fun v => v.toSSDefaultVertex) =
      d.ssVertexBuffer.data.map fun v => v.toSSDefaultVertex := by
  let Same : SkinState K → Prop := fun s =>
    s.ssVertexBuffer.data.map (fun v => v.toSSDefaultVertex) =
      d.ssVertexBuffer.data.map fun v => v.toSSDefaultVertex
  have hcluster : ∀ (s : SkinState K) (curCluster : FbxCluster K) (s' : SkinState K), Same s →
      clusterEntries cnt d.controlPointToSSIdxMap (curCluster.jointIdx bones) curCluster.entries s =
        some s' → Same s' := by
    intro s curCluster s' hs hentries
    refine foldlM_inv ?_ hs hentries
    intro s e s' hs hstep
    exact (clusterEntry_base hstep).trans hs
  have hlast : Same s := foldlM_inv hcluster rfl h
  exact hlast

end Skinned

section Result

variable {K V : Type} [Field K] [DecidableEq K]

/-- When a mesh without a tangent layer gets its tangents: told from the state before the loop, for
the meshes that the index passes can deal with, and from the mesh alone. The last two are for a size
of the vertex data that fits 32 bits: past it vertices are missing in `ssVertex`. -/
structure TangentsWhen (similar : V → V → Bool) (fbxMesh : FbxGeometry K)
    (extract : Nat → Nat → V) (base : V → SSDefaultVertex K) (eachVertexDataSize : Nat)
    (layout : IndexLayout) (ssVertex : List (SSDefaultVertex K)) : Prop where
  state : (loadTangents fbxMesh layout ssVertex).isSome ↔
    ∀ k, k < layout.subGeometryNum → layout.indexDataNum k % 3 = 0 ∧
      ∀ t, t < layout.indexDataNum k / 3 →
        GoodTriangle layout ssVertex (layout.indexDataStartIndex k + 3 * t)
  division : PassInput fbxMesh.toFbxMesh →
    eachVertexDataSize * keptCount similar fbxMesh.toFbxMesh extract < 2 ^ 32 →
    ((loadTangents fbxMesh layout ssVertex).isSome ↔
      ∀ k t, k < layout.subGeometryNum → t < layout.indexDataNum k / 3 → ∀ v0 v1 v2,
        TriangleAt layout ssVertex (layout.indexDataStartIndex k + 3 * t) v0 v1 v2 →
        uvDet v0 v1 v2 ≠ 0)
  fans : IndexesFit fbxMesh.toFbxMesh →
    eachVertexDataSize * keptCount similar fbxMesh.toFbxMesh extract < 2 ^ 32 →
    ((loadTangents fbxMesh layout ssVertex).isSome ↔
      FanUvGood similar fbxMesh.toFbxMesh extract base)

theorem tangentsWhen_of_represents {similar : V → V → Bool} {fbxMesh : FbxGeometry K}
    {extract : Nat → Nat → V} (base : V → SSDefaultVertex K) {s : DedupState V}
    {layout : IndexLayout} {eachVertexDataSize : Nat} (hsize : 0 < eachVertexDataSize)
    (hnone : fbxMesh.elementTangent = none)
    (hrep : Represents similar fbxMesh.toFbxMesh extract
      (corners fbxMesh.toFbxMesh fbxMesh.polygonCount) s)
    (hlayout : buildIndexData fbxMesh.toFbxMesh s.vtx = some layout) :
    TangentsWhen similar fbxMesh extract base eachVertexDataSize layout
      ((s.vertexData eachVertexDataSize).map base) := by
  have hload : ∀ ssVertex : List (SSDefaultVertex K), loadTangents fbxMesh layout ssVertex =
      calculateTangents layout ssVertex := by
    intro ssVertex
    rw [loadTangents, hnone]
  have hdata : eachVertexDataSize * keptCount similar fbxMesh.toFbxMesh extract < 2 ^ 32 →
      s.vertexData eachVertexDataSize = s.ssVertexBuffer.data := by
    intro hfit
    refine vertexData_eq s hsize ?_
    rw [vertexCnt_eq hrep]
    exact hfit
  have hpass : PassInput fbxMesh.toFbxMesh → layout = passLayout fbxMesh.toFbxMesh s.vtx := by
    intro hinput
    have hsub : fbxMesh.toFbxMesh.subGeometryNum < SUBGEOM_COUNT_MAX := by
      by_contra hsub
      rw [buildIndexData, if_neg hsub] at hlayout
      cases hlayout
    exact Option.some.inj (hlayout.symm.trans (buildIndexData_of_input s.vtx hinput hsub))
  constructor
  case state => rw [hload, calculateTangents_iff]
  case division =>
    intro hinput hbytes
    rw [hload, calculateTangents_iff, hpass hinput, hdata hbytes]
    exact passLayout_division_iff base hrep
  case fans =>
    intro hfit hbytes
    rw [hload, calculateTangents_iff, hpass hfit.toPassInput, hdata hbytes]
    exact passLayout_good_iff base hrep hfit.material_lt

end Result

section Importer

variable {K : Type} [Field K] [LinearOrder K]

/-- Both functions: a mesh without a tangent layer, whose index buffer could be made, gets its
tangents exactly where no triangle is degenerate in UV space. -/
theorem tangents_defined_iff (fbxMesh : FbxGeometry K) (sdk : FbxVectors K)
    (hnone : fbxMesh.elementTangent = none) :
    (∃ s, buildVertices areSimilarVertex fbxMesh.toFbxMesh
        (fun i j => extractVertex fbxMesh i j sdk) = some s ∧
      ∀ layout, buildIndexData fbxMesh.toFbxMesh s.vtx = some layout →
        TangentsWhen areSimilarVertex fbxMesh (fun i j => extractVertex fbxMesh i j sdk) id
          SSDefaultVertex.byteSize layout
          (copiedVertices s.ssVertexBuffer SSDefaultVertex.byteSize)) ∧
    ∃ d, buildVertices
        (fun lhs rhs => areSimilarVertex lhs.toSSDefaultVertex rhs.toSSDefaultVertex)
        fbxMesh.toFbxMesh (fun i j => extractSkinnedVertexWithoutSkinData fbxMesh i j sdk) =
          some d ∧
      ∀ bones skin s layout, clusterLoop fbxMesh.controlPointsCount bones skin d = some s →
        buildIndexData fbxMesh.toFbxMesh d.vtx = some layout →
        TangentsWhen
          (fun lhs rhs => areSimilarVertex lhs.toSSDefaultVertex rhs.toSSDefaultVertex) fbxMesh
          (fun i j => extractSkinnedVertexWithoutSkinData fbxMesh i j sdk)
          (fun v => v.toSSDefaultVertex) SSSkinnedVertex.byteSize layout
          ((copiedVertices s.ssVertexBuffer SSSkinnedVertex.byteSize).map
            fun v => v.toSSDefaultVertex) := by
  constructor
  · obtain ⟨s, hs, hrep⟩ := buildVertices_eq areSimilarVertex fbxMesh.toFbxMesh
      fun i j => extractVertex fbxMesh i j sdk
    refine ⟨s, hs, fun layout hlayout => ?_⟩
    have hwhen := tangentsWhen_of_represents id SSDefaultVertex.byteSize_pos hnone hrep hlayout
    rwa [List.map_id] at hwhen
  · obtain ⟨d, hd, hrep⟩ := buildVertices_eq
      (fun lhs rhs => areSimilarVertex lhs.toSSDefaultVertex rhs.toSSDefaultVertex)
      fbxMesh.toFbxMesh fun i j => extractSkinnedVertexWithoutSkinData fbxMesh i j sdk
    refine ⟨d, hd, fun bones skin s layout hs hlayout => ?_⟩
    rw [copiedVertices_base (clusterLoop_base hs)]
    exact tangentsWhen_of_represents _ SSSkinnedVertex.byteSize_pos hnone hrep hlayout

end Importer

/-! Two triangles: one without texture coordinates, and one with them. -/

section Accepted

variable {K : Type} [Field K] {similar : SSDefaultVertex K → SSDefaultVertex K → Bool}
  {fbxMesh : FbxGeometry K}

/-- All corners have one UV in a mesh without a UV layer. -/
theorem not_fanUvGood_of_noUv (sdk : FbxVectors K) (huv : fbxMesh.elementUV = []) {i : Nat}
    (hi : i < fbxMesh.polygonCount) (h3 : 3 ≤ fbxMesh.polygonSize i) :
    ¬ FanUvGood similar fbxMesh.toFbxMesh (fun i j => extractVertex fbxMesh i j sdk) id := by
  intro hgood
  have hzero : ∀ i j, (keptVertex similar fbxMesh.toFbxMesh
      (fun i j => extractVertex fbxMesh i j sdk) id i j).Uv 0 = ⟨0, 0⟩ := by
    intro i j
    simp only [keptVertex, id, extractVertex, extractUV, huv]
  refine hgood i 1 hi (Nat.le_refl 1) (by omega) ?_
  rw [uvDet_eq, hzero, hzero, hzero]
  ring

/-- Texture coordinates by control point are those of the corner itself. -/
theorem keptVertex_uv (sdk : FbxVectors K) {uv : FbxLayerElement (Vector2f K)}
    (huv : fbxMesh.elementUV = [uv]) (hmapping : uv.mappingMode = .eByControlPoint)
    (hreference : uv.referenceMode = .eDirect) {i j : Nat} (hc : fbxMesh.IsCorner i j) :
    (keptVertex similar fbxMesh.toFbxMesh (fun i j => extractVertex fbxMesh i j sdk) id i j).Uv 0 =
      ⟨(uv.directArray (fbxMesh.controlPoint i j)).X,
        1 - (uv.directArray (fbxMesh.controlPoint i j)).Y⟩ := by
  have hextract : ∀ i j, (extractVertex fbxMesh i j sdk).Uv 0 =
      ⟨(uv.directArray (fbxMesh.controlPoint i j)).X,
        1 - (uv.directArray (fbxMesh.controlPoint i j)).Y⟩ := by
    intro i j
    simp [extractVertex, extractUV, huv, uvVector, hmapping, hreference]
  have hcp := keptCorner_controlPoint similar (fun i j => extractVertex fbxMesh i j sdk) hc
  rw [keptVertex, id, hextract, hcp]

theorem indexesFit_allSame {mesh : FbxMesh} (hmap : mesh.mappedByPolygon = false)
    (hpos : 0 < mesh.subGeometryNum) (h2 : ∀ i, i < mesh.polygonCount → 2 ≤ mesh.polygonSize i)
    (htotal : mesh.indexTotal < 2 ^ 32) : IndexesFit mesh := by
  have hmaterial : ∀ i, mesh.material i = 0 := by
    intro i
    simp [FbxMesh.material, hmap]
  refine ⟨⟨?_, ?_, ?_⟩, ?_⟩
  · intro i hi
    exact (polygonInput_allSame hmap).mpr (h2 i hi)
  · have hle := start_le_total (fanItems mesh (fun _ _ => 0) mesh.polygonCount) mesh.subGeometryNum
    rw [start_eq_segmentTotal, total_fanItems] at hle
    exact Nat.lt_of_le_of_lt hle htotal
  · intro m hm
    have hne : (0 : Nat) ≠ m := by omega
    have hzero : mesh.indexCount m = 0 := by
      simp [FbxMesh.indexCount, hmaterial, hne]
    rw [hzero]
    exact Nat.zero_le _
  · intro i _
    rw [hmaterial]
    exact hpos

omit [Field K] in
theorem tangentsReady_passLayout (fbxMesh : FbxSceneMesh K) (vtx : Nat → Nat → Nat) :
    tangentsReady fbxMesh (passLayout fbxMesh.toFbxMesh vtx) = true := by
  rw [tangentsReady, Bool.or_eq_true]
  right
  rw [List.all_eq_true]
  intro k _
  exact decide_eq_true (Nat.mod_eq_zero_of_dvd (three_dvd_size vtx fbxMesh.polygonCount k))

end Accepted

theorem reversedTriangle_fit : IndexesFit reversedTriangle.toFbxMesh :=
  indexesFit_allSame rfl (by decide) (by decide) (by decide)

/-- Three vertices at most fit whatever they are. -/
theorem reversedTriangle_bytes {V : Type} (similar : V → V → Bool) (extract : Nat → Nat → V) :
    SSDefaultVertex.byteSize * keptCount similar reversedTriangle.toFbxMesh extract < 2 ^ 32 := by
  have hle : keptCount similar reversedTriangle.toFbxMesh extract ≤ 3 :=
    FirstFit.length_stored_le _ _
  calc SSDefaultVertex.byteSize * keptCount similar reversedTriangle.toFbxMesh extract
      ≤ SSDefaultVertex.byteSize * 3 := Nat.mul_le_mul_left _ hle
    _ < 2 ^ 32 := by decide

/-- A scene mesh without texture coordinates. -/
def plainTriangle : FbxSceneMesh ℚ :=
  { reversedTriangle with nodeName := "triangle", deformers := [] }

def plainContext : ImportContext ℚ := ⟨"scene", ⟨id, ⟨0, 0⟩⟩, fun _ => none⟩

/-- It is accepted, and its tangents are divided by zero. -/
theorem plainTriangle_divides_by_zero : plainTriangle.elementTangent = none ∧
    (generateGeometryFromFbxMesh plainContext plainTriangle).isSome ∧
    ∃ s layout, buildVertices areSimilarVertex plainTriangle.toFbxMesh
        (fun i j => extractVertex plainTriangle.toFbxGeometry i j plainContext.sdk) = some s ∧
      buildIndexData plainTriangle.toFbxMesh s.vtx = some layout ∧
      loadTangents plainTriangle.toFbxGeometry layout
        (copiedVertices s.ssVertexBuffer SSDefaultVertex.byteSize) = none := by
  obtain ⟨s, hs, hrep⟩ := buildVertices_eq areSimilarVertex plainTriangle.toFbxMesh
    fun i j => extractVertex plainTriangle.toFbxGeometry i j plainContext.sdk
  have hlayout := buildIndexData_of_input s.vtx reversedTriangle_fit.toPassInput (by decide)
  have hnone : plainTriangle.toFbxGeometry.elementTangent = none := rfl
  have hwhen := tangentsWhen_of_represents id SSDefaultVertex.byteSize_pos hnone hrep hlayout
  rw [List.map_id] at hwhen
  refine ⟨rfl, ?_, s, _, hs, hlayout, ?_⟩
  · rw [generateGeometryFromFbxMesh, hs, Option.bind_eq_bind, Option.bind_some, Option.bind_eq_bind]
    have hready := tangentsReady_passLayout plainTriangle s.vtx
    have hlayout : buildIndexData plainTriangle.toFbxMesh s.vtx =
        some (passLayout plainTriangle.toFbxMesh s.vtx) := hlayout
    rw [hlayout, Option.bind_some, finishGeometry, if_pos hready]
    rfl
  · have hbad : ¬ FanUvGood areSimilarVertex plainTriangle.toFbxMesh
        (fun i j => extractVertex plainTriangle.toFbxGeometry i j plainContext.sdk) id :=
      not_fanUvGood_of_noUv plainContext.sdk rfl (i := 0) (by decide) (by decide)
    rw [← hwhen.fans reversedTriangle_fit (reversedTriangle_bytes _ _)] at hbad
    exact Option.not_isSome_iff_eq_none.mp hbad

/-- The corners of the texture at the control points. -/
def cornerUv : FbxLayerElement (Vector2f ℚ) :=
  ⟨.eByControlPoint, .eDirect, fun n => if n = 1 then ⟨1, 0⟩ else if n = 2 then ⟨0, 1⟩ else ⟨0, 0⟩,
    fun n => n⟩

/-- With these texture coordinates the tangents are defined. -/
theorem tangents_defined_iff_corner_uv : ∃ s layout,
    buildVertices areSimilarVertex (uvTriangle [cornerUv]).toFbxMesh
      (fun i j => extractVertex (uvTriangle [cornerUv]) i j ⟨id, ⟨0, 0⟩⟩) = some s ∧
    buildIndexData (uvTriangle [cornerUv]).toFbxMesh s.vtx = some layout ∧
    (loadTangents (uvTriangle [cornerUv]) layout
      (copiedVertices s.ssVertexBuffer SSDefaultVertex.byteSize)).isSome := by
  obtain ⟨⟨s, hs, hwhen⟩, _⟩ := tangents_defined_iff (uvTriangle [cornerUv]) ⟨id, ⟨0, 0⟩⟩ rfl
  have hlayout := buildIndexData_of_input s.vtx reversedTriangle_fit.toPassInput (by decide)
  refine ⟨s, _, hs, hlayout,
    ((hwhen _ hlayout).fans reversedTriangle_fit (reversedTriangle_bytes _ _)).mpr ?_⟩
  intro i j hi hj1 hj
  have hi : i < 1 := hi
  obtain rfl : i = 0 := by omega
  have hj : j + 1 < 3 := hj
  obtain rfl : j = 1 := by omega
  have huv : ∀ k, k < 3 → (keptVertex areSimilarVertex (uvTriangle [cornerUv]).toFbxMesh
      (fun i j => extractVertex (uvTriangle [cornerUv]) i j ⟨id, ⟨0, 0⟩⟩) id 0 k).Uv 0 =
      ⟨(cornerUv.directArray ((uvTriangle [cornerUv]).controlPoint 0 k)).X,
        1 - (cornerUv.directArray ((uvTriangle [cornerUv]).controlPoint 0 k)).Y⟩ :=
    fun k hk => keptVertex_uv ⟨id, ⟨0, 0⟩⟩ rfl rfl rfl ⟨hi, hk⟩
  rw [uvDet_eq, huv 0 (by decide), huv 1 (by decide), huv 2 (by decide)]
  simp [cornerUv, uvTriangle, reversedTriangle, FbxMesh.controlPoint, FbxMesh.polygon]

end FBXRenderer
