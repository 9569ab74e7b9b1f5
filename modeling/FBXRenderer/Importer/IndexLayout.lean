import FBXRenderer.Importer.IndexData
import FBXRenderer.Lib.Scatter

/-!
# FBXRenderer.Importer.IndexLayout

The index buffer is laid out by a counting sort (`Scatter`): polygon `i` is an item whose key is
its material and whose block is its fan of triangles. Each loop of `buildIndexData` over the
first `n` polygons leaves what `Scatter` says of the first `n` items (`countByPolygon_eq`,
`countAllSame_eq`, `emitByPolygon_eq`, `emitAllSame_eq`), as long as the index total fits 32 bits.

`_subGeometryNum` is a `uint8`, so a node with 256 materials has none left: the assertion
passes, no segment exists, and the branch that puts everything under material 0 writes outside
the buffer. `index_layout_iff` says exactly when the layout is right.
-/

namespace FBXRenderer

open Scatter

/-- The indices of one fan, three for each step. -/
def fanBlock (tri : Nat → Nat × Nat × Nat) (polygonVertexCount : Nat) : List Nat :=
  (List.range' 1 (polygonVertexCount - 2)).flatMap fun j => [(tri j).1, (tri j).2.1, (tri j).2.2]

/-- The material a polygon counts under: 0 unless the layer is mapped `eByPolygon`. -/
def FbxMesh.material (mesh : FbxMesh) (i : Nat) : Nat :=
  if mesh.mappedByPolygon then (mesh.materialIndex i).toNat else 0

def fanTriangle (mesh : FbxMesh) (vtx : Nat → Nat → Nat) (i j : Nat) : Nat × Nat × Nat :=
  if mesh.mappedByPolygon then byPolygonTriangle vtx i j else allSameTriangle vtx i j

/-- The first `n` polygons: material and fan. -/
def fanItems (mesh : FbxMesh) (vtx : Nat → Nat → Nat) (n : Nat) : List (Nat × List Nat) :=
  (List.range n).map fun i =>
    (mesh.material i, fanBlock (fanTriangle mesh vtx i) (mesh.polygonSize i))

/-- The fan triangles of the polygons with material `m`, in polygon order. -/
def fanTriangles (mesh : FbxMesh) (vtx : Nat → Nat → Nat) (m : Nat) : List Nat :=
  bucket (fanItems mesh vtx mesh.polygonCount) m

/-- Number of indices of the mesh. -/
def FbxMesh.indexTotal (mesh : FbxMesh) : Nat :=
  ((List.range mesh.polygonCount).map fun i => 3 * (mesh.polygonSize i - 2)).sum

structure LaysOut (mesh : FbxMesh) (vtx : Nat → Nat → Nat) (a : IndexLayout) : Prop where
  first : 0 < a.subGeometryNum → a.indexDataStartIndex 0 = 0
  consecutive : ∀ m, m + 1 < a.subGeometryNum →
    a.indexDataStartIndex (m + 1) = a.indexDataStartIndex m + a.indexDataNum m
  disjoint : ∀ m m', m < m' → m' < a.subGeometryNum →
    a.indexDataStartIndex m + a.indexDataNum m ≤ a.indexDataStartIndex m'
  cover : ∀ x, x < a.wholeIndexDataNum ↔
    ∃ m, m < a.subGeometryNum ∧ a.indexDataStartIndex m ≤ x ∧
      x < a.indexDataStartIndex m + a.indexDataNum m
  once : (a.writes.map Prod.fst).Perm (List.range a.wholeIndexDataNum)
  segment : ∀ m, m < a.subGeometryNum →
    (List.range' (a.indexDataStartIndex m) (a.indexDataNum m)).map (lastWrite a.writes) =
      (fanTriangles mesh vtx m).map some
  counters : ∀ m, m < a.subGeometryNum → a.indexDataNum m = a.subMaterialIdxDataCounter m

/-- What the index code may assume of a mesh: polygons are polygons, and material indices are in
range where they are used. -/
structure FanInput (mesh : FbxMesh) : Prop where
  three_le : ∀ i, i < mesh.polygonCount → 3 ≤ mesh.polygonSize i
  material_lt : mesh.mappedByPolygon = true → ∀ i, i < mesh.polygonCount →
    0 ≤ mesh.materialIndex i ∧ mesh.materialIndex i < mesh.subGeometryNum

/-- The index total fits 32 bits as well. -/
structure IndexInput (mesh : FbxMesh) : Prop extends FanInput mesh where
  total_lt : mesh.indexTotal < 2 ^ 32

theorem fanBlock_length (tri : Nat → Nat × Nat × Nat) (k : Nat) :
    (fanBlock tri k).length = 3 * (k - 2) := by
  rw [fanBlock, List.length_flatMap]
  simp [Nat.mul_comm]

/-- The block of one more fan step. -/
theorem fanBlock_succ (tri : Nat → Nat × Nat × Nat) (t : Nat) :
    fanBlock tri (t + 1 + 2) = fanBlock tri (t + 2) ++
      [(tri (t + 1)).1, (tri (t + 1)).2.1, (tri (t + 1)).2.2] := by
  simp only [fanBlock, Nat.add_sub_cancel, List.range'_concat, List.flatMap_append,
    List.flatMap_cons, List.flatMap_nil, List.append_nil, Nat.one_mul]
  rw [Nat.add_comm 1 t]

section Loops

variable {mesh : FbxMesh} (vtx : Nat → Nat → Nat)

theorem fanItems_succ (n : Nat) :
    fanItems mesh vtx (n + 1) = fanItems mesh vtx n ++
      [(mesh.material n, fanBlock (fanTriangle mesh vtx n) (mesh.polygonSize n))] := by
  simp [fanItems, List.range_succ]

theorem size_fanItems_succ (n m : Nat) :
    size (fanItems mesh vtx (n + 1)) m = size (fanItems mesh vtx n) m +
      if mesh.material n = m then 3 * (mesh.polygonSize n - 2) else 0 := by
  rw [fanItems_succ, size, size, bucket_append, List.length_append]
  congr 1
  rw [bucket_cons]
  split <;> simp [bucket, fanBlock_length]

/-- One more polygon adds to the count of its material. -/
theorem size_fanItems_update (n : Nat) : size (fanItems mesh vtx (n + 1)) =
    Function.update (size (fanItems mesh vtx n)) (mesh.material n)
      (size (fanItems mesh vtx n) (mesh.material n) + 3 * (mesh.polygonSize n - 2)) := by
  funext m
  rw [size_fanItems_succ, Function.update_apply]
  by_cases hm : m = mesh.material n
  · rw [if_pos hm, if_pos hm.symm, hm]
  · rw [if_neg hm, if_neg (Ne.symm hm), Nat.add_zero]

theorem total_fanItems (n : Nat) :
    total (fanItems mesh vtx n) =
      ((List.range n).map fun i => 3 * (mesh.polygonSize i - 2)).sum := by
  simp [total, fanItems, fanBlock_length, Function.comp_def]

theorem total_fanItems_succ (n : Nat) :
    total (fanItems mesh vtx (n + 1)) =
      total (fanItems mesh vtx n) + 3 * (mesh.polygonSize n - 2) := by
  rw [fanItems_succ, total_append]
  simp [total, fanBlock_length]

variable (mesh) in
theorem total_fanItems_mono : Monotone fun n => total (fanItems mesh vtx n) := by
  refine monotone_nat_of_le_succ fun n => ?_
  rw [total_fanItems_succ]
  omega

theorem total_fanItems_lt (h : IndexInput mesh) {n : Nat} (hn : n ≤ mesh.polygonCount) :
    total (fanItems mesh vtx n) < 2 ^ 32 := by
  have h1 : total (fanItems mesh vtx n) ≤ total (fanItems mesh vtx mesh.polygonCount) :=
    total_fanItems_mono mesh vtx hn
  have h2 : total (fanItems mesh vtx mesh.polygonCount) = mesh.indexTotal := total_fanItems vtx _
  have := h.total_lt
  omega

/-- The counting pass after `n` polygons, `eByPolygon` branch. -/
theorem countByPolygon_eq (h : IndexInput mesh) (hsub : mesh.subGeometryNum < SUBGEOM_COUNT_MAX)
    (hmap : mesh.mappedByPolygon = true) :
    ∀ n, n ≤ mesh.polygonCount →
      countByPolygon mesh n = some (size (fanItems mesh vtx n)) := by
  intro n
  induction n with
  | zero => intro _; rfl
  | succ n ih =>
    intro hn
    obtain ⟨h0, hlt⟩ := h.material_lt hmap n (by omega)
    have hsub16 : mesh.subGeometryNum < 16 := hsub
    have hidx : toUint8 (mesh.materialIndex n) = mesh.material n := by
      rw [toUint8_eq h0 (by omega), FbxMesh.material, if_pos hmap]
    have hk : mesh.material n < SUBGEOM_COUNT_MAX := by
      rw [FbxMesh.material, if_pos hmap, SUBGEOM_COUNT_MAX]; omega
    have h3 := h.three_le n (by omega)
    have htot := total_fanItems_lt vtx h hn
    rw [total_fanItems_succ] at htot
    have hsz := size_le_total (fanItems mesh vtx n) (mesh.material n)
    have hval : toUint32 ((size (fanItems mesh vtx n) (mesh.material n) : Int) +
        ((mesh.polygonSize n : Int) - 2) * 3) =
        size (fanItems mesh vtx n) (mesh.material n) + 3 * (mesh.polygonSize n - 2) := by
      rw [toUint32_eq (by omega) (by omega)]; omega
    rw [countByPolygon_succ (ih (by omega)) hidx hk, hval, size_fanItems_update]

/-- The sum of the other branch after `n` polygons, before it is multiplied by 3. -/
theorem countAllSame_sum (h : IndexInput mesh) (hmap : mesh.mappedByPolygon = false) :
    ∀ n, n ≤ mesh.polygonCount →
      3 * (List.range n).foldl (fun sum i =>
        toUint32 (sum + ((mesh.polygonSize i : Int) - 2))) 0 = size (fanItems mesh vtx n) 0 := by
  intro n
  induction n with
  | zero => intro _; rfl
  | succ n ih =>
    intro hn
    have hprev := ih (by omega)
    rw [List.range_succ, List.foldl_append]
    simp only [List.foldl_cons, List.foldl_nil]
    have h3 := h.three_le n (by omega)
    have htot := total_fanItems_lt vtx h hn
    rw [total_fanItems_succ] at htot
    have hsz := size_le_total (fanItems mesh vtx n) 0
    have hmat : mesh.material n = 0 := by simp [FbxMesh.material, hmap]
    rw [size_fanItems_succ, if_pos hmat, toUint32_eq (by omega) (by omega)]
    omega

theorem size_fanItems_allSame (hmap : mesh.mappedByPolygon = false) {m : Nat} (hm : m ≠ 0) :
    ∀ n, size (fanItems mesh vtx n) m = 0 := by
  intro n
  induction n with
  | zero => rfl
  | succ n ih =>
    have hmat : mesh.material n = 0 := by simp [FbxMesh.material, hmap]
    rw [size_fanItems_succ, ih, hmat, if_neg (fun e => hm e.symm)]

theorem countAllSame_eq (h : IndexInput mesh) (hmap : mesh.mappedByPolygon = false) :
    countAllSame mesh mesh.polygonCount = size (fanItems mesh vtx mesh.polygonCount) := by
  have hsum := countAllSame_sum vtx h hmap mesh.polygonCount (Nat.le_refl _)
  have htot := total_fanItems_lt vtx h (Nat.le_refl _)
  have hsz := size_le_total (fanItems mesh vtx mesh.polygonCount) 0
  unfold countAllSame
  funext m
  by_cases hm : m = 0
  · subst hm
    simp only [Function.update_self]
    rw [← hsum] at hsz ⊢
    rw [toUint32_natCast (by omega)]
    omega
  · rw [Function.update_of_ne hm, size_fanItems_allSame vtx hmap hm]

theorem countIndexData_eq (h : IndexInput mesh)
    (hsub : mesh.subGeometryNum < SUBGEOM_COUNT_MAX) :
    countIndexData mesh = some (size (fanItems mesh vtx mesh.polygonCount)) := by
  unfold countIndexData
  by_cases hmap : mesh.mappedByPolygon = true
  · rw [if_pos hmap, countByPolygon_eq vtx h hsub hmap _ (Nat.le_refl _)]
  · rw [if_neg hmap, countAllSame_eq vtx h (by simpa using hmap)]

/-- The prefix sums. -/
theorem startIndices_eq (items : List (Nat × List Nat)) (htot : total items < 2 ^ 32) :
    ∀ k, startIndices (size items) k =
      (fun m => if m < k then start items m else 0, start items k) := by
  intro k
  induction k with
  | zero =>
    have : (fun m : Nat => if m < 0 then start items m else 0) = fun _ => 0 := by
      funext m; rw [if_neg (by omega)]
    rw [this]; rfl
  | succ k ih =>
    unfold startIndices at ih ⊢
    rw [List.range_succ, List.foldl_append, ih]
    simp only [List.foldl_cons, List.foldl_nil]
    have hle := start_le_total items (k + 1)
    have hlt : start items k + size items k < 2 ^ 32 := Nat.lt_of_le_of_lt hle htot
    rw [toUint32_natCast hlt]
    refine Prod.ext ?_ rfl
    funext m
    simp only [Function.update_apply]
    rcases Nat.lt_trichotomy m k with hm | rfl | hm
    · rw [if_neg (by omega), if_pos hm, if_pos (by omega)]
    · rw [if_pos rfl, if_pos (by omega)]
    · rw [if_neg (by omega), if_neg (by omega), if_neg (by omega)]

/-- `t` steps of a fan write the block at the cursor, which advances by `3 * t`. -/
theorem emitFan_steps (base k : Nat) (tri : Nat → Nat × Nat × Nat) (s : EmitState) :
    ∀ t, base + s.counter k + 3 * t < 2 ^ 32 →
      (List.range' 1 t).foldl (fun s j => emitTriangle base k (tri j) s) s =
        { writes := s.writes ++ blockWrites (base + s.counter k) (fanBlock tri (t + 2))
          counter := Function.update s.counter k (s.counter k + 3 * t) } := by
  intro t
  induction t with
  | zero => intro _; simp [fanBlock, blockWrites]
  | succ t ih =>
    intro hlt
    rw [List.range'_concat, List.foldl_append, ih (by omega)]
    simp only [List.foldl_cons, List.foldl_nil, emitTriangle, Function.update_self]
    rw [fanBlock_succ, blockWrites_append, fanBlock_length, toUint32_natCast (by omega),
      toUint32_natCast (by omega), toUint32_natCast (by omega), toUint32_natCast (by omega)]
    simp only [Nat.add_sub_cancel, blockWrites, List.append_assoc, Nat.one_mul,
      Function.update_idem]
    congr 2
    simp only [Nat.add_assoc, Nat.reduceAdd, Nat.add_comm 1 t]

theorem emitFan_eq (base k : Nat) (tri : Nat → Nat × Nat × Nat) (s : EmitState) {sz : Nat}
    (h3 : 3 ≤ sz) (hsz : sz < 2 ^ 31) (hlt : base + s.counter k + 3 * (sz - 2) < 2 ^ 32) :
    emitFan base k sz tri s =
      { writes := s.writes ++ blockWrites (base + s.counter k) (fanBlock tri sz)
        counter := Function.update s.counter k (s.counter k + (fanBlock tri sz).length) } := by
  have hstep := emitFan_steps base k tri s (sz - 2) hlt
  have e : sz - 2 + 2 = sz := by omega
  rw [emitFan, fanBound_sub_one h3 hsz, hstep, fanBlock_length, e]

variable (mesh) in
theorem size_fanItems_mono (m : Nat) : Monotone fun n => size (fanItems mesh vtx n) m := by
  refine monotone_nat_of_le_succ fun n => ?_
  rw [size_fanItems_succ]
  omega

/-- One polygon of the emission pass, in either branch. -/
theorem emitFan_polygon {n k : Nat} (st : Nat → Nat) (hk : mesh.material n = k)
    (h3 : 3 ≤ mesh.polygonSize n) (hlt : st k + size (fanItems mesh vtx (n + 1)) k < 2 ^ 32) :
    emitFan (st k) k (mesh.polygonSize n) (fanTriangle mesh vtx n)
        ⟨scatter st (fun _ => 0) (fanItems mesh vtx n), size (fanItems mesh vtx n)⟩ =
      ⟨scatter st (fun _ => 0) (fanItems mesh vtx (n + 1)), size (fanItems mesh vtx (n + 1))⟩ := by
  rw [size_fanItems_succ, if_pos hk] at hlt
  rw [emitFan_eq _ _ _ _ h3 (mesh.polygonSize_lt n) (by simpa [Nat.add_assoc] using hlt)]
  congr 1
  · rw [fanItems_succ, scatter_append, hk]
    simp [scatter]
  · rw [size_fanItems_update, fanBlock_length, hk]

theorem emitByPolygon_eq (h : IndexInput mesh) (hsub : mesh.subGeometryNum < SUBGEOM_COUNT_MAX)
    (hmap : mesh.mappedByPolygon = true)
    {st : Nat → Nat}
    (hst : ∀ m, m < mesh.subGeometryNum → st m = start (fanItems mesh vtx mesh.polygonCount) m) :
    ∀ n, n ≤ mesh.polygonCount →
      emitByPolygon mesh vtx st n =
        some ⟨scatter st (fun _ => 0) (fanItems mesh vtx n), size (fanItems mesh vtx n)⟩ := by
  intro n
  induction n with
  | zero => intro _; rfl
  | succ n ih =>
    intro hn
    obtain ⟨h0, hlt⟩ := h.material_lt hmap n (by omega)
    have hsub16 : mesh.subGeometryNum < 16 := hsub
    have hkey : mesh.material n = (mesh.materialIndex n).toNat := by
      rw [FbxMesh.material, if_pos hmap]
    have hidx : toUint32 (mesh.materialIndex n) = mesh.material n := by
      rw [hkey, toUint32_eq h0 (by omega)]
    have hk : mesh.material n < mesh.subGeometryNum := by omega
    have htri : fanTriangle mesh vtx n = byPolygonTriangle vtx n := by
      funext j; rw [fanTriangle, if_pos hmap]
    have hbound : st (mesh.material n) + size (fanItems mesh vtx (n + 1)) (mesh.material n) <
        2 ^ 32 := by
      have h1 : size (fanItems mesh vtx (n + 1)) (mesh.material n) ≤
          size (fanItems mesh vtx mesh.polygonCount) (mesh.material n) :=
        size_fanItems_mono mesh vtx (mesh.material n) hn
      have h2 := start_add_size_le (fanItems mesh vtx mesh.polygonCount) hk
      have h3 := start_le_total (fanItems mesh vtx mesh.polygonCount) mesh.subGeometryNum
      have h4 := total_fanItems_lt vtx h (Nat.le_refl _)
      rw [hst _ hk]; omega
    have hk16 : mesh.material n < SUBGEOM_COUNT_MAX := Nat.lt_trans hk hsub
    rw [emitByPolygon_succ (ih (by omega)) hidx hk16, ← htri,
      emitFan_polygon vtx st rfl (h.three_le n (by omega)) hbound]

theorem emitAllSame_eq (h : IndexInput mesh) (hmap : mesh.mappedByPolygon = false) :
    ∀ n, n ≤ mesh.polygonCount →
      emitAllSame mesh vtx n =
        ⟨scatter (fun _ => 0) (fun _ => 0) (fanItems mesh vtx n), size (fanItems mesh vtx n)⟩ := by
  intro n
  induction n with
  | zero => intro _; rfl
  | succ n ih =>
    intro hn
    have hk : mesh.material n = 0 := by rw [FbxMesh.material, hmap]; rfl
    have htri : fanTriangle mesh vtx n = allSameTriangle vtx n := by
      funext j; rw [fanTriangle, hmap]; rfl
    have hbound : 0 + size (fanItems mesh vtx (n + 1)) 0 < 2 ^ 32 := by
      have h1 := size_le_total (fanItems mesh vtx (n + 1)) 0
      have h2 := total_fanItems_lt vtx h hn
      omega
    rw [emitAllSame_succ, ih (by omega), ← htri]
    exact emitFan_polygon vtx (fun _ => 0) hk (h.three_le n (by omega)) hbound

end Loops

/-- The asset the two passes build when every polygon has a segment. -/
def scatterLayout (mesh : FbxMesh) (vtx : Nat → Nat → Nat) : IndexLayout :=
  let items := fanItems mesh vtx mesh.polygonCount
  { subGeometryNum := mesh.subGeometryNum
    indexDataNum := size items
    indexDataStartIndex := fun m => if m < mesh.subGeometryNum then start items m else 0
    wholeIndexDataNum := start items mesh.subGeometryNum
    writes := scatter (start items) (fun _ => 0) items
    subMaterialIdxDataCounter := size items }

theorem fanItems_key_lt {mesh : FbxMesh} (vtx : Nat → Nat → Nat) (h : FanInput mesh)
    (hseg : mesh.mappedByPolygon = true ∨ mesh.polygons = [] ∨ 0 < mesh.subGeometryNum) :
    ∀ it ∈ fanItems mesh vtx mesh.polygonCount, it.1 < mesh.subGeometryNum := by
  intro it hit
  obtain ⟨i, hi, rfl⟩ := List.mem_map.mp hit
  have hi : i < mesh.polygonCount := List.mem_range.mp hi
  simp only [FbxMesh.material]
  by_cases hmap : mesh.mappedByPolygon = true
  · obtain ⟨h0, hlt⟩ := h.material_lt hmap i hi
    rw [if_pos hmap]; omega
  · rw [if_neg hmap]
    rcases hseg with h1 | h1 | h1
    · exact absurd h1 hmap
    · simp [FbxMesh.polygonCount, h1] at hi
    · exact h1

theorem buildIndexData_eq {mesh : FbxMesh} (vtx : Nat → Nat → Nat) (h : IndexInput mesh)
    (hsub : mesh.subGeometryNum < SUBGEOM_COUNT_MAX)
    (hseg : mesh.mappedByPolygon = true ∨ mesh.polygons = [] ∨ 0 < mesh.subGeometryNum) :
    buildIndexData mesh vtx = some (scatterLayout mesh vtx) := by
  have htot := total_fanItems_lt vtx h (Nat.le_refl mesh.polygonCount)
  have hkeys := fanItems_key_lt vtx h.toFanInput hseg
  have hemit : emitIndexData mesh vtx (fun m => if m < mesh.subGeometryNum then
      start (fanItems mesh vtx mesh.polygonCount) m else 0) =
      some ⟨(scatterLayout mesh vtx).writes, size (fanItems mesh vtx mesh.polygonCount)⟩ := by
    unfold emitIndexData
    by_cases hmap : mesh.mappedByPolygon = true
    · rw [if_pos hmap, emitByPolygon_eq vtx h hsub hmap (fun m hm => if_pos hm) _ (Nat.le_refl _)]
      congr 2
      exact scatter_congr _ _ fun it hit => if_pos (hkeys it hit)
    · have hmap' : mesh.mappedByPolygon = false := by simpa using hmap
      rw [if_neg hmap, emitAllSame_eq vtx h hmap' _ (Nat.le_refl _)]
      congr 2
      refine scatter_congr _ _ fun it hit => ?_
      obtain ⟨i, _, rfl⟩ := List.mem_map.mp hit
      simp [FbxMesh.material, hmap', start]
  unfold buildIndexData
  rw [if_pos hsub, countIndexData_eq vtx h hsub]
  simp only [startIndices_eq _ htot, hemit]
  rw [if_pos (fun _ _ => trivial)]
  rfl

theorem scatterLayout_laysOut {mesh : FbxMesh} (vtx : Nat → Nat → Nat) (h : IndexInput mesh)
    (hseg : mesh.mappedByPolygon = true ∨ mesh.polygons = [] ∨ 0 < mesh.subGeometryNum) :
    LaysOut mesh vtx (scatterLayout mesh vtx) := by
  have hkeys := fanItems_key_lt vtx h.toFanInput hseg
  refine ⟨?_, ?_, ?_, ?_, ?_, ?_, ?_⟩
  · intro h0
    exact if_pos h0
  · intro m hm
    have hm : m + 1 < mesh.subGeometryNum := hm
    show (if m + 1 < mesh.subGeometryNum then _ else _) =
      (if m < mesh.subGeometryNum then _ else _) + _
    rw [if_pos hm, if_pos (Nat.lt_of_succ_lt hm)]
    rfl
  · intro m m' hmm hm'
    have hm' : m' < mesh.subGeometryNum := hm'
    show (if m < mesh.subGeometryNum then _ else _) + _ ≤
      (if m' < mesh.subGeometryNum then _ else _)
    rw [if_pos (Nat.lt_trans hmm hm'), if_pos hm']
    exact start_add_size_le _ hmm
  · intro x
    have hrange := range_eq_segments (fanItems mesh vtx mesh.polygonCount) mesh.subGeometryNum
    have hmem : x ∈ List.range (start (fanItems mesh vtx mesh.polygonCount) mesh.subGeometryNum) ↔
        x < (scatterLayout mesh vtx).wholeIndexDataNum := List.mem_range
    rw [← hmem, ← hrange, List.mem_flatMap]
    constructor
    · rintro ⟨m, hm, hx⟩
      have hm : m < mesh.subGeometryNum := List.mem_range.mp hm
      rw [List.mem_range'_1] at hx
      refine ⟨m, hm, ?_⟩
      simpa [scatterLayout, if_pos hm] using hx
    · rintro ⟨m, hm, hx⟩
      have hm : m < mesh.subGeometryNum := hm
      refine ⟨m, List.mem_range.mpr hm, ?_⟩
      rw [List.mem_range'_1]
      simpa [scatterLayout, if_pos hm] using hx
  · exact scatter_addresses _ _ hkeys
  · intro m hm
    have hm : m < mesh.subGeometryNum := hm
    have hread := scatter_read hkeys hm
    simpa [scatterLayout, if_pos hm, fanTriangles] using hread
  · intro m _
    rfl

/-- With no segment at all the other branch still writes its triangles, outside the buffer. -/
theorem not_laysOut_of_no_segment {mesh : FbxMesh} {vtx : Nat → Nat → Nat} (h : IndexInput mesh)
    (hmap : mesh.mappedByPolygon = false) (hsub : mesh.subGeometryNum = 0)
    (hpoly : mesh.polygons ≠ []) {a : IndexLayout} (ha : buildIndexData mesh vtx = some a) :
    ¬ LaysOut mesh vtx a := by
  intro hl
  unfold buildIndexData at ha
  have hlt : mesh.subGeometryNum < SUBGEOM_COUNT_MAX := by rw [hsub]; decide
  rw [if_pos hlt, countIndexData_eq vtx h hlt, hsub] at ha
  simp only [emitIndexData, hmap, emitAllSame_eq vtx h hmap _ (Nat.le_refl _)] at ha
  simp only [Bool.false_eq_true, if_false] at ha
  rw [if_pos (fun _ _ => trivial)] at ha
  cases ha
  have hlen := hl.once.length_eq
  simp only [List.length_map, List.length_range, scatter_length, total_fanItems] at hlen
  have hpos : 0 < mesh.polygonCount := List.length_pos_iff.mpr hpoly
  have h3 := h.three_le 0 hpos
  have hmem : 3 * (mesh.polygonSize 0 - 2) ∈
      (List.range mesh.polygonCount).map fun i => 3 * (mesh.polygonSize i - 2) :=
    List.mem_map.mpr ⟨0, List.mem_range.mpr hpos, rfl⟩
  have hle := List.le_sum_of_mem hmem
  rw [hlen] at hle
  simp [startIndices] at hle
  omega

/-- The index buffer is laid out as intended exactly when there are fewer than 16 sub-geometries
and, where all polygons count under material 0, at least one of them. -/
theorem index_layout_iff (mesh : FbxMesh) (vtx : Nat → Nat → Nat) (h : IndexInput mesh) :
    (∃ a, buildIndexData mesh vtx = some a ∧ LaysOut mesh vtx a) ↔
      mesh.subGeometryNum < SUBGEOM_COUNT_MAX ∧
        (mesh.mappedByPolygon = true ∨ mesh.polygons = [] ∨ 0 < mesh.subGeometryNum) := by
  constructor
  · rintro ⟨a, ha, hl⟩
    have hsub : mesh.subGeometryNum < SUBGEOM_COUNT_MAX := by
      by_contra hge
      simp [buildIndexData, hge] at ha
    refine ⟨hsub, ?_⟩
    by_contra hseg
    rw [not_or, not_or] at hseg
    obtain ⟨hmap, hpoly, hzero⟩ := hseg
    exact not_laysOut_of_no_segment h (by simpa using hmap) (by omega) hpoly ha hl
  · rintro ⟨hsub, hseg⟩
    exact ⟨_, buildIndexData_eq vtx h hsub hseg, scatterLayout_laysOut vtx h hseg⟩

/-- One triangle over three control points. -/
def triangleMesh (elementMaterial : Option FbxGeometryElementMaterial)
    (nodeMaterialCount : Nat) : FbxMesh where
  controlPointsCount := 3
  polygons := [[0, 1, 2]]
  elementMaterial := elementMaterial
  nodeMaterialCount := nodeMaterialCount
  corner_lt := by decide
  polygonVertexCount_lt := FbxMesh.three_lt
  controlPointsCount_lt := FbxMesh.three_lt

theorem triangleMesh_input (n : Nat) : IndexInput (triangleMesh none n) where
  three_le i hi := by
    have hi : i = 0 := Nat.lt_one_iff.mp hi
    subst hi
    exact Nat.le_refl 3
  material_lt h := by cases h
  total_lt := by show (3 : Nat) < 2 ^ 32; decide

theorem not_laid_out_256_materials : IndexInput (triangleMesh none 256) ∧
    ¬ ∃ a, buildIndexData (triangleMesh none 256) (fun _ j => j) = some a ∧
      LaysOut (triangleMesh none 256) (fun _ j => j) a := by
  refine ⟨triangleMesh_input 256, ?_⟩
  rintro ⟨a, ha, hl⟩
  exact not_laysOut_of_no_segment (triangleMesh_input 256) rfl rfl (by decide) ha hl

/-- A triangle with material 1, then a quad with material 0. -/
def mixedMesh : FbxMesh where
  controlPointsCount := 5
  polygons := [[0, 1, 2], [0, 2, 3, 4]]
  elementMaterial := some ⟨.eByPolygon, fun i => if i = 0 then 1 else 0⟩
  nodeMaterialCount := 2
  corner_lt := by decide
  polygonVertexCount_lt := by decide
  controlPointsCount_lt := by decide

theorem mixedMesh_input : IndexInput mixedMesh where
  three_le := by decide
  material_lt := by decide
  total_lt := by decide

theorem index_layout_iff_two_materials :
    ∃ a, buildIndexData mixedMesh (fun i j => 4 * i + j) = some a ∧
      LaysOut mixedMesh (fun i j => 4 * i + j) a :=
  (index_layout_iff _ _ mixedMesh_input).mpr ⟨by decide, Or.inl rfl⟩

end FBXRenderer
