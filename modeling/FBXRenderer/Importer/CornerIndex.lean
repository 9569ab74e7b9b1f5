import FBXRenderer.Importer.Dedup
import FBXRenderer.Importer.FanValues
import FBXRenderer.Lib.FirstFit

/-!
# FBXRenderer.Importer.CornerIndex

The vertex loop is a first-fit clustering of the corners of the mesh (`FirstFit`): a corner fits
another one with the same control point and a similar vertex. `Represents` ties the three lists of
the loop to the kept corners; one corner preserves it (`dedupCorner_step`), so a whole polygon and
the whole mesh do. The similarity is an arbitrary relation.

* `corner_index`: the index stored for a corner names the vertex of a corner with the same control
  point, and every fan triangle is written with these indices.
* `vertices_partitioned`: the lists of the control points share out the vertices, each increasing
  and without a vertex that is similar to an earlier one.
-/

namespace FBXRenderer

open SS FirstFit Scatter

section Clustering

variable {V : Type} (similar : V → V → Bool) (mesh : FbxMesh) (extract : Nat → Nat → V)

/-- `c` is given to the kept corner `s`: it is `s`, or has its control point and a similar
vertex. -/
def sameVertex (s c : Nat × Nat) : Bool :=
  s = c || (decide (mesh.controlPoint s.1 s.2 = mesh.controlPoint c.1 c.2) &&
    similar (extract s.1 s.2) (extract c.1 c.2))

/-- The first `j` corners of polygon `i`. -/
def cornerRow (i j : Nat) : List (Nat × Nat) := (List.range j).map fun k => (i, k)

/-- The corners of the first `n` polygons, in loop order. -/
def corners (n : Nat) : List (Nat × Nat) :=
  (List.range n).flatMap fun i => cornerRow i (mesh.polygonSize i)

/-- The corners whose vertices are in the buffer after the corners in `done`. -/
def kept (done : List (Nat × Nat)) : List (Nat × Nat) :=
  stored (sameVertex similar mesh extract) done

/-- The index of corner `c` among the kept corners. -/
def keptIndex (done : List (Nat × Nat)) (c : Nat × Nat) : Nat :=
  index (sameVertex similar mesh extract) (kept similar mesh extract done) c

structure Represents (done : List (Nat × Nat)) (s : DedupState V) : Prop where
  buffer : s.ssVertexBuffer.data = (kept similar mesh extract done).map fun c => extract c.1 c.2
  buffer_cap : 0 < mesh.controlPointsCount → 0 < s.ssVertexBuffer.capacity
  idxMap : ∀ cp, (s.controlPointToSSIdxMap cp).data =
    (kept similar mesh extract done).findIdxs fun c => mesh.controlPoint c.1 c.2 = cp
  idxMap_cap : ∀ cp, 0 < (s.controlPointToSSIdxMap cp).capacity
  index : ∀ c ∈ done, ∃ k,
    (s.polygonVertexToCtrlPointMap c.1).data[c.2]? = some (mesh.controlPoint c.1 c.2, k) ∧
    (s.controlPointToSSIdxMap (mesh.controlPoint c.1 c.2)).data[k]? =
      some (keptIndex similar mesh extract done c)

theorem sameVertex_refl (c : Nat × Nat) : sameVertex similar mesh extract c c = true := by
  unfold sameVertex
  rw [decide_eq_true rfl, Bool.true_or]

end Clustering

section Step

variable {V : Type} {similar : V → V → Bool} {mesh : FbxMesh} {extract : Nat → Nat → V}

theorem findSimilar_eq {buffer : PooledList V} {x : V} {P : Nat → Bool} :
    ∀ (l : List Nat) (k : Nat),
      (∀ n ∈ l, ∃ v, buffer.get n = some v ∧ similar v x = P n) →
      findSimilar similar buffer x l k = some ((l.findIdx? P).map (· + k)) := by
  intro l
  induction l with
  | nil => intro k _; rfl
  | cons n l ih =>
    intro k h
    obtain ⟨v, hget, hP⟩ := h n (List.mem_cons_self ..)
    unfold findSimilar
    rw [hget, List.findIdx?_cons]
    by_cases hs : P n = true
    · simp [hP, hs]
    · have hrest := ih (k + 1) fun m hm => h m (List.mem_cons_of_mem _ hm)
      simp only [hP, hs, hrest, Bool.false_eq_true, if_false, Option.map_map]
      congr 2
      funext m
      simp only [Function.comp_apply]
      omega

/-- A corner that was not seen is compared by control point and similarity only. -/
theorem keptIndex_new {done : List (Nat × Nat)} {c : Nat × Nat} (hnew : c ∉ done) :
    keptIndex similar mesh extract done c = (kept similar mesh extract done).findIdx fun s =>
      decide (mesh.controlPoint s.1 s.2 = mesh.controlPoint c.1 c.2) &&
        similar (extract s.1 s.2) (extract c.1 c.2) := by
  refine index_congr _ fun s hs => ?_
  have hne : s ≠ c := fun e => hnew (e ▸ mem_of_mem_stored _ hs)
  unfold sameVertex
  rw [decide_eq_false hne, Bool.false_or]

/-- The search through the list of a control point is the search over all kept corners. -/
theorem findSimilar_represents {done : List (Nat × Nat)} {s : DedupState V}
    (h : Represents similar mesh extract done s) {i j : Nat} (hnew : (i, j) ∉ done) :
    ∃ found,
      findSimilar similar s.ssVertexBuffer (extract i j)
        (s.controlPointToSSIdxMap (mesh.controlPoint i j)).data 0 = some found ∧
      (found = none → keptIndex similar mesh extract done (i, j) =
        (kept similar mesh extract done).length) ∧
      (∀ k, found = some k →
        (s.controlPointToSSIdxMap (mesh.controlPoint i j)).data[k]? =
          some (keptIndex similar mesh extract done (i, j)) ∧
        keptIndex similar mesh extract done (i, j) < (kept similar mesh extract done).length) := by
  have hread : ∀ n ∈ (s.controlPointToSSIdxMap (mesh.controlPoint i j)).data,
      ∃ v, s.ssVertexBuffer.get n = some v ∧ similar v (extract i j) =
        ((kept similar mesh extract done)[n]?.any fun c =>
          similar (extract c.1 c.2) (extract i j)) := by
    intro n hn
    rw [h.idxMap] at hn
    obtain ⟨hlt, _⟩ := List.mem_findIdxs_iff_exists_getElem_pos.mp hn
    have hlt' : n < s.ssVertexBuffer.data.length := by rw [h.buffer, List.length_map]; exact hlt
    refine ⟨_, PooledList.get_of_lt hlt', ?_⟩
    simp only [h.buffer, List.getElem_map, List.getElem?_eq_getElem hlt, Option.any_some]
  refine ⟨_, findSimilar_eq _ 0 hread, ?_, ?_⟩
  · intro hnone
    rw [Option.map_eq_none_iff, h.idxMap] at hnone
    rw [keptIndex_new hnew]
    exact findIdxs_none hnone
  · intro k hk
    rw [h.idxMap] at hk ⊢
    obtain ⟨k', hk', rfl⟩ := Option.map_eq_some_iff.mp hk
    rw [keptIndex_new hnew]
    exact findIdxs_first hk'

theorem kept_concat (done : List (Nat × Nat)) (c : Nat × Nat) :
    kept similar mesh extract (done ++ [c]) =
      keep (sameVertex similar mesh extract) (kept similar mesh extract done) c :=
  stored_concat _ done c

theorem keptIndex_append {done : List (Nat × Nat)} {c : Nat × Nat} (hc : c ∈ done)
    (rest : List (Nat × Nat)) :
    keptIndex similar mesh extract (done ++ rest) c = keptIndex similar mesh extract done c :=
  index_stored_append (sameVertex_refl similar mesh extract) rest hc

theorem keptIndex_concat (done : List (Nat × Nat)) (c : Nat × Nat) :
    keptIndex similar mesh extract (done ++ [c]) c = keptIndex similar mesh extract done c := by
  unfold keptIndex
  rw [kept_concat]
  exact (index_keep (sameVertex_refl similar mesh extract) _ c).1

/-- What the corner loop leaves alone: the lists of the other polygons, and the room that the
list of polygon `i` was given. -/
structure RowStep (i : Nat) (s s' : DedupState V) : Prop where
  length : (s'.polygonVertexToCtrlPointMap i).data.length =
    (s.polygonVertexToCtrlPointMap i).data.length + 1
  capacity : (s'.polygonVertexToCtrlPointMap i).capacity =
    (s.polygonVertexToCtrlPointMap i).capacity
  others : ∀ i', i' ≠ i → s'.polygonVertexToCtrlPointMap i' = s.polygonVertexToCtrlPointMap i'

/-- The lists of the corners seen so far, after one more entry for corner `(i, j)`. -/
theorem index_extended {done : List (Nat × Nat)} {s : DedupState V}
    (h : Represents similar mesh extract done s) {i j k : Nat}
    (hlen : (s.polygonVertexToCtrlPointMap i).data.length = j)
    {pv : PooledList (Nat × Nat)} {idx : Nat → PooledList Nat}
    (hpv : pv.data = (s.polygonVertexToCtrlPointMap i).data ++ [(mesh.controlPoint i j, k)])
    (hidx : ∀ cp, (s.controlPointToSSIdxMap cp).data <+: (idx cp).data)
    (hk : (idx (mesh.controlPoint i j)).data[k]? =
      some (keptIndex similar mesh extract done (i, j))) :
    ∀ c ∈ done ++ [(i, j)], ∃ k',
      (Function.update s.polygonVertexToCtrlPointMap i pv c.1).data[c.2]? =
        some (mesh.controlPoint c.1 c.2, k') ∧
      (idx (mesh.controlPoint c.1 c.2)).data[k']? =
        some (keptIndex similar mesh extract (done ++ [(i, j)]) c) := by
  intro c hc
  rcases List.mem_append.mp hc with hold | hnew
  · obtain ⟨k', h1, h2⟩ := h.index c hold
    refine ⟨k', ?_, ?_⟩
    · by_cases hi : c.1 = i
      · have hlt : c.2 < (s.polygonVertexToCtrlPointMap i).data.length := by
          rw [← hi]; exact (List.getElem?_eq_some_iff.mp h1).1
        rw [hi, Function.update_self, hpv, List.getElem?_append_left hlt]
        rw [hi] at h1
        exact h1
      · rw [Function.update_of_ne hi]
        exact h1
    · rw [keptIndex_append hold]
      obtain ⟨hlt, hget⟩ := List.getElem?_eq_some_iff.mp h2
      rw [List.getElem?_eq_getElem (Nat.lt_of_lt_of_le hlt (hidx _).length_le),
        ← (hidx _).getElem hlt, hget]
  · have hc : c = (i, j) := List.mem_singleton.mp hnew
    subst hc
    refine ⟨k, ?_, ?_⟩
    · rw [Function.update_self, hpv, ← hlen, List.getElem?_concat_length]
    · rw [keptIndex_concat]
      exact hk

/-- One more entry in the list of polygon `i`. -/
theorem rowStep_update {s s' : DedupState V} {i : Nat} {pv : PooledList (Nat × Nat)}
    {entry : Nat × Nat}
    (hs : s'.polygonVertexToCtrlPointMap = Function.update s.polygonVertexToCtrlPointMap i pv)
    (hdata : pv.data = (s.polygonVertexToCtrlPointMap i).data ++ [entry])
    (hcap : pv.capacity = (s.polygonVertexToCtrlPointMap i).capacity) : RowStep i s s' where
  length := by rw [hs, Function.update_self, hdata, List.length_append, List.length_singleton]
  capacity := by rw [hs, Function.update_self, hcap]
  others := fun i' hi' => by rw [hs, Function.update_of_ne hi']

/-- The corner has a vertex of its own, which comes last. -/
theorem Represents.newVertex {done : List (Nat × Nat)} {s : DedupState V}
    (h : Represents similar mesh extract done s) {i j : Nat}
    (hlen : (s.polygonVertexToCtrlPointMap i).data.length = j)
    (hidx : keptIndex similar mesh extract done (i, j) = (kept similar mesh extract done).length)
    {pv : PooledList (Nat × Nat)} {im : PooledList Nat} {vb : PooledList V}
    (hpv : pv.data = (s.polygonVertexToCtrlPointMap i).data ++
      [(mesh.controlPoint i j, (s.controlPointToSSIdxMap (mesh.controlPoint i j)).getSize)])
    (him : im.data = (s.controlPointToSSIdxMap (mesh.controlPoint i j)).data ++
      [s.ssVertexBuffer.getSize]) (himcap : 0 < im.capacity)
    (hvb : vb.data = s.ssVertexBuffer.data ++ [extract i j]) (hvbcap : 0 < vb.capacity) :
    Represents similar mesh extract (done ++ [(i, j)])
      { controlPointToSSIdxMap :=
          Function.update s.controlPointToSSIdxMap (mesh.controlPoint i j) im
        ssVertexBuffer := vb
        polygonVertexToCtrlPointMap := Function.update s.polygonVertexToCtrlPointMap i pv } := by
  have hkeep : kept similar mesh extract (done ++ [(i, j)]) =
      kept similar mesh extract done ++ [(i, j)] := by
    rw [kept_concat]
    exact keep_of_no_fit _ (by unfold keptIndex at hidx; omega)
  have hbuf : s.ssVertexBuffer.data.length = (kept similar mesh extract done).length := by
    rw [h.buffer, List.length_map]
  refine ⟨?_, fun _ => hvbcap, fun cp => ?_, fun cp => ?_, ?_⟩
  · rw [hkeep, List.map_append, hvb, h.buffer]
    rfl
  · show (Function.update s.controlPointToSSIdxMap _ im cp).data = _
    rw [hkeep, List.findIdxs_append]
    by_cases hcp : cp = mesh.controlPoint i j
    · subst hcp
      rw [Function.update_self, him, h.idxMap]
      simp [PooledList.getSize, hbuf]
    · have hcp' : ¬ mesh.controlPoint i j = cp := fun e => hcp e.symm
      rw [Function.update_of_ne hcp, h.idxMap]
      simp [hcp']
  · show 0 < (Function.update s.controlPointToSSIdxMap _ im cp).capacity
    by_cases hcp : cp = mesh.controlPoint i j
    · subst hcp
      rw [Function.update_self]
      exact himcap
    · rw [Function.update_of_ne hcp]
      exact h.idxMap_cap cp
  · refine index_extended h hlen hpv (fun cp => ?_) ?_
    · show _ <+: (Function.update s.controlPointToSSIdxMap _ im cp).data
      by_cases hcp : cp = mesh.controlPoint i j
      · subst hcp
        rw [Function.update_self, him]
        exact List.prefix_append _ _
      · simp [Function.update_of_ne hcp]
    · show (Function.update s.controlPointToSSIdxMap _ im _).data[
        (s.controlPointToSSIdxMap (mesh.controlPoint i j)).data.length]? = _
      rw [Function.update_self, him, List.getElem?_concat_length, hidx, PooledList.getSize, hbuf]

/-- The corner is given to an earlier vertex. -/
theorem Represents.found {done : List (Nat × Nat)} {s : DedupState V}
    (h : Represents similar mesh extract done s) {i j k : Nat}
    (hlen : (s.polygonVertexToCtrlPointMap i).data.length = j)
    (hk : (s.controlPointToSSIdxMap (mesh.controlPoint i j)).data[k]? =
      some (keptIndex similar mesh extract done (i, j)))
    (hlt : keptIndex similar mesh extract done (i, j) < (kept similar mesh extract done).length)
    {pv : PooledList (Nat × Nat)}
    (hpv : pv.data = (s.polygonVertexToCtrlPointMap i).data ++ [(mesh.controlPoint i j, k)]) :
    Represents similar mesh extract (done ++ [(i, j)])
      { s with
        polygonVertexToCtrlPointMap := Function.update s.polygonVertexToCtrlPointMap i pv } := by
  have hkeep : kept similar mesh extract (done ++ [(i, j)]) = kept similar mesh extract done := by
    rw [kept_concat]
    exact keep_of_fit _ hlt
  refine ⟨?_, h.buffer_cap, ?_, h.idxMap_cap, ?_⟩
  · rw [hkeep]
    exact h.buffer
  · rw [hkeep]
    exact h.idxMap
  · exact index_extended h hlen hpv (fun _ => List.prefix_rfl) hk

/-- One corner: a new vertex, or the first similar one of its control point. -/
theorem dedupCorner_step {done : List (Nat × Nat)} {s : DedupState V}
    (h : Represents similar mesh extract done s) {i j : Nat} (hnew : (i, j) ∉ done)
    (hpos : 0 < mesh.controlPointsCount) (hdone : done.length < 2 ^ 31)
    (hlen : (s.polygonVertexToCtrlPointMap i).data.length = j)
    (hroom : j < (s.polygonVertexToCtrlPointMap i).capacity) :
    ∃ s', dedupCorner similar (mesh.controlPoint i j) i (extract i j) s = some s' ∧
      Represents similar mesh extract (done ++ [(i, j)]) s' ∧ RowStep i s s' := by
  obtain ⟨found, hfind, hnone, hsome⟩ := findSimilar_represents h hnew
  have hroom' : (s.polygonVertexToCtrlPointMap i).data.length <
      (s.polygonVertexToCtrlPointMap i).capacity := by omega
  cases found with
  | none =>
    -- neither list is longer than the corners seen, so no capacity wraps
    have hS : (kept similar mesh extract done).length ≤ done.length := length_stored_le _ done
    have hbuf : s.ssVertexBuffer.data.length = (kept similar mesh extract done).length := by
      rw [h.buffer, List.length_map]
    have hmap : (s.controlPointToSSIdxMap (mesh.controlPoint i j)).data.length ≤
        (kept similar mesh extract done).length := by
      rw [h.idxMap, List.length_findIdxs]
      exact List.countP_le_length
    obtain ⟨pv, hpv, hpvdata, hpvcap⟩ := PooledList.pushBack_eq hroom'
      (mesh.controlPoint i j, (s.controlPointToSSIdxMap (mesh.controlPoint i j)).getSize)
    obtain ⟨im, him, himdata, himcap⟩ := PooledList.pushBackCapacity_eq
      (h.idxMap_cap (mesh.controlPoint i j)) (by omega) s.ssVertexBuffer.getSize
    obtain ⟨vb, hvb, hvbdata, hvbcap⟩ := PooledList.pushBackCapacity_eq
      (h.buffer_cap hpos) (by omega) (extract i j)
    refine ⟨_, ?_, h.newVertex hlen (hnone rfl) hpvdata himdata himcap hvbdata hvbcap,
      rowStep_update rfl hpvdata hpvcap⟩
    unfold dedupCorner
    simp only [hfind, hpv, him, hvb, Option.bind_eq_bind, Option.bind_some]
  | some k =>
    obtain ⟨hk, hlt⟩ := hsome k rfl
    obtain ⟨pv, hpv, hdata, hcap⟩ := PooledList.pushBack_eq hroom' (mesh.controlPoint i j, k)
    refine ⟨_, ?_, h.found hlen hk hlt hdata, rowStep_update rfl hdata hcap⟩
    unfold dedupCorner
    simp only [hfind, hpv, Option.bind_eq_bind, Option.bind_some]

theorem mem_cornerRow {i n : Nat} {c : Nat × Nat} : c ∈ cornerRow i n ↔ c.1 = i ∧ c.2 < n := by
  obtain ⟨a, b⟩ := c
  simp only [cornerRow, List.mem_map, List.mem_range, Prod.mk.injEq]
  exact ⟨fun ⟨k, hk, h1, h2⟩ => ⟨h1.symm, h2 ▸ hk⟩, fun ⟨h1, h2⟩ => ⟨b, h2, h1.symm, rfl⟩⟩

theorem mem_corners {n : Nat} {c : Nat × Nat} :
    c ∈ corners mesh n ↔ c.1 < n ∧ c.2 < mesh.polygonSize c.1 := by
  unfold corners
  rw [List.mem_flatMap]
  constructor
  · intro ⟨i, hi, hc⟩
    obtain ⟨h1, h2⟩ := mem_cornerRow.mp hc
    subst h1
    exact ⟨List.mem_range.mp hi, h2⟩
  · intro ⟨h1, h2⟩
    exact ⟨c.1, List.mem_range.mpr h1, mem_cornerRow.mpr ⟨rfl, h2⟩⟩

theorem corners_succ (n : Nat) :
    corners mesh (n + 1) = corners mesh n ++ cornerRow n (mesh.polygonSize n) := by
  simp [corners, List.range_succ]

/-- The corner loop of one polygon. -/
theorem dedupCorners_eq {done : List (Nat × Nat)} {s : DedupState V} {i : Nat}
    (h : Represents similar mesh extract done s) (hnew : ∀ j, (i, j) ∉ done)
    (hi : i < mesh.polygonCount) (hbound : done.length + mesh.polygonSize i < 2 ^ 31)
    (hempty : (s.polygonVertexToCtrlPointMap i).data = [])
    (hcap : (s.polygonVertexToCtrlPointMap i).capacity = mesh.polygonSize i) :
    ∀ n, n ≤ mesh.polygonSize i → ∃ s', dedupCorners similar mesh extract i n s = some s' ∧
      Represents similar mesh extract (done ++ cornerRow i n) s' ∧
      (s'.polygonVertexToCtrlPointMap i).data.length = n ∧
      (s'.polygonVertexToCtrlPointMap i).capacity = mesh.polygonSize i ∧
      ∀ i', i' ≠ i → s'.polygonVertexToCtrlPointMap i' = s.polygonVertexToCtrlPointMap i' := by
  intro n
  induction n with
  | zero =>
    intro _
    refine ⟨s, rfl, ?_, ?_, hcap, fun _ _ => rfl⟩
    · show Represents similar mesh extract (done ++ []) s
      rw [List.append_nil]; exact h
    · rw [hempty]; rfl
  | succ n ih =>
    intro hn
    obtain ⟨s1, hs1, hrep, hlen, hcap1, hothers⟩ := ih (by omega)
    have hfresh : (i, n) ∉ done ++ cornerRow i n := by
      rw [List.mem_append, mem_cornerRow]
      intro hmem
      rcases hmem with hmem | hmem
      · exact hnew n hmem
      · exact Nat.lt_irrefl n hmem.2
    have hcount : (done ++ cornerRow i n).length < 2 ^ 31 := by
      rw [List.length_append, cornerRow, List.length_map, List.length_range]; omega
    have hpos : 0 < mesh.controlPointsCount :=
      Nat.zero_lt_of_lt (mesh.controlPoint_lt ⟨hi, (hn : n < mesh.polygonSize i)⟩)
    obtain ⟨s2, hs2, hrep2, hrow⟩ := dedupCorner_step hrep hfresh hpos hcount hlen (by omega)
    have hrowlist : done ++ cornerRow i (n + 1) = done ++ cornerRow i n ++ [(i, n)] := by
      simp [cornerRow, List.range_succ]
    refine ⟨s2, ?_, ?_, ?_, ?_, ?_⟩
    · unfold dedupCorners at hs1 ⊢
      rw [PartialRun.foldlM_range_succ, hs1, Option.bind_some, hs2]
    · rw [hrowlist]; exact hrep2
    · rw [hrow.length, hlen]
    · rw [hrow.capacity, hcap1]
    · intro i' hi'
      rw [hrow.others i' hi', hothers i' hi']

variable (mesh) in
theorem corners_length_mono {n m : Nat} (h : n ≤ m) :
    (corners mesh n).length ≤ (corners mesh m).length := by
  induction m with
  | zero =>
    have : n = 0 := by omega
    subst this; exact Nat.le_refl _
  | succ m ih =>
    rcases Nat.lt_or_ge n (m + 1) with hlt | hge
    · have := ih (by omega)
      rw [corners_succ, List.length_append]; omega
    · have : n = m + 1 := by omega
      subst this; exact Nat.le_refl _

theorem corners_length_lt {n : Nat} (h : n ≤ mesh.polygonCount) :
    (corners mesh n).length < 2 ^ 31 := by
  have hall : (corners mesh mesh.polygonCount).length = (mesh.polygons.map List.length).sum := by
    unfold corners
    rw [List.length_flatMap]
    congr 1
    refine List.ext_getElem (by simp [FbxMesh.polygonCount]) fun k h1 h2 => ?_
    rw [List.length_map] at h2
    simp [cornerRow, FbxMesh.polygonSize, FbxMesh.polygon, List.getElem?_eq_getElem h2]
  have := corners_length_mono mesh h
  have := mesh.polygonVertexCount_lt
  omega

variable (similar extract) in
theorem dedupPolygons_eq : ∀ n, n ≤ mesh.polygonCount →
    ∃ s, dedupPolygons similar mesh extract n = some s ∧
      Represents similar mesh extract (corners mesh n) s ∧
      ∀ i, n ≤ i → s.polygonVertexToCtrlPointMap i = PooledList.new 0 := by
  intro n
  induction n with
  | zero =>
    intro _
    refine ⟨dedupStart V mesh, rfl, ⟨rfl, ?_, fun _ => rfl, fun _ => Nat.zero_lt_succ 9, ?_⟩,
      fun _ _ => rfl⟩
    · intro hpos
      have hlt := mesh.controlPointsCount_lt
      show 0 < toUint32 (mesh.controlPointsCount * 2 : Nat)
      rw [toUint32_natCast (by omega)]; omega
    · intro c hc; cases hc
  | succ n ih =>
    intro hn
    obtain ⟨s1, hs1, hrep, hfresh⟩ := ih (by omega)
    have hnew0 : s1.polygonVertexToCtrlPointMap n = PooledList.new 0 := hfresh n (Nat.le_refl n)
    have hroom : (s1.polygonVertexToCtrlPointMap n).capacity ≤ mesh.polygonSize n := by
      rw [hnew0]; exact Nat.zero_le _
    obtain ⟨pv, hpv, hdata, hcap⟩ := PooledList.increaseCapacityAndCopy_eq hroom
    have hlen := corners_length_lt hn
    rw [corners_succ, List.length_append, cornerRow, List.length_map, List.length_range] at hlen
    let s2 := { s1 with
      polygonVertexToCtrlPointMap := Function.update s1.polygonVertexToCtrlPointMap n pv }
    have hself : s2.polygonVertexToCtrlPointMap n = pv := Function.update_self ..
    have hother : ∀ i, i ≠ n →
        s2.polygonVertexToCtrlPointMap i = s1.polygonVertexToCtrlPointMap i :=
      fun i hi => Function.update_of_ne hi ..
    have hrep2 : Represents similar mesh extract (corners mesh n) s2 := by
      refine ⟨hrep.buffer, hrep.buffer_cap, hrep.idxMap, hrep.idxMap_cap, fun c hc => ?_⟩
      have hne : c.1 ≠ n := Nat.ne_of_lt (mem_corners.mp hc).1
      rw [hother c.1 hne]
      exact hrep.index c hc
    have hnotin : ∀ j, (n, j) ∉ corners mesh n := fun j hmem =>
      Nat.lt_irrefl n (mem_corners.mp hmem).1
    obtain ⟨s3, hs3, hrep3, _, _, hothers⟩ := dedupCorners_eq hrep2 hnotin hn hlen
      (by rw [hself, hdata, hnew0]; rfl) (by rw [hself, hcap]) (mesh.polygonSize n) (Nat.le_refl _)
    refine ⟨s3, ?_, ?_, ?_⟩
    · unfold dedupPolygons at hs1 ⊢
      rw [PartialRun.foldlM_range_succ, hs1, Option.bind_some]
      simp only [Option.bind_eq_bind, Option.bind_some, dedupPolygon, hpv, hs3, s2]
    · rw [corners_succ]; exact hrep3
    · intro i hi
      rw [hothers i (by omega), hother i (by omega)]
      exact hfresh i (by omega)

/-- The two lookups of a corner end at its first-fit index. -/
theorem cornerIndex_eq {done : List (Nat × Nat)} {s : DedupState V}
    (h : Represents similar mesh extract done s) {c : Nat × Nat} (hc : c ∈ done) :
    s.cornerIndex c.1 c.2 = some (keptIndex similar mesh extract done c) := by
  obtain ⟨k, h1, h2⟩ := h.index c hc
  unfold DedupState.cornerIndex
  rw [PooledList.get_eq, h1]
  simp only [Option.bind_eq_bind, Option.bind_some]
  rw [PooledList.get_eq, h2]

theorem vertexCnt_eq {done : List (Nat × Nat)} {s : DedupState V}
    (h : Represents similar mesh extract done s) :
    s.vertexCnt = (kept similar mesh extract done).length := by
  rw [DedupState.vertexCnt, PooledList.getSize, h.buffer, List.length_map]

end Step

/-- The index of corner `(i, j)` names the vertex of a corner of the same control point: its own,
or one that is similar to it. -/
structure NamesVertex {V : Type} (similar : V → V → Bool) (mesh : FbxMesh)
    (extract : Nat → Nat → V) (s : DedupState V) (i j : Nat) : Prop where
  index_lt : ∃ v, s.cornerIndex i j = some v ∧ v < s.vertexCnt
  names : ∃ i' j', mesh.IsCorner i' j' ∧
    mesh.controlPoint i' j' = mesh.controlPoint i j ∧
    s.ssVertexBuffer.get (s.vtx i j) = some (extract i' j') ∧
    ((i', j') = (i, j) ∨ similar (extract i' j') (extract i j) = true)

section Corners

variable {V : Type} (similar : V → V → Bool) (mesh : FbxMesh) (extract : Nat → Nat → V)

theorem buildVertices_eq : ∃ s, buildVertices similar mesh extract = some s ∧
    Represents similar mesh extract (corners mesh mesh.polygonCount) s := by
  obtain ⟨s, hs, hrep, _⟩ := dedupPolygons_eq similar extract mesh.polygonCount (Nat.le_refl _)
  exact ⟨s, hs, hrep⟩

variable {similar mesh extract}

theorem namesVertex_of_represents {s : DedupState V}
    (h : Represents similar mesh extract (corners mesh mesh.polygonCount) s) {i j : Nat}
    (hc : mesh.IsCorner i j) : NamesVertex similar mesh extract s i j := by
  have hmem : (i, j) ∈ corners mesh mesh.polygonCount := mem_corners.mpr hc
  have hindex := cornerIndex_eq h hmem
  have hrefl := sameVertex_refl similar mesh extract
  have hlt := index_lt_of_mem hrefl hmem
  obtain ⟨c, hget, hfit⟩ := fits_at_index hrefl hmem
  have hcorner : mesh.IsCorner c.1 c.2 :=
    mem_corners.mp (mem_of_mem_stored _ (List.mem_of_getElem? hget))
  have hread : s.ssVertexBuffer.get (s.vtx i j) = some (extract c.1 c.2) := by
    rw [PooledList.get_eq, h.buffer, DedupState.vtx, hindex, Option.getD_some, List.getElem?_map]
    exact congrArg (Option.map fun c => extract c.1 c.2) hget
  refine ⟨⟨_, hindex, ?_⟩, c.1, c.2, hcorner, ?_, hread, ?_⟩
  · rw [vertexCnt_eq h]; exact hlt
  · unfold sameVertex at hfit
    rcases Bool.or_eq_true_iff.mp hfit with heq | hsim
    · rw [of_decide_eq_true heq]
    · exact of_decide_eq_true (Bool.and_eq_true_iff.mp hsim).1
  · unfold sameVertex at hfit
    rcases Bool.or_eq_true_iff.mp hfit with heq | hsim
    · exact Or.inl (of_decide_eq_true heq)
    · exact Or.inr (Bool.and_eq_true_iff.mp hsim).2

theorem vertexData_eq (s : DedupState V) {size : Nat} (h0 : 0 < size)
    (h : size * s.vertexCnt < 2 ^ 32) : s.vertexData size = s.ssVertexBuffer.data := by
  unfold DedupState.vertexData copiedVertices
  have h : size * s.ssVertexBuffer.getSize < 2 ^ 32 := h
  rw [toUint32_natCast h, Nat.mul_div_cancel_left _ h0]
  exact List.take_length

variable (similar mesh extract)

/-- The vertex loop succeeds and every corner names a vertex; the emission pass stores the fans of
these indices, one polygon after the other; and where the layout is right, so do the segments. -/
theorem corner_index (h : FanInput mesh) :
    ∃ s, buildVertices similar mesh extract = some s ∧
      (∀ i j, mesh.IsCorner i j → NamesVertex similar mesh extract s i j) ∧
      (∀ size, 0 < size → size * s.vertexCnt < 2 ^ 32 →
        s.vertexData size = s.ssVertexBuffer.data) ∧
      (mesh.subGeometryNum < SUBGEOM_COUNT_MAX → ∃ a, buildIndexData mesh s.vtx = some a ∧
        a.writes.map Prod.snd = fanValues mesh (fanTriangle mesh s.vtx) mesh.polygonCount ∧
        (mesh.indexTotal < 2 ^ 32 →
          (mesh.mappedByPolygon = true ∨ mesh.polygons = [] ∨ 0 < mesh.subGeometryNum) →
          ∀ m, m < mesh.subGeometryNum →
            (List.range' (a.indexDataStartIndex m) (a.indexDataNum m)).map (lastWrite a.writes) =
              (fanTriangles mesh s.vtx m).map some)) := by
  obtain ⟨s, hs, hrep⟩ := buildVertices_eq similar mesh extract
  refine ⟨s, hs, fun i j hc => namesVertex_of_represents hrep hc,
    fun size h0 hsize => vertexData_eq s h0 hsize, fun hsub => ?_⟩
  obtain ⟨a, ha, hvals⟩ := buildIndexData_values s.vtx h hsub
  refine ⟨a, ha, hvals, fun htot hseg => ?_⟩
  have hin : IndexInput mesh := ⟨h, htot⟩
  have heq : scatterLayout mesh s.vtx = a :=
    Option.some.inj ((buildIndexData_eq s.vtx hin hsub hseg).symm.trans ha)
  rw [← heq]
  exact (scatterLayout_laysOut s.vtx hin hseg).segment

end Corners

/-- The lists of the control points share out the vertices, and no vertex could have been given to
an earlier one of its list. -/
structure VerticesPartitioned {V : Type} (similar : V → V → Bool) (mesh : FbxMesh)
    (extract : Nat → Nat → V) (s : DedupState V) : Prop where
  exactly_once : ((List.range mesh.controlPointsCount).flatMap fun cp =>
    (s.controlPointToSSIdxMap cp).data).Perm (List.range s.vertexCnt)
  extracted_from : ∀ v, v < s.vertexCnt → ∃ i j, mesh.IsCorner i j ∧
    s.ssVertexBuffer.get v = some (extract i j) ∧
    v ∈ (s.controlPointToSSIdxMap (mesh.controlPoint i j)).data
  increasing : ∀ cp, (s.controlPointToSSIdxMap cp).data.Pairwise (· < ·)
  none_redundant : ∀ cp, (s.controlPointToSSIdxMap cp).data.Pairwise fun u v =>
    ∀ x y, s.ssVertexBuffer.get u = some x → s.ssVertexBuffer.get v = some y → similar x y = false

section Partition

variable {V : Type} {similar : V → V → Bool} {mesh : FbxMesh} {extract : Nat → Nat → V}

/-- What the lists say of the kept corners holds of the vertices, which are made from them. -/
theorem verticesPartitioned_of_represents {s : DedupState V}
    (h : Represents similar mesh extract (corners mesh mesh.polygonCount) s) :
    VerticesPartitioned similar mesh extract s := by
  set S := kept similar mesh extract (corners mesh mesh.polygonCount) with hS
  have hcorner : ∀ c ∈ S, mesh.IsCorner c.1 c.2 := fun c hc =>
    mem_corners.mp (mem_of_mem_stored _ hc)
  have hget : ∀ v, s.ssVertexBuffer.get v = S[v]?.map fun c => extract c.1 c.2 := by
    intro v
    rw [PooledList.get_eq, h.buffer, List.getElem?_map]
  have hmem : ∀ v cp, v ∈ (s.controlPointToSSIdxMap cp).data ↔
      ∃ hv : v < S.length, mesh.controlPoint S[v].1 S[v].2 = cp := by
    intro v cp
    rw [h.idxMap, List.mem_findIdxs_iff_exists_getElem_pos]
    simp only [decide_eq_true_eq, hS]
  have hincreasing : ∀ cp, (s.controlPointToSSIdxMap cp).data.Pairwise (· < ·) := by
    intro cp
    rw [h.idxMap]
    exact List.pairwise_findIdxs
  refine ⟨?_, fun v hv => ?_, hincreasing, fun cp => ?_⟩
  · simp only [h.idxMap, vertexCnt_eq h]
    exact findIdxs_key_perm fun c hc => mesh.controlPoint_lt (hcorner c hc)
  · rw [vertexCnt_eq h] at hv
    refine ⟨S[v].1, S[v].2, hcorner _ (List.getElem_mem hv), ?_, (hmem v _).mpr ⟨hv, rfl⟩⟩
    rw [hget, List.getElem?_eq_getElem hv, Option.map_some]
  · refine (hincreasing cp).imp_of_mem fun {u v} hu hv hlt x y hx hy => ?_
    obtain ⟨hu, hucp⟩ := (hmem u cp).mp hu
    obtain ⟨hv, hvcp⟩ := (hmem v cp).mp hv
    rw [hget, List.getElem?_eq_getElem hu] at hx
    rw [hget, List.getElem?_eq_getElem hv] at hy
    cases hx
    cases hy
    -- the later corner would have been given to the earlier one
    have hnofit : sameVertex similar mesh extract S[u] S[v] = false :=
      List.pairwise_iff_getElem.mp (pairwise_stored (sameVertex similar mesh extract) _) u v hu hv
        hlt
    unfold sameVertex at hnofit
    have hboth := (Bool.or_eq_false_iff.mp hnofit).2
    rw [hucp, hvcp, decide_eq_true rfl, Bool.true_and] at hboth
    exact hboth

variable (similar mesh extract)

/-- The vertex loop, with any similarity. -/
theorem vertices_partitioned : ∃ s, buildVertices similar mesh extract = some s ∧
    VerticesPartitioned similar mesh extract s := by
  obtain ⟨s, hs, hrep⟩ := buildVertices_eq similar mesh extract
  exact ⟨s, hs, verticesPartitioned_of_represents hrep⟩

end Partition

end FBXRenderer
