import FBXRenderer.Importer.IndexLayout

/-!
# FBXRenderer.Importer.FanValues

What the emission pass stores, in program order and whatever the addresses: the fans of all
polygons one after the other. Counting and emission advance by the same amounts modulo `2 ^ 32`,
so the closing assertion holds even where the index total does not fit 32 bits.

* `buildIndexData_wraps`: the index code returns, and its writes are those of the scatter with every
  address taken modulo `2 ^ 32`.
* `buildIndexData_values`: it has stored every fan triangle.
-/

namespace FBXRenderer

open Scatter

/-- The fans of the first `n` polygons, with `tri i j` the triangle of step `j` of polygon `i`. -/
def fanValues (mesh : FbxMesh) (tri : Nat → Nat → Nat × Nat × Nat) (n : Nat) : List Nat :=
  (List.range n).flatMap fun i => fanBlock (tri i) (mesh.polygonSize i)

/-- The first `n` polygons with the given keys and triangles. -/
def fanItemsBy (mesh : FbxMesh) (key : Nat → Nat) (tri : Nat → Nat → Nat × Nat × Nat) (n : Nat) :
    List (Nat × List Nat) :=
  (List.range n).map fun i => (key i, fanBlock (tri i) (mesh.polygonSize i))

/-- A write to the address that is left of it in 32 bits. -/
def wrapWrite (w : Nat × Nat) : Nat × Nat := (toUint32 w.1, w.2)

section Fans

variable {mesh : FbxMesh} {key : Nat → Nat} {tri : Nat → Nat → Nat × Nat × Nat}

theorem fanItemsBy_succ (n : Nat) : fanItemsBy mesh key tri (n + 1) =
    fanItemsBy mesh key tri n ++ [(key n, fanBlock (tri n) (mesh.polygonSize n))] := by
  simp [fanItemsBy, List.range_succ]

theorem size_fanItemsBy_succ (n m : Nat) : size (fanItemsBy mesh key tri (n + 1)) m =
    size (fanItemsBy mesh key tri n) m +
      if key n = m then 3 * (mesh.polygonSize n - 2) else 0 := by
  rw [fanItemsBy_succ, size, size, bucket_append, List.length_append, bucket_cons]
  split <;> simp [bucket, fanBlock_length]

variable (key tri) in
theorem fanItemsBy_values (n : Nat) :
    (fanItemsBy mesh key tri n).flatMap Prod.snd = fanValues mesh tri n := by
  rw [fanItemsBy, fanValues, List.flatMap_map]

theorem wrapWrite_values (ws : List (Nat × Nat)) :
    (ws.map wrapWrite).map Prod.snd = ws.map Prod.snd := by
  rw [List.map_map]
  rfl

theorem toUint32_add_toUint32 (a b : Nat) :
    toUint32 ((toUint32 a + b : Nat) : Int) = toUint32 ((a + b : Nat) : Int) := by
  rw [Int.natCast_add, toUint32_add_left, ← Int.natCast_add]

/-- `t` steps of a fan, at any address: `base'` and `c` are the base and the cursor without wraps. -/
theorem emitFan_steps_wrap {base base' k c : Nat} {s : EmitState}
    (hbase : toUint32 base = toUint32 base') (hc : s.counter k = toUint32 c)
    (tri : Nat → Nat × Nat × Nat) : ∀ t,
      (List.range' 1 t).foldl (fun s j => emitTriangle base k (tri j) s) s =
        { writes := s.writes ++ (blockWrites (base' + c) (fanBlock tri (t + 2))).map wrapWrite
          counter := Function.update s.counter k (toUint32 (c + 3 * t : Nat)) } := by
  intro t
  induction t with
  | zero =>
    have hsame : Function.update s.counter k (toUint32 (c + 3 * 0 : Nat)) = s.counter := by
      rw [Nat.mul_zero, Nat.add_zero, ← hc, Function.update_eq_self]
    rw [hsame]
    simp [fanBlock, blockWrites]
  | succ t ih =>
    have haddr : ∀ q, toUint32 ((base + toUint32 (c + 3 * t : Nat) + q : Nat) : Int) =
        toUint32 ((base' + c + 3 * t + q : Nat) : Int) := by
      intro q
      unfold toUint32 at hbase ⊢
      omega
    have hcursor : toUint32 ((toUint32 (c + 3 * t : Nat) + 3 : Nat) : Int) =
        toUint32 ((c + 3 * (t + 1) : Nat) : Int) := by
      rw [toUint32_add_toUint32]
      rfl
    rw [List.range'_concat, List.foldl_append, ih, fanBlock_succ, blockWrites_append,
      fanBlock_length]
    simp only [List.foldl_cons, List.foldl_nil, emitTriangle, Function.update_self,
      Function.update_idem, hcursor, Nat.add_sub_cancel, Nat.one_mul, blockWrites, List.map_append,
      List.map_cons, List.map_nil, wrapWrite, List.append_assoc]
    have h0 := haddr 0
    rw [Nat.add_zero, Nat.add_zero] at h0
    rw [h0, haddr 1, haddr 2, Nat.add_comm 1 t]

theorem emitFan_wrap {base base' k c sz : Nat} {s : EmitState}
    (hbase : toUint32 base = toUint32 base') (hc : s.counter k = toUint32 c)
    (tri : Nat → Nat × Nat × Nat) (h3 : 3 ≤ sz) (hsz : sz < 2 ^ 31) :
    emitFan base k sz tri s =
      { writes := s.writes ++ (blockWrites (base' + c) (fanBlock tri sz)).map wrapWrite
        counter := Function.update s.counter k (toUint32 (c + 3 * (sz - 2) : Nat)) } := by
  have hsteps := emitFan_steps_wrap hbase hc tri (sz - 2)
  have e : sz - 2 + 2 = sz := by omega
  rw [e] at hsteps
  rw [emitFan, fanBound_sub_one h3 hsz]
  exact hsteps

/-- The state of the emission pass after the first `n` polygons, addresses and cursors in 32 bits. -/
def wrapped (mesh : FbxMesh) (key : Nat → Nat) (tri : Nat → Nat → Nat × Nat × Nat)
    (st : Nat → Nat) (n : Nat) : EmitState :=
  { writes := (scatter st (fun _ => 0) (fanItemsBy mesh key tri n)).map wrapWrite
    counter := fun m => toUint32 (size (fanItemsBy mesh key tri n) m) }

variable (key tri) in
/-- One polygon of the emission pass, in either branch. -/
theorem emitFan_wrapped (st : Nat → Nat) {st' : Nat → Nat} (n : Nat)
    (hst : toUint32 (st (key n)) = toUint32 (st' (key n))) (h3 : 3 ≤ mesh.polygonSize n) :
    emitFan (st (key n)) (key n) (mesh.polygonSize n) (tri n) (wrapped mesh key tri st' n) =
      wrapped mesh key tri st' (n + 1) := by
  rw [emitFan_wrap hst rfl (tri n) h3 (mesh.polygonSize_lt n)]
  unfold wrapped
  congr 1
  · rw [fanItemsBy_succ, scatter_append, List.map_append]
    simp [scatter]
  · funext m
    rw [Function.update_apply, size_fanItemsBy_succ]
    by_cases hm : m = key n
    · rw [if_pos hm, if_pos hm.symm, hm]
    · rw [if_neg hm, if_neg (Ne.symm hm), Nat.add_zero]

theorem wrapped_values (st : Nat → Nat) (n : Nat) :
    (wrapped mesh key tri st n).writes.map Prod.snd = fanValues mesh tri n := by
  show ((scatter st _ _).map wrapWrite).map Prod.snd = _
  rw [wrapWrite_values, scatter_values, fanItemsBy_values key tri]

end Fans

section Passes

variable {mesh : FbxMesh} (vtx : Nat → Nat → Nat)

/-- Both passes of the `eByPolygon` branch over the first `n` polygons. -/
theorem byPolygon_wraps (h3 : ∀ i, i < mesh.polygonCount → 3 ≤ mesh.polygonSize i)
    (hmat : ∀ i, i < mesh.polygonCount →
      0 ≤ mesh.materialIndex i ∧ mesh.materialIndex i < SUBGEOM_COUNT_MAX) (st : Nat → Nat)
    {st' : Nat → Nat} (hst : ∀ m, toUint32 (st m) = toUint32 (st' m)) :
    ∀ n, n ≤ mesh.polygonCount →
      let s := wrapped mesh (fun i => (mesh.materialIndex i).toNat) (byPolygonTriangle vtx) st' n
      countByPolygon mesh n = some s.counter ∧ emitByPolygon mesh vtx st n = some s := by
  intro n
  induction n with
  | zero =>
    intro _
    exact ⟨rfl, rfl⟩
  | succ n ih =>
    intro hn
    obtain ⟨hcount, hemit⟩ := ih (by omega)
    obtain ⟨h0, hm⟩ := hmat n (by omega)
    have hm16 : mesh.materialIndex n < 16 := hm
    have h8 : toUint8 (mesh.materialIndex n) = (mesh.materialIndex n).toNat :=
      toUint8_eq h0 (by omega)
    have h32 : toUint32 (mesh.materialIndex n) = (mesh.materialIndex n).toNat :=
      toUint32_eq h0 (by omega)
    have hk : (mesh.materialIndex n).toNat < SUBGEOM_COUNT_MAX := by
      rw [SUBGEOM_COUNT_MAX]
      omega
    have hsz := h3 n (by omega)
    have hfan := emitFan_wrapped (fun i => (mesh.materialIndex i).toNat) (byPolygonTriangle vtx) st n
      (hst _) hsz
    refine ⟨?_, ?_⟩
    · rw [countByPolygon_succ hcount h8 hk]
      congr 1
      funext m
      simp only [wrapped, Function.update_apply, size_fanItemsBy_succ]
      by_cases hm : m = (mesh.materialIndex n).toNat
      · rw [if_pos hm, if_pos hm.symm, hm, toUint32_add_left]
        congr 1
        omega
      · rw [if_neg hm, if_neg (Ne.symm hm), Nat.add_zero]
    · rw [emitByPolygon_succ hemit h32 hk]
      exact congrArg some hfan

/-- The sum of the other branch counts triangles where its cursor counts indices. -/
theorem countAllSame_wraps (h3 : ∀ i, i < mesh.polygonCount → 3 ≤ mesh.polygonSize i)
    (tri : Nat → Nat → Nat × Nat × Nat) : ∀ n, n ≤ mesh.polygonCount →
      toUint32 ((List.range n).foldl (fun sum i =>
        toUint32 (sum + ((mesh.polygonSize i : Int) - 2))) 0 * 3 : Nat) =
        toUint32 (size (fanItemsBy mesh (fun _ => 0) tri n) 0) := by
  intro n
  induction n with
  | zero =>
    intro _
    rfl
  | succ n ih =>
    intro hn
    have hprev := ih (by omega)
    have hsz := h3 n (by omega)
    rw [List.range_succ, List.foldl_append, size_fanItemsBy_succ, if_pos rfl,
      ← toUint32_add_toUint32, ← hprev, toUint32_add_toUint32]
    simp only [List.foldl_cons, List.foldl_nil]
    rw [Int.natCast_mul, toUint32_mul_left]
    congr 1
    omega

theorem size_fanItemsBy_ne (tri : Nat → Nat → Nat × Nat × Nat) {m : Nat} (hm : m ≠ 0) :
    ∀ n, size (fanItemsBy mesh (fun _ => 0) tri n) m = 0 := by
  intro n
  induction n with
  | zero => rfl
  | succ n ih => rw [size_fanItemsBy_succ, ih, if_neg hm.symm]

/-- Both passes of the other branch. -/
theorem allSame_wraps (h3 : ∀ i, i < mesh.polygonCount → 3 ≤ mesh.polygonSize i)
    (st' : Nat → Nat) (hst : st' 0 = 0) : ∀ n, n ≤ mesh.polygonCount →
      let s := wrapped mesh (fun _ => 0) (allSameTriangle vtx) st' n
      countAllSame mesh n = s.counter ∧ emitAllSame mesh vtx n = s := by
  intro n hn
  refine ⟨?_, ?_⟩
  · funext m
    unfold countAllSame wrapped
    by_cases hm : m = 0
    · subst hm
      rw [Function.update_self]
      exact countAllSame_wraps h3 _ n hn
    · simp only [Function.update_of_ne hm, size_fanItemsBy_ne _ hm]
      rfl
  · induction n with
    | zero => rfl
    | succ n ih =>
      rw [emitAllSame_succ, ih (by omega)]
      exact emitFan_wrapped (fun _ => 0) _ (fun _ => 0) n (by rw [hst]) (h3 n (by omega))

theorem byPolygon_values (h3 : ∀ i, i < mesh.polygonCount → 3 ≤ mesh.polygonSize i)
    (hmat : ∀ i, i < mesh.polygonCount →
      0 ≤ mesh.materialIndex i ∧ mesh.materialIndex i < SUBGEOM_COUNT_MAX)
    (st : Nat → Nat) : ∀ n, n ≤ mesh.polygonCount →
      ∃ s, countByPolygon mesh n = some s.counter ∧ emitByPolygon mesh vtx st n = some s ∧
        s.writes.map Prod.snd = fanValues mesh (byPolygonTriangle vtx) n := by
  intro n hn
  obtain ⟨hcount, hemit⟩ := byPolygon_wraps vtx h3 hmat st (fun _ => rfl) n hn
  exact ⟨_, hcount, hemit, wrapped_values st n⟩

theorem allSame_values (h3 : ∀ i, i < mesh.polygonCount → 3 ≤ mesh.polygonSize i) {n : Nat}
    (hn : n ≤ mesh.polygonCount) : (emitAllSame mesh vtx n).writes.map Prod.snd =
      fanValues mesh (allSameTriangle vtx) n := by
  obtain ⟨_, hemit⟩ := allSame_wraps vtx h3 (fun _ => 0) rfl n hn
  rw [hemit]
  exact wrapped_values _ n

/-- The prefix sums in 32 bits. -/
theorem startIndices_wraps (items : List (Nat × List Nat)) : ∀ k,
    startIndices (fun m => toUint32 (size items m)) k =
      (fun m => if m < k then toUint32 (start items m) else 0, toUint32 (start items k)) := by
  intro k
  induction k with
  | zero =>
    have hnone : (fun m : Nat => if m < 0 then toUint32 (start items m) else 0) = fun _ => 0 := by
      funext m
      rw [if_neg (Nat.not_lt_zero m)]
    rw [hnone]
    rfl
  | succ k ih =>
    unfold startIndices at ih ⊢
    rw [List.range_succ, List.foldl_append, ih]
    simp only [List.foldl_cons, List.foldl_nil]
    refine Prod.ext ?_ ?_
    · funext m
      simp only [Function.update_apply]
      rcases Nat.lt_trichotomy m k with hm | rfl | hm
      · rw [if_neg (by omega), if_pos hm, if_pos (by omega)]
      · rw [if_pos rfl, if_pos (by omega)]
      · rw [if_neg (by omega), if_neg (by omega), if_neg (by omega)]
    · show toUint32 ((toUint32 (start items k) + toUint32 (size items k) : Nat) : Int) =
        toUint32 ((start items k + size items k : Nat) : Int)
      rw [toUint32_add_toUint32, Nat.add_comm, toUint32_add_toUint32, Nat.add_comm]

/-- The layout that the index code builds of any mesh, in 32 bits. -/
def wrappedLayout (mesh : FbxMesh) (vtx : Nat → Nat → Nat) : IndexLayout :=
  let items := fanItems mesh vtx mesh.polygonCount
  let st := fun m => if m < mesh.subGeometryNum then start items m else 0
  { subGeometryNum := mesh.subGeometryNum
    indexDataNum := fun m => toUint32 (size items m)
    indexDataStartIndex := fun m =>
      if m < mesh.subGeometryNum then toUint32 (start items m) else 0
    wholeIndexDataNum := toUint32 (start items mesh.subGeometryNum)
    writes := (scatter st (fun _ => 0) items).map wrapWrite
    subMaterialIdxDataCounter := fun m => toUint32 (size items m) }

/-- What the emission pass stores, in terms of the branch that it takes. -/
theorem fanItems_byPolygon (hmap : mesh.mappedByPolygon = true) (n : Nat) :
    fanItems mesh vtx n = fanItemsBy mesh (fun i => (mesh.materialIndex i).toNat)
      (byPolygonTriangle vtx) n := by
  refine List.map_congr_left fun i _ => ?_
  rw [FbxMesh.material, if_pos hmap]
  congr 2
  funext j
  rw [fanTriangle, if_pos hmap]

theorem fanItems_allSame (hmap : ¬ mesh.mappedByPolygon = true) (n : Nat) :
    fanItems mesh vtx n = fanItemsBy mesh (fun _ => 0) (allSameTriangle vtx) n := by
  refine List.map_congr_left fun i _ => ?_
  rw [FbxMesh.material, if_neg hmap]
  congr 2
  funext j
  rw [fanTriangle, if_neg hmap]

theorem buildIndexData_wraps (h : FanInput mesh) (hsub : mesh.subGeometryNum < SUBGEOM_COUNT_MAX) :
    buildIndexData mesh vtx = some (wrappedLayout mesh vtx) := by
  set items := fanItems mesh vtx mesh.polygonCount with hitems
  set st : Nat → Nat := fun m => if m < mesh.subGeometryNum then start items m else 0 with hst
  have hstart : ∀ m, toUint32 ((if m < mesh.subGeometryNum then toUint32 (start items m) else 0 :
      Nat) : Int) = toUint32 (st m) := by
    intro m
    simp only [hst]
    split
    · exact toUint32_add_toUint32 _ 0
    · rfl
  have hpasses : countIndexData mesh = some (fun m => toUint32 (size items m)) ∧
      emitIndexData mesh vtx (fun m =>
        if m < mesh.subGeometryNum then toUint32 (start items m) else 0) =
        some ⟨(scatter st (fun _ => 0) items).map wrapWrite, fun m => toUint32 (size items m)⟩ := by
    unfold countIndexData emitIndexData
    by_cases hmap : mesh.mappedByPolygon = true
    · have hmat : ∀ i, i < mesh.polygonCount →
          0 ≤ mesh.materialIndex i ∧ mesh.materialIndex i < SUBGEOM_COUNT_MAX := by
        intro i hi
        obtain ⟨h0, hlt⟩ := h.material_lt hmap i hi
        exact ⟨h0, by omega⟩
      have hsame : items = _ := fanItems_byPolygon vtx hmap mesh.polygonCount
      rw [if_pos hmap, if_pos hmap, hsame]
      exact byPolygon_wraps vtx h.three_le hmat _ (hsame ▸ hstart) _ (Nat.le_refl _)
    · have hsame : items = _ := fanItems_allSame vtx hmap mesh.polygonCount
      have hzero : st 0 = 0 := by
        simp only [hst]
        split <;> rfl
      obtain ⟨hcount, hemit⟩ := allSame_wraps vtx h.three_le _ hzero _ (Nat.le_refl _)
      rw [if_neg hmap, if_neg hmap, hcount, hemit, hsame]
      exact ⟨rfl, rfl⟩
  unfold buildIndexData
  rw [if_pos hsub, hpasses.1]
  simp only [startIndices_wraps, hpasses.2, implies_true, if_true]
  rfl

theorem buildIndexData_values (h : FanInput mesh) (hsub : mesh.subGeometryNum < SUBGEOM_COUNT_MAX) :
    ∃ a, buildIndexData mesh vtx = some a ∧
      a.writes.map Prod.snd = fanValues mesh (fanTriangle mesh vtx) mesh.polygonCount := by
  refine ⟨_, buildIndexData_wraps vtx h hsub, ?_⟩
  show ((scatter _ _ _).map wrapWrite).map Prod.snd = _
  rw [wrapWrite_values, scatter_values]
  exact fanItemsBy_values mesh.material (fanTriangle mesh vtx) mesh.polygonCount

end Passes

end FBXRenderer
