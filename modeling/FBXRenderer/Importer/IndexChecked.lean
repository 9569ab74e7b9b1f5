import FBXRenderer.Importer.IndexLayout
import FBXRenderer.Lib.PartialRun

/-!
# FBXRenderer.Importer.IndexChecked

The two passes of `IndexData` once more, with a check wherever the source could leave a type or an
array: `none` also where a conversion changes the value, where a sum of `uint32`s wraps, where a
material is not one of the 16 and where an index is stored at or behind `_wholeIndexDataNum`.

* `buildIndexData_of_checked`: what passes the checks is what the code computes.
* `passes_agree_iff`: the meshes that pass them.
-/

namespace FBXRenderer

open PartialRun Scatter

section Checks

/-- The value as a `uint32`, if it is one. -/
def checkUint32 (z : Int) : Option Nat := if 0 ≤ z ∧ z < 2 ^ 32 then some z.toNat else none

/-- The value as an `int32`, if it is one. -/
def checkInt32 (z : Int) : Option Int := if -2 ^ 31 ≤ z ∧ z < 2 ^ 31 then some z else none

/-- The value as a `uint8`, if it is one. -/
def checkUint8 (z : Int) : Option Nat := if 0 ≤ z ∧ z < 2 ^ 8 then some z.toNat else none

/-- An index into an array of `SUBGEOM_COUNT_MAX` entries. -/
def checkMaterial (matIdx : Nat) : Option Nat :=
  if matIdx < SUBGEOM_COUNT_MAX then some matIdx else none

end Checks

/-- One turn of the counting pass, `eByPolygon` branch. -/
def countPolygonChecked (mesh : FbxMesh) (num : Nat → Nat) (i : Nat) : Option (Nat → Nat) := do
  let matIdx ← checkMaterial (← checkUint8 (mesh.materialIndex i))
  let added ← checkUint32 (← checkInt32 (((mesh.polygonSize i : Int) - 2) * 3))
  let sum ← checkUint32 (num matIdx + added : Nat)
  some (Function.update num matIdx sum)

def countByPolygonChecked (mesh : FbxMesh) (polygonCount : Nat) : Option (Nat → Nat) :=
  (List.range polygonCount).foldlM (countPolygonChecked mesh) fun _ => 0

/-- One turn of the counting pass, other branch. -/
def countTrianglesChecked (mesh : FbxMesh) (sum i : Nat) : Option Nat := do
  let added ← checkUint32 ((mesh.polygonSize i : Int) - 2)
  checkUint32 (sum + added : Nat)

def countAllSameChecked (mesh : FbxMesh) (polygonCount : Nat) : Option (Nat → Nat) := do
  let triangles ← (List.range polygonCount).foldlM (countTrianglesChecked mesh) 0
  let num ← checkUint32 (triangles * 3 : Nat)
  some (Function.update (fun _ => 0) 0 num)

/-- One turn of the prefix sum loop. -/
def startIndexChecked (num : Nat → Nat) (s : (Nat → Nat) × Nat) (i : Nat) :
    Option ((Nat → Nat) × Nat) := do
  let idxAcc ← checkUint32 (s.2 + num i : Nat)
  some (Function.update s.1 i s.2, idxAcc)

def startIndicesChecked (num : Nat → Nat) (subGeometryNum : Nat) : Option ((Nat → Nat) × Nat) :=
  (List.range subGeometryNum).foldlM (startIndexChecked num) (fun _ => 0, 0)

/-- One store behind the cursor. -/
def checkAddress (wholeIndexDataNum address : Nat) : Option Nat :=
  if address < wholeIndexDataNum then checkUint32 address else none

def emitTriangleChecked (wholeIndexDataNum idxDataStart matIdx : Nat) (tri : Nat × Nat × Nat)
    (s : EmitState) : Option EmitState := do
  let base := idxDataStart + s.counter matIdx
  let a0 ← checkAddress wholeIndexDataNum base
  let a1 ← checkAddress wholeIndexDataNum (base + 1)
  let a2 ← checkAddress wholeIndexDataNum (base + 2)
  let next ← checkUint32 (s.counter matIdx + 3 : Nat)
  some { writes := s.writes ++ [(a0, tri.1), (a1, tri.2.1), (a2, tri.2.2)]
         counter := Function.update s.counter matIdx next }

def emitFanChecked (wholeIndexDataNum idxDataStart matIdx polygonVertexCount : Nat)
    (tri : Nat → Nat × Nat × Nat) (s : EmitState) : Option EmitState := do
  let bound ← checkUint32 ((polygonVertexCount : Int) - 1)
  (List.range' 1 (bound - 1)).foldlM
    (fun s j => emitTriangleChecked wholeIndexDataNum idxDataStart matIdx (tri j) s) s

/-- One turn of the emission pass, `eByPolygon` branch. -/
def emitPolygonChecked (mesh : FbxMesh) (vtx : Nat → Nat → Nat) (indexDataStartIndex : Nat → Nat)
    (wholeIndexDataNum : Nat) (s : EmitState) (i : Nat) : Option EmitState := do
  let matIdx ← checkMaterial (← checkUint32 (mesh.materialIndex i))
  emitFanChecked wholeIndexDataNum (indexDataStartIndex matIdx) matIdx (mesh.polygonSize i)
    (byPolygonTriangle vtx i) s

def emitByPolygonChecked (mesh : FbxMesh) (vtx : Nat → Nat → Nat)
    (indexDataStartIndex : Nat → Nat) (wholeIndexDataNum polygonCount : Nat) : Option EmitState :=
  (List.range polygonCount).foldlM
    (emitPolygonChecked mesh vtx indexDataStartIndex wholeIndexDataNum) ⟨[], fun _ => 0⟩

def emitAllSameChecked (mesh : FbxMesh) (vtx : Nat → Nat → Nat)
    (wholeIndexDataNum polygonCount : Nat) : Option EmitState :=
  (List.range polygonCount).foldlM (fun s i =>
    emitFanChecked wholeIndexDataNum 0 0 (mesh.polygonSize i) (allSameTriangle vtx i) s)
    ⟨[], fun _ => 0⟩

def countIndexDataChecked (mesh : FbxMesh) : Option (Nat → Nat) :=
  if mesh.mappedByPolygon then countByPolygonChecked mesh mesh.polygonCount
  else countAllSameChecked mesh mesh.polygonCount

def emitIndexDataChecked (mesh : FbxMesh) (vtx : Nat → Nat → Nat)
    (indexDataStartIndex : Nat → Nat) (wholeIndexDataNum : Nat) : Option EmitState :=
  if mesh.mappedByPolygon then
    emitByPolygonChecked mesh vtx indexDataStartIndex wholeIndexDataNum mesh.polygonCount
  else emitAllSameChecked mesh vtx wholeIndexDataNum mesh.polygonCount

def buildIndexDataChecked (mesh : FbxMesh) (vtx : Nat → Nat → Nat) : Option IndexLayout :=
  if mesh.subGeometryNum < SUBGEOM_COUNT_MAX then do
    let num ← countIndexDataChecked mesh
    let st ← startIndicesChecked num mesh.subGeometryNum
    let s ← emitIndexDataChecked mesh vtx st.1 st.2
    if ∀ i, i < mesh.subGeometryNum → num i = s.counter i then
      some { subGeometryNum := mesh.subGeometryNum
             indexDataNum := num
             indexDataStartIndex := st.1
             wholeIndexDataNum := st.2
             writes := s.writes
             subMaterialIdxDataCounter := s.counter }
    else none
  else none

section Unchecked

variable {mesh : FbxMesh} {vtx : Nat → Nat → Nat} {z : Int} {n k : Nat}

theorem checkUint32_some (h : checkUint32 z = some n) : 0 ≤ z ∧ z < 2 ^ 32 ∧ n = z.toNat := by
  obtain ⟨⟨h0, hlt⟩, heq⟩ := Option.ite_none_right_eq_some.mp h
  exact ⟨h0, hlt, (Option.some.inj heq).symm⟩

theorem toUint32_of_check (h : checkUint32 z = some n) : toUint32 z = n := by
  obtain ⟨h0, hlt, rfl⟩ := checkUint32_some h
  exact toUint32_eq h0 hlt

theorem checkNat_some (h : checkUint32 (k : Int) = some n) : n = k ∧ k < 2 ^ 32 := by
  obtain ⟨_, hlt, heq⟩ := checkUint32_some h
  exact ⟨heq, by omega⟩

theorem checkNat (h : k < 2 ^ 32) : checkUint32 (k : Int) = some k := by
  rw [checkUint32, if_pos ⟨by omega, by omega⟩, Int.toNat_natCast]

theorem checkMaterial_some (h : checkMaterial k = some n) : n = k ∧ k < SUBGEOM_COUNT_MAX := by
  obtain ⟨hk, heq⟩ := Option.ite_none_right_eq_some.mp h
  exact ⟨(Option.some.inj heq).symm, hk⟩

theorem checkUint8_some (h : checkUint8 z = some n) : 0 ≤ z ∧ z < 2 ^ 8 ∧ n = z.toNat := by
  obtain ⟨⟨h0, hlt⟩, heq⟩ := Option.ite_none_right_eq_some.mp h
  exact ⟨h0, hlt, (Option.some.inj heq).symm⟩

theorem checkInt32_some {y : Int} (h : checkInt32 z = some y) :
    y = z ∧ -2 ^ 31 ≤ z ∧ z < 2 ^ 31 := by
  obtain ⟨hz, heq⟩ := Option.ite_none_right_eq_some.mp h
  exact ⟨(Option.some.inj heq).symm, hz⟩

theorem checkAddress_some {whole : Nat} (h : checkAddress whole k = some n) :
    n = k ∧ k < whole ∧ k < 2 ^ 32 := by
  obtain ⟨hk, hcheck⟩ := Option.ite_none_right_eq_some.mp h
  obtain ⟨hn, hlt⟩ := checkNat_some hcheck
  exact ⟨hn, hk, hlt⟩

end Unchecked

/-! Every loop by its step: which checks a step makes, and what it leaves. -/

section Steps

variable {mesh : FbxMesh} {vtx : Nat → Nat → Nat} {n : Nat}

/-- What a polygon must be like for the two passes. -/
structure PolygonInput (mesh : FbxMesh) (i : Nat) : Prop where
  two_le : 2 ≤ mesh.polygonSize i
  material_lt : mesh.mappedByPolygon = true →
    0 ≤ mesh.materialIndex i ∧ mesh.materialIndex i < SUBGEOM_COUNT_MAX
  product_lt : mesh.mappedByPolygon = true → 3 * (mesh.polygonSize i - 2) < 2 ^ 31

/-- Fans are made of triangles. -/
theorem three_dvd_size (vtx : Nat → Nat → Nat) (n m : Nat) : 3 ∣ size (fanItems mesh vtx n) m := by
  induction n with
  | zero => exact dvd_zero 3
  | succ n ih =>
    rw [size_fanItems_succ]
    refine dvd_add ih ?_
    split
    · exact dvd_mul_right 3 _
    · exact dvd_zero 3

theorem size_fanItems_zero : size (fanItems mesh vtx 0) = fun _ => 0 := by
  funext m
  rfl

theorem countPolygonChecked_iff (hmap : mesh.mappedByPolygon = true) (num num' : Nat → Nat)
    (i : Nat) : countPolygonChecked mesh num i = some num' ↔
      PolygonInput mesh i ∧ num (mesh.material i) + 3 * (mesh.polygonSize i - 2) < 2 ^ 32 ∧
        num' = Function.update num (mesh.material i)
          (num (mesh.material i) + 3 * (mesh.polygonSize i - 2)) := by
  have hmat : mesh.material i = (mesh.materialIndex i).toNat := by
    rw [FbxMesh.material, if_pos hmap]
  unfold countPolygonChecked
  simp only [Option.bind_eq_bind, Option.bind_eq_some_iff]
  constructor
  · rintro ⟨k8, hk8, k, hk, y, hy, added, hadded, sum, hsum, hnum⟩
    obtain ⟨h0, _, rfl⟩ := checkUint8_some hk8
    obtain ⟨rfl, hlt⟩ := checkMaterial_some hk
    obtain ⟨rfl, _, hprod⟩ := checkInt32_some hy
    obtain ⟨hpos, _, hadd⟩ := checkUint32_some hadded
    obtain ⟨rfl, hfit⟩ := checkNat_some hsum
    have hsize : added = 3 * (mesh.polygonSize i - 2) := by omega
    rw [hsize, ← hmat] at hfit
    rw [hsize, ← hmat, Option.some.injEq] at hnum
    have h16 : (mesh.materialIndex i).toNat < 16 := hlt
    refine ⟨⟨by omega, fun _ => ⟨h0, ?_⟩, fun _ => by omega⟩, hfit, hnum.symm⟩
    rw [SUBGEOM_COUNT_MAX]
    omega
  · rintro ⟨⟨h2, hrange, hprod⟩, hsum, rfl⟩
    obtain ⟨h0, hlt⟩ := hrange hmap
    have hprod := hprod hmap
    rw [SUBGEOM_COUNT_MAX] at hlt
    have hk : mesh.material i < SUBGEOM_COUNT_MAX := by
      rw [SUBGEOM_COUNT_MAX]
      omega
    refine ⟨mesh.material i, ?_, mesh.material i, if_pos hk, _, if_pos ⟨by omega, by omega⟩,
      3 * (mesh.polygonSize i - 2), ?_, _, checkNat hsum, rfl⟩
    · rw [checkUint8, if_pos ⟨h0, by omega⟩, hmat]
    · rw [checkUint32, if_pos ⟨by omega, by omega⟩, Option.some.injEq]
      omega

/-- The counting pass of the `eByPolygon` branch, by induction on the polygons. -/
theorem countByPolygonChecked_iff (vtx : Nat → Nat → Nat) (hmap : mesh.mappedByPolygon = true) :
    ∀ (n : Nat) (num : Nat → Nat), countByPolygonChecked mesh n = some num ↔
      (∀ i, i < n → PolygonInput mesh i) ∧ (∀ m, size (fanItems mesh vtx n) m < 2 ^ 32) ∧
        num = size (fanItems mesh vtx n) := by
  intro n
  induction n with
  | zero =>
    intro num
    rw [size_fanItems_zero]
    constructor
    · intro h
      refine ⟨fun i hi => absurd hi (Nat.not_lt_zero i), fun _ => Nat.two_pow_pos 32, ?_⟩
      exact (Option.some.inj h).symm
    · rintro ⟨_, _, rfl⟩
      rfl
  | succ n ih =>
    intro num
    have hk : ∀ m, size (fanItems mesh vtx n) m ≤ size (fanItems mesh vtx (n + 1)) m := by
      intro m
      exact size_fanItems_mono mesh vtx m (Nat.le_succ n)
    rw [countByPolygonChecked, foldlM_range_succ, Option.bind_eq_some_iff]
    constructor
    · rintro ⟨num0, hprev, hstep⟩
      obtain ⟨hinput, hlt, rfl⟩ := (ih num0).mp hprev
      obtain ⟨hlast, hsum, rfl⟩ := (countPolygonChecked_iff hmap _ _ n).mp hstep
      refine ⟨Nat.forall_lt_succ_right.mpr ⟨hinput, hlast⟩, ?_, (size_fanItems_update vtx n).symm⟩
      intro m
      rw [size_fanItems_update, Function.update_apply]
      split
      · exact hsum
      · exact hlt m
    · rintro ⟨hinput, hlt, rfl⟩
      obtain ⟨hinput, hlast⟩ := Nat.forall_lt_succ_right.mp hinput
      have hsum := hlt (mesh.material n)
      rw [size_fanItems_update, Function.update_self] at hsum
      exact ⟨_, (ih _).mpr ⟨hinput, fun m => (hk m).trans_lt (hlt m), rfl⟩,
        (countPolygonChecked_iff hmap _ _ n).mpr ⟨hlast, hsum, size_fanItems_update vtx n⟩⟩

theorem polygonInput_allSame (hmap : mesh.mappedByPolygon = false) {i : Nat} :
    PolygonInput mesh i ↔ 2 ≤ mesh.polygonSize i := by
  constructor
  · intro h
    exact h.two_le
  · intro h
    exact ⟨h, fun hmap' => by simp [hmap] at hmap', fun hmap' => by simp [hmap] at hmap'⟩

/-- The sum of triangles in the other branch. -/
theorem countTriangles_iff (vtx : Nat → Nat → Nat) (hmap : mesh.mappedByPolygon = false) :
    ∀ n sum : Nat, (List.range n).foldlM (countTrianglesChecked mesh) 0 = some sum ↔
      (∀ i, i < n → PolygonInput mesh i) ∧ sum < 2 ^ 32 ∧
        3 * sum = size (fanItems mesh vtx n) 0 := by
  intro n
  induction n with
  | zero =>
    intro sum
    rw [size_fanItems_zero]
    constructor
    · intro h
      cases h
      exact ⟨fun i hi => absurd hi (Nat.not_lt_zero i), Nat.two_pow_pos 32, rfl⟩
    · rintro ⟨_, _, hzero⟩
      have hzero : 3 * sum = 0 := hzero
      have hsum : sum = 0 := by omega
      subst hsum
      rfl
  | succ n ih =>
    intro sum
    have hmat : mesh.material n = 0 := by simp [FbxMesh.material, hmap]
    have hsucc : size (fanItems mesh vtx (n + 1)) 0 =
        size (fanItems mesh vtx n) 0 + 3 * (mesh.polygonSize n - 2) := by
      rw [size_fanItems_succ, if_pos hmat]
    rw [foldlM_range_succ, Option.bind_eq_some_iff]
    simp only [countTrianglesChecked, Option.bind_eq_bind, Option.bind_eq_some_iff]
    constructor
    · rintro ⟨sum0, hprev, added, hadded, hsum⟩
      obtain ⟨hinput, _, hsum0⟩ := (ih sum0).mp hprev
      obtain ⟨hpos, _, rfl⟩ := checkUint32_some hadded
      obtain ⟨rfl, hfit⟩ := checkNat_some hsum
      have hlast : PolygonInput mesh n := (polygonInput_allSame hmap).mpr (by omega)
      exact ⟨Nat.forall_lt_succ_right.mpr ⟨hinput, hlast⟩, hfit, by omega⟩
    · rintro ⟨hinput, hfit, hsum⟩
      obtain ⟨hinput, hlast⟩ := Nat.forall_lt_succ_right.mp hinput
      have h2 := hlast.two_le
      refine ⟨sum - (mesh.polygonSize n - 2), (ih _).mpr ⟨hinput, by omega, by omega⟩,
        mesh.polygonSize n - 2, ?_, ?_⟩
      · rw [checkUint32, if_pos ⟨by omega, by omega⟩, Option.some.injEq]
        omega
      · have hback : sum - (mesh.polygonSize n - 2) + (mesh.polygonSize n - 2) = sum := by omega
        rw [hback]
        exact checkNat hfit

theorem countAllSameChecked_iff (vtx : Nat → Nat → Nat) (hmap : mesh.mappedByPolygon = false)
    (n : Nat) (num : Nat → Nat) : countAllSameChecked mesh n = some num ↔
      (∀ i, i < n → PolygonInput mesh i) ∧ (∀ m, size (fanItems mesh vtx n) m < 2 ^ 32) ∧
        num = size (fanItems mesh vtx n) := by
  have hother : ∀ m, m ≠ 0 → size (fanItems mesh vtx n) m = 0 :=
    fun m hm => size_fanItems_allSame vtx hmap hm n
  have hupdate : Function.update (fun _ => 0) 0 (size (fanItems mesh vtx n) 0) =
      size (fanItems mesh vtx n) := by
    funext m
    rw [Function.update_apply]
    split
    · rename_i hm
      rw [hm]
    · rename_i hm
      exact (hother m hm).symm
  simp only [countAllSameChecked, Option.bind_eq_bind, Option.bind_eq_some_iff]
  constructor
  · rintro ⟨sum, hsum, total, htotal, hnum⟩
    obtain ⟨hinput, _, hsize⟩ := (countTriangles_iff vtx hmap n sum).mp hsum
    obtain ⟨rfl, hfit⟩ := checkNat_some htotal
    rw [Nat.mul_comm, hsize] at hfit
    rw [Nat.mul_comm, hsize, hupdate, Option.some.injEq] at hnum
    refine ⟨hinput, ?_, hnum.symm⟩
    intro m
    by_cases hm : m = 0
    · rwa [hm]
    · rw [hother m hm]
      exact Nat.two_pow_pos 32
  · rintro ⟨hinput, hlt, rfl⟩
    have hfit := hlt 0
    have hthree : 3 * (size (fanItems mesh vtx n) 0 / 3) = size (fanItems mesh vtx n) 0 :=
      Nat.mul_div_cancel' (three_dvd_size vtx n 0)
    refine ⟨size (fanItems mesh vtx n) 0 / 3,
      (countTriangles_iff vtx hmap n _).mpr ⟨hinput, by omega, hthree⟩, _, checkNat ?_, ?_⟩
    · omega
    · rw [Nat.mul_comm, hthree, hupdate]

/-- The prefix sums, by induction on the sub-geometries. -/
theorem startIndicesChecked_iff (items : List (Nat × List Nat)) :
    ∀ (k : Nat) (p : (Nat → Nat) × Nat), startIndicesChecked (size items) k = some p ↔
      start items k < 2 ^ 32 ∧
        p = (fun m => if m < k then start items m else 0, start items k) := by
  intro k
  induction k with
  | zero =>
    intro p
    constructor
    · intro h
      cases h
      exact ⟨Nat.two_pow_pos 32, by simp [start]⟩
    · rintro ⟨_, rfl⟩
      simp [startIndicesChecked, start]
  | succ k ih =>
    intro p
    have hsucc : start items (k + 1) = start items k + size items k := rfl
    have hupdate : Function.update (fun m => if m < k then start items m else 0) k
        (start items k) = fun m => if m < k + 1 then start items m else 0 := by
      funext m
      rw [Function.update_apply]
      obtain hm | rfl | hm := Nat.lt_trichotomy m k
      · rw [if_neg (by omega), if_pos hm, if_pos (by omega)]
      · rw [if_pos rfl, if_pos (by omega)]
      · rw [if_neg (by omega), if_neg (by omega), if_neg (by omega)]
    rw [startIndicesChecked, foldlM_range_succ, Option.bind_eq_some_iff]
    simp only [startIndexChecked, Option.bind_eq_bind, Option.bind_eq_some_iff]
    constructor
    · rintro ⟨p0, hprev, idxAcc, hacc, hp⟩
      obtain ⟨_, rfl⟩ := (ih p0).mp hprev
      obtain ⟨rfl, hfit⟩ := checkNat_some hacc
      rw [hupdate, Option.some.injEq] at hp
      exact ⟨hfit, hp.symm⟩
    · rintro ⟨hfit, rfl⟩
      refine ⟨_, (ih _).mpr ⟨by omega, rfl⟩, start items (k + 1), checkNat ?_, ?_⟩
      · exact hfit
      · rw [hupdate]

section Emission

variable {whole base k : Nat} {s s' : EmitState}

/-- The state after a block has been stored at the cursor of `k`. -/
def emitted (base k : Nat) (block : List Nat) (s : EmitState) : EmitState :=
  { writes := s.writes ++ blockWrites (base + s.counter k) block
    counter := Function.update s.counter k (s.counter k + block.length) }

theorem emitTriangleChecked_iff (hwhole : whole < 2 ^ 32) (tri : Nat × Nat × Nat) :
    emitTriangleChecked whole base k tri s = some s' ↔
      base + s.counter k + 3 ≤ whole ∧ s' = emitted base k [tri.1, tri.2.1, tri.2.2] s := by
  simp only [emitTriangleChecked, Option.bind_eq_bind, Option.bind_eq_some_iff]
  constructor
  · rintro ⟨a0, h0, a1, h1, a2, h2, next, hnext, hs⟩
    obtain ⟨rfl, hlt0, _⟩ := checkAddress_some h0
    obtain ⟨rfl, hlt1, _⟩ := checkAddress_some h1
    obtain ⟨rfl, hlt2, _⟩ := checkAddress_some h2
    obtain ⟨rfl, _⟩ := checkNat_some hnext
    cases hs
    exact ⟨hlt2, rfl⟩
  · rintro ⟨hfit, rfl⟩
    have haddress : ∀ a, a < whole → checkAddress whole a = some a := by
      intro a ha
      rw [checkAddress, if_pos ha, checkNat (ha.trans hwhole)]
    exact ⟨_, haddress _ (by omega), _, haddress _ (by omega), _, haddress _ (by omega), _,
      checkNat (by omega), rfl⟩

/-- The steps of a fan, by induction on their number. -/
theorem emitSteps_iff (hwhole : whole < 2 ^ 32) (tri : Nat → Nat × Nat × Nat) :
    ∀ (t : Nat) (s' : EmitState), (List.range' 1 t).foldlM
        (fun s j => emitTriangleChecked whole base k (tri j) s) s = some s' ↔
      (t = 0 ∨ base + s.counter k + 3 * t ≤ whole) ∧
        s' = emitted base k (fanBlock tri (t + 2)) s := by
  intro t
  induction t with
  | zero =>
    intro s'
    have hnone : emitted base k (fanBlock tri (0 + 2)) s = s := by
      simp [emitted, fanBlock, blockWrites]
    rw [hnone]
    constructor
    · intro h
      exact ⟨Or.inl rfl, (Option.some.inj h).symm⟩
    · rintro ⟨_, rfl⟩
      rfl
  | succ t ih =>
    intro s'
    have hcounter : (emitted base k (fanBlock tri (t + 2)) s).counter k = s.counter k + 3 * t := by
      simp [emitted, fanBlock_length]
    have hnext : emitted base k [(tri (t + 1)).1, (tri (t + 1)).2.1, (tri (t + 1)).2.2]
        (emitted base k (fanBlock tri (t + 2)) s) =
          emitted base k (fanBlock tri (t + 1 + 2)) s := by
      simp [emitted, fanBlock_succ, blockWrites_append, Nat.add_assoc]
    have hstep : 1 + 1 * t = t + 1 := by omega
    rw [List.range'_concat, foldlM_concat, hstep, Option.bind_eq_some_iff]
    constructor
    · rintro ⟨s1, hprev, hlast⟩
      obtain ⟨_, rfl⟩ := (ih s1).mp hprev
      obtain ⟨hfit, rfl⟩ := (emitTriangleChecked_iff hwhole _).mp hlast
      rw [hcounter] at hfit
      exact ⟨Or.inr (by omega), hnext⟩
    · rintro ⟨hfit, rfl⟩
      have hfit : base + s.counter k + 3 * (t + 1) ≤ whole := hfit.resolve_left (Nat.succ_ne_zero t)
      refine ⟨_, (ih _).mpr ⟨Or.inr (by omega), rfl⟩, ?_⟩
      refine (emitTriangleChecked_iff hwhole _).mpr ⟨?_, hnext.symm⟩
      rw [hcounter]
      omega

theorem emitFanChecked_iff (hwhole : whole < 2 ^ 32) (tri : Nat → Nat × Nat × Nat) {sz : Nat}
    (hsz : sz < 2 ^ 31) : emitFanChecked whole base k sz tri s = some s' ↔
      1 ≤ sz ∧ (sz ≤ 2 ∨ base + s.counter k + 3 * (sz - 2) ≤ whole) ∧
        s' = emitted base k (fanBlock tri sz) s := by
  simp only [emitFanChecked, Option.bind_eq_bind, Option.bind_eq_some_iff]
  have hblock : fanBlock tri (sz - 1 - 1 + 2) = fanBlock tri sz := rfl
  constructor
  · rintro ⟨bound, hbound, hsteps⟩
    obtain ⟨hpos, _, rfl⟩ := checkUint32_some hbound
    have h1 : 1 ≤ sz := by omega
    have hnat : ((sz : Int) - 1).toNat = sz - 1 := by omega
    rw [hnat] at hsteps
    obtain ⟨hfit, rfl⟩ := (emitSteps_iff hwhole tri _ _).mp hsteps
    exact ⟨h1, by omega, by rw [hblock]⟩
  · rintro ⟨h1, hfit, rfl⟩
    refine ⟨sz - 1, ?_, (emitSteps_iff hwhole tri _ _).mpr ⟨by omega, by rw [hblock]⟩⟩
    rw [checkUint32, if_pos ⟨by omega, by omega⟩, Option.some.injEq]
    omega

/-- What the fans of the first `n` polygons leave. -/
def scattered (mesh : FbxMesh) (vtx : Nat → Nat → Nat) (st : Nat → Nat) (n : Nat) : EmitState :=
  ⟨scatter st (fun _ => 0) (fanItems mesh vtx n), size (fanItems mesh vtx n)⟩

theorem scattered_succ (st : Nat → Nat) (n : Nat) :
    emitted (st (mesh.material n)) (mesh.material n)
      (fanBlock (fanTriangle mesh vtx n) (mesh.polygonSize n)) (scattered mesh vtx st n) =
        scattered mesh vtx st (n + 1) := by
  have hcounter : size (fanItems mesh vtx (n + 1)) = Function.update (size (fanItems mesh vtx n))
      (mesh.material n) (size (fanItems mesh vtx n) (mesh.material n) +
        (fanBlock (fanTriangle mesh vtx n) (mesh.polygonSize n)).length) := by
    rw [size_fanItems_update, fanBlock_length]
  rw [scattered, scattered, hcounter, fanItems_succ, scatter_append]
  simp [emitted, scatter]

/-- The segment of a material ends within the buffer, or nothing is stored into it. -/
def Fits (mesh : FbxMesh) (vtx : Nat → Nat → Nat) (st : Nat → Nat) (whole n m : Nat) : Prop :=
  size (fanItems mesh vtx n) m = 0 ∨ st m + size (fanItems mesh vtx n) m ≤ whole

/-- One more polygon only matters to its own material. -/
theorem fits_succ (st : Nat → Nat) (n : Nat) : (∀ m, Fits mesh vtx st whole (n + 1) m) ↔
    (∀ m, Fits mesh vtx st whole n m) ∧ (mesh.polygonSize n ≤ 2 ∨
      st (mesh.material n) + size (fanItems mesh vtx n) (mesh.material n) +
        3 * (mesh.polygonSize n - 2) ≤ whole) := by
  unfold Fits
  constructor
  · intro h
    constructor
    · intro m
      have hm := h m
      rw [size_fanItems_succ] at hm
      split at hm <;> omega
    · have hm := h (mesh.material n)
      rw [size_fanItems_succ, if_pos rfl] at hm
      omega
  · rintro ⟨h, hlast⟩ m
    have hm := h m
    rw [size_fanItems_succ]
    split
    · rename_i heq
      rw [heq] at hlast
      omega
    · omega

/-- Both branches, by induction on the polygons: `step` emits the fan of a polygon. -/
theorem emitLoop_iff (hwhole : whole < 2 ^ 32) (st : Nat → Nat)
    {step : EmitState → Nat → Option EmitState} : ∀ (n : Nat) (s' : EmitState),
      (∀ i, i < n → PolygonInput mesh i) →
      (∀ i, i < n → ∀ s, step s i = emitFanChecked whole (st (mesh.material i)) (mesh.material i)
        (mesh.polygonSize i) (fanTriangle mesh vtx i) s) →
      ((List.range n).foldlM step ⟨[], fun _ => 0⟩ = some s' ↔
        (∀ m, Fits mesh vtx st whole n m) ∧ s' = scattered mesh vtx st n) := by
  intro n
  induction n with
  | zero =>
    intro s' _ _
    constructor
    · intro h
      cases h
      exact ⟨fun m => Or.inl rfl, rfl⟩
    · rintro ⟨_, rfl⟩
      rfl
  | succ n ih =>
    intro s' hinput hstep
    obtain ⟨hinput, hlast⟩ := Nat.forall_lt_succ_right.mp hinput
    obtain ⟨hstep, hfan⟩ := Nat.forall_lt_succ_right.mp hstep
    have h1 : 1 ≤ mesh.polygonSize n := by
      have h2 := hlast.two_le
      omega
    rw [foldlM_range_succ, Option.bind_eq_some_iff, fits_succ]
    simp only [hfan, emitFanChecked_iff hwhole _ (mesh.polygonSize_lt n)]
    constructor
    · rintro ⟨s1, hprev, _, hfit, rfl⟩
      obtain ⟨hfits, rfl⟩ := (ih s1 hinput hstep).mp hprev
      exact ⟨⟨hfits, hfit⟩, scattered_succ st n⟩
    · rintro ⟨⟨hfits, hfit⟩, rfl⟩
      exact ⟨_, (ih _ hinput hstep).mpr ⟨hfits, rfl⟩, h1, hfit, (scattered_succ st n).symm⟩

theorem emitByPolygonChecked_iff (hmap : mesh.mappedByPolygon = true) (hwhole : whole < 2 ^ 32)
    (st : Nat → Nat) (n : Nat) (s' : EmitState) (hinput : ∀ i, i < n → PolygonInput mesh i) :
    emitByPolygonChecked mesh vtx st whole n = some s' ↔
      (∀ m, Fits mesh vtx st whole n m) ∧ s' = scattered mesh vtx st n := by
  refine emitLoop_iff hwhole st n s' hinput ?_
  intro i hi s
  have hmat : mesh.material i = (mesh.materialIndex i).toNat := by
    rw [FbxMesh.material, if_pos hmap]
  have htri : byPolygonTriangle vtx i = fanTriangle mesh vtx i := by
    funext j
    rw [fanTriangle, if_pos hmap]
  obtain ⟨h0, hlt⟩ := (hinput i hi).material_lt hmap
  rw [SUBGEOM_COUNT_MAX] at hlt
  have hk : mesh.material i < SUBGEOM_COUNT_MAX := by
    rw [SUBGEOM_COUNT_MAX]
    omega
  rw [emitPolygonChecked, checkUint32, if_pos ⟨h0, by omega⟩, ← hmat, ← htri]
  simp only [Option.bind_eq_bind, Option.bind_some, checkMaterial, if_pos hk]

theorem emitAllSameChecked_iff (hmap : mesh.mappedByPolygon = false) (hwhole : whole < 2 ^ 32)
    {st : Nat → Nat} (hst : st 0 = 0) (n : Nat) (s' : EmitState)
    (hinput : ∀ i, i < n → PolygonInput mesh i) :
    emitAllSameChecked mesh vtx whole n = some s' ↔
      (∀ m, Fits mesh vtx st whole n m) ∧ s' = scattered mesh vtx st n := by
  refine emitLoop_iff hwhole st n s' hinput ?_
  intro i _ s
  have hmat : mesh.material i = 0 := by simp [FbxMesh.material, hmap]
  have htri : allSameTriangle vtx i = fanTriangle mesh vtx i := by
    funext j
    rw [fanTriangle, hmap]
    rfl
  rw [hmat, hst, htri]

end Emission

end Steps

section Result

variable {mesh : FbxMesh} {vtx : Nat → Nat → Nat}

/-- The number of indices that the polygons of a material need. -/
def FbxMesh.indexCount (mesh : FbxMesh) (m : Nat) : Nat :=
  ((List.range mesh.polygonCount).map fun i =>
    if mesh.material i = m then 3 * (mesh.polygonSize i - 2) else 0).sum

/-- The number of indices that the sub-geometries have room for. -/
def FbxMesh.segmentTotal (mesh : FbxMesh) : Nat :=
  ((List.range mesh.subGeometryNum).map mesh.indexCount).sum

/-- The meshes that both passes can deal with. -/
structure PassInput (mesh : FbxMesh) : Prop where
  polygon : ∀ i, i < mesh.polygonCount → PolygonInput mesh i
  total_lt : mesh.segmentTotal < 2 ^ 32
  /-- A material without a sub-geometry starts at the begin of the buffer. -/
  fits : ∀ m, mesh.subGeometryNum ≤ m → mesh.indexCount m ≤ mesh.segmentTotal

/-- The start indices that the prefix sum loop leaves. That of a material without a sub-geometry is
never set. -/
def passStart (mesh : FbxMesh) (vtx : Nat → Nat → Nat) (m : Nat) : Nat :=
  if m < mesh.subGeometryNum then start (fanItems mesh vtx mesh.polygonCount) m else 0

def passLayout (mesh : FbxMesh) (vtx : Nat → Nat → Nat) : IndexLayout :=
  let items := fanItems mesh vtx mesh.polygonCount
  { subGeometryNum := mesh.subGeometryNum
    indexDataNum := size items
    indexDataStartIndex := passStart mesh vtx
    wholeIndexDataNum := start items mesh.subGeometryNum
    writes := scatter (passStart mesh vtx) (fun _ => 0) items
    subMaterialIdxDataCounter := size items }

theorem size_eq_sum (n m : Nat) : size (fanItems mesh vtx n) m =
    ((List.range n).map fun i =>
      if mesh.material i = m then 3 * (mesh.polygonSize i - 2) else 0).sum := by
  induction n with
  | zero => rfl
  | succ n ih =>
    rw [size_fanItems_succ, ih, List.range_succ, List.map_append, List.sum_append]
    simp

theorem size_eq_indexCount (m : Nat) :
    size (fanItems mesh vtx mesh.polygonCount) m = mesh.indexCount m :=
  size_eq_sum mesh.polygonCount m

theorem start_eq_sum (items : List (Nat × List Nat)) (k : Nat) :
    start items k = ((List.range k).map (size items)).sum := by
  induction k with
  | zero => rfl
  | succ k ih =>
    rw [List.range_succ, List.map_append, List.sum_append, ← ih]
    simp [start]

theorem start_eq_segmentTotal (vtx : Nat → Nat → Nat) :
    start (fanItems mesh vtx mesh.polygonCount) mesh.subGeometryNum = mesh.segmentTotal := by
  rw [start_eq_sum, FbxMesh.segmentTotal]
  congr 2
  funext m
  exact size_eq_indexCount m

theorem countIndexDataChecked_iff (vtx : Nat → Nat → Nat) (num : Nat → Nat) :
    countIndexDataChecked mesh = some num ↔
      (∀ i, i < mesh.polygonCount → PolygonInput mesh i) ∧
        (∀ m, size (fanItems mesh vtx mesh.polygonCount) m < 2 ^ 32) ∧
        num = size (fanItems mesh vtx mesh.polygonCount) := by
  unfold countIndexDataChecked
  by_cases hmap : mesh.mappedByPolygon = true
  · rw [if_pos hmap]
    exact countByPolygonChecked_iff vtx hmap _ num
  · rw [if_neg hmap]
    exact countAllSameChecked_iff vtx (by simpa using hmap) _ num

theorem emitIndexDataChecked_iff {whole : Nat} (hwhole : whole < 2 ^ 32) {st : Nat → Nat}
    (hst : st 0 = 0) (s : EmitState)
    (hinput : ∀ i, i < mesh.polygonCount → PolygonInput mesh i) :
    emitIndexDataChecked mesh vtx st whole = some s ↔
      (∀ m, Fits mesh vtx st whole mesh.polygonCount m) ∧
        s = scattered mesh vtx st mesh.polygonCount := by
  unfold emitIndexDataChecked
  by_cases hmap : mesh.mappedByPolygon = true
  · rw [if_pos hmap]
    exact emitByPolygonChecked_iff hmap hwhole st _ s hinput
  · rw [if_neg hmap]
    exact emitAllSameChecked_iff (by simpa using hmap) hwhole hst _ s hinput

theorem passStart_zero : passStart mesh vtx 0 = 0 := by
  unfold passStart
  split <;> rfl

/-- Only a material without a sub-geometry can leave the buffer. -/
theorem fits_iff : (∀ m, Fits mesh vtx (passStart mesh vtx)
      (start (fanItems mesh vtx mesh.polygonCount) mesh.subGeometryNum) mesh.polygonCount m) ↔
    ∀ m, mesh.subGeometryNum ≤ m → mesh.indexCount m ≤ mesh.segmentTotal := by
  unfold Fits
  rw [start_eq_segmentTotal]
  constructor
  · intro h m hm
    have hfit := h m
    rw [passStart, if_neg (Nat.not_lt_of_le hm), size_eq_indexCount] at hfit
    omega
  · intro h m
    by_cases hm : m < mesh.subGeometryNum
    · right
      rw [passStart, if_pos hm, ← start_eq_segmentTotal vtx]
      exact start_add_size_le _ hm
    · have hfit := h m (Nat.le_of_not_lt hm)
      rw [passStart, if_neg hm, size_eq_indexCount]
      omega

theorem PassInput.size_lt (h : PassInput mesh) (m : Nat) :
    size (fanItems mesh vtx mesh.polygonCount) m < 2 ^ 32 := by
  have htotal := h.total_lt
  by_cases hm : m < mesh.subGeometryNum
  · have hle := start_add_size_le (fanItems mesh vtx mesh.polygonCount) hm
    rw [start_eq_segmentTotal] at hle
    omega
  · have hfit := h.fits m (Nat.le_of_not_lt hm)
    rw [size_eq_indexCount]
    omega

theorem buildIndexDataChecked_iff (hsub : mesh.subGeometryNum < SUBGEOM_COUNT_MAX)
    (a : IndexLayout) : buildIndexDataChecked mesh vtx = some a ↔
      PassInput mesh ∧ a = passLayout mesh vtx := by
  have hend : ∀ i, i < mesh.subGeometryNum → size (fanItems mesh vtx mesh.polygonCount) i =
      (scattered mesh vtx (passStart mesh vtx) mesh.polygonCount).counter i := fun _ _ => rfl
  rw [buildIndexDataChecked, if_pos hsub]
  simp only [Option.bind_eq_bind, Option.bind_eq_some_iff]
  constructor
  · rintro ⟨num, hcount, p, hstart, s, hemit, ha⟩
    obtain ⟨hinput, _, rfl⟩ := (countIndexDataChecked_iff vtx num).mp hcount
    obtain ⟨htotal, rfl⟩ := (startIndicesChecked_iff _ _ _).mp hstart
    obtain ⟨hfits, rfl⟩ := (emitIndexDataChecked_iff htotal passStart_zero s hinput).mp hemit
    rw [start_eq_segmentTotal] at htotal
    rw [if_pos hend] at ha
    cases ha
    exact ⟨⟨hinput, htotal, fits_iff.mp hfits⟩, rfl⟩
  · rintro ⟨h, rfl⟩
    have htotal := h.total_lt
    rw [← start_eq_segmentTotal vtx] at htotal
    refine ⟨_, (countIndexDataChecked_iff vtx _).mpr ⟨h.polygon, h.size_lt, rfl⟩, _,
      (startIndicesChecked_iff _ _ _).mpr ⟨htotal, rfl⟩, _,
      (emitIndexDataChecked_iff htotal passStart_zero _ h.polygon).mpr ⟨fits_iff.mpr h.fits, rfl⟩,
      ?_⟩
    rw [if_pos hend]
    rfl

/-! What passes the checks is what the code computes without them. -/

theorem countIndexData_of_checked {num : Nat → Nat} (h : countIndexDataChecked mesh = some num) :
    countIndexData mesh = some num := by
  unfold countIndexDataChecked at h
  unfold countIndexData
  split at h
  · rename_i hmap
    rw [if_pos hmap]
    refine foldlM_refines ?_ h
    intro num i num' hstep
    simp only [countPolygonChecked, Option.bind_eq_bind, Option.bind_eq_some_iff] at hstep
    obtain ⟨k8, hk8, k, hk, y, hy, added, hadded, sum, hsum, hnum⟩ := hstep
    obtain ⟨h0, hlt8, rfl⟩ := checkUint8_some hk8
    obtain ⟨rfl, hlt⟩ := checkMaterial_some hk
    obtain ⟨rfl, _, _⟩ := checkInt32_some hy
    obtain ⟨hpos, _, heq⟩ := checkUint32_some hadded
    have hadd : ((mesh.polygonSize i : Int) - 2) * 3 = added := by omega
    have hval := toUint32_of_check hsum
    push_cast at hval
    simp only [toUint8_eq h0 hlt8, if_pos hlt, hadd, hval]
    exact hnum
  · rename_i hmap
    rw [if_neg hmap]
    simp only [countAllSameChecked, Option.bind_eq_bind, Option.bind_eq_some_iff] at h
    obtain ⟨sum, hsum, total, htotal, hnum⟩ := h
    have hloop : sum = (List.range mesh.polygonCount).foldl (fun sum i =>
        toUint32 (sum + ((mesh.polygonSize i : Int) - 2))) 0 := by
      refine foldl_of_foldlM ?_ hsum
      intro sum i sum' hstep
      simp only [countTrianglesChecked, Option.bind_eq_bind, Option.bind_eq_some_iff] at hstep
      obtain ⟨added, hadded, hstep⟩ := hstep
      obtain ⟨hpos, _, heq⟩ := checkUint32_some hadded
      have hadd : ((mesh.polygonSize i : Int) - 2) = added := by omega
      rw [hadd, ← toUint32_of_check hstep]
      push_cast
      rfl
    rw [countAllSame, ← hloop, toUint32_of_check htotal]
    exact hnum

theorem startIndices_of_checked {num : Nat → Nat} {k : Nat} {p : (Nat → Nat) × Nat}
    (h : startIndicesChecked num k = some p) : p = startIndices num k := by
  refine foldl_of_foldlM ?_ h
  intro s i s' hstep
  simp only [startIndexChecked, Option.bind_eq_bind, Option.bind_eq_some_iff] at hstep
  obtain ⟨idxAcc, hacc, hs⟩ := hstep
  cases hs
  rw [toUint32_of_check hacc]

theorem emitTriangle_of_checked {whole base k : Nat} {tri : Nat × Nat × Nat} {s s' : EmitState}
    (h : emitTriangleChecked whole base k tri s = some s') : s' = emitTriangle base k tri s := by
  simp only [emitTriangleChecked, Option.bind_eq_bind, Option.bind_eq_some_iff] at h
  obtain ⟨a0, h0, a1, h1, a2, h2, next, hnext, hs⟩ := h
  obtain ⟨rfl, _, hlt0⟩ := checkAddress_some h0
  obtain ⟨rfl, _, hlt1⟩ := checkAddress_some h1
  obtain ⟨rfl, _, hlt2⟩ := checkAddress_some h2
  cases hs
  simp only [emitTriangle, toUint32_natCast hlt0, toUint32_natCast hlt1, toUint32_natCast hlt2,
    toUint32_of_check hnext]

theorem emitFan_of_checked {whole base k sz : Nat} {tri : Nat → Nat × Nat × Nat}
    {s s' : EmitState} (h : emitFanChecked whole base k sz tri s = some s') :
    s' = emitFan base k sz tri s := by
  simp only [emitFanChecked, Option.bind_eq_bind, Option.bind_eq_some_iff] at h
  obtain ⟨bound, hbound, hsteps⟩ := h
  rw [emitFan, fanBound, toUint32_of_check hbound]
  exact foldl_of_foldlM (fun _ _ _ hstep => emitTriangle_of_checked hstep) hsteps

theorem emitIndexData_of_checked {st : Nat → Nat} {whole : Nat} {s : EmitState}
    (h : emitIndexDataChecked mesh vtx st whole = some s) : emitIndexData mesh vtx st = some s := by
  unfold emitIndexDataChecked at h
  unfold emitIndexData
  split at h
  · rename_i hmap
    rw [if_pos hmap]
    refine foldlM_refines ?_ h
    intro s i s' hstep
    simp only [emitPolygonChecked, Option.bind_eq_bind, Option.bind_eq_some_iff] at hstep
    obtain ⟨k32, hk32, k, hk, hfan⟩ := hstep
    obtain ⟨rfl, hlt⟩ := checkMaterial_some hk
    simp only [toUint32_of_check hk32, if_pos hlt, emitFan_of_checked hfan]
  · rename_i hmap
    rw [if_neg hmap, Option.some.injEq]
    exact (foldl_of_foldlM (fun _ _ _ hstep => emitFan_of_checked hstep) h).symm

theorem buildIndexData_of_checked {a : IndexLayout} (h : buildIndexDataChecked mesh vtx = some a) :
    buildIndexData mesh vtx = some a := by
  unfold buildIndexDataChecked at h
  unfold buildIndexData
  split at h
  · rename_i hsub
    simp only [Option.bind_eq_bind, Option.bind_eq_some_iff] at h
    obtain ⟨num, hcount, p, hstart, s, hemit, ha⟩ := h
    have hstart := startIndices_of_checked hstart
    subst hstart
    rw [if_pos hsub, countIndexData_of_checked hcount]
    simp only [emitIndexData_of_checked hemit]
    exact ha
  · cases h

theorem buildIndexData_of_input (vtx : Nat → Nat → Nat) (h : PassInput mesh)
    (hsub : mesh.subGeometryNum < SUBGEOM_COUNT_MAX) :
    buildIndexData mesh vtx = some (passLayout mesh vtx) := by
  have hchecked : buildIndexDataChecked mesh vtx = some (passLayout mesh vtx) :=
    (buildIndexDataChecked_iff hsub _).mpr ⟨h, rfl⟩
  exact buildIndexData_of_checked hchecked

/-- Both passes stay within their types and arrays exactly on the meshes of `PassInput`. Where they
do, they have counted and emitted the same for every material. -/
theorem passes_agree_iff (mesh : FbxMesh) (vtx : Nat → Nat → Nat)
    (hsub : mesh.subGeometryNum < SUBGEOM_COUNT_MAX) :
    ((buildIndexDataChecked mesh vtx).isSome ↔ PassInput mesh) ∧
      ∀ a, buildIndexDataChecked mesh vtx = some a → buildIndexData mesh vtx = some a ∧
        ∀ m, a.indexDataNum m = a.subMaterialIdxDataCounter m := by
  constructor
  · rw [Option.isSome_iff_exists]
    constructor
    · rintro ⟨a, ha⟩
      exact ((buildIndexDataChecked_iff hsub a).mp ha).1
    · intro h
      exact ⟨_, (buildIndexDataChecked_iff hsub _).mpr ⟨h, rfl⟩⟩
  · intro a ha
    obtain ⟨_, rfl⟩ := (buildIndexDataChecked_iff hsub a).mp ha
    exact ⟨buildIndexData_of_checked ha, fun _ => rfl⟩

theorem passes_agree_iff_two_materials :
    ((buildIndexDataChecked mixedMesh fun i j => 4 * i + j).isSome ↔ PassInput mixedMesh) ∧
      ∀ a, buildIndexDataChecked mixedMesh (fun i j => 4 * i + j) = some a →
        buildIndexData mixedMesh (fun i j => 4 * i + j) = some a ∧
          ∀ m, a.indexDataNum m = a.subMaterialIdxDataCounter m :=
  passes_agree_iff _ _ (by decide)

/-- A mesh with a polygon of one corner. -/
def pointMesh : FbxMesh where
  controlPointsCount := 1
  polygons := [[0]]
  elementMaterial := none
  nodeMaterialCount := 0
  corner_lt := by decide
  polygonVertexCount_lt := by decide
  controlPointsCount_lt := by decide

/-- Its triangles are counted as -1. -/
theorem pointMesh_wraps : pointMesh.subGeometryNum < SUBGEOM_COUNT_MAX ∧
    ¬ (buildIndexDataChecked pointMesh fun _ j => j).isSome ∧
    countIndexData pointMesh = some (Function.update (fun _ => 0) 0 (2 ^ 32 - 3)) := by
  refine ⟨by decide, ?_, rfl⟩
  have hnone : (buildIndexDataChecked pointMesh fun _ j => j) = none := rfl
  rw [hnone]
  exact Bool.false_ne_true

end Result

end FBXRenderer
