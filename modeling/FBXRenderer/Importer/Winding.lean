import FBXRenderer.Importer.CornerIndex

/-!
# FBXRenderer.Importer.Winding

The two emission loops compared. The `eByPolygon` branch stores a fan step as corners
`0, j, j + 1`, the other branch as `j + 1, j, 0`: the same triangle, turned around. A mesh whose
polygons all use material 0 therefore faces the other way depending on how its layer is mapped,
unless its triangles are degenerate.

* `same_winding_iff`: the branches agree exactly where every fan triangle has two corners that
  the vertex loop gave one vertex.
-/

namespace FBXRenderer

/-- Equal up to a cyclic rotation. -/
def SameOrientation (t t' : Nat × Nat × Nat) : Prop :=
  t' = t ∨ t' = (t.2.1, t.2.2, t.1) ∨ t' = (t.2.2, t.1, t.2.1)

instance (t t' : Nat × Nat × Nat) : Decidable (SameOrientation t t') :=
  inferInstanceAs (Decidable (_ ∨ _ ∨ _))

/-- The triangles of a list of indices. -/
def triples : List Nat → List (Nat × Nat × Nat)
  | a :: b :: c :: rest => (a, b, c) :: triples rest
  | _ => []

/-- The fan steps of the first `n` polygons, in emission order. -/
def fanSteps (mesh : FbxMesh) (n : Nat) : List (Nat × Nat) :=
  (List.range n).flatMap fun i => (List.range' 1 (mesh.polygonSize i - 2)).map fun j => (i, j)

theorem sameOrientation_reverse (a b c : Nat) :
    SameOrientation (a, b, c) (c, b, a) ↔ a = b ∨ b = c ∨ a = c := by
  unfold SameOrientation
  rw [Prod.mk.injEq, Prod.mk.injEq, Prod.mk.injEq, Prod.mk.injEq, Prod.mk.injEq, Prod.mk.injEq]
  dsimp only
  omega

theorem triples_steps (tri : Nat → Nat × Nat × Nat) (rest : List Nat) : ∀ l : List Nat,
    triples ((l.flatMap fun j => [(tri j).1, (tri j).2.1, (tri j).2.2]) ++ rest) =
      l.map tri ++ triples rest := by
  intro l
  induction l with
  | nil => rfl
  | cons j l ih =>
    simp only [List.flatMap_cons, List.cons_append, List.nil_append, triples, List.map_cons]
    rw [ih]

theorem triples_fanValues (mesh : FbxMesh) (tri : Nat → Nat → Nat × Nat × Nat) (n : Nat) :
    triples (fanValues mesh tri n) = (fanSteps mesh n).map fun c => tri c.1 c.2 := by
  unfold fanValues fanSteps
  induction List.range n with
  | nil => rfl
  | cons i l ih =>
    rw [List.flatMap_cons, List.flatMap_cons, List.map_append, fanBlock, triples_steps, ih,
      List.map_map]
    rfl

theorem mem_fanSteps {mesh : FbxMesh} {n : Nat} {c : Nat × Nat} :
    c ∈ fanSteps mesh n ↔ c.1 < n ∧ 1 ≤ c.2 ∧ c.2 + 1 < mesh.polygonSize c.1 := by
  obtain ⟨i, j⟩ := c
  simp only [fanSteps, List.mem_flatMap, List.mem_range, List.mem_map, List.mem_range'_1,
    Prod.mk.injEq]
  constructor
  · intro ⟨i', hi, j', hj, h1, h2⟩
    subst h1 h2
    omega
  · intro ⟨hi, h1, h2⟩
    exact ⟨i, hi, j, by omega, rfl, rfl⟩

section Winding

variable {V : Type} (similar : V → V → Bool) (mesh : FbxMesh) (extract : Nat → Nat → V)

/-- Corners `j` and `k` of polygon `i` get one vertex: the first kept corner with their control
point that is similar to each. -/
def Merged (i j k : Nat) : Prop :=
  keptIndex similar mesh extract (corners mesh mesh.polygonCount) (i, j) =
    keptIndex similar mesh extract (corners mesh mesh.polygonCount) (i, k)

variable {similar mesh extract}

theorem vtx_eq {s : DedupState V}
    (h : Represents similar mesh extract (corners mesh mesh.polygonCount) s) {i j : Nat}
    (hc : mesh.IsCorner i j) : s.vtx i j =
      keptIndex similar mesh extract (corners mesh mesh.polygonCount) (i, j) := by
  have hmem : (i, j) ∈ corners mesh mesh.polygonCount := mem_corners.mpr hc
  rw [DedupState.vtx, cornerIndex_eq h hmem, Option.getD_some]

/-- One fan step in the two branches. -/
theorem step_orientation {s : DedupState V}
    (h : Represents similar mesh extract (corners mesh mesh.polygonCount) s) {i j : Nat}
    (hi : i < mesh.polygonCount) (hj : j + 1 < mesh.polygonSize i) :
    SameOrientation (byPolygonTriangle s.vtx i j) (allSameTriangle s.vtx i j) ↔
      Merged similar mesh extract i 0 j ∨ Merged similar mesh extract i j (j + 1) ∨
        Merged similar mesh extract i 0 (j + 1) := by
  have h0 := vtx_eq h (j := 0) ⟨hi, by omega⟩
  have h1 := vtx_eq h (j := j) ⟨hi, by omega⟩
  have h2 := vtx_eq h (j := j + 1) ⟨hi, hj⟩
  unfold byPolygonTriangle allSameTriangle Merged
  rw [sameOrientation_reverse, h0, h1, h2]

variable (similar mesh extract)

theorem same_winding_iff (h3 : ∀ i, i < mesh.polygonCount → 3 ≤ mesh.polygonSize i)
    (hmat : ∀ i, i < mesh.polygonCount → mesh.materialIndex i = 0) (st : Nat → Nat) :
    ∃ s e, buildVertices similar mesh extract = some s ∧
      emitByPolygon mesh s.vtx st mesh.polygonCount = some e ∧
      (List.Forall₂ SameOrientation (triples (e.writes.map Prod.snd))
          (triples ((emitAllSame mesh s.vtx mesh.polygonCount).writes.map Prod.snd)) ↔
        ∀ i j, i < mesh.polygonCount → 1 ≤ j → j + 1 < mesh.polygonSize i →
          Merged similar mesh extract i 0 j ∨ Merged similar mesh extract i j (j + 1) ∨
            Merged similar mesh extract i 0 (j + 1)) := by
  obtain ⟨s, hs, hrep⟩ := buildVertices_eq similar mesh extract
  have hmat' : ∀ i, i < mesh.polygonCount →
      0 ≤ mesh.materialIndex i ∧ mesh.materialIndex i < SUBGEOM_COUNT_MAX := by
    intro i hi
    rw [hmat i hi]
    decide
  obtain ⟨e, _, he, hvals⟩ := byPolygon_values s.vtx h3 hmat' st _ (Nat.le_refl _)
  have hvals' := allSame_values s.vtx h3 (Nat.le_refl mesh.polygonCount)
  refine ⟨s, e, hs, he, ?_⟩
  rw [hvals, hvals', triples_fanValues, triples_fanValues, List.forall₂_map_left_iff,
    List.forall₂_map_right_iff, List.forall₂_same]
  constructor
  · intro h i j hi h1 hj
    exact (step_orientation hrep hi hj).mp (h (i, j) (mem_fanSteps.mpr ⟨hi, h1, hj⟩))
  · intro h c hc
    obtain ⟨hi, h1, hj⟩ := mem_fanSteps.mp hc
    exact (step_orientation hrep hi hj).mpr (h c.1 c.2 hi h1 hj)

end Winding

/-- A triangle with three distinct vertices, material 0. -/
theorem opposite_winding :
    (∀ i, i < (triangleMesh none 1).polygonCount → (triangleMesh none 1).materialIndex i = 0) ∧
    ∃ s e, buildVertices (fun a b : Nat => a == b) (triangleMesh none 1) (fun _ j => j) = some s ∧
      emitByPolygon (triangleMesh none 1) s.vtx (fun _ => 0) 1 = some e ∧
      ¬ List.Forall₂ SameOrientation (triples (e.writes.map Prod.snd))
        (triples ((emitAllSame (triangleMesh none 1) s.vtx 1).writes.map Prod.snd)) := by
  refine ⟨fun _ _ => rfl, _, _, rfl, rfl, ?_⟩
  intro h
  have h : List.Forall₂ SameOrientation [(0, 1, 2)] [(2, 1, 0)] := h
  cases h with
  | cons h _ => revert h; decide

theorem same_winding_iff_triangle :
    ∃ s e, buildVertices (fun a b : Nat => a == b) (triangleMesh none 1) (fun _ j => j) = some s ∧
      emitByPolygon (triangleMesh none 1) s.vtx (fun _ => 0) 1 = some e ∧
      (List.Forall₂ SameOrientation (triples (e.writes.map Prod.snd))
          (triples ((emitAllSame (triangleMesh none 1) s.vtx 1).writes.map Prod.snd)) ↔
        ∀ i j, i < 1 → 1 ≤ j → j + 1 < (triangleMesh none 1).polygonSize i →
          Merged (fun a b : Nat => a == b) (triangleMesh none 1) (fun _ j => j) i 0 j ∨
          Merged (fun a b : Nat => a == b) (triangleMesh none 1) (fun _ j => j) i j (j + 1) ∨
            Merged (fun a b : Nat => a == b) (triangleMesh none 1) (fun _ j => j) i 0 (j + 1)) :=
  same_winding_iff _ (triangleMesh none 1) _ (triangleMesh_input 1).three_le (fun _ _ => rfl) _

end FBXRenderer
