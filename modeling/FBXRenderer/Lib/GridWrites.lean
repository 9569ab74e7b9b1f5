import Mathlib.Data.List.Nodup
import Mathlib.Data.List.Range

/-!
# GridWrites

Filling a table by two nested loops. The writes of the loops are one list (`foldlM_flatten`), writes
to distinct entries all stay (`writeAll_of_mem`), and the columns of a table that is stored row by
row are its entries in another order (`columns_perm`).
-/

namespace GridWrites

section Loop

variable {α β σ : Type}

/-- A loop whose body is a loop over a list of its own: one loop over all the lists. -/
theorem foldlM_flatten {g : α → Option (List β)} {f : σ → β → Option σ} : ∀ (xs : List α) (s : σ),
    xs.foldlM (fun s x => (g x).bind fun ys => ys.foldlM f s) s =
      ((xs.mapM g).map List.flatten).bind fun ys => ys.foldlM f s := by
  intro xs
  induction xs with
  | nil => intro s; rfl
  | cons x xs ih =>
    intro s
    rw [List.foldlM_cons, List.mapM_cons]
    cases g x with
    | none => rfl
    | some ys =>
      simp only [Option.bind_eq_bind, Option.bind_some, ih]
      cases xs.mapM g with
      | none =>
        -- the later lists fail, whatever this one does
        cases ys.foldlM f s with
        | none => rfl
        | some s1 => rfl
      | some zss =>
        simp only [Option.map_some, Option.bind_some, Option.pure_def, List.flatten_cons,
          List.foldlM_append, Option.bind_eq_bind]

theorem mapM_some {g : α → Option β} {h : α → β} : ∀ (xs : List α),
    (∀ x ∈ xs, g x = some (h x)) → xs.mapM g = some (xs.map h) := by
  intro xs
  induction xs with
  | nil => intro _; rfl
  | cons x xs ih =>
    intro hg
    rw [List.mapM_cons, hg x (List.mem_cons_self ..),
      ih fun y hy => hg y (List.mem_cons_of_mem _ hy)]
    rfl

end Loop

section Writes

variable {T : Type}

def writeAll (l : List T) (ws : List (Nat × T)) : List T := ws.foldl (fun l w => l.set w.1 w.2) l

theorem writeAll_length : ∀ (ws : List (Nat × T)) (l : List T),
    (writeAll l ws).length = l.length := by
  intro ws
  induction ws with
  | nil => intro l; rfl
  | cons w ws ih =>
    intro l
    exact (ih (l.set w.1 w.2)).trans List.length_set

theorem writeAll_of_not_mem {i : Nat} : ∀ (ws : List (Nat × T)) (l : List T),
    i ∉ ws.map Prod.fst → (writeAll l ws)[i]? = l[i]? := by
  intro ws
  induction ws with
  | nil => intro l _; rfl
  | cons w ws ih =>
    intro l hi
    rw [List.map_cons, List.mem_cons, not_or] at hi
    exact (ih (l.set w.1 w.2) hi.2).trans (List.getElem?_set_ne (Ne.symm hi.1))

/-- Where no entry is written twice, every write stays. -/
theorem writeAll_of_mem {w : Nat × T} : ∀ (ws : List (Nat × T)) (l : List T),
    (ws.map Prod.fst).Nodup → w ∈ ws → w.1 < l.length → (writeAll l ws)[w.1]? = some w.2 := by
  intro ws
  induction ws with
  | nil =>
    intro l _ hw
    cases hw
  | cons w' ws ih =>
    intro l hnodup hw hlt
    rw [List.map_cons, List.nodup_cons] at hnodup
    rcases List.mem_cons.mp hw with rfl | hw
    · refine (writeAll_of_not_mem ws _ hnodup.1).trans ?_
      rw [List.getElem?_set_self hlt]
    · exact ih (l.set w'.1 w'.2) hnodup.2 hw (by rw [List.length_set]; exact hlt)

end Writes

section Columns

theorem entry_lt {B F b f : Nat} (hb : b < B) (hf : f < F) : B * f + b < B * F := by
  have hle : B * (f + 1) ≤ B * F := Nat.mul_le_mul_left B hf
  rw [Nat.mul_succ] at hle
  omega

theorem entry_inj {B b b' f f' : Nat} (hb : b < B) (hb' : b' < B)
    (h : B * f + b = B * f' + b') : b = b' ∧ f = f' := by
  have hmod := congrArg (· % B) h
  have hdiv := congrArg (· / B) h
  have hB : 0 < B := Nat.lt_of_le_of_lt (Nat.zero_le b) hb
  simp only [Nat.mul_add_mod, Nat.mod_eq_of_lt hb, Nat.mod_eq_of_lt hb'] at hmod
  simp only [Nat.mul_add_div hB, Nat.div_eq_of_lt hb, Nat.div_eq_of_lt hb', Nat.add_zero] at hdiv
  exact ⟨hmod, hdiv⟩

/-- Column by column, the `B * F` entries of a table with rows of length `B`. -/
theorem columns_perm (B F : Nat) :
    ((List.range B).flatMap fun b => (List.range F).map fun f => B * f + b).Perm
      (List.range (B * F)) := by
  refine (List.perm_ext_iff_of_nodup ?_ List.nodup_range).mpr fun i => ?_
  · refine List.nodup_flatMap.mpr ⟨fun b hb => ?_, ?_⟩
    · refine List.nodup_range.map_on fun f _ f' _ h => ?_
      exact (entry_inj (List.mem_range.mp hb) (List.mem_range.mp hb) h).2
    · refine List.Pairwise.imp_of_mem ?_ (List.nodup_range (n := B))
      intro b b' hb hb' hne i hi hi'
      obtain ⟨f, _, rfl⟩ := List.mem_map.mp hi
      obtain ⟨f', _, heq⟩ := List.mem_map.mp hi'
      exact hne (entry_inj (List.mem_range.mp hb') (List.mem_range.mp hb) heq).1.symm
  · rw [List.mem_flatMap, List.mem_range]
    constructor
    · rintro ⟨b, hb, hi⟩
      obtain ⟨f, hf, rfl⟩ := List.mem_map.mp hi
      exact entry_lt (List.mem_range.mp hb) (List.mem_range.mp hf)
    · intro hi
      have hB : 0 < B := by
        rcases Nat.eq_zero_or_pos B with rfl | hB
        · rw [Nat.zero_mul] at hi
          exact absurd hi (Nat.not_lt_zero i)
        · exact hB
      refine ⟨i % B, List.mem_range.mpr (Nat.mod_lt i hB), List.mem_map.mpr ⟨i / B, ?_, ?_⟩⟩
      · exact List.mem_range.mpr (Nat.div_lt_of_lt_mul hi)
      · exact Nat.div_add_mod i B

end Columns

end GridWrites
