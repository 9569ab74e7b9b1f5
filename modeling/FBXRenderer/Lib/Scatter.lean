import Mathlib

/-!
# FBXRenderer.Lib.Scatter

Counting, prefix sums and scatter. Each item carries a key and a block of values; a first pass
counts the values of each key, the prefix sums give each key a segment, and a second pass writes
the block of every item at the cursor of its key.

* `bucket items m` is what segment `m` should hold: the blocks with key `m`, in item order.
* `start items m` is where segment `m` begins, `size items m` how long it is.
* `scatter` is the second pass as the list of its writes, address and value.

`scatter_perm` says that the writes are those of the buckets laid side by side, only in another
order; the read-back `lastWrite` of a segment is then its bucket (`scatter_read`), and the
addresses written are `0, …, start items n - 1`, each once (`scatter_addresses`).
-/

namespace Scatter

variable {α : Type}

/-- Writing a block from address `a` on. -/
def blockWrites : Nat → List α → List (Nat × α)
  | _, [] => []
  | a, v :: b => (a, v) :: blockWrites (a + 1) b

theorem blockWrites_append (b c : List α) :
    ∀ a, blockWrites a (b ++ c) = blockWrites a b ++ blockWrites (a + b.length) c := by
  induction b with
  | nil => intro a; simp [blockWrites]
  | cons v b ih =>
    intro a
    simp only [List.cons_append, blockWrites, ih, List.length_cons]
    have e : a + 1 + b.length = a + (b.length + 1) := by omega
    rw [e]

theorem blockWrites_addresses (b : List α) :
    ∀ a, (blockWrites a b).map Prod.fst = List.range' a b.length := by
  induction b with
  | nil => intro a; rfl
  | cons v b ih =>
    intro a
    simp only [blockWrites, List.map_cons, ih, List.length_cons, List.range'_succ]

theorem blockWrites_values (b : List α) : ∀ a, (blockWrites a b).map Prod.snd = b := by
  induction b with
  | nil => intro a; rfl
  | cons v b ih => intro a; simp only [blockWrites, List.map_cons, ih]

theorem blockWrites_length (b : List α) (a : Nat) : (blockWrites a b).length = b.length := by
  rw [← List.length_map (f := Prod.snd), blockWrites_values]

/-- The blocks with key `m`, in item order. -/
def bucket (items : List (Nat × List α)) (m : Nat) : List α :=
  items.flatMap fun it => if it.1 = m then it.2 else []

def size (items : List (Nat × List α)) (m : Nat) : Nat := (bucket items m).length

/-- Sum of the sizes of the segments before `m`. -/
def start (items : List (Nat × List α)) : Nat → Nat
  | 0 => 0
  | m + 1 => start items m + size items m

/-- Number of values over all items. -/
def total (items : List (Nat × List α)) : Nat := (items.map fun it => it.2.length).sum

theorem bucket_cons (k : Nat) (b : List α) (items : List (Nat × List α)) (m : Nat) :
    bucket ((k, b) :: items) m = (if k = m then b else []) ++ bucket items m := rfl

theorem bucket_append (items items' : List (Nat × List α)) (m : Nat) :
    bucket (items ++ items') m = bucket items m ++ bucket items' m := by
  simp [bucket]

theorem total_append (items items' : List (Nat × List α)) :
    total (items ++ items') = total items + total items' := by
  simp [total]

theorem start_mono (items : List (Nat × List α)) {m n : Nat} (h : m ≤ n) :
    start items m ≤ start items n := by
  induction n with
  | zero => have : m = 0 := by omega
            subst this; exact Nat.le_refl _
  | succ n ih =>
    rcases Nat.lt_or_ge m (n + 1) with hlt | hge
    · exact Nat.le_trans (ih (by omega)) (Nat.le_add_right _ _)
    · have : m = n + 1 := by omega
      subst this; exact Nat.le_refl _

/-- A segment ends inside the whole. -/
theorem start_add_size_le (items : List (Nat × List α)) {m n : Nat} (h : m < n) :
    start items m + size items m ≤ start items n :=
  start_mono items (m := m + 1) h

theorem start_cons (k : Nat) (b : List α) (items : List (Nat × List α)) (n : Nat) :
    start ((k, b) :: items) n = (if k < n then b.length else 0) + start items n := by
  induction n with
  | zero => simp [start]
  | succ n ih =>
    simp only [start, ih, size, bucket_cons, List.length_append]
    rcases Nat.lt_trichotomy k n with h | rfl | h
    · rw [if_pos h, if_neg (by omega), if_pos (by omega)]
      simp only [List.length_nil]; omega
    · rw [if_neg (by omega), if_pos rfl, if_pos (by omega)]
      omega
    · rw [if_neg (by omega), if_neg (by omega), if_neg (by omega)]
      simp only [List.length_nil]; omega

theorem start_le_total (items : List (Nat × List α)) (n : Nat) : start items n ≤ total items := by
  induction items with
  | nil =>
    have : start ([] : List (Nat × List α)) n = 0 := by
      induction n with
      | zero => rfl
      | succ n ih => simp [start, size, bucket, ih]
    simp [this]
  | cons it items ih =>
    obtain ⟨k, b⟩ := it
    rw [start_cons]
    simp only [total, List.map_cons, List.sum_cons] at ih ⊢
    split <;> omega

theorem size_le_total (items : List (Nat × List α)) (m : Nat) : size items m ≤ total items := by
  have h1 : start items m + size items m ≤ start items (m + 1) := Nat.le_refl _
  have h2 := start_le_total items (m + 1)
  omega

/-- The second pass: `st k` is where segment `k` begins, `c k` its cursor. -/
def scatter (st : Nat → Nat) : (Nat → Nat) → List (Nat × List α) → List (Nat × α)
  | _, [] => []
  | c, (k, b) :: items =>
    blockWrites (st k + c k) b ++ scatter st (Function.update c k (c k + b.length)) items

theorem scatter_append (st : Nat → Nat) (items' : List (Nat × List α)) :
    ∀ (items : List (Nat × List α)) (c : Nat → Nat),
      scatter st c (items ++ items') =
        scatter st c items ++ scatter st (fun m => c m + size items m) items' := by
  intro items
  induction items with
  | nil => intro c; simp [scatter, size, bucket]
  | cons it items ih =>
    intro c
    obtain ⟨k, b⟩ := it
    simp only [List.cons_append, scatter, ih, List.append_assoc]
    congr 3
    funext m
    simp only [size, bucket_cons, List.length_append, Function.update_apply]
    by_cases h : m = k
    · subst h; simp only [if_true]; omega
    · rw [if_neg h, if_neg (fun e => h e.symm)]; simp

theorem scatter_congr (st st' : Nat → Nat) {items : List (Nat × List α)} :
    (∀ it ∈ items, st it.1 = st' it.1) → ∀ {c}, scatter st c items = scatter st' c items := by
  induction items with
  | nil => intro _ c; rfl
  | cons it items ih =>
    intro h c
    obtain ⟨k, b⟩ := it
    have hk : st k = st' k := h (k, b) (by simp)
    simp only [scatter, hk, ih fun it hit => h it (by simp [hit])]

theorem scatter_length (st : Nat → Nat) :
    ∀ (items : List (Nat × List α)) (c : Nat → Nat), (scatter st c items).length = total items := by
  intro items
  induction items with
  | nil => intro c; rfl
  | cons it items ih =>
    intro c
    obtain ⟨k, b⟩ := it
    simp [scatter, ih, blockWrites_length, total]

/-- Taking one block out of a concatenation. -/
theorem perm_flatMap_update {β : Type} (f : Nat → List β) (p : List β) (k : Nat) :
    ∀ l : List Nat, k ∈ l → l.Nodup →
      (p ++ l.flatMap f).Perm (l.flatMap fun m => if m = k then p ++ f m else f m) := by
  intro l
  induction l with
  | nil => intro h; cases h
  | cons m l ih =>
    intro hk hn
    simp only [List.flatMap_cons]
    by_cases hm : m = k
    · subst hm
      have hrest : (l.flatMap fun x => if x = m then p ++ f x else f x) = l.flatMap f := by
        apply List.flatMap_congr
        intro x hx
        have : x ≠ m := fun e => (List.nodup_cons.mp hn).1 (e ▸ hx)
        simp [this]
      rw [if_pos rfl, hrest, List.append_assoc]
    · rw [if_neg hm]
      have hk' : k ∈ l := by
        rcases List.mem_cons.mp hk with h | h
        · exact absurd h.symm hm
        · exact h
      have := ih hk' (List.nodup_cons.mp hn).2
      calc p ++ (f m ++ l.flatMap f)
        _ = (p ++ f m) ++ l.flatMap f := by rw [List.append_assoc]
        _ |>.Perm ((f m ++ p) ++ l.flatMap f) := List.perm_append_comm.append_right _
        _ = f m ++ (p ++ l.flatMap f) := by rw [List.append_assoc]
        _ |>.Perm (f m ++ l.flatMap fun x => if x = k then p ++ f x else f x) :=
            this.append_left _

/-- The writes of the second pass are the buckets, each at its cursor. -/
theorem scatter_perm (st : Nat → Nat) (n : Nat) :
    ∀ (items : List (Nat × List α)) (c : Nat → Nat), (∀ it ∈ items, it.1 < n) →
      (scatter st c items).Perm
        ((List.range n).flatMap fun m => blockWrites (st m + c m) (bucket items m)) := by
  intro items
  induction items with
  | nil =>
    intro c _
    have : ((List.range n).flatMap fun m =>
        blockWrites (st m + c m) (bucket ([] : List (Nat × List α)) m)) = [] := by
      simp [bucket, blockWrites]
    rw [this]
    exact List.Perm.nil
  | cons it items ih =>
    intro c hkeys
    obtain ⟨k, b⟩ := it
    have hk : k < n := hkeys (k, b) (by simp)
    have hrest := ih (Function.update c k (c k + b.length)) fun it h => hkeys it (by simp [h])
    have hmove := perm_flatMap_update
      (fun m => blockWrites (st m + Function.update c k (c k + b.length) m) (bucket items m))
      (blockWrites (st k + c k) b) k (List.range n) (List.mem_range.mpr hk) List.nodup_range
    refine ((List.Perm.append_left _ hrest).trans hmove).trans (List.Perm.of_eq ?_)
    apply List.flatMap_congr
    intro m _
    by_cases hm : m = k
    · subst hm
      rw [if_pos rfl, bucket_cons, if_pos rfl, blockWrites_append, Function.update_self,
        Nat.add_assoc]
    · rw [if_neg hm, bucket_cons, if_neg (fun e => hm e.symm), Function.update_of_ne hm]
      rfl

theorem range_eq_segments (items : List (Nat × List α)) (n : Nat) :
    ((List.range n).flatMap fun m => List.range' (start items m) (size items m)) =
      List.range (start items n) := by
  induction n with
  | zero => rfl
  | succ n ih =>
    rw [List.range_succ, List.flatMap_append, ih]
    simp only [List.flatMap_cons, List.flatMap_nil, List.append_nil, start]
    rw [List.range_add, List.range'_eq_map_range]

/-- Each address below the end is written exactly once, and no other. -/
theorem scatter_addresses (n : Nat) (items : List (Nat × List α)) (hkeys : ∀ it ∈ items, it.1 < n) :
    ((scatter (start items) (fun _ => 0) items).map Prod.fst).Perm
      (List.range (start items n)) := by
  have h := (scatter_perm (start items) n items (fun _ => 0) hkeys).map Prod.fst
  rw [List.map_flatMap] at h
  simp only [Nat.add_zero, blockWrites_addresses] at h
  rw [← range_eq_segments items n]
  exact h

/-- The value that a sequence of writes leaves at an address. -/
def lastWrite (ws : List (Nat × α)) (a : Nat) : Option α :=
  (ws.reverse.find? fun w => w.1 == a).map Prod.snd

theorem lastWrite_of_mem {ws : List (Nat × α)} (hn : (ws.map Prod.fst).Nodup) {a : Nat} {v : α}
    (h : (a, v) ∈ ws) : lastWrite ws a = some v := by
  have hmem : (a, v) ∈ ws.reverse := List.mem_reverse.mpr h
  cases hf : ws.reverse.find? fun w => w.1 == a with
  | none =>
    have := List.find?_eq_none.mp hf (a, v) hmem
    simp at this
  | some w =>
    have hw : w ∈ ws := List.mem_reverse.mp (List.mem_of_find?_eq_some hf)
    have ha : w.1 = a := by simpa using List.find?_some hf
    have : w = (a, v) := List.inj_on_of_nodup_map hn hw h ha
    simp [lastWrite, hf, this]

/-- An address that was written holds one of the values. -/
theorem lastWrite_of_address {ws : List (Nat × α)} {a : Nat} (h : a ∈ ws.map Prod.fst) :
    ∃ v, lastWrite ws a = some v ∧ v ∈ ws.map Prod.snd := by
  obtain ⟨w, hw, rfl⟩ := List.mem_map.mp h
  cases hf : ws.reverse.find? fun w' => w'.1 == w.1 with
  | none =>
    have hne := List.find?_eq_none.mp hf w (List.mem_reverse.mpr hw)
    simp at hne
  | some w' =>
    have hw' : w' ∈ ws := List.mem_reverse.mp (List.mem_of_find?_eq_some hf)
    exact ⟨w'.2, by rw [lastWrite, hf, Option.map_some], List.mem_map_of_mem hw'⟩

theorem scatter_values (st : Nat → Nat) : ∀ (items : List (Nat × List α)) (c : Nat → Nat),
    (scatter st c items).map Prod.snd = items.flatMap Prod.snd := by
  intro items
  induction items with
  | nil => intro c; rfl
  | cons it items ih =>
    intro c
    obtain ⟨k, b⟩ := it
    rw [scatter, List.map_append, blockWrites_values, ih, List.flatMap_cons]

/-- Every place of a segment is written, whatever else is written there. -/
theorem scatter_address (st : Nat → Nat) (m : Nat) :
    ∀ (items : List (Nat × List α)) (c : Nat → Nat) {x : Nat}, x < size items m →
      st m + c m + x ∈ (scatter st c items).map Prod.fst := by
  intro items
  induction items with
  | nil => intro c x hx; cases hx
  | cons it items ih =>
    intro c x hx
    obtain ⟨k, b⟩ := it
    rw [size, bucket_cons, List.length_append] at hx
    rw [scatter, List.map_append, List.mem_append, blockWrites_addresses, List.mem_range'_1]
    by_cases hk : k = m
    · subst hk
      rw [if_pos rfl] at hx
      by_cases hblock : x < b.length
      · left
        omega
      · right
        have hrest : x - b.length < size items k := by
          rw [size]
          omega
        have hmem := ih (Function.update c k (c k + b.length)) hrest
        rw [Function.update_self] at hmem
        have haddr : st k + (c k + b.length) + (x - b.length) = st k + c k + x := by omega
        rwa [haddr] at hmem
    · right
      rw [if_neg hk, List.length_nil, Nat.zero_add] at hx
      have hmem := ih (Function.update c k (c k + b.length)) hx
      rwa [Function.update_of_ne (Ne.symm hk)] at hmem

theorem lastWrite_blockWrites_mem (b : List α) :
    ∀ (a : Nat) (ws : List (Nat × α)), (ws.map Prod.fst).Nodup →
      (∀ w ∈ blockWrites a b, w ∈ ws) →
      (List.range' a b.length).map (lastWrite ws) = b.map some := by
  induction b with
  | nil => intro a ws _ _; rfl
  | cons v b ih =>
    intro a ws hn hmem
    simp only [List.length_cons, List.range'_succ, List.map_cons]
    rw [lastWrite_of_mem hn (hmem (a, v) (by simp [blockWrites]))]
    rw [ih (a + 1) ws hn fun w hw => hmem w (by simp [blockWrites, hw])]

/-- After the second pass segment `m` holds its bucket. -/
theorem scatter_read {n : Nat} {items : List (Nat × List α)} (hkeys : ∀ it ∈ items, it.1 < n)
    {m : Nat} (hm : m < n) :
    (List.range' (start items m) (size items m)).map
        (lastWrite (scatter (start items) (fun _ => 0) items)) = (bucket items m).map some := by
  have hperm := scatter_perm (start items) n items (fun _ => 0) hkeys
  have hn : ((scatter (start items) (fun _ => 0) items).map Prod.fst).Nodup :=
    (scatter_addresses n items hkeys).nodup_iff.mpr List.nodup_range
  refine lastWrite_blockWrites_mem (bucket items m) _ _ hn fun w hw => ?_
  refine hperm.mem_iff.mpr (List.mem_flatMap.mpr ⟨m, List.mem_range.mpr hm, ?_⟩)
  simpa using hw

end Scatter
