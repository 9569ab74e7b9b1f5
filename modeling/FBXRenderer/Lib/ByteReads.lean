import Mathlib

/-!
# FBXRenderer.Lib.ByteReads

Computations that read a text through a pointer, with every read checked and recorded. A read
outside the text stops the computation; one that comes to its end also says which windows of the
text it looked at.

`Covers text m C Q` says that `m` comes to its end on `text`, that the positions it looked at are
those of `C`, and that its value has `Q`. What is read does not decide where the next read is, so
in a sequence the rest covers the same positions whatever was read before (`Covers.bind`).
`Covers.doWhile` is the rule for a loop with its test at the end.
-/

namespace ByteReads

/-- The positions `start, .., start + size - 1`. -/
structure Window where
  start : Int
  size : Nat
deriving DecidableEq

def Window.Has (w : Window) (i : Int) : Prop := w.start ≤ i ∧ i < w.start + w.size

def Reader (α : Type) : Type := List UInt8 → Option (α × List Window)

namespace Reader

variable {α β σ : Type}

protected def pure (a : α) : Reader α := fun _ => some (a, [])

protected def bind (m : Reader α) (f : α → Reader β) : Reader β := fun text =>
  match m text with
  | none => none
  | some (a, ws) =>
    match f a text with
    | none => none
    | some (b, ws') => some (b, ws ++ ws')

instance : Monad Reader where
  pure := Reader.pure
  bind := Reader.bind

/-- The bytes from the least significant one on. -/
def littleEndian : List UInt8 → Nat
  | [] => 0
  | b :: bytes => b.toNat + 256 * littleEndian bytes

/-- The number in the `size` bytes from position `p` on. -/
def load (size : Nat) (p : Int) : Reader Nat := fun text =>
  if 0 ≤ p ∧ p + size ≤ text.length then
    some (littleEndian ((text.drop p.toNat).take size), [⟨p, size⟩])
  else none

/-- `do { body } while (again)`, stopped when it has not come to its end after `fuel` turns. -/
def doWhile (body : σ → Reader σ) (again : σ → Bool) : Nat → σ → Reader σ
  | 0, _ => fun _ => none
  | fuel + 1, s => do
    let s ← body s
    if again s then doWhile body again fuel s else pure s

/-- `while (again) { body }`. -/
def whileDo (body : σ → Reader σ) (again : σ → Bool) (fuel : Nat) (s : σ) : Reader σ :=
  if again s then doWhile body again fuel s else pure s

end Reader

/-- `m` comes to its end, looks at the positions of `C` and no others, and answers with `Q`. -/
def Covers {α : Type} (text : List UInt8) (m : Reader α) (C : Int → Prop) (Q : α → Prop) : Prop :=
  ∃ a ws, m text = some (a, ws) ∧ (∀ i, (∃ w ∈ ws, Window.Has w i) ↔ C i) ∧ Q a

namespace Covers

variable {α β σ : Type} {text : List UInt8} {C D : Int → Prop} {Q : α → Prop} {R : β → Prop}

theorem pure {a : α} (h : Q a) : Covers text (pure a : Reader α) (fun _ => False) Q :=
  ⟨a, [], rfl, by simp, h⟩

theorem bind {m : Reader α} {f : α → Reader β} (hm : Covers text m C Q)
    (hf : ∀ a, Q a → Covers text (f a) D R) :
    Covers text (m >>= f) (fun i => C i ∨ D i) R := by
  obtain ⟨a, ws, hma, hws, ha⟩ := hm
  obtain ⟨b, ws', hfb, hws', hb⟩ := hf a ha
  refine ⟨b, ws ++ ws', ?_, fun i => ?_, hb⟩
  · show Reader.bind m f text = _
    simp [Reader.bind, hma, hfb]
  · show _ ↔ C i ∨ D i
    rw [← hws i, ← hws' i]
    simp only [List.mem_append, or_and_right, exists_or]

theorem congr {m : Reader α} (h : Covers text m C Q) (hCD : ∀ i, C i ↔ D i) :
    Covers text m D Q := by
  obtain ⟨a, ws, hma, hws, ha⟩ := h
  exact ⟨a, ws, hma, fun i => (hws i).trans (hCD i), ha⟩

theorem mono {m : Reader α} {Q' : α → Prop} (h : Covers text m C Q) (hQ : ∀ a, Q a → Q' a) :
    Covers text m C Q' := by
  obtain ⟨a, ws, hma, hws, ha⟩ := h
  exact ⟨a, ws, hma, hws, hQ a ha⟩

theorem load {size : Nat} {p : Int} (h0 : 0 ≤ p) (h : p + size ≤ text.length) :
    Covers text (Reader.load size p) (fun i => p ≤ i ∧ i < p + size) fun _ => True :=
  ⟨_, _, if_pos ⟨h0, h⟩, fun i => by simp [Window.Has], trivial⟩

/-- A computation that comes to its end has read inside the text only. -/
theorem isSome {m : Reader α} (h : Covers text m C Q) : (m text).isSome = true := by
  obtain ⟨a, ws, hma, -⟩ := h
  rw [hma, Option.isSome_some]

/-- The loop rule. Turn `k` covers `P k`, whatever the bytes were; `I k` holds before it, and the
test says whether `n` turns are done. -/
theorem doWhile {body : σ → Reader σ} {again : σ → Bool} {I : Nat → σ → Prop}
    {P : Nat → Int → Prop} {n : Nat}
    (hbody : ∀ k s, k < n → I k s → Covers text (body s) (P k) (I (k + 1)))
    (hagain : ∀ k s, k < n → I (k + 1) s → (again s = true ↔ k + 1 < n)) :
    ∀ (fuel k : Nat) (s : σ), k < n → n ≤ k + fuel → I k s →
      Covers text (Reader.doWhile body again fuel s)
        (fun i => ∃ j, k ≤ j ∧ j < n ∧ P j i) (I n) := by
  intro fuel
  induction fuel with
  | zero => intro k s hk hfuel; omega
  | succ fuel ih =>
    intro k s hk hfuel hI
    obtain ⟨s', ws, hs', hws, hI'⟩ := hbody k s hk hI
    have hstep : Reader.doWhile body again (fuel + 1) s = (body s >>= fun s =>
        if again s then Reader.doWhile body again fuel s else Pure.pure s) := rfl
    rw [hstep]
    by_cases hlast : k + 1 < n
    · have hrest := ih (k + 1) s' hlast (by omega) hI'
      have hgo := (hagain k s' hk hI').mpr hlast
      obtain ⟨t, wt, ht, hwt, hIt⟩ := hrest
      refine ⟨t, ws ++ wt, ?_, fun i => ?_, hIt⟩
      · show Reader.bind _ _ text = _
        simp [Reader.bind, hs', hgo, ht]
      · simp only [List.mem_append, or_and_right, exists_or, hws i, hwt i]
        constructor
        · rintro (h | ⟨j, hj, hjn, h⟩)
          · exact ⟨k, le_rfl, hk, h⟩
          · exact ⟨j, by omega, hjn, h⟩
        · rintro ⟨j, hj, hjn, h⟩
          rcases Nat.eq_or_lt_of_le hj with rfl | hlt
          · exact Or.inl h
          · exact Or.inr ⟨j, hlt, hjn, h⟩
    · have hn : n = k + 1 := by omega
      subst hn
      have hstop : again s' = false := by
        cases hag : again s' with
        | false => rfl
        | true => exact absurd ((hagain k s' hk hI').mp hag) (lt_irrefl _)
      refine ⟨s', ws, ?_, fun i => ?_, hI'⟩
      · show Reader.bind _ _ text = _
        simp [Reader.bind, hs', hstop, Pure.pure, Reader.pure]
      · rw [hws i]
        constructor
        · intro h
          exact ⟨k, le_rfl, hk, h⟩
        · rintro ⟨j, hj, hjn, h⟩
          obtain rfl : j = k := by omega
          exact h

/-- `doWhile` with the test in front. -/
theorem whileDo {body : σ → Reader σ} {again : σ → Bool} {I : Nat → σ → Prop}
    {P : Nat → Int → Prop} {n : Nat}
    (hbody : ∀ k s, k < n → I k s → Covers text (body s) (P k) (I (k + 1)))
    (hagain : ∀ k s, k ≤ n → I k s → (again s = true ↔ k < n)) {fuel : Nat} (hfuel : n ≤ fuel)
    {s : σ} (hI : I 0 s) :
    Covers text (Reader.whileDo body again fuel s) (fun i => ∃ j, j < n ∧ P j i) (I n) := by
  unfold Reader.whileDo
  by_cases hn : 0 < n
  · rw [if_pos ((hagain 0 s (Nat.zero_le n) hI).mpr hn)]
    have hloop := doWhile hbody (fun k s hk h => hagain (k + 1) s hk h) fuel 0 s hn (by omega) hI
    exact hloop.congr fun i => by simp
  · obtain rfl : n = 0 := by omega
    rw [if_neg fun h => hn ((hagain 0 s le_rfl hI).mp h)]
    exact (Covers.pure hI).congr fun i => by simp

end Covers

end ByteReads
