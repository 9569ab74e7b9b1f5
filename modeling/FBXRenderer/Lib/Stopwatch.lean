import Mathlib

/-!
# FBXRenderer.Lib.Stopwatch

Durations that are put together to windows: a window is closed by the duration with which it gets
longer than the limit, and the next one begins empty.

* `windows_spec`: no duration is lost, a closed window is longer than the limit and would not be
  without its last duration, and the open window is not longer than the limit.
-/

namespace Stopwatch

variable {G : Type} [AddMonoid G] [LinearOrder G]

structure Windows (G : Type) where
  closed : List (List G)
  current : List G

/-- One more duration. -/
def feed (limit : G) (w : Windows G) (duration : G) : Windows G :=
  if limit < w.current.sum + duration then ⟨w.closed ++ [w.current ++ [duration]], []⟩
  else ⟨w.closed, w.current ++ [duration]⟩

def windows (limit : G) (durations : List G) : Windows G :=
  durations.foldl (feed limit) ⟨[], []⟩

theorem windows_concat (limit : G) (durations : List G) (duration : G) :
    windows limit (durations ++ [duration]) = feed limit (windows limit durations) duration := by
  unfold windows
  rw [List.foldl_append, List.foldl_cons, List.foldl_nil]

structure IsSplit (limit : G) (durations : List G) (w : Windows G) : Prop where
  all : w.closed.flatten ++ w.current = durations
  closed : ∀ window ∈ w.closed, limit < window.sum ∧ window.dropLast.sum ≤ limit
  current : w.current.sum ≤ limit

theorem windows_spec {limit : G} (hlimit : 0 ≤ limit) (durations : List G) :
    IsSplit limit durations (windows limit durations) := by
  induction durations using List.reverseRecOn with
  | nil => exact ⟨rfl, by simp [windows], hlimit⟩
  | append_singleton durations duration ih =>
    rw [windows_concat, feed]
    split
    · rename_i hlong
      refine ⟨?_, fun window hwindow => ?_, hlimit⟩
      · rw [List.flatten_append, List.flatten_singleton, List.append_nil, ← List.append_assoc,
          ih.all]
      · rcases List.mem_append.mp hwindow with hold | hnew
        · exact ih.closed window hold
        · obtain rfl := List.mem_singleton.mp hnew
          rw [List.sum_append, List.sum_singleton, List.dropLast_concat]
          exact ⟨hlong, ih.current⟩
    · rename_i hshort
      refine ⟨?_, ih.closed, ?_⟩
      · rw [← List.append_assoc, ih.all]
      · rw [List.sum_append, List.sum_singleton]
        exact le_of_not_gt hshort

end Stopwatch
