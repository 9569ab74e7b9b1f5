import Mathlib
import FBXRenderer.Lib.Stopwatch
import FBXRenderer.NativeKeywords

/-!
# FBXRenderer.Engine.FrameInfo

`SSFrameInfo` (`SSFrameInfo.h`, `SSFrameInfo.cpp`) in exact arithmetic: the clock of the frames and
the count of frames per second. Ticks are those of `QueryPerformanceCounter`, which never goes back.
A frame at the same tick as the one before it goes on after its `__debugbreak`.

* `frame_clock`: what the members hold after any run of frames.
-/

namespace FBXRenderer

def FRAME_LOW_LIMIT (K : Type) [Field K] : K := 1 / (1000 : Nat)

structure SSFrameInfo (K : Type) where
  _perfFrequency : Nat
  _frameCount : Nat
  _deltaTime : K
  _elapsedTime : K
  _previousTick : Nat
  _currentTick : Nat
  _FPSCheckStopWatch : K
  _frameCntDuringInFPSCheckterval : Nat
  _FPS : Nat
  _windowSize : Nat × Nat

namespace SSFrameInfo

section Definitions

variable {K : Type} [Field K]

def new : SSFrameInfo K where
  _perfFrequency := 0
  _frameCount := 0
  _deltaTime := 0
  _elapsedTime := 0
  _previousTick := 0
  _currentTick := 0
  _FPSCheckStopWatch := 0
  _frameCntDuringInFPSCheckterval := 0
  _FPS := 0
  _windowSize := (0, 0)

/-- With what `QueryPerformanceFrequency` and `QueryPerformanceCounter` answer. -/
def beginFrame (info : SSFrameInfo K) (freqLI newTickLI : Nat) : SSFrameInfo K :=
  { info with _perfFrequency := freqLI, _currentTick := newTickLI }

/-- The delta time of a frame, from the `uint64` difference of its ticks. -/
def deltaTimeOf (perfFrequency previousTick currentTick : Nat) : K :=
  let tickDiff : Nat := (((currentTick : Int) - previousTick) % 2 ^ 64).toNat
  if tickDiff = 0 then FRAME_LOW_LIMIT K else (tickDiff : K) / (perfFrequency : K)

variable [LinearOrder K]

def perFrame (info : SSFrameInfo K) (newTickLI : Nat) : SSFrameInfo K :=
  let deltaTime := deltaTimeOf info._perfFrequency info._currentTick newTickLI
  let frameCnt := (info._frameCntDuringInFPSCheckterval + 1) % 2 ^ 64
  let stopWatch := info._FPSCheckStopWatch + deltaTime
  let info := { info with
    _frameCount := (info._frameCount + 1) % 2 ^ 64
    _previousTick := info._currentTick
    _currentTick := newTickLI
    _deltaTime := deltaTime
    _elapsedTime := info._elapsedTime + deltaTime }
  if 1 < stopWatch then
    { info with
      _FPS := frameCnt, _FPSCheckStopWatch := 0, _frameCntDuringInFPSCheckterval := 0 }
  else { info with _FPSCheckStopWatch := stopWatch, _frameCntDuringInFPSCheckterval := frameCnt }

def processWindowResizeEventInternal (info : SSFrameInfo K) (width height : Nat) : SSFrameInfo K :=
  { info with _windowSize := (width, height) }

/-- `BeginFrame` at a tick of the clock, and a frame at each of the others. -/
def runFrames (freq tick : Nat) (ticks : List Nat) : SSFrameInfo K :=
  ticks.foldl perFrame (new.beginFrame freq tick)

end Definitions

section Run

variable {K : Type} [Field K]

/-- The delta times of frames at `ticks`, after one at `tick`. -/
def deltaTimes (freq : Nat) : Nat → List Nat → List K
  | _, [] => []
  | tick, newTick :: ticks => deltaTimeOf freq tick newTick :: deltaTimes freq newTick ticks

/-- The frames at the tick of the frame before them. -/
def stalls : Nat → List Nat → Nat
  | _, [] => 0
  | tick, newTick :: ticks => (if newTick = tick then 1 else 0) + stalls newTick ticks

theorem deltaTimes_concat (freq : Nat) : ∀ (ticks : List Nat) (tick newTick : Nat),
    (deltaTimes freq tick (ticks ++ [newTick]) : List K) =
      deltaTimes freq tick ticks ++ [deltaTimeOf freq (ticks.getLastD tick) newTick] := by
  intro ticks
  induction ticks with
  | nil => intro tick newTick; rfl
  | cons t ticks ih =>
    intro tick newTick
    rw [List.cons_append, deltaTimes, deltaTimes, ih, List.cons_append]
    cases ticks with
    | nil => rfl
    | cons u ticks => rfl

/-- Forward by one tick or more, or a stalled frame. -/
theorem deltaTimeOf_eq {freq tick newTick : Nat} (hle : tick ≤ newTick) (hlt : newTick < 2 ^ 64) :
    (deltaTimeOf freq tick newTick : K) = ((newTick : K) - tick) / freq +
      (if newTick = tick then 1 else 0 : Nat) / (1000 : Nat) := by
  have hdiff : (((newTick : Int) - tick) % 2 ^ 64).toNat = newTick - tick := by
    rw [Int.emod_eq_of_lt (by omega) (by omega)]
    omega
  unfold deltaTimeOf FRAME_LOW_LIMIT
  rw [hdiff]
  by_cases heq : newTick = tick
  · simp [heq]
  · have hpos : newTick - tick ≠ 0 := by omega
    simp [heq, hpos, Nat.cast_sub hle]

/-- The delta times add up to the way of the clock, with a millisecond for every stalled frame. -/
theorem deltaTimes_sum {freq : Nat} : ∀ {ticks : List Nat} {tick : Nat},
    (tick :: ticks).IsChain (· ≤ ·) → (∀ t ∈ ticks, t < 2 ^ 64) →
    (deltaTimes freq tick ticks : List K).sum =
      (((ticks.getLastD tick : Nat) : K) - tick) / freq +
        (stalls tick ticks : Nat) / (1000 : Nat) := by
  intro ticks
  induction ticks with
  | nil => intro tick _ _; simp [deltaTimes, stalls]
  | cons t ticks ih =>
    intro tick hchain hlt
    obtain ⟨hle, hrest⟩ := List.isChain_cons_cons.mp hchain
    have hlast : (t :: ticks).getLastD tick = ticks.getLastD t := by
      cases ticks <;> rfl
    rw [deltaTimes, List.sum_cons, stalls, hlast,
      ih hrest fun u hu => hlt u (List.mem_cons_of_mem _ hu),
      deltaTimeOf_eq hle (hlt t (List.mem_cons_self ..))]
    push_cast
    ring

variable [LinearOrder K]

/-- The clock members after frames with these delta times. -/
structure Clock (freq tick : Nat) (ticks : List Nat) (info : SSFrameInfo K) : Prop where
  frequency : info._perfFrequency = freq
  currentTick : info._currentTick = ticks.getLastD tick
  frameCount : info._frameCount = ticks.length % 2 ^ 64
  elapsedTime : info._elapsedTime = (deltaTimes freq tick ticks : List K).sum
  stopWatch : info._FPSCheckStopWatch =
    (Stopwatch.windows 1 (deltaTimes freq tick ticks : List K)).current.sum
  frameCnt : info._frameCntDuringInFPSCheckterval =
    (Stopwatch.windows 1 (deltaTimes freq tick ticks : List K)).current.length % 2 ^ 64
  fps : info._FPS =
    (((Stopwatch.windows 1 (deltaTimes freq tick ticks : List K)).closed.getLast?.map
      List.length).getD 0) % 2 ^ 64

theorem Clock.perFrame {freq tick : Nat} {ticks : List Nat} {info : SSFrameInfo K}
    (h : Clock freq tick ticks info) (newTick : Nat) :
    Clock freq tick (ticks ++ [newTick]) (info.perFrame newTick) := by
  have hdelta : deltaTimeOf info._perfFrequency info._currentTick newTick =
      (deltaTimeOf freq (ticks.getLastD tick) newTick : K) := by
    rw [h.frequency, h.currentTick]
  have hmod : ∀ n : Nat, (n % 2 ^ 64 + 1) % 2 ^ 64 = (n + 1) % 2 ^ 64 := fun n => by omega
  have hsum : (deltaTimes freq tick (ticks ++ [newTick]) : List K).sum =
      info._elapsedTime + deltaTimeOf info._perfFrequency info._currentTick newTick := by
    rw [deltaTimes_concat, List.sum_append, List.sum_singleton, h.elapsedTime, hdelta]
  have hwindows : Stopwatch.windows 1 (deltaTimes freq tick (ticks ++ [newTick]) : List K) =
      Stopwatch.feed 1 (Stopwatch.windows 1 (deltaTimes freq tick ticks))
        (deltaTimeOf info._perfFrequency info._currentTick newTick) := by
    rw [deltaTimes_concat, Stopwatch.windows_concat, hdelta]
  unfold SSFrameInfo.perFrame
  by_cases hlong : 1 < info._FPSCheckStopWatch +
      deltaTimeOf info._perfFrequency info._currentTick newTick
  · rw [Stopwatch.feed, ← h.stopWatch, if_pos hlong] at hwindows
    simp only [if_pos hlong]
    refine ⟨h.frequency, by simp, ?_, hsum.symm, ?_, ?_, ?_⟩
    · simp only [h.frameCount, hmod, List.length_append, List.length_singleton]
    · simp [hwindows]
    · simp [hwindows]
    · simp [hwindows, h.frameCnt]
  · rw [Stopwatch.feed, ← h.stopWatch, if_neg hlong] at hwindows
    simp only [if_neg hlong]
    refine ⟨h.frequency, by simp, ?_, hsum.symm, ?_, ?_, ?_⟩
    · simp only [h.frameCount, hmod, List.length_append, List.length_singleton]
    · simp [hwindows, h.stopWatch]
    · simp [hwindows, h.frameCnt]
    · simp [hwindows, h.fps]

theorem clock_run (freq tick : Nat) (ticks : List Nat) :
    Clock freq tick ticks (runFrames freq tick ticks : SSFrameInfo K) := by
  induction ticks using List.reverseRecOn with
  | nil =>
    refine ⟨rfl, rfl, rfl, rfl, rfl, rfl, rfl⟩
  | append_singleton ticks newTick ih =>
    rw [runFrames, List.foldl_append, List.foldl_cons, List.foldl_nil]
    exact ih.perFrame newTick

/-- After any run of frames: the frames are counted, the elapsed time is that of the clock with a
millisecond for every stalled frame, and the frames per second are the frames of the last window
that took longer than a second, where the windows are cut as soon as they do. -/
theorem frame_clock [IsStrictOrderedRing K] (freq tick : Nat) (ticks : List Nat)
    (hchain : (tick :: ticks).IsChain (· ≤ ·)) (hlt : ∀ t ∈ ticks, t < 2 ^ 64) :
    (runFrames freq tick ticks : SSFrameInfo K)._frameCount = ticks.length % 2 ^ 64 ∧
      (runFrames freq tick ticks : SSFrameInfo K)._elapsedTime =
        (((ticks.getLastD tick : Nat) : K) - tick) / freq +
          (stalls tick ticks : Nat) / (1000 : Nat) ∧
      ∃ w : Stopwatch.Windows K, Stopwatch.IsSplit 1 (deltaTimes freq tick ticks) w ∧
        (runFrames freq tick ticks : SSFrameInfo K)._FPSCheckStopWatch = w.current.sum ∧
        (runFrames freq tick ticks : SSFrameInfo K)._frameCntDuringInFPSCheckterval =
          w.current.length % 2 ^ 64 ∧
        (runFrames freq tick ticks : SSFrameInfo K)._FPS =
          ((w.closed.getLast?.map List.length).getD 0) % 2 ^ 64 := by
  have hclock : Clock freq tick ticks (runFrames freq tick ticks : SSFrameInfo K) :=
    clock_run freq tick ticks
  refine ⟨hclock.frameCount, ?_, Stopwatch.windows 1 (deltaTimes freq tick ticks),
    Stopwatch.windows_spec zero_le_one _, hclock.stopWatch, hclock.frameCnt, hclock.fps⟩
  rw [hclock.elapsedTime, deltaTimes_sum hchain hlt]

theorem frame_clock_stall :
    let info : SSFrameInfo ℚ := runFrames 10 1 [3, 3, 9, 20]
    info._frameCount = [3, 3, 9, 20].length % 2 ^ 64 ∧
      info._elapsedTime = ((([3, 3, 9, 20].getLastD 1 : Nat) : ℚ) - (1 : Nat)) / (10 : Nat) +
        (stalls 1 [3, 3, 9, 20] : Nat) / (1000 : Nat) ∧
      ∃ w : Stopwatch.Windows ℚ, Stopwatch.IsSplit 1 (deltaTimes 10 1 [3, 3, 9, 20]) w ∧
        info._FPSCheckStopWatch = w.current.sum ∧
        info._frameCntDuringInFPSCheckterval = w.current.length % 2 ^ 64 ∧
        info._FPS = ((w.closed.getLast?.map List.length).getD 0) % 2 ^ 64 :=
  frame_clock 10 1 [3, 3, 9, 20] (by simp) (by simp)

/-- One window is closed, with all four frames. -/
example : let info : SSFrameInfo ℚ := runFrames 10 1 [3, 3, 9, 20]
    info._FPS = 4 ∧ info._elapsedTime = 1901 / 1000 := by
  decide +kernel

end Run

end SSFrameInfo

end FBXRenderer
