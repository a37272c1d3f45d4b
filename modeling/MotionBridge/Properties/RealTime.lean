import MotionBridge.Properties.StreamingStatistics

/-!
# Timed runs under a steady clock

In real time `run_for` keeps to a grid that begins with the run. What the statistics show of it
are the work and the lateness of the cycles.
-/
namespace MotionBridge

open Foundation
open Exact (fin)

namespace ControlLoop

section Source

variable {R : Type} [Double R]

theorem apply_configuration (loop : ControlLoop R) (call : Call R) :
    (loop.apply call).configuration = loop.configuration := by
  cases call with
  | setCommand command => rfl
  | setExternalFault fault => rfl
  | step dt => exact loop.step_configuration dt

/-- A run ends early at its target, and for no other reason. -/
theorem samples_taken (loop : ControlLoop R) (realTime : Bool) (cycles : List (Cycle R)) :
    ∃ taken ≤ cycles.length,
      loop.samples realTime cycles = (cycles.take taken).map (Cycle.sample realTime) ∧
      (taken < cycles.length → (loop.runCycles realTime cycles).status.targetReached = true ∧
        (loop.runCycles realTime cycles).status.state = .ready) := by
  induction cycles generalizing loop with
  | nil => exact ⟨0, le_rfl, rfl, fun early => absurd early (lt_irrefl _)⟩
  | cons measured rest ih =>
    simp only [samples, runCycles]
    split_ifs with ended
    · exact ⟨1, Nat.succ_le_succ (Nat.zero_le _), rfl, fun _ => ended⟩
    · obtain ⟨taken, inside, same, early⟩ := ih (loop.cycle realTime measured)
      refine ⟨taken + 1, Nat.succ_le_succ inside, ?_, fun before => early (Nat.lt_of_succ_lt_succ before)⟩
      rw [same]
      rfl

end Source

variable {K : Type} [Field K] [LinearOrder K] [SquareRoot K]

/-- `duration<double, std::micro>`, from nanoseconds. -/
def micros (nanoseconds : ℤ) : Exact K := fin (nanoseconds / 1000)

/-- What a cycle on the grid leaves in the statistics. -/
def gridSample (K : Type) [Field K] (schedule : Schedule) (cycle : ℕ) : Sample K where
  executionUs := (schedule.elapsed cycle).work / 1000
  jitterUs := schedule.lateness cycle / 1000
  missed := decide (schedule.Missed cycle)

variable [IsStrictOrderedRing K]

/-- In real time the difference that is measured is the lateness. -/
theorem measure_sample {schedule : Schedule} (sleeps : schedule.sleeps = true)
    (calls : ℕ → List (Call (Exact K))) (cycle : ℕ) :
    (measure micros schedule calls cycle).sample true =
      (gridSample K schedule cycle).map fin := by
  have start := Schedule.started_onGrid sleeps cycle
  have worked : ((schedule.completed cycle : ℤ) - schedule.started cycle) =
      ((schedule.elapsed cycle).work : ℤ) := by
    rw [Schedule.completed]
    push_cast
    ring
  have late : ((schedule.started cycle : ℤ) - cycle * schedule.period) =
      (schedule.lateness cycle : ℤ) := by
    rw [start]
    push_cast
    ring
  have nonneg : (0 : K) ≤ schedule.lateness cycle / 1000 := by positivity
  simp only [Cycle.sample, measure, worked, late, micros, if_true, Exact.abs_fin, Sample.map, gridSample,
    Int.cast_natCast, abs_of_nonneg nonneg]

/-- In real time no cycle starts before its period, and the run returns no earlier than the
periods of its cycles are over. The statistics are those of their work and lateness. While the
cycles fit into their periods, each makes up for its slack of an earlier delay, and none misses
its deadline once that is made up for. -/
theorem real_time_run (truncate : Exact K → UInt64) (ticks : Exact K → ℕ)
    (configuration : Configuration (Exact K)) (controller : PidController (Exact K))
    (plant : ServoPlant (Exact K)) (positive : 0 < configuration.frequencyHz)
    (before : List (Call (Exact K))) (durationS : Exact K) (elapsed : ℕ → CycleTime)
    (calls : ℕ → List (Call (Exact K))) :
    let loop := run apply (create configuration controller plant) before
    let after := loop.runForTimed truncate ticks micros durationS true elapsed calls
    let schedule : Schedule := ⟨ticks (1 / configuration.frequencyHz), true, elapsed⟩
    let planned := (truncate (Double.max 0 durationS * configuration.frequencyHz)).toNat
    ∃ cycles ≤ planned,
      (cycles < planned → after.status.targetReached = true ∧ after.status.state = .ready) ∧
      after.status.timing.Summarizes ((List.range cycles).map (gridSample K schedule)) ∧
      (∀ cycle ≤ cycles, cycle * schedule.period ≤ schedule.entered cycle) ∧
      ∀ first delay slack,
        (∀ cycle, first ≤ cycle → cycle < cycles → schedule.Fits delay slack cycle) →
        ∀ more, first + more < cycles →
          schedule.lateness (first + more) ≤ max delay (schedule.lateness first - more * slack) ∧
          (schedule.Missed (first + more) → more * slack < schedule.lateness first) := by
  intro loop after schedule planned
  have configured : loop.configuration = configuration :=
    run_always apply (fun later => later.configuration = configuration)
      (fun later call same => (apply_configuration later call).trans same) _ before rfl
  have untimed : loop.status.timing = .initial :=
    run_always apply (fun later => later.status.timing = .initial)
      (fun later call same => (apply_timing later call).trans same) _ before rfl
  have ran : after =
      loop.runCycles true ((List.range planned).map (measure micros schedule calls)) := by
    simp only [after, runForTimed, runFor, configured, if_neg (not_not.mpr positive)]
    rfl
  obtain ⟨cycles, inside, taken, early⟩ :=
    loop.samples_taken true ((List.range planned).map (measure micros schedule calls))
  rw [List.length_map, List.length_range] at inside early
  have sampled : loop.samples true ((List.range planned).map (measure micros schedule calls)) =
      ((List.range cycles).map (gridSample K schedule)).map (Sample.map fin) := by
    rw [taken, ← List.map_take, List.take_range, min_eq_left inside, List.map_map, List.map_map]
    exact List.map_congr_left fun cycle _ => measure_sample rfl calls cycle
  refine ⟨cycles, inside, ran ▸ early, ?_, fun cycle _ => Schedule.entered_onGrid rfl cycle, ?_⟩
  · have recorded := runCycles_recorded loop [] true
      ((List.range planned).map (measure micros schedule calls)) .fresh
    have timing := recorded_timing recorded
    rw [← ran, List.nil_append, sampled, untimed] at timing
    rw [timing]
    apply LoopStatistics.summarizes_foldl
    rw [List.length_map, List.length_range]
    exact inside.trans_lt (UInt64.toNat_lt_size _)
  · intro first delay slack fits more within
    constructor
    · exact Schedule.lateness_shrinks rfl more fun cycle after before =>
        fits cycle after (before.trans within)
    · exact Schedule.missed_early rfl more fun cycle after before =>
        fits cycle after (before.trans_lt within)

/-- Cycles of a tenth of a millisecond, but for one of two and a half. -/
def overloaded (cycle : ℕ) : CycleTime :=
  if cycle = 1 then ⟨1000, 2500000, 0, 50000⟩ else ⟨1000, 100000, 0, 50000⟩

/-- At 1 kHz the long cycle is made up for by the next two. -/
theorem real_time_run_overloaded :
    let after := (run apply demo [.setCommand (go 1)]).runForTimed (fun _ => 8) (fun _ => 1000000)
      micros (fin 0.008) true overloaded fun _ => []
    let schedule : Schedule := ⟨1000000, true, overloaded⟩
    ∃ cycles ≤ 8, after.status.timing.Summarizes ((List.range cycles).map (gridSample ℚ schedule)) ∧
      ∀ more, 2 + more < cycles → schedule.Missed (2 + more) → more < 2 := by
  intro after schedule
  obtain ⟨cycles, inside, _, summarizes, _, later⟩ := real_time_run (fun _ => 8) (fun _ => 1000000)
    .initial (demoController.map fin) (ServoPlant.lift .initial) (by decide +kernel)
    [.setCommand (go 1)] (fin 0.008) overloaded fun _ => []
  refine ⟨cycles, inside, summarizes, fun more within missed => ?_⟩
  have fits : ∀ cycle, 2 ≤ cycle → cycle < cycles → schedule.Fits 51000 849000 cycle := by
    intro cycle after _
    have short : overloaded cycle = ⟨1000, 100000, 0, 50000⟩ := if_neg (by omega)
    have next : overloaded (cycle + 1) = ⟨1000, 100000, 0, 50000⟩ := if_neg (by omega)
    constructor
    · simp only [schedule, short, next]
      decide
    · simp only [schedule, short]
      decide
  have early := (later 2 51000 849000 fits more within).2 missed
  have late : schedule.lateness 2 < 2 * 849000 := by decide
  change more * 849000 < schedule.lateness 2 at early
  omega

end ControlLoop

end MotionBridge
