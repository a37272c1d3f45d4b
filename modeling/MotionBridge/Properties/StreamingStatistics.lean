import MotionBridge.Foundation.Aggregate
import MotionBridge.Runtime.FiniteLoop
import MotionBridge.Runtime.RunFor

/-! The timing statistics are updated cycle by cycle, through any number of `run_for`
calls. They are those of all measurements taken together. -/
namespace MotionBridge

open Foundation
open Exact (fin)

/-- What a cycle hands to `update_statistics`. -/
structure Sample (R : Type) where
  executionUs : R
  jitterUs : R
  missed : Bool
  deriving DecidableEq, Repr

def Sample.map {R S : Type} (f : R → S) (sample : Sample R) : Sample S :=
  ⟨f sample.executionUs, f sample.jitterUs, sample.missed⟩

namespace LoopStatistics

variable {R : Type} [Double R]

def record (timing : LoopStatistics R) (sample : Sample R) : LoopStatistics R :=
  ControlLoop.updateStatistics timing sample.executionUs sample.jitterUs sample.missed

variable {K : Type} [Field K] [LinearOrder K] [SquareRoot K]

/-- The statistics of all samples taken together. -/
structure Summarizes (timing : LoopStatistics (Exact K)) (samples : List (Sample K)) : Prop where
  cycles : timing.cycles.toNat = samples.length
  deadlineMisses : timing.deadlineMisses.toNat = samples.countP Sample.missed
  meanExecutionUs : timing.meanExecutionUs = fin (mean (samples.map Sample.executionUs))
  maximumExecutionUs : timing.maximumExecutionUs = fin (largest (samples.map Sample.executionUs))
  maximumJitterUs : timing.maximumJitterUs = fin (largest (samples.map Sample.jitterUs))

theorem summarizes_initial : Summarizes (LoopStatistics.initial : LoopStatistics (Exact K)) [] :=
  ⟨rfl, rfl, by simp [initial, mean], rfl, rfl⟩

/-- The largest value is kept, unless the next one is larger. -/
theorem max_largest (values : List K) (x : K) :
    Double.max (fin (largest values)) (fin x) = fin (largest (values ++ [x])) := by
  rw [Exact.fin_max, max_field, largest_snoc]

variable [IsStrictOrderedRing K]

theorem summarizes_record {timing : LoopStatistics (Exact K)} {samples : List (Sample K)}
    (summarizes : Summarizes timing samples) (sample : Sample K)
    (few : samples.length + 1 < UInt64.size) :
    Summarizes (timing.record (sample.map fin)) (samples ++ [sample]) := by
  have counted : (timing.cycles + 1).toNat = samples.length + 1 := count_succ summarizes.cycles few
  constructor
  · rw [List.length_append, List.length_singleton]
    exact counted
  · have fewer : timing.deadlineMisses.toNat ≤ samples.length := by
      rw [summarizes.deadlineMisses]
      exact List.countP_le_length
    rw [List.countP_append, ← summarizes.deadlineMisses, List.countP_singleton]
    cases missed : sample.missed with
    | true =>
      simp only [record, ControlLoop.updateStatistics, Sample.map, missed, if_true]
      exact count_succ rfl (by omega)
    | false => simp [record, ControlLoop.updateStatistics, Sample.map, missed]
  -- the counter is ahead of the mean, which is still that of the samples before
  · have nonzero : ((samples.length + 1 : ℕ) : K) ≠ 0 := Nat.cast_ne_zero.mpr (by omega)
    simp only [record, ControlLoop.updateStatistics, Sample.map]
    rw [counted, Exact.ofScientific_nat, summarizes.meanExecutionUs, Exact.fin_sub,
      Exact.fin_div _ _ nonzero, Exact.fin_add, List.map_append, List.map_singleton, mean_snoc,
      List.length_map]
  · simp only [record, ControlLoop.updateStatistics, Sample.map]
    rw [summarizes.maximumExecutionUs, max_largest, List.map_append, List.map_singleton]
  · simp only [record, ControlLoop.updateStatistics, Sample.map]
    rw [summarizes.maximumJitterUs, max_largest, List.map_append, List.map_singleton]

/-- Recorded one by one, the samples leave the statistics of all of them. -/
theorem summarizes_foldl (samples : List (Sample K)) (few : samples.length < UInt64.size) :
    Summarizes ((samples.map (Sample.map fin)).foldl record .initial) samples := by
  induction samples using List.reverseRecOn with
  | nil => exact summarizes_initial
  | append_singleton samples sample ih =>
    rw [List.length_append, List.length_singleton] at few
    rw [List.map_append, List.foldl_append]
    exact summarizes_record (ih (by omega)) sample few

end LoopStatistics

namespace ControlLoop

section Recording

variable {R : Type} [Double R]

def Cycle.sample (realTime : Bool) (measured : Cycle R) : Sample R :=
  ⟨measured.executionUs, if realTime then measured.jitterUs else 0, measured.missed⟩

/-- The states a user of the loop can meet, those inside `run_for` included, with the
samples of all cycles so far. -/
inductive Recorded (start : ControlLoop R) : ControlLoop R → List (Sample R) → Prop
  | fresh : Recorded start start []
  | called {loop : ControlLoop R} {samples : List (Sample R)} (call : Call R) :
      Recorded start loop samples → Recorded start (loop.apply call) samples
  | cycled {loop : ControlLoop R} {samples : List (Sample R)} (realTime : Bool)
      (measured : Cycle R) : Recorded start loop samples →
        Recorded start (loop.cycle realTime measured) (samples ++ [measured.sample realTime])
  | refused {loop : ControlLoop R} {samples : List (Sample R)} :
      Recorded start loop samples → Recorded start loop.refuse samples

/-- No state that can be met is left out. -/
theorem reachable_recorded {start loop : ControlLoop R} (reachable : Reachable start loop) :
    ∃ samples, Recorded start loop samples := by
  induction reachable with
  | fresh => exact ⟨[], .fresh⟩
  | called call _ ih =>
    obtain ⟨samples, recorded⟩ := ih
    exact ⟨samples, recorded.called call⟩
  | cycled realTime measured _ ih =>
    obtain ⟨samples, recorded⟩ := ih
    exact ⟨_, recorded.cycled realTime measured⟩
  | refused _ ih =>
    obtain ⟨samples, recorded⟩ := ih
    exact ⟨samples, recorded.refused⟩

/-- The samples of the cycles `run_for` comes to before it ends. -/
def samples (loop : ControlLoop R) (realTime : Bool) : List (Cycle R) → List (Sample R)
  | [] => []
  | measured :: rest =>
    let next := loop.cycle realTime measured
    measured.sample realTime ::
      if next.status.targetReached = true ∧ next.status.state = .ready then []
      else next.samples realTime rest

/-- A use of the loop, with the samples it records. -/
def observe (truncate : R → UInt64) (loop : ControlLoop R) (use : Use R) :
    ControlLoop R × List (Sample R) :=
  (loop.perform truncate use,
    match use with
    | .call _ => []
    | .runFor durationS realTime measure =>
      if ¬0 < loop.configuration.frequencyHz then []
      else
        let cycleCount := truncate (Double.max 0 durationS * loop.configuration.frequencyHz)
        loop.samples realTime ((List.range cycleCount.toNat).map measure))

theorem runCycles_recorded {start : ControlLoop R} (loop : ControlLoop R)
    (before : List (Sample R)) (realTime : Bool) (cycles : List (Cycle R))
    (recorded : Recorded start loop before) :
    Recorded start (loop.runCycles realTime cycles) (before ++ loop.samples realTime cycles) := by
  induction cycles generalizing loop before with
  | nil => simpa [runCycles, samples] using recorded
  | cons measured rest ih =>
    have next := recorded.cycled realTime measured
    simp only [runCycles, samples]
    split_ifs
    · exact next
    · rw [← List.singleton_append, ← List.append_assoc]
      exact ih _ _ next

theorem observe_recorded (truncate : R → UInt64) {start : ControlLoop R}
    (state : ControlLoop R × List (Sample R)) (use : Use R)
    (recorded : Recorded start state.1 state.2) :
    Recorded start (logged (observe truncate) state use).1
      (logged (observe truncate) state use).2 := by
  obtain ⟨loop, before⟩ := state
  simp only [logged, observe]
  cases use with
  | call call => simpa [perform] using recorded.called call
  | runFor durationS realTime measure =>
    simp only [perform, runFor]
    split_ifs
    · exact runCycles_recorded _ _ _ _ recorded
    · simpa using recorded.refused

/-- Any run of uses leaves a state with the samples it recorded. -/
theorem run_recorded (truncate : R → UInt64) (start : ControlLoop R) (uses : List (Use R)) :
    (run (logged (observe truncate)) (start, []) uses).1 = run (perform truncate) start uses ∧
      Recorded start (run (logged (observe truncate)) (start, []) uses).1
        (run (logged (observe truncate)) (start, []) uses).2 := by
  induction uses using List.reverseRecOn with
  | nil => exact ⟨rfl, .fresh⟩
  | append_singleton uses use ih =>
    obtain ⟨same, recorded⟩ := ih
    simp only [run_snoc]
    exact ⟨congrArg (perform truncate · use) same, observe_recorded truncate _ use recorded⟩

theorem apply_timing (loop : ControlLoop R) (call : Call R) :
    (loop.apply call).status.timing = loop.status.timing := by
  cases call with
  | setCommand command => rfl
  | setExternalFault fault => rfl
  | step dt =>
    obtain ⟨_, _, _, _, step⟩ := loop.step_reported dt
    change (loop.step dt).status.timing = _
    rw [step]
    rfl

theorem cycle_timing (loop : ControlLoop R) (realTime : Bool) (measured : Cycle R) :
    (loop.cycle realTime measured).status.timing =
      loop.status.timing.record (measured.sample realTime) := by
  have stepped := apply_timing loop (.step (1 / loop.configuration.frequencyHz))
  change (loop.step (1 / loop.configuration.frequencyHz)).status.timing = _ at stepped
  -- the calls of the callback leave what the cycle has recorded
  refine run_always apply (fun later => later.status.timing = _) ?_ _ measured.calls ?_
  · intro later call same
    exact (apply_timing later call).trans same
  · rw [LoopStatistics.record, ← stepped]
    rfl

/-- The statistics depend on the samples alone. -/
theorem recorded_timing {start loop : ControlLoop R} {samples : List (Sample R)}
    (recorded : Recorded start loop samples) :
    loop.status.timing = samples.foldl LoopStatistics.record start.status.timing := by
  induction recorded with
  | fresh => rfl
  | called call _ ih => exact (apply_timing _ call).trans ih
  | cycled realTime measured _ ih => rw [cycle_timing, ih, List.foldl_append]; rfl
  | refused _ ih => exact ih

end Recording

variable {K : Type} [Field K] [LinearOrder K] [SquareRoot K] [IsStrictOrderedRing K]

/-- Wherever a user can look, the statistics are those of all cycles so far, and a direct
`step` changes none of them. -/
theorem streaming_statistics (configuration : Configuration (Exact K))
    (controller : PidController (Exact K)) (plant : ServoPlant (Exact K))
    (loop : ControlLoop (Exact K)) (samples : List (Sample K))
    (nonneg : ∀ sample ∈ samples, 0 ≤ sample.executionUs ∧ 0 ≤ sample.jitterUs)
    (few : samples.length < UInt64.size)
    (recorded : Recorded (create configuration controller plant) loop
      (samples.map (Sample.map fin))) :
    let timing := loop.status.timing
    let executions := samples.map Sample.executionUs
    let jitters := samples.map Sample.jitterUs
    timing.Summarizes samples ∧
      (samples ≠ [] → IsGreatest {x | x ∈ executions} (largest executions) ∧
        IsGreatest {x | x ∈ jitters} (largest jitters)) ∧
      (0 ≤ timing.meanExecutionUs ∧ timing.meanExecutionUs ≤ timing.maximumExecutionUs ∧
        timing.deadlineMisses ≤ timing.cycles) ∧
      ∀ dt, (loop.step dt).status.timing = timing := by
  intro timing executions jitters
  have summarizes : timing.Summarizes samples := by
    have streamed : timing = (samples.map (Sample.map fin)).foldl LoopStatistics.record .initial :=
      recorded_timing recorded
    rw [streamed]
    exact LoopStatistics.summarizes_foldl samples few
  have executionsNonneg : ∀ x ∈ executions, 0 ≤ x := by
    intro x member
    obtain ⟨sample, inside, rfl⟩ := List.mem_map.mp member
    exact (nonneg sample inside).1
  have jittersNonneg : ∀ x ∈ jitters, 0 ≤ x := by
    intro x member
    obtain ⟨sample, inside, rfl⟩ := List.mem_map.mp member
    exact (nonneg sample inside).2
  refine ⟨summarizes, ?_, ⟨?_, ?_, ?_⟩, fun dt => apply_timing loop (.step dt)⟩
  · intro nonempty
    exact ⟨largest_isGreatest (by simpa [executions] using nonempty) executionsNonneg,
      largest_isGreatest (by simpa [jitters] using nonempty) jittersNonneg⟩
  · rw [summarizes.meanExecutionUs]
    exact (Exact.fin_le_fin _ _).mpr (mean_nonneg executionsNonneg)
  · rw [summarizes.meanExecutionUs, summarizes.maximumExecutionUs]
    exact (Exact.fin_le_fin _ _).mpr (mean_le_largest executions)
  · rw [UInt64.le_iff_toNat_le, summarizes.cycles, summarizes.deadlineMisses]
    exact List.countP_le_length

/-- Two timed runs of two cycles with a step between them; a callback steps the loop, too. -/
def splitRuns : List (Use (Exact ℚ)) :=
  [.runFor (fin (1 / 500)) false fun cycle =>
      if cycle = 0 then ⟨fin 3, fin 7, true, []⟩ else ⟨fin 5, fin 7, false, [.step millisecond]⟩,
    .call (.step millisecond),
    .runFor (fin (1 / 500)) true fun cycle =>
      if cycle = 0 then ⟨fin 1, fin 2, false, []⟩ else ⟨fin 4, fin 1, true, []⟩]

/-- Where the clock does not set the pace there is no jitter. -/
def splitSamples : List (Sample ℚ) :=
  [⟨3, 0, true⟩, ⟨5, 0, false⟩, ⟨1, 2, false⟩, ⟨4, 1, true⟩]

theorem streaming_statistics_split :
    (run (perform fun _ => 2) demo splitRuns).status.timing.Summarizes splitSamples := by
  obtain ⟨same, recorded⟩ := run_recorded (fun _ => 2) demo splitRuns
  have samples : (run (logged (observe fun _ => 2)) (demo, []) splitRuns).2 =
      splitSamples.map (Sample.map fin) := by
    decide +kernel
  rw [same, samples] at recorded
  exact (streaming_statistics .initial (demoController.map fin) (ServoPlant.lift .initial) _
    splitSamples (by decide +kernel) (by decide) recorded).1

end ControlLoop

end MotionBridge
