import MotionBridge.Foundation.Schedule
import MotionBridge.Runtime.ControlLoop

/-!
# Timed runs of the control loop

`run_for` steps the loop at its own frequency and keeps statistics of the clock. What
the clock showed in a cycle, and what the callback did there, come from outside.
-/
namespace MotionBridge

open Foundation

namespace ControlLoop

/-- One cycle as seen by the clock, and the calls its callback made on the loop. -/
structure Cycle (R : Type) where
  executionUs : R
  jitterUs : R
  missed : Bool
  calls : List (Call R)
  deriving DecidableEq, Repr

section Source

variable {R : Type} [Double R]

def updateStatistics (timing : LoopStatistics R) (executionUs jitterUs : R) (missed : Bool) :
    LoopStatistics R :=
  let cycles := timing.cycles + 1
  { cycles := cycles
    deadlineMisses := if missed then timing.deadlineMisses + 1 else timing.deadlineMisses
    maximumExecutionUs := Double.max timing.maximumExecutionUs executionUs
    maximumJitterUs := Double.max timing.maximumJitterUs jitterUs
    -- the divisor is the counter converted to `double`
    meanExecutionUs := timing.meanExecutionUs + (executionUs - timing.meanExecutionUs) /
      OfScientific.ofScientific cycles.toNat false 0 }

def retime (loop : ControlLoop R) (timing : LoopStatistics R) : ControlLoop R :=
  { loop with status := { loop.status with timing := timing } }

/-- The body of the loop in `run_for`, up to the test for its end. -/
def cycle (loop : ControlLoop R) (realTime : Bool) (measured : Cycle R) : ControlLoop R :=
  let stepped := loop.step (1 / loop.configuration.frequencyHz)
  let jitterUs := if realTime then measured.jitterUs else 0
  let timing :=
    updateStatistics stepped.status.timing measured.executionUs jitterUs measured.missed
  run apply (stepped.retime timing) measured.calls

/-- The cycles of `run_for`, one for each entry unless the target is reached before. -/
def runCycles (loop : ControlLoop R) (realTime : Bool) : List (Cycle R) → ControlLoop R
  | [] => loop
  | measured :: rest =>
    let next := loop.cycle realTime measured
    if next.status.targetReached = true ∧ next.status.state = .ready then next
    else next.runCycles realTime rest

/-- The branch of `run_for` for a frequency that is not positive. -/
def refuse (loop : ControlLoop R) : ControlLoop R :=
  let stateMachine := loop.stateMachine.forceFault .invalidCommand
  { loop with
    stateMachine := stateMachine
    status := { loop.status with state := stateMachine.state, fault := stateMachine.fault } }

/-- `truncate` is the conversion to `std::uint64_t`, `measure` numbers the cycles. -/
def runFor (truncate : R → UInt64) (loop : ControlLoop R) (durationS : R) (realTime : Bool)
    (measure : ℕ → Cycle R) : ControlLoop R :=
  if ¬0 < loop.configuration.frequencyHz then loop.refuse
  else
    let cycleCount := truncate (Double.max 0 durationS * loop.configuration.frequencyHz)
    loop.runCycles realTime ((List.range cycleCount.toNat).map measure)

/-- What `run_for` reads off a steady clock in a cycle. `micros` converts ticks to microseconds;
the period before the next one has begun at `cycle * period`. -/
def measure (micros : ℤ → R) (schedule : Schedule) (calls : ℕ → List (Call R)) (cycle : ℕ) :
    Cycle R where
  executionUs := micros (schedule.completed cycle - schedule.started cycle)
  jitterUs := Double.abs (micros (schedule.started cycle - cycle * schedule.period))
  missed := decide (schedule.Missed cycle)
  calls := calls cycle

/-- `run_for` under a clock that counts ticks. `ticks` is the conversion of the period. -/
def runForTimed (truncate : R → UInt64) (ticks : R → ℕ) (micros : ℤ → R) (loop : ControlLoop R)
    (durationS : R) (realTime : Bool) (elapsed : ℕ → CycleTime) (calls : ℕ → List (Call R)) :
    ControlLoop R :=
  loop.runFor truncate durationS realTime
    (measure micros ⟨ticks (1 / loop.configuration.frequencyHz), realTime, elapsed⟩ calls)

/-- Everything a user of the loop can do to it. -/
inductive Use (R : Type) where
  | call (call : Call R)
  | runFor (durationS : R) (realTime : Bool) (measure : ℕ → Cycle R)

def perform (truncate : R → UInt64) (loop : ControlLoop R) : Use R → ControlLoop R
  | .call call => loop.apply call
  | .runFor durationS realTime measure => loop.runFor truncate durationS realTime measure

end Source

variable {R : Type} [Double R]

/-- The states a user of the loop can meet, those inside `run_for` included. -/
inductive Reachable (start : ControlLoop R) : ControlLoop R → Prop
  | fresh : Reachable start start
  | called {loop : ControlLoop R} (call : Call R) :
      Reachable start loop → Reachable start (loop.apply call)
  | cycled {loop : ControlLoop R} (realTime : Bool) (measured : Cycle R) :
      Reachable start loop → Reachable start (loop.cycle realTime measured)
  | refused {loop : ControlLoop R} : Reachable start loop → Reachable start loop.refuse

theorem runCycles_reachable {start : ControlLoop R} (loop : ControlLoop R) (realTime : Bool)
    (cycles : List (Cycle R)) (reachable : Reachable start loop) :
    Reachable start (loop.runCycles realTime cycles) := by
  induction cycles generalizing loop with
  | nil => exact reachable
  | cons measured rest ih =>
    simp only [runCycles]
    split_ifs
    · exact .cycled realTime measured reachable
    · exact ih _ (.cycled realTime measured reachable)

theorem perform_reachable (truncate : R → UInt64) {start : ControlLoop R} (loop : ControlLoop R)
    (use : Use R) (reachable : Reachable start loop) :
    Reachable start (loop.perform truncate use) := by
  cases use with
  | call call => exact .called call reachable
  | runFor durationS realTime measure =>
    simp only [perform, runFor]
    split_ifs
    · exact runCycles_reachable _ _ _ reachable
    · exact .refused reachable

theorem run_reachable (truncate : R → UInt64) (start : ControlLoop R) (uses : List (Use R)) :
    Reachable start (run (perform truncate) start uses) :=
  run_always (perform truncate) _ (perform_reachable truncate) start uses .fresh

theorem calls_reachable (start : ControlLoop R) (calls : List (Call R)) :
    Reachable start (run apply start calls) :=
  run_always apply _ (fun _ call reachable => .called call reachable) start calls .fresh

/-- What calls, new statistics and a refusal preserve holds wherever a user can look. -/
theorem reachable_invariant (P : ControlLoop R → Prop)
    (called : ∀ loop call, P loop → P (loop.apply call))
    (retimed : ∀ loop timing, P loop → P (loop.retime timing))
    (refused : ∀ loop, P loop → P loop.refuse) {start loop : ControlLoop R}
    (reachable : Reachable start loop) (initial : P start) : P loop := by
  induction reachable with
  | fresh => exact initial
  | called call _ ih => exact called _ call ih
  | @cycled loop realTime measured _ ih =>
    -- a cycle is a step, its statistics, and the calls of the callback
    apply run_always apply P called
    exact retimed _ _ (called loop (.step _) ih)
  | refused _ ih => exact refused _ ih

/-- The rule for a single use. -/
theorem perform_invariant (truncate : R → UInt64) (P : ControlLoop R → Prop)
    (called : ∀ loop call, P loop → P (loop.apply call))
    (retimed : ∀ loop timing, P loop → P (loop.retime timing))
    (refused : ∀ loop, P loop → P loop.refuse) (loop : ControlLoop R) (use : Use R)
    (holds : P loop) : P (loop.perform truncate use) :=
  reachable_invariant P called retimed refused (perform_reachable truncate loop use .fresh) holds

/-- What holds of the status whenever a user of the loop can look at it. -/
structure Measured (loop : ControlLoop R) : Prop where
  reports : loop.Reports
  coherent : loop.stateMachine.Coherent
  reference_eq : loop.status.reference = loop.trajectory.current
  finished : loop.status.targetReached = true → loop.status.reference.finished = true

theorem apply_measured (loop : ControlLoop R) (call : Call R) (measured : loop.Measured) :
    (loop.apply call).Measured := by
  refine ⟨apply_reports loop call measured.reports, apply_coherent loop call measured.coherent,
    ?_, ?_⟩
  · cases call with
    | setCommand command => exact measured.reference_eq
    | setExternalFault fault => exact measured.reference_eq
    | step dt => exact step_reference loop dt
  · cases call with
    | setCommand command => exact measured.finished
    | setExternalFault fault => exact measured.finished
    | step dt =>
      intro reached
      change (loop.step dt).status.targetReached = true at reached
      change (loop.step dt).status.reference.finished = true
      obtain ⟨_, _, _, _, step⟩ := loop.step_reported dt
      rw [step] at reached ⊢
      exact (of_decide_eq_true reached).1

theorem reachable_measured {configuration : Configuration R} {controller : PidController R}
    {plant : ServoPlant R} {loop : ControlLoop R}
    (reachable : Reachable (create configuration controller plant) loop) : loop.Measured := by
  refine reachable_invariant Measured apply_measured ?_ ?_ reachable ?_
  · intro loop timing measured
    exact ⟨measured.reports, measured.coherent, measured.reference_eq, measured.finished⟩
  · intro loop measured
    refine ⟨⟨rfl, rfl⟩, ?_, measured.reference_eq, measured.finished⟩
    exact fun free => absurd (Or.inl rfl) free
  · refine ⟨create_reports _ _ _, ControllerStateMachine.initial_coherent, rfl, ?_⟩
    intro reached
    cases reached

end ControlLoop

end MotionBridge
