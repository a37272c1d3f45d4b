import MotionBridge.Runtime.FiniteLoop
import MotionBridge.Runtime.RunFor

/-! The step after the target is reached. It hands the axis over to `ready`, takes the
torque away, and measures the target once more. -/
namespace MotionBridge

open Foundation
open Exact (fin)

namespace ControlLoop

variable {R : Type} [Double R]

/-- A command in force that lets the axis run on, and nothing else that stops it. -/
def Commanded (loop : ControlLoop R) : Prop :=
  loop.command.powerAvailable = true ∧ loop.command.enable = true ∧ loop.command.stop = false ∧
    loop.command.emergencyStop = false ∧ loop.externalFault = .none ∧ ¬Malformed loop.command

instance (loop : ControlLoop R) : Decidable loop.Commanded :=
  inferInstanceAs (Decidable (_ ∧ _ ∧ _ ∧ _ ∧ _ ∧ _))

/-- One time step of coasting leaves the axis within both tolerances. -/
def StaysOnTarget (loop : ControlLoop R) (dtSeconds : R) : Prop :=
  Double.abs (loop.command.targetPositionRad - loop.plant.coastedPosition dtSeconds)
      ≤ loop.configuration.positionToleranceRad ∧
    Double.abs (loop.plant.coastedVelocity dtSeconds) ≤ loop.configuration.velocityToleranceRadS

instance (loop : ControlLoop R) (dtSeconds : R) : Decidable (loop.StaysOnTarget dtSeconds) :=
  inferInstanceAs (Decidable (_ ∧ _))

/-- A running axis that has reached its target goes to `ready`. -/
theorem nextMachine_ready (loop : ControlLoop R) (measured : loop.Measured)
    (running : loop.status.state = .running) (reached : loop.status.targetReached = true)
    (commanded : loop.Commanded) : loop.nextMachine = ⟨.ready, .none⟩ := by
  have state : loop.stateMachine.state = .running := measured.reports.1.symm.trans running
  have fault : loop.stateMachine.fault = .none :=
    measured.coherent (by simp [state, ControllerStateMachine.Held])
  obtain ⟨power, enable, stop, emergencyStop, external, wellFormed⟩ := commanded
  have detected : loop.detectedFault = .none :=
    (detectedFault_none loop).mpr ⟨external, wellFormed⟩
  simp [nextMachine, ControllerStateMachine.update, ControllerStateMachine.transition, power,
    enable, stop, emergencyStop, detected, state, fault, reached]

theorem step_handOver [Double.Lawful R] (loop : ControlLoop R) (measured : loop.Measured)
    (running : loop.status.state = .running) (reached : loop.status.targetReached = true)
    (commanded : loop.Commanded) (dt : R) (valid : Double.ValidStep dt) :
    (loop.step dt).status.state = .ready ∧ (loop.step dt).status.fault = .none ∧
      ((loop.step dt).status.targetReached = true ↔ loop.StaysOnTarget dt) := by
  have ready := nextMachine_ready loop measured running reached commanded
  have idle : loop.nextMachine.state ≠ .running := by simp [ready]
  refine ⟨by rw [step_state, ready], by rw [step_fault, ready], ?_⟩
  -- the reference is the finished one of the step before, so the tolerances decide
  have finished : loop.trajectory.current.finished = true := by
    rw [← measured.reference_eq]
    exact measured.finished reached
  obtain ⟨velocity, position⟩ := loop.plant.update_coasts dt valid
  rw [step_idle loop dt idle, StaysOnTarget, ← velocity, ← position]
  simp only [report, finished, true_and, decide_eq_true_eq]

/-- The callback of this cycle does not step the loop itself. -/
def Cycle.Watching (measured : Cycle R) : Prop := ∀ call ∈ measured.calls, ∀ dt, call ≠ .step dt

/-- Then the cycle ends with the status of its step, but for the statistics. -/
theorem cycle_watching (loop : ControlLoop R) (realTime : Bool) (measured : Cycle R)
    (watching : measured.Watching) :
    let stepped := loop.step (1 / loop.configuration.frequencyHz)
    (loop.cycle realTime measured).status.state = stepped.status.state ∧
      (loop.cycle realTime measured).status.fault = stepped.status.fault ∧
      (loop.cycle realTime measured).status.targetReached = stepped.status.targetReached := by
  intro stepped
  refine run_invariant apply (fun _ call => ∀ dt, call ≠ .step dt) (fun loop =>
    loop.status.state = stepped.status.state ∧ loop.status.fault = stepped.status.fault ∧
      loop.status.targetReached = stepped.status.targetReached) ?_ _ measured.calls
    (along_inputs apply _ _ measured.calls watching) ⟨rfl, rfl, rfl⟩
  intro loop call watching same
  cases call with
  | setCommand command => exact same
  | setExternalFault fault => exact same
  | step dt => exact absurd rfl (watching dt)

/-- The step after the target was reached reports `ready`, and still reports the target
as reached exactly if coasting for one more step does not lead out of the tolerances.
Exactly then `run_for` ends with it. -/
theorem hand_over [Double.Lawful R] (configuration : Configuration R)
    (controller : PidController R) (plant : ServoPlant R) (loop : ControlLoop R)
    (reachable : Reachable (create configuration controller plant) loop)
    (running : loop.status.state = .running) (reached : loop.status.targetReached = true)
    (commanded : loop.Commanded) :
    let period := 1 / loop.configuration.frequencyHz
    (∀ dt, Double.ValidStep dt → (loop.step dt).status.state = .ready ∧
      (loop.step dt).status.fault = .none ∧
      ((loop.step dt).status.targetReached = true ↔ loop.StaysOnTarget dt)) ∧
    (Double.ValidStep period → ∀ realTime (measured : Cycle R) rest, measured.Watching →
      let next := loop.cycle realTime measured
      (loop.StaysOnTarget period → loop.runCycles realTime (measured :: rest) = next ∧
        next.status.targetReached = true ∧ next.status.fault = .none) ∧
      (¬loop.StaysOnTarget period →
        loop.runCycles realTime (measured :: rest) = next.runCycles realTime rest)) := by
  intro period
  have measured := reachable_measured reachable
  have handed := step_handOver loop measured running reached commanded
  refine ⟨handed, ?_⟩
  intro valid realTime cycle rest watching next
  obtain ⟨ready, clear, still⟩ := handed period valid
  obtain ⟨state, fault, target⟩ := cycle_watching loop realTime cycle watching
  constructor
  · intro stays
    have arrived : next.status.targetReached = true := target.trans (still.mpr stays)
    exact ⟨if_pos ⟨arrived, state.trans ready⟩, arrived, fault.trans clear⟩
  · intro leaves
    exact if_neg fun done => leaves (still.mp (target.symm.trans done.1))

/-- A command whose short profile fits into one cycle of the demos. -/
def dash (target : ℚ) : MotionCommand (Exact ℚ) :=
  { go target with maxVelocityRadS := fin 100, maxAccelerationRadS2 := fin 1000000 }

/-- The axis is pushed, released, and sent to a target whose window it is about to leave. -/
def grazing : List (Use (Exact ℚ)) :=
  [.call (.setCommand (dash (1 / 50))), .call (.step millisecond), .call (.step millisecond),
    .call (.step millisecond), .call (.setCommand .initial), .call (.step millisecond),
    .call (.setCommand (dash (-4967 / 1000000))), .call (.step millisecond)]

theorem hand_over_grazing :
    let loop := (run (perform fun _ => 0) demo grazing).step millisecond
    (loop.step millisecond).status.state = .ready ∧ (loop.step millisecond).status.fault = .none ∧
      ((loop.step millisecond).status.targetReached = true ↔ loop.StaysOnTarget millisecond) := by
  intro loop
  have reachable : Reachable demo loop := .called (.step millisecond) (run_reachable _ demo grazing)
  exact (hand_over .initial (demoController.map fin) (ServoPlant.lift .initial) loop reachable
    (by decide +kernel) (by decide +kernel) (by decide +kernel)).1 millisecond (by decide +kernel)

/-- At 1 kHz and with the default tolerances, the demo reports its target as reached,
and one step later no more. -/
theorem target_lost_in_hand_over :
    ¬∀ (uses : List (Use (Exact ℚ))) (dt : Exact ℚ), Double.ValidStep dt →
      let loop := (run (perform fun _ => 0) demo uses).step dt
      loop.status.state = .running → loop.status.targetReached = true → loop.Commanded →
        (loop.step dt).status.state = .ready ∧ (loop.step dt).status.targetReached = true := by
  intro survives
  have survived := survives grazing millisecond (by decide +kernel) (by decide +kernel)
    (by decide +kernel) (by decide +kernel)
  exact absurd survived.2 (by decide +kernel)

end ControlLoop

end MotionBridge
