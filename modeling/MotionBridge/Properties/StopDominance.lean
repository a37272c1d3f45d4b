import MotionBridge.Runtime.FiniteLoop

/-! What `stop` overrides: the running axis obeys it, but the ready axis starts in
spite of it, since that branch of the state machine looks at `start` alone. -/
namespace MotionBridge

open Foundation

namespace ControlLoop

section Source

variable {R : Type} [Double R]

/-- The next step leaves `ready` for `running`, whatever `stop` says. -/
def Restarts (loop : ControlLoop R) : Prop :=
  loop.stateMachine.state = .ready ∧ loop.command.start = true ∧ loop.command.enable = true ∧
    loop.command.powerAvailable = true ∧ loop.command.emergencyStop = false ∧
    loop.externalFault = .none ∧ ¬Malformed loop.command

instance (loop : ControlLoop R) : Decidable loop.Restarts :=
  inferInstanceAs (Decidable (_ ∧ _ ∧ _ ∧ _ ∧ _ ∧ _ ∧ _))

theorem stopped_running_iff (loop : ControlLoop R) (stopped : loop.command.stop = true) :
    loop.nextMachine.state = .running ↔ loop.Restarts := by
  rw [nextMachine_running_iff]
  constructor
  · rintro ⟨power, noEmergency, ⟨external, wellFormed⟩, enable, permitted⟩
    rcases permitted with continues | enters
    · -- a running axis does look at `stop`
      have clear := continues.2.1
      rw [stopped] at clear
      cases clear
    · exact ⟨enters.1, enters.2, enable, power, noEmergency, external, wellFormed⟩
  · rintro ⟨ready, start, enable, power, noEmergency, external, wellFormed⟩
    exact ⟨power, noEmergency, ⟨external, wellFormed⟩, enable, Or.inr ⟨ready, start⟩⟩

/-- A step without motion: not in `running`, and no torque commanded. -/
def Quiet (loop : ControlLoop R) (dt : R) : Prop :=
  (loop.step dt).status.state ≠ .running ∧ (loop.step dt).status.servo.commandedTorqueNm = 0

instance [DecidableEq R] (loop : ControlLoop R) (dt : R) : Decidable (loop.Quiet dt) :=
  inferInstanceAs (Decidable (_ ∧ _))

/-- A valid step with `stop` in force. -/
def StopHeld (loop : ControlLoop R) (dt : R) : Prop :=
  Double.ValidStep dt ∧ loop.command.stop = true

instance (loop : ControlLoop R) (dt : R) : Decidable (loop.StopHeld dt) :=
  inferInstanceAs (Decidable (_ ∧ _))

variable [Double.Lawful R]

/-- One step under `stop`. -/
theorem quiet_iff (loop : ControlLoop R) (dt : R) (held : loop.StopHeld dt) :
    loop.Quiet dt ↔ ¬loop.Restarts := by
  rw [← stopped_running_iff loop held.2]
  constructor
  · rintro ⟨notRunning, _⟩ runs
    exact notRunning ((step_state loop dt).trans runs)
  · intro idle
    exact ⟨fun runs => idle ((step_state loop dt).symm.trans runs),
      step_idle_torque loop dt held.1 idle⟩

/-- With `stop` held, exactly the runs without a restart are quiet throughout. -/
theorem stop_dominates_iff (loop : ControlLoop R) (later : List (Call R))
    (held : Along apply (OnStep StopHeld) loop later) :
    Along apply (OnStep Quiet) loop later ↔
      Along apply (OnStep fun loop _ => ¬loop.Restarts) loop later := by
  apply along_congr apply (OnStep StopHeld) _ _ (fun _ => True) _ (fun _ _ _ _ _ => trivial)
    loop later held trivial
  intro loop call stopped _
  cases call with
  | setCommand command => exact Iff.rfl
  | setExternalFault fault => exact Iff.rfl
  | step dt => exact quiet_iff loop dt stopped

end Source

/-- Stopped while running with start low, the demo axis stays quiet: it is still in `ready`
in the third cycle, and rises to `running` only when `stop` is over. -/
theorem stop_dominates_released :
    let running := run apply demo
      [.step millisecond, .setCommand (go 1), .step millisecond, .step millisecond]
    let halt := [.setCommand { go 1 with stop := true, start := false }, .step millisecond,
      .step millisecond, .step millisecond]
    running.status.state = .running ∧
      (run apply running (halt.take 2)).status.state = .stopping ∧
      (run apply running halt).status.state = .ready ∧
      (run apply running (halt ++ [.setCommand (go 1), .step millisecond])).status.state = .running ∧
      Along apply (OnStep Quiet) running halt := by
  intro running halt
  have quiet : Along apply (OnStep Quiet) running halt :=
    (stop_dominates_iff running halt (by decide +kernel)).mpr (by decide +kernel)
  exact ⟨by decide +kernel, by decide +kernel, by decide +kernel, by decide +kernel, quiet⟩

/-- Stopped with start held high, the axis passes through `stopping` and `ready`
and runs again in the third cycle. -/
theorem stop_overridden_by_start :
    ¬∀ calls later : List (Call (Exact ℚ)),
      Along apply (OnStep StopHeld) (run apply demo calls) later →
        Along apply (OnStep Quiet) (run apply demo calls) later := by
  intro dominates
  -- into `running` first, then `stop` on top of the same command
  have quiet := dominates
    [.step millisecond, .setCommand (go 1), .step millisecond, .step millisecond]
    [.setCommand { go 1 with stop := true }, .step millisecond, .step millisecond,
      .step millisecond] (by decide +kernel)
  exact absurd quiet (by decide +kernel)

end ControlLoop

end MotionBridge
