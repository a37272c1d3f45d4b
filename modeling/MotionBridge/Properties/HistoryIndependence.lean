import MotionBridge.Properties.MotionPermission
import MotionBridge.Runtime.RunFor

/-! A move starts from the servo and the command alone: nothing else that a loop
remembers of earlier moves reaches the next one. -/
namespace MotionBridge

open Foundation
open Exact (fin)

/-- A status without its timing statistics. -/
def ControllerStatus.untimed {R : Type} [Double R] (status : ControllerStatus R) :
    ControllerStatus R := { status with timing := .initial }

namespace ControlLoop

variable {R : Type} [Double R]

def untimed (loop : ControlLoop R) : ControlLoop R := loop.retime .initial

/-- No call looks at the statistics. -/
theorem apply_untimed (loop : ControlLoop R) (call : Call R) :
    (loop.apply call).untimed = (loop.untimed.apply call).untimed := by
  cases call with
  | setCommand command => rfl
  | setExternalFault fault => rfl
  | step dt =>
    change (loop.step dt).untimed = (loop.untimed.step dt).untimed
    have machine : loop.untimed.nextMachine = loop.nextMachine := rfl
    by_cases runs : loop.nextMachine.state = .running
    · rw [step_running loop dt runs, step_running loop.untimed dt (machine ▸ runs)]
      rfl
    · rw [step_idle loop dt runs, step_idle loop.untimed dt (machine ▸ runs)]
      rfl

theorem run_untimed (left right : ControlLoop R) (alike : left.untimed = right.untimed)
    (calls : List (Call R)) :
    (run apply left calls).untimed = (run apply right calls).untimed := by
  induction calls generalizing left right with
  | nil => exact alike
  | cons call calls ih =>
    apply ih
    rw [apply_untimed, alike, ← apply_untimed]

/-- What a loop keeps from its construction, and what its status shows. -/
structure Kept (configuration : Configuration R) (controller : PidController R)
    (plant : ServoPlant R) (loop : ControlLoop R) : Prop where
  configuration : loop.configuration = configuration
  gains : loop.controller.gains = controller.gains
  minimum : loop.controller.minimumOutput = controller.minimumOutput
  maximum : loop.controller.maximumOutput = controller.maximumOutput
  parameters : loop.plant.parameters = plant.parameters
  coherent : loop.stateMachine.Coherent
  reports : loop.Reports
  servo : loop.status.servo = loop.plant.state

theorem step_kept {configuration : Configuration R} {controller : PidController R}
    {plant : ServoPlant R} {loop : ControlLoop R} (dt : R)
    (kept : Kept configuration controller plant loop) :
    Kept configuration controller plant (loop.step dt) := by
  have settings : (loop.step dt).controller.gains = loop.controller.gains ∧
      (loop.step dt).controller.minimumOutput = loop.controller.minimumOutput ∧
      (loop.step dt).controller.maximumOutput = loop.controller.maximumOutput := by
    by_cases runs : loop.nextMachine.state = .running
    · -- the controller of the move is the one from before, or that one reset
      have entered : loop.moveController.gains = loop.controller.gains ∧
          loop.moveController.minimumOutput = loop.controller.minimumOutput ∧
          loop.moveController.maximumOutput = loop.controller.maximumOutput := by
        simp only [moveController]
        split_ifs
        · exact ⟨rfl, rfl, rfl⟩
        · exact ⟨rfl, rfl, rfl⟩
      rw [step_running loop dt runs, ← entered.1, ← entered.2.1, ← entered.2.2]
      exact ⟨PidController.update_gains _ _ _ _, PidController.update_limits _ _ _ _⟩
    · rw [step_idle loop dt runs]
      exact ⟨rfl, rfl, rfl⟩
  constructor
  · rw [step_configuration]
    exact kept.configuration
  · exact settings.1.trans kept.gains
  · exact settings.2.1.trans kept.minimum
  · exact settings.2.2.trans kept.maximum
  · rw [step_parameters]
    exact kept.parameters
  · exact apply_coherent loop (.step dt) kept.coherent
  · exact apply_reports loop (.step dt) kept.reports
  · exact step_servo loop dt

theorem perform_kept (truncate : R → UInt64) {configuration : Configuration R}
    {controller : PidController R} {plant : ServoPlant R} (loop : ControlLoop R) (use : Use R)
    (kept : Kept configuration controller plant loop) :
    Kept configuration controller plant (loop.perform truncate use) := by
  apply perform_invariant truncate (Kept configuration controller plant) _ _ _ loop use kept
  · intro loop call kept
    cases call with
    | setCommand command => exact ⟨kept.1, kept.2, kept.3, kept.4, kept.5, kept.6, kept.7, kept.8⟩
    | setExternalFault fault =>
      exact ⟨kept.1, kept.2, kept.3, kept.4, kept.5, kept.6, kept.7, kept.8⟩
    | step dt => exact step_kept dt kept
  · intro loop timing kept
    exact ⟨kept.1, kept.2, kept.3, kept.4, kept.5, kept.6, kept.7, kept.8⟩
  · intro loop kept
    -- the refusal leaves a latched fault behind, with its code
    have coherent : loop.refuse.stateMachine.Coherent := fun free => absurd (Or.inl rfl) free
    exact ⟨kept.1, kept.2, kept.3, kept.4, kept.5, coherent, ⟨rfl, rfl⟩, kept.8⟩

theorem run_kept (truncate : R → UInt64) (configuration : Configuration R)
    (controller : PidController R) (plant : ServoPlant R) (history : List (Use R)) :
    Kept configuration controller plant
      (run (perform truncate) (create configuration controller plant) history) :=
  run_always (perform truncate) _ (perform_kept truncate) _ history
    ⟨rfl, rfl, rfl, rfl, rfl, ControllerStateMachine.initial_coherent, ⟨rfl, rfl⟩, rfl⟩

/-- The machine right after it has entered `running` has nothing to report. -/
theorem nextMachine_running (loop : ControlLoop R) (coherent : loop.stateMachine.Coherent)
    (runs : loop.nextMachine.state = .running) : loop.nextMachine = ⟨.running, .none⟩ := by
  have clear : loop.nextMachine.fault = .none := by
    apply ControllerStateMachine.update_coherent _ _ _ _ coherent
    change ¬ControllerStateMachine.Held loop.nextMachine.state
    rw [runs]
    simp [ControllerStateMachine.Held]
  rw [← runs, ← clear]

/-- Entering `running` forgets everything but the servo and the command in force. -/
theorem entered_alike {configuration : Configuration R} {controller controller' : PidController R}
    {plant plant' : ServoPlant R} {left right : ControlLoop R} (dt : R)
    (keptLeft : Kept configuration controller plant left)
    (keptRight : Kept configuration controller' plant' right)
    (gains : controller.gains = controller'.gains)
    (limits : controller.minimumOutput = controller'.minimumOutput ∧
      controller.maximumOutput = controller'.maximumOutput)
    (parameters : plant.parameters = plant'.parameters)
    (idleLeft : left.stateMachine.state ≠ .running)
    (idleRight : right.stateMachine.state ≠ .running)
    (servo : left.status.servo = right.status.servo) (command : left.command = right.command)
    (runsLeft : left.nextMachine.state = .running)
    (runsRight : right.nextMachine.state = .running) :
    (left.step dt).untimed = (right.step dt).untimed := by
  have machine : left.nextMachine = right.nextMachine := by
    rw [nextMachine_running left keptLeft.coherent runsLeft,
      nextMachine_running right keptRight.coherent runsRight]
  have noFault : left.externalFault = right.externalFault := by
    rw [(running_wellFormed left runsLeft).1, (running_wellFormed right runsRight).1]
  have plants : left.plant = right.plant := by
    have sameParameters : left.plant.parameters = right.plant.parameters := by
      rw [keptLeft.parameters, keptRight.parameters, parameters]
    have sameState : left.plant.state = right.plant.state := by
      rw [← keptLeft.servo, ← keptRight.servo, servo]
    cases l : left.plant
    cases r : right.plant
    simp_all
  have controllers : left.moveController = right.moveController := by
    have entersLeft : left.Enters := Or.inl idleLeft
    have entersRight : right.Enters := Or.inl idleRight
    simp only [moveController, if_pos entersLeft, if_pos entersRight, PidController.reset]
    rw [keptLeft.gains, keptLeft.minimum, keptLeft.maximum, keptRight.gains, keptRight.minimum,
      keptRight.maximum, gains, limits.1, limits.2]
  have trajectories : left.moveTrajectory = right.moveTrajectory := by
    have entersLeft : left.Enters := Or.inl idleLeft
    have entersRight : right.Enters := Or.inl idleRight
    -- `reset` and `set_target` between them write every field
    simp only [moveTrajectory, if_pos entersLeft, if_pos entersRight, plants, command]
    rfl
  have configurations : left.configuration = right.configuration :=
    keptLeft.configuration.trans keptRight.configuration.symm
  rw [step_running left dt runsLeft, step_running right dt runsRight]
  simp only [untimed, retime, report, machine, noFault, plants, controllers, trajectories,
    configurations, command]

/-- Two loops of the same making, whatever they were used for, go through the same move:
once both have entered `running` from the same servo state with the same command, they
report the same under all further calls. -/
theorem moves_independent (truncate : R → UInt64) (configuration : Configuration R)
    (controller controller' : PidController R) (plant plant' : ServoPlant R)
    (gains : controller.gains = controller'.gains)
    (limits : controller.minimumOutput = controller'.minimumOutput ∧
      controller.maximumOutput = controller'.maximumOutput)
    (parameters : plant.parameters = plant'.parameters) (history history' : List (Use R)) (dt : R) :
    let left := run (perform truncate) (create configuration controller plant) history
    let right := run (perform truncate) (create configuration controller' plant') history'
    left.status.state ≠ .running → right.status.state ≠ .running →
      left.status.servo = right.status.servo → left.command = right.command →
      (left.step dt).status.state = .running → (right.step dt).status.state = .running →
      ∀ later : List (Call R), (run apply (left.step dt) later).status.untimed =
        (run apply (right.step dt) later).status.untimed := by
  intro left right idleLeft idleRight servo command runsLeft runsRight later
  have keptLeft : Kept configuration controller plant left := run_kept _ _ _ _ history
  have keptRight : Kept configuration controller' plant' right := run_kept _ _ _ _ history'
  rw [keptLeft.reports.1] at idleLeft
  rw [keptRight.reports.1] at idleRight
  rw [step_state] at runsLeft runsRight
  have entered := entered_alike dt keptLeft keptRight gains limits parameters idleLeft idleRight
    servo command runsLeft runsRight
  exact congrArg status (run_untimed _ _ entered later)

/-- A demo loop that has completed another move, under `run_for`, against a fresh one. -/
theorem moves_independent_second :
    let powerUp : Use (Exact ℚ) := .call (.step millisecond)
    let left := run (perform fun _ => 1) demo [powerUp, .call (.setCommand (go 1)), powerUp]
    let right := run (perform fun _ => 1) demo [powerUp, .call (.setCommand (go 0)), powerUp,
      powerUp, .runFor 1 false fun _ => ⟨fin 3, 1, true, []⟩, .call (.setCommand (go 1))]
    left.status.timing ≠ right.status.timing ∧
      (run apply (left.step millisecond) [.step millisecond]).status.untimed =
        (run apply (right.step millisecond) [.step millisecond]).status.untimed := by
  intro powerUp left right
  refine ⟨by decide +kernel, ?_⟩
  exact moves_independent (fun _ => 1) .initial (demoController.map fin) (demoController.map fin)
    (ServoPlant.lift .initial) (ServoPlant.lift .initial) rfl ⟨rfl, rfl⟩ rfl _ _ millisecond
    (by decide +kernel) (by decide +kernel) (by decide +kernel) (by decide +kernel)
    (by decide +kernel) (by decide +kernel) [.step millisecond]

end ControlLoop

end MotionBridge
