import MotionBridge.Foundation.Run
import MotionBridge.Core.ControllerStateMachine
import MotionBridge.Control.TrapezoidalTrajectory
import MotionBridge.Control.PidController
import MotionBridge.Simulation.ServoPlant

namespace MotionBridge

open Foundation

structure ControlLoop.Configuration (R : Type) where
  frequencyHz : R
  positionToleranceRad : R
  velocityToleranceRadS : R
  deriving DecidableEq, Repr

/-- `Configuration{}`. -/
def ControlLoop.Configuration.initial {R : Type} [Double R] : ControlLoop.Configuration R :=
  ⟨1000.0, 0.005, 0.01⟩

structure ControlLoop (R : Type) [Double R] where
  configuration : ControlLoop.Configuration R
  controller : PidController R
  plant : ServoPlant R
  trajectory : TrapezoidalTrajectory R
  stateMachine : ControllerStateMachine
  command : MotionCommand R
  externalFault : FaultCode
  status : ControllerStatus R
  motionInitialized : Bool

namespace ControlLoop

section Source

variable {R : Type} [Double R]

def create (configuration : Configuration R) (controller : PidController R)
    (plant : ServoPlant R) : ControlLoop R :=
  let trajectory := TrapezoidalTrajectory.initial.reset plant.state.positionRad
  { configuration := configuration
    controller := controller
    plant := plant
    trajectory := trajectory
    stateMachine := .initial
    command := .initial
    externalFault := .none
    status := { ControllerStatus.initial with
      servo := plant.state
      reference := trajectory.current }
    motionInitialized := false }

def setCommand (loop : ControlLoop R) (command : MotionCommand R) : ControlLoop R :=
  { loop with command := command }

def setExternalFault (loop : ControlLoop R) (fault : FaultCode) : ControlLoop R :=
  { loop with externalFault := fault }

/-- The fields `validate_command` and `set_target` look at, in the same test. -/
def Malformed (command : MotionCommand R) : Prop :=
  TrapezoidalTrajectory.Rejects command.targetPositionRad command.maxVelocityRadS
    command.maxAccelerationRadS2

instance (command : MotionCommand R) : Decidable (Malformed command) :=
  inferInstanceAs (Decidable (TrapezoidalTrajectory.Rejects _ _ _))

def validateCommand (command : MotionCommand R) : FaultCode :=
  if Malformed command then .invalidCommand else .none

/-- The external fault hides a validation fault. -/
def detectedFault (loop : ControlLoop R) : FaultCode :=
  if loop.externalFault ≠ .none then loop.externalFault else validateCommand loop.command

/-- The state machine after the first block of `step`. -/
def nextMachine (loop : ControlLoop R) : ControllerStateMachine :=
  loop.stateMachine.update loop.command loop.status.targetReached loop.detectedFault

/-- The block of `step` that plans a move; the motion is marked initialized even
when the target is refused. -/
def beginMotion (loop : ControlLoop R) : ControlLoop R :=
  let (trajectory, accepted) :=
    (loop.trajectory.reset loop.plant.state.positionRad).setTarget
      loop.command.targetPositionRad loop.command.maxVelocityRadS loop.command.maxAccelerationRadS2
  { loop with
    trajectory := trajectory
    stateMachine :=
      if accepted then loop.stateMachine else loop.stateMachine.forceFault .invalidCommand
    controller := loop.controller.reset
    motionInitialized := true }

/-- The block of `step` that computes the torque command. -/
def drive (loop : ControlLoop R) (dtSeconds : R) : ControlLoop R × R :=
  if loop.stateMachine.state = .running then
    let trajectory := loop.trajectory.update dtSeconds
    let (controller, torque) := loop.controller.update trajectory.current.positionRad
      loop.plant.state.positionRad dtSeconds
    ({ loop with
        trajectory := trajectory
        controller := controller
        status := { loop.status with reference := trajectory.current } }, torque)
  else
    -- the trajectory is left as it was
    ({ loop with
        controller := loop.controller.reset
        motionInitialized := false
        status := { loop.status with reference := loop.trajectory.current } }, 0)

/-- The block of `step` that moves the plant and fills in the status. -/
def report (loop : ControlLoop R) (torqueCommand dtSeconds : R) : ControlLoop R :=
  let plant := loop.plant.update torqueCommand dtSeconds
  let reference := loop.status.reference
  -- measured against the command in force, not against the target of the trajectory
  let targetReached := decide (reference.finished = true ∧
    Double.abs (loop.command.targetPositionRad - plant.state.positionRad)
      ≤ loop.configuration.positionToleranceRad ∧
    Double.abs plant.state.velocityRadS ≤ loop.configuration.velocityToleranceRadS)
  { loop with
    plant := plant
    status := { loop.status with
      servo := plant.state
      followingErrorRad := reference.positionRad - plant.state.positionRad
      targetReached := targetReached
      state := loop.stateMachine.state
      fault := loop.stateMachine.fault } }

/-- The source returns a copy of the status it leaves in the loop. -/
def step (loop : ControlLoop R) (dtSeconds : R) : ControlLoop R :=
  let previousState := loop.stateMachine.state
  -- the machine reads the `target_reached` of the step before
  let updated := { loop with stateMachine := loop.nextMachine }
  let planned :=
    if updated.stateMachine.state = .running ∧
        (previousState ≠ .running ∨ updated.motionInitialized = false) then
      updated.beginMotion
    else updated
  let (driven, torqueCommand) := planned.drive dtSeconds
  driven.report torqueCommand dtSeconds

/-- What a caller of the loop can do to it. -/
inductive Call (R : Type) where
  | setCommand (command : MotionCommand R)
  | setExternalFault (fault : FaultCode)
  | step (dtSeconds : R)
  deriving DecidableEq, Repr

def apply (loop : ControlLoop R) : Call R → ControlLoop R
  | .setCommand command => loop.setCommand command
  | .setExternalFault fault => loop.setExternalFault fault
  | .step dtSeconds => loop.step dtSeconds

/-- A statement about the steps of a run; the other calls are free. -/
def OnStep (p : ControlLoop R → R → Prop) (loop : ControlLoop R) : Call R → Prop
  | .step dtSeconds => p loop dtSeconds
  | _ => True

/-- A call that is a step, and of which `p` holds. -/
def AtStep (p : ControlLoop R → R → Prop) (loop : ControlLoop R) : Call R → Prop
  | .step dtSeconds => p loop dtSeconds
  | _ => False

instance decideOnStep (p : ControlLoop R → R → Prop) [∀ loop dt, Decidable (p loop dt)]
    (loop : ControlLoop R) : (call : Call R) → Decidable (OnStep p loop call)
  | .step dtSeconds => inferInstanceAs (Decidable (p loop dtSeconds))
  | .setCommand _ | .setExternalFault _ => .isTrue trivial

end Source

section Specification

variable {R : Type} [Double R]

theorem validateCommand_none (command : MotionCommand R) :
    validateCommand command = .none ↔ ¬Malformed command := by
  by_cases malformed : Malformed command <;> simp [validateCommand, malformed]

/-- Without a detected fault there is neither an external one nor a bad command. -/
theorem detectedFault_none (loop : ControlLoop R) :
    loop.detectedFault = .none ↔ loop.externalFault = .none ∧ ¬Malformed loop.command := by
  by_cases external : loop.externalFault = .none
  · simp [detectedFault, external, validateCommand_none]
  · simp [detectedFault, external]

/-- The guard under which `step` plans a new move. -/
def Enters (loop : ControlLoop R) : Prop :=
  loop.stateMachine.state ≠ .running ∨ loop.motionInitialized = false

instance (loop : ControlLoop R) : Decidable loop.Enters := inferInstanceAs (Decidable (_ ∨ _))

/-- A move under way is not planned again. -/
theorem followed (loop : ControlLoop R) (running : loop.stateMachine.state = .running)
    (initialized : loop.motionInitialized = true) : ¬loop.Enters := by
  rintro (idle | unprepared)
  · exact idle running
  · rw [initialized] at unprepared
    cases unprepared

/-- The profile a running step follows. -/
def moveTrajectory (loop : ControlLoop R) : TrapezoidalTrajectory R :=
  if loop.Enters then
    (loop.trajectory.reset loop.plant.state.positionRad).plan loop.command.targetPositionRad
      loop.command.maxVelocityRadS loop.command.maxAccelerationRadS2
  else loop.trajectory

def moveController (loop : ControlLoop R) : PidController R :=
  if loop.Enters then loop.controller.reset else loop.controller

/-- What the state machine let into `running` has passed validation, so the
trajectory cannot refuse it. -/
theorem running_wellFormed (loop : ControlLoop R) (runs : loop.nextMachine.state = .running) :
    loop.externalFault = .none ∧ ¬Malformed loop.command :=
  (detectedFault_none loop).mp
    ((ControllerStateMachine.update_running_iff _ _ _ _).mp runs).2.2.1

/-- A step that ends in `running`, written out. -/
theorem step_running (loop : ControlLoop R) (dt : R)
    (runs : loop.nextMachine.state = .running) :
    loop.step dt =
      ({ loop with
          stateMachine := loop.nextMachine
          trajectory := loop.moveTrajectory.update dt
          controller := (loop.moveController.update
            (loop.moveTrajectory.update dt).referencePositionRad loop.plant.state.positionRad dt).1
          status := { loop.status with reference := (loop.moveTrajectory.update dt).current }
          motionInitialized := true } : ControlLoop R).report
        (loop.moveController.update (loop.moveTrajectory.update dt).referencePositionRad
          loop.plant.state.positionRad dt).2 dt := by
  have accepted := (running_wellFormed loop runs).2
  by_cases enters : loop.Enters
  · have planned : loop.nextMachine.state = .running ∧
        (loop.stateMachine.state ≠ .running ∨ loop.motionInitialized = false) := ⟨runs, enters⟩
    simp only [step, if_pos planned, beginMotion,
      TrapezoidalTrajectory.setTarget_accepted _ _ _ _ accepted, drive, if_pos runs, if_true,
      moveTrajectory, moveController, if_pos enters, TrapezoidalTrajectory.current]
  · have continued : ¬(loop.nextMachine.state = .running ∧
        (loop.stateMachine.state ≠ .running ∨ loop.motionInitialized = false)) :=
      fun h => enters h.2
    have initialized : loop.motionInitialized = true := by
      simp only [Enters, not_or, Bool.not_eq_false] at enters
      exact enters.2
    simp only [step, if_neg continued, drive, if_pos runs, moveTrajectory, moveController,
      if_neg enters, TrapezoidalTrajectory.current]
    rw [initialized]

/-- A step that ends anywhere else feeds the plant no torque. -/
theorem step_idle (loop : ControlLoop R) (dt : R) (idle : loop.nextMachine.state ≠ .running) :
    loop.step dt =
      ({ loop with
          stateMachine := loop.nextMachine
          controller := loop.controller.reset
          status := { loop.status with reference := loop.trajectory.current }
          motionInitialized := false } : ControlLoop R).report 0 dt := by
  have unplanned : ¬(loop.nextMachine.state = .running ∧
      (loop.stateMachine.state ≠ .running ∨ loop.motionInitialized = false)) := fun h => idle h.1
  simp only [step, if_neg unplanned, drive, if_neg idle]

/-- Every step ends in a report, and leaves alone what is not named here. -/
theorem step_reported (loop : ControlLoop R) (dt : R) :
    ∃ trajectory controller torque initialized, loop.step dt =
      ({ loop with
          stateMachine := loop.nextMachine
          trajectory := trajectory
          controller := controller
          status := { loop.status with reference := trajectory.current }
          motionInitialized := initialized } : ControlLoop R).report torque dt := by
  by_cases runs : loop.nextMachine.state = .running
  · exact ⟨_, _, _, _, step_running loop dt runs⟩
  · exact ⟨_, _, _, _, step_idle loop dt runs⟩

@[simp] theorem step_stateMachine (loop : ControlLoop R) (dt : R) :
    (loop.step dt).stateMachine = loop.nextMachine := by
  obtain ⟨_, _, _, _, step⟩ := loop.step_reported dt
  rw [step]
  rfl

@[simp] theorem step_command (loop : ControlLoop R) (dt : R) :
    (loop.step dt).command = loop.command := by
  obtain ⟨_, _, _, _, step⟩ := loop.step_reported dt
  rw [step]
  rfl

@[simp] theorem step_externalFault (loop : ControlLoop R) (dt : R) :
    (loop.step dt).externalFault = loop.externalFault := by
  obtain ⟨_, _, _, _, step⟩ := loop.step_reported dt
  rw [step]
  rfl

@[simp] theorem step_configuration (loop : ControlLoop R) (dt : R) :
    (loop.step dt).configuration = loop.configuration := by
  obtain ⟨_, _, _, _, step⟩ := loop.step_reported dt
  rw [step]
  rfl

/-- The reported state is the state of the machine. -/
@[simp] theorem step_state (loop : ControlLoop R) (dt : R) :
    (loop.step dt).status.state = loop.nextMachine.state := by
  obtain ⟨_, _, _, _, step⟩ := loop.step_reported dt
  rw [step]
  rfl

@[simp] theorem step_fault (loop : ControlLoop R) (dt : R) :
    (loop.step dt).status.fault = loop.nextMachine.fault := by
  obtain ⟨_, _, _, _, step⟩ := loop.step_reported dt
  rw [step]
  rfl

@[simp] theorem step_servo (loop : ControlLoop R) (dt : R) :
    (loop.step dt).status.servo = (loop.step dt).plant.state := by
  obtain ⟨_, _, _, _, step⟩ := loop.step_reported dt
  rw [step]
  rfl

@[simp] theorem step_reference (loop : ControlLoop R) (dt : R) :
    (loop.step dt).status.reference = (loop.step dt).trajectory.current := by
  obtain ⟨_, _, _, _, step⟩ := loop.step_reported dt
  rw [step]
  rfl

@[simp] theorem step_parameters (loop : ControlLoop R) (dt : R) :
    (loop.step dt).plant.parameters = loop.plant.parameters := by
  obtain ⟨_, _, _, _, step⟩ := loop.step_reported dt
  rw [step]
  exact ServoPlant.update_parameters _ _ _

/-- A valid step outside `running` reports a zero torque. -/
theorem step_idle_torque [Double.Lawful R] (loop : ControlLoop R) (dt : R)
    (valid : Double.ValidStep dt) (idle : loop.nextMachine.state ≠ .running) :
    (loop.step dt).status.servo.commandedTorqueNm = 0 := by
  have torque := ServoPlant.update_torque loop.plant 0 dt valid
  rw [Double.clamp_zero loop.plant.positive.2.2] at torque
  rw [step_idle loop dt idle]
  exact torque

/-- Exactly what a step needs to end in `running`. -/
theorem nextMachine_running_iff (loop : ControlLoop R) :
    loop.nextMachine.state = .running ↔
      loop.command.powerAvailable = true ∧ loop.command.emergencyStop = false ∧
        (loop.externalFault = .none ∧ ¬Malformed loop.command) ∧ loop.command.enable = true ∧
        ControllerStateMachine.Permits loop.stateMachine.state loop.command
          loop.status.targetReached := by
  rw [← detectedFault_none]
  exact ControllerStateMachine.update_running_iff _ _ _ _

/-- `target_reached` of a step is judged against the command that step had. -/
theorem step_targetReached (loop : ControlLoop R) (dt : R)
    (reached : (loop.step dt).status.targetReached = true) :
    Double.abs (loop.command.targetPositionRad - (loop.step dt).plant.state.positionRad)
      ≤ loop.configuration.positionToleranceRad := by
  obtain ⟨_, _, _, _, step⟩ := loop.step_reported dt
  rw [step] at reached ⊢
  exact (of_decide_eq_true reached).2.1

/-- The status in the loop reports the machine, between steps too. -/
def Reports (loop : ControlLoop R) : Prop :=
  loop.status.state = loop.stateMachine.state ∧ loop.status.fault = loop.stateMachine.fault

theorem nextMachine_outcome (loop : ControlLoop R) :
    ControllerStateMachine.Outcome loop.stateMachine loop.command loop.status.targetReached
      loop.detectedFault loop.nextMachine :=
  ControllerStateMachine.update_outcome _ _ _ _

/-- A step that reports an operational state has detected no fault. -/
theorem step_operational (loop : ControlLoop R) (dt : R)
    (operational : ControllerStateMachine.Operational (loop.step dt).status.state) :
    loop.detectedFault = .none := by
  rw [step_state] at operational
  exact ControllerStateMachine.update_operational _ _ _ _ operational

theorem create_reports (configuration : Configuration R) (controller : PidController R)
    (plant : ServoPlant R) : (create configuration controller plant).Reports := ⟨rfl, rfl⟩

theorem apply_reports (loop : ControlLoop R) (call : Call R) (reports : loop.Reports) :
    (loop.apply call).Reports := by
  cases call with
  | setCommand command => exact reports
  | setExternalFault fault => exact reports
  | step dt => exact ⟨by simp [apply], by simp [apply]⟩

theorem run_reports (configuration : Configuration R) (controller : PidController R)
    (plant : ServoPlant R) (calls : List (Call R)) :
    (run apply (create configuration controller plant) calls).Reports :=
  run_always apply Reports apply_reports _ calls (create_reports _ _ _)

theorem apply_coherent (loop : ControlLoop R) (call : Call R)
    (coherent : loop.stateMachine.Coherent) : (loop.apply call).stateMachine.Coherent := by
  cases call with
  | setCommand command => exact coherent
  | setExternalFault fault => exact coherent
  | step dt =>
    change (loop.step dt).stateMachine.Coherent
    rw [step_stateMachine]
    exact ControllerStateMachine.update_coherent _ _ _ _ coherent

theorem run_coherent (configuration : Configuration R) (controller : PidController R)
    (plant : ServoPlant R) (calls : List (Call R)) :
    (run apply (create configuration controller plant) calls).stateMachine.Coherent :=
  run_always apply (fun loop => loop.stateMachine.Coherent) apply_coherent _ calls
    ControllerStateMachine.initial_coherent

end Specification

end ControlLoop

end MotionBridge
