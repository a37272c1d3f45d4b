import MotionBridge.Runtime.FiniteLoop

/-! Who may move the axis: torque is fed to the plant in `running` only, and
`running` is reached and kept only with every permission present. -/
namespace MotionBridge

open Foundation
open Exact (fin)

namespace ControlLoop

/-- What a loop must be given for its next step to run the axis. -/
structure Permitted {R : Type} [Double R] (loop : ControlLoop R) : Prop where
  power : loop.command.powerAvailable = true
  enable : loop.command.enable = true
  noEmergency : loop.command.emergencyStop = false
  target : Double.isfinite loop.command.targetPositionRad = true
  velocity : Double.isfinite loop.command.maxVelocityRadS = true ∧ 0 < loop.command.maxVelocityRadS
  acceleration : Double.isfinite loop.command.maxAccelerationRadS2 = true ∧
    0 < loop.command.maxAccelerationRadS2
  noExternalFault : loop.externalFault = .none
  entry : (loop.stateMachine.state = .running ∧ loop.command.stop = false) ∨
    (loop.stateMachine.state = .ready ∧ loop.command.start = true)

variable {K : Type} [Field K] [LinearOrder K] [SquareRoot K]

theorem running_permitted (loop : ControlLoop (Exact K))
    (runs : loop.nextMachine.state = .running) : loop.Permitted := by
  obtain ⟨power, stop, ⟨external, wellFormed⟩, enable, entry⟩ :=
    (nextMachine_running_iff loop).mp runs
  obtain ⟨p, v, a, hp, hv, ha, positiveV, positiveA⟩ :=
    TrapezoidalTrajectory.accepted_fin wellFormed
  refine ⟨power, enable, stop, ?_, ?_, ?_, external, entry.imp_left fun h => ⟨h.1, h.2.1⟩⟩
  · rw [hp]; rfl
  · rw [hv]; exact ⟨rfl, positiveV⟩
  · rw [ha]; exact ⟨rfl, positiveA⟩

variable [IsStrictOrderedRing K]

/-- The reported torque is the command of the step, limited by the plant. -/
theorem step_torque {limits : PidController K} {parameters : Parameters K}
    {loop : ControlLoop (Exact K)} (dt : Exact K) (finite : IsFinite limits parameters loop)
    (valid : Double.ValidStep dt) :
    ∃ torque : K, (loop.step dt).status.servo.commandedTorqueNm =
        fin (Double.clamp torque (-parameters.maximumTorqueNm) parameters.maximumTorqueNm) ∧
      0 < parameters.maximumTorqueNm ∧ (loop.nextMachine.state ≠ .running → torque = 0) ∧
      (limits.minimumOutput ≤ 0 ∧ 0 ≤ limits.maximumOutput →
        limits.minimumOutput ≤ torque ∧ torque ≤ limits.maximumOutput) := by
  obtain ⟨_, plant, _, _, torque, moves⟩ := step_finite dt finite
  have parametersBefore := moves.parametersBefore
  subst parametersBefore
  refine ⟨torque, ?_, plant.positive.2.2, moves.idle, moves.range⟩
  rw [step_servo, moves.finite.plant_eq, moves.moved, ServoPlant.update_torque _ _ _ valid,
    ← Exact.fin_clamp]
  rfl

/-- No step moves the axis without permission, and none exceeds its limits. -/
theorem motion_permission (configuration : Configuration (Exact K)) (controller : PidController K)
    (plant : ServoPlant K)
    (straddles : controller.minimumOutput ≤ 0 ∧ 0 ≤ controller.maximumOutput)
    (calls : List (Call (Exact K))) (dt : Exact K) (valid : Double.ValidStep dt) :
    let before := run apply (exact configuration controller plant) calls
    let status := (before.step dt).status
    let torque := status.servo.commandedTorqueNm
    (torque ≠ 0 → status.state = .running ∧
      (fin controller.minimumOutput ≤ torque ∧ torque ≤ fin controller.maximumOutput) ∧
      (-fin plant.parameters.maximumTorqueNm ≤ torque ∧
        torque ≤ fin plant.parameters.maximumTorqueNm)) ∧
    (status.state = .running → before.Permitted ∧ status.fault = .none) := by
  intro before status torque
  have finite : IsFinite controller plant.parameters before :=
    run_isFinite configuration controller plant calls
  have coherent : before.stateMachine.Coherent := run_coherent _ _ _ calls
  obtain ⟨pushed, reported, positive, idle, range⟩ := step_torque dt finite valid
  have state : status.state = before.nextMachine.state := step_state before dt
  constructor
  · intro nonzero
    -- outside `running` the command is zero, and zero survives the clamp of the plant
    have runs : before.nextMachine.state = .running := by
      by_contra notRunning
      apply nonzero
      change status.servo.commandedTorqueNm = 0
      rw [reported, idle notRunning]
      simp [Double.clamp, not_lt.mpr positive.le]
    refine ⟨state.trans runs, ?_, ?_⟩
    -- the plant's clamp cannot leave the range of the controller, since both contain zero
    · have inside := clamp_preserves pushed (-plant.parameters.maximumTorqueNm)
        plant.parameters.maximumTorqueNm _ _ (range straddles) straddles
        ⟨neg_nonpos.mpr positive.le, positive.le⟩
      rw [show torque = _ from reported]
      exact inside
    · rw [show torque = _ from reported]
      exact clamp_mem pushed _ _ ((neg_nonpos.mpr positive.le).trans positive.le)
  · intro runs
    rw [state] at runs
    refine ⟨running_permitted before runs, ?_⟩
    change (before.step dt).status.fault = .none
    rw [step_fault]
    -- `running` is not held, so the machine has no fault code to report
    apply ControllerStateMachine.update_coherent _ _ _ _ coherent
    change ¬ControllerStateMachine.Held before.nextMachine.state
    rw [runs]
    simp [ControllerStateMachine.Held]

/-- Power, enable and start bring the demo loop to its first driven step. -/
theorem motion_permission_started :
    let before := run apply demo [.step millisecond, .setCommand (go 1), .step millisecond]
    let status := (before.step millisecond).status
    status.servo.commandedTorqueNm ≠ 0 ∧ status.state = .running ∧ before.Permitted := by
  have permission := motion_permission .initial demoController .initial
    (by decide +kernel) [.step millisecond, .setCommand (go 1), .step millisecond] millisecond
    (by decide +kernel)
  have driven : ((run apply demo [.step millisecond, .setCommand (go 1), .step millisecond]).step
      millisecond).status.servo.commandedTorqueNm ≠ 0 := by decide +kernel
  have running := (permission.1 driven).1
  exact ⟨driven, running, (permission.2 running).1⟩

end ControlLoop

end MotionBridge
