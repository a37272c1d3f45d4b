import MotionBridge.Runtime.ControlLoop

/-!
# Control loops in exact arithmetic

The gains, the plant and the trajectory of a loop hold elements of a field;
commands and time steps may be any `double`, NaN and infinities included. No
call, however malformed, brings a special value into the loop.
-/
namespace MotionBridge

open Foundation
open Exact (fin)

namespace ControlLoop

variable {K : Type} [Field K] [LinearOrder K] [SquareRoot K]

/-- A fresh loop around a controller and a plant over the field. -/
def exact (configuration : Configuration (Exact K)) (controller : PidController K)
    (plant : ServoPlant K) : ControlLoop (Exact K) :=
  create configuration (controller.map fin) plant.lift

/-- The field values behind the parts of a loop that compute. -/
structure Finite (loop : ControlLoop (Exact K)) (controller : PidController K)
    (plant : ServoPlant K) (trajectory : TrapezoidalTrajectory K) : Prop where
  controller_eq : loop.controller = controller.map fin
  plant_eq : loop.plant = plant.lift
  trajectory_eq : loop.trajectory = trajectory.map fin

/-- A loop without special values, and with the limits it was built with. -/
def IsFinite (limits : PidController K) (parameters : Parameters K)
    (loop : ControlLoop (Exact K)) : Prop :=
  ∃ controller plant trajectory, loop.Finite controller plant trajectory ∧
    controller.minimumOutput = limits.minimumOutput ∧
    controller.maximumOutput = limits.maximumOutput ∧ plant.parameters = parameters

theorem exact_isFinite (configuration : Configuration (Exact K)) (controller : PidController K)
    (plant : ServoPlant K) :
    IsFinite controller plant.parameters (exact configuration controller plant) :=
  ⟨controller, plant, TrapezoidalTrajectory.initial.reset plant.state.positionRad,
    ⟨rfl, rfl, rfl⟩, rfl, rfl, rfl⟩

theorem moveController_finite {loop : ControlLoop (Exact K)} {controller : PidController K}
    {plant : ServoPlant K} {trajectory : TrapezoidalTrajectory K}
    (finite : loop.Finite controller plant trajectory) :
    loop.moveController = (if loop.Enters then controller.reset else controller).map fin := by
  by_cases enters : loop.Enters
  · rw [moveController, if_pos enters, if_pos enters, finite.controller_eq,
      PidController.reset_fin]
  · rw [moveController, if_neg enters, if_neg enters, finite.controller_eq]

variable [IsStrictOrderedRing K]

/-- The profile a running step follows is finite, and planned from finite arguments. -/
theorem moveTrajectory_finite {loop : ControlLoop (Exact K)} {controller : PidController K}
    {plant : ServoPlant K} {trajectory : TrapezoidalTrajectory K}
    (finite : loop.Finite controller plant trajectory) (accepted : ¬Malformed loop.command) :
    ∃ p v a, loop.command.targetPositionRad = fin p ∧ loop.command.maxVelocityRadS = fin v ∧
      loop.command.maxAccelerationRadS2 = fin a ∧ 0 < v ∧ 0 < a ∧
      loop.moveTrajectory =
        (if loop.Enters then (trajectory.reset plant.state.positionRad).plan p v a
          else trajectory).map fin := by
  obtain ⟨p, v, a, hp, hv, ha, positiveV, positiveA⟩ := TrapezoidalTrajectory.accepted_fin accepted
  refine ⟨p, v, a, hp, hv, ha, positiveV, positiveA, ?_⟩
  have position : loop.plant.state.positionRad = fin plant.state.positionRad := by
    rw [finite.plant_eq]; rfl
  by_cases enters : loop.Enters
  · rw [moveTrajectory, if_pos enters, if_pos enters, hp, hv, ha, finite.trajectory_eq, position,
      TrapezoidalTrajectory.reset_fin, TrapezoidalTrajectory.plan_fin _ _ _ _ positiveV positiveA]
  · rw [moveTrajectory, if_neg enters, if_neg enters, finite.trajectory_eq]

/-- What one step does over the field: `torque` is what reached the plant. -/
structure Moves (limits : PidController K) (parameters : Parameters K)
    (loop : ControlLoop (Exact K)) (dt : Exact K) (controller : PidController K)
    (plant next : ServoPlant K) (trajectory : TrapezoidalTrajectory K) (torque : K) : Prop where
  finite : (loop.step dt).Finite controller next trajectory
  minimum : controller.minimumOutput = limits.minimumOutput
  maximum : controller.maximumOutput = limits.maximumOutput
  parametersBefore : plant.parameters = parameters
  parametersAfter : next.parameters = parameters
  moved : next.lift = plant.lift.update (fin torque) dt
  idle : loop.nextMachine.state ≠ .running → torque = 0
  range : limits.minimumOutput ≤ 0 ∧ 0 ≤ limits.maximumOutput →
    limits.minimumOutput ≤ torque ∧ torque ≤ limits.maximumOutput

theorem step_finite {limits : PidController K} {parameters : Parameters K}
    {loop : ControlLoop (Exact K)} (dt : Exact K) (finite : IsFinite limits parameters loop) :
    ∃ controller plant next trajectory torque,
      Moves limits parameters loop dt controller plant next trajectory torque := by
  obtain ⟨controller, plant, trajectory, behind, minimum, maximum, rfl⟩ := finite
  by_cases runs : loop.nextMachine.state = .running
  -- profile, controller and plant are updated in this order, each from finite values
  · obtain ⟨p, v, a, _, _, _, _, _, move⟩ :=
      moveTrajectory_finite behind (running_wellFormed loop runs).2
    obtain ⟨followed, follow⟩ := TrapezoidalTrajectory.update_finite
      (if loop.Enters then (trajectory.reset plant.state.positionRad).plan p v a else trajectory) dt
    obtain ⟨controlled, torque, control, minimum', maximum', range⟩ :=
      (if loop.Enters then controller.reset else controller).update_finite
        followed.referencePositionRad plant.state.positionRad dt
    obtain ⟨moved, push, parameters⟩ := plant.update_finite torque dt
    have profile : loop.moveTrajectory.update dt = followed.map fin := by rw [move, follow]
    have output : loop.moveController.update (loop.moveTrajectory.update dt).referencePositionRad
        loop.plant.state.positionRad dt = (controlled.map fin, fin torque) := by
      rw [moveController_finite behind, profile, behind.plant_eq]
      exact control
    -- a reset controller has the limits it had
    have limitsKept : (if loop.Enters then controller.reset else controller).minimumOutput =
          limits.minimumOutput ∧
        (if loop.Enters then controller.reset else controller).maximumOutput =
          limits.maximumOutput := by
      split_ifs
      · exact ⟨minimum, maximum⟩
      · exact ⟨minimum, maximum⟩
    rw [limitsKept.1, limitsKept.2] at range
    refine ⟨controlled, plant, moved, followed, torque, ⟨?_, ?_, ?_⟩,
      minimum'.trans limitsKept.1, maximum'.trans limitsKept.2, rfl, parameters, push.symm,
      fun idle => absurd runs idle, range⟩
    · rw [step_running loop dt runs, output]
      rfl
    · rw [step_running loop dt runs, output, ← push, ← behind.plant_eq]
      rfl
    · rw [step_running loop dt runs, profile]
      rfl
  -- outside `running` the plant alone moves, under a zero torque
  · obtain ⟨next, moved, parameters⟩ := plant.update_finite 0 dt
    refine ⟨controller.reset, plant, next, trajectory, 0, ⟨?_, ?_, ?_⟩, minimum, maximum, rfl,
      parameters, moved.symm, fun _ => rfl, id⟩
    · rw [step_idle loop dt runs]
      change loop.controller.reset = _
      rw [behind.controller_eq, PidController.reset_fin]
    · rw [step_idle loop dt runs]
      change loop.plant.update 0 dt = _
      rw [behind.plant_eq, ← moved]
      rfl
    · rw [step_idle loop dt runs]
      exact behind.trajectory_eq

theorem apply_isFinite {limits : PidController K} {parameters : Parameters K}
    (loop : ControlLoop (Exact K)) (call : Call (Exact K))
    (finite : IsFinite limits parameters loop) : IsFinite limits parameters (loop.apply call) := by
  cases call with
  | setCommand command =>
    obtain ⟨controller, plant, trajectory, behind, rest⟩ := finite
    exact ⟨controller, plant, trajectory, ⟨behind.1, behind.2, behind.3⟩, rest⟩
  | setExternalFault fault =>
    obtain ⟨controller, plant, trajectory, behind, rest⟩ := finite
    exact ⟨controller, plant, trajectory, ⟨behind.1, behind.2, behind.3⟩, rest⟩
  | step dt =>
    obtain ⟨controller, _, next, trajectory, _, moves⟩ := step_finite dt finite
    exact ⟨controller, next, trajectory, moves.finite, moves.minimum, moves.maximum,
      moves.parametersAfter⟩

/-- No run from a fresh loop meets a special value inside the loop. -/
theorem run_isFinite (configuration : Configuration (Exact K)) (controller : PidController K)
    (plant : ServoPlant K) (calls : List (Call (Exact K))) :
    IsFinite controller plant.parameters (run apply (exact configuration controller plant) calls) :=
  run_always apply _ apply_isFinite _ calls (exact_isFinite configuration controller plant)

/-- The controller of the demos. -/
def demoController : PidController ℚ := PidController.create ⟨32.0, 5.0, 2.0, 0.008⟩ (-10.0) 10.0

/-- The loop of the demos, over the rationals. -/
def demo : ControlLoop (Exact ℚ) := exact .initial demoController .initial

/-- Enabled and started, with a target. -/
def go (target : ℚ) : MotionCommand (Exact ℚ) :=
  { (MotionCommand.initial : MotionCommand (Exact ℚ)) with
    enable := true
    start := true
    targetPositionRad := fin target
    maxVelocityRadS := fin 1
    maxAccelerationRadS2 := fin 1 }

/-- A cycle of the demos, at 1 kHz. -/
def millisecond : Exact ℚ := fin (1 / 1000)

end ControlLoop

end MotionBridge
