import MotionBridge.Runtime.FiniteLoop

/-! When a move counts as complete. The trajectory keeps the target it was planned
for, and the state machine reads the `target_reached` of the step before: both go
wrong when the command changes in between. -/
namespace MotionBridge

open Foundation
open Exact (fin)

namespace ControlLoop

section Source

variable {R : Type} [Double R]

/-- A running axis has planned its move. -/
def Prepared (loop : ControlLoop R) : Prop :=
  loop.stateMachine.state = .running → loop.motionInitialized = true

theorem apply_prepared (loop : ControlLoop R) (call : Call R) (prepared : loop.Prepared) :
    (loop.apply call).Prepared := by
  cases call with
  | setCommand command => exact prepared
  | setExternalFault fault => exact prepared
  | step dt =>
    intro runs
    change (loop.step dt).stateMachine.state = .running at runs
    rw [step_stateMachine] at runs
    change (loop.step dt).motionInitialized = true
    rw [step_running loop dt runs]
    rfl

/-- The next step goes on with the move in progress. -/
def Continues (loop : ControlLoop R) : Prop :=
  loop.stateMachine.state = .running ∧ loop.command.powerAvailable = true ∧
    loop.command.emergencyStop = false ∧ loop.detectedFault = .none ∧
    loop.command.enable = true ∧ loop.command.stop = false ∧ loop.status.targetReached = false

theorem running_continues (loop : ControlLoop R) (running : loop.stateMachine.state = .running) :
    loop.nextMachine.state = .running ↔ loop.Continues := by
  rw [nextMachine_running_iff, ← detectedFault_none]
  constructor
  · rintro ⟨power, noEmergency, clear, enable, permitted⟩
    rcases permitted with continues | enters
    · exact ⟨running, power, noEmergency, clear, enable, continues.2⟩
    -- a running axis does not enter from `ready`
    · have state := enters.1
      rw [running] at state
      cases state
  · rintro ⟨_, power, noEmergency, clear, enable, stop, unreached⟩
    exact ⟨power, noEmergency, clear, enable, Or.inl ⟨running, stop, unreached⟩⟩

/-- Where the reference comes to rest is near the target in force. -/
def Pursues (loop : ControlLoop R) : Prop :=
  Double.abs (loop.trajectory.restingPoint - loop.command.targetPositionRad) ≤ 1e-12

/-- The step reports `running` with a finished reference. -/
def Finishes (loop : ControlLoop R) (dt : R) : Prop :=
  (loop.step dt).status.state = .running ∧ (loop.step dt).status.reference.finished = true

/-- The reference a step reports is near the target in force at that step. -/
def Settled (loop : ControlLoop R) (dt : R) : Prop :=
  Double.abs ((loop.step dt).status.reference.positionRad - loop.command.targetPositionRad) ≤ 1e-12

instance (loop : ControlLoop R) : Decidable loop.Continues :=
  inferInstanceAs (Decidable (_ ∧ _ ∧ _ ∧ _ ∧ _ ∧ _ ∧ _))

instance (loop : ControlLoop R) : Decidable loop.Pursues := inferInstanceAs (Decidable (_ ≤ _))

instance (loop : ControlLoop R) (dt : R) : Decidable (loop.Finishes dt) :=
  inferInstanceAs (Decidable (_ ∧ _))

instance (loop : ControlLoop R) (dt : R) : Decidable (loop.Settled dt) :=
  inferInstanceAs (Decidable (_ ≤ _))

/-- A finished reference lies where the followed profile comes to rest. -/
theorem finished_reference (loop : ControlLoop R) (dt : R)
    (runs : loop.nextMachine.state = .running)
    (finished : (loop.step dt).status.reference.finished = true) :
    (loop.step dt).status.reference.positionRad = loop.moveTrajectory.restingPoint := by
  rw [step_reference] at finished ⊢
  have followed : (loop.step dt).trajectory = loop.moveTrajectory.update dt := by
    rw [step_running loop dt runs]
    rfl
  rw [followed] at finished ⊢
  have inactive : (loop.moveTrajectory.update dt).active = false := by
    simpa [TrapezoidalTrajectory.current] using finished
  exact TrapezoidalTrajectory.update_resting _ dt inactive

end Source

variable {K : Type} [Field K] [LinearOrder K] [SquareRoot K] [IsStrictOrderedRing K]

/-- A step that enters `running` plans for the command in force. -/
theorem entered_settled {limits : PidController K} {parameters : Parameters K}
    (loop : ControlLoop (Exact K)) (dt : Exact K) (finite : IsFinite limits parameters loop)
    (entered : loop.stateMachine.state ≠ .running) (finishes : loop.Finishes dt) :
    loop.Settled dt := by
  obtain ⟨controller, plant, trajectory, behind, _⟩ := finite
  have runs : loop.nextMachine.state = .running := (step_state loop dt).symm.trans finishes.1
  obtain ⟨p, v, a, target, _, _, _, _, move⟩ :=
    moveTrajectory_finite behind (running_wellFormed loop runs).2
  have enters : loop.Enters := Or.inl entered
  -- so the profile followed is a fresh one, for the target of this very command
  rw [if_pos enters] at move
  rw [Settled, finished_reference loop dt runs finishes.2, move, target,
    TrapezoidalTrajectory.restingPoint_map, Exact.fin_sub, Exact.abs_fin]
  exact TrapezoidalTrajectory.plan_resting _ p v a

/-- A finished reference is at the target in force exactly if the step started the
move, or went on with a move to that target. -/
theorem settled_iff {limits : PidController K} {parameters : Parameters K}
    (loop : ControlLoop (Exact K)) (dt : Exact K) (finite : IsFinite limits parameters loop)
    (prepared : loop.Prepared) (finishes : loop.Finishes dt) :
    loop.Settled dt ↔ (loop.Continues → loop.Pursues) := by
  have runs : loop.nextMachine.state = .running := (step_state loop dt).symm.trans finishes.1
  by_cases running : loop.stateMachine.state = .running
  · have continues : loop.Continues := (running_continues loop running).mp runs
    -- a continued move keeps its profile: `set_target` is not called again
    have reference := finished_reference loop dt runs finishes.2
    rw [moveTrajectory, if_neg (loop.followed running (prepared running))] at reference
    rw [Settled, reference]
    exact ⟨fun settled _ => settled, fun pursues => pursues continues⟩
  -- a step that enters `running` is settled, and the condition does not apply to it
  · have settled := entered_settled loop dt finite running finishes
    exact iff_of_true settled fun continues => absurd continues.1 running

/-- In every run, a finished reference of a running axis is at the target in force
wherever no step goes on with a move to another target, and only there. -/
theorem running_settled_iff (configuration : Configuration (Exact K))
    (controller : PidController K) (plant : ServoPlant K) (calls : List (Call (Exact K))) :
    (Along apply (OnStep fun loop _ => loop.Continues → loop.Pursues)
        (exact configuration controller plant) calls →
      Along apply (OnStep fun loop dt => loop.Finishes dt → loop.Settled dt)
        (exact configuration controller plant) calls) ∧
    Along apply (OnStep fun loop dt =>
        loop.Finishes dt → (loop.Settled dt ↔ (loop.Continues → loop.Pursues)))
      (exact configuration controller plant) calls := by
  have exactly : Along apply (OnStep fun loop dt =>
        loop.Finishes dt → (loop.Settled dt ↔ (loop.Continues → loop.Pursues)))
      (exact configuration controller plant) calls := by
    apply along_of_invariant apply (fun _ _ => True) _
      (fun loop => IsFinite controller plant.parameters loop ∧ loop.Prepared) _ _ _ calls
      (along_inputs apply (fun _ => True) _ calls fun _ _ => trivial)
    · exact ⟨exact_isFinite configuration controller plant, nofun⟩
    · intro loop call _ ⟨finite, prepared⟩
      exact ⟨apply_isFinite loop call finite, apply_prepared loop call prepared⟩
    · intro loop call _ ⟨finite, prepared⟩
      cases call with
      | setCommand command => trivial
      | setExternalFault fault => trivial
      | step dt => exact settled_iff loop dt finite prepared
  refine ⟨fun pursued => ?_, exactly⟩
  -- both statements are about the same steps, so they combine step by step
  rw [along_iff] at pursued exactly ⊢
  intro before call after split
  have pursued := pursued before call after split
  have exactly := exactly before call after split
  cases call with
  | setCommand command => trivial
  | setExternalFault fault => trivial
  | step dt => exact fun finishes => (exactly finishes).mpr pursued

/-- A move of 2 rad on the demo loop, followed to its end without a new command. -/
theorem running_settled_followed :
    Along apply (OnStep fun loop dt => loop.Finishes dt → loop.Settled dt) demo
      [.setCommand (go 2), .step millisecond, .step millisecond, .step (fin 1), .step (fin 1),
        .step (fin 1)] :=
  (running_settled_iff .initial demoController .initial
    [.setCommand (go 2), .step millisecond, .step millisecond, .step (fin 1), .step (fin 1),
      .step (fin 1)]).1 (by decide +kernel)

/-- A move to 2 rad, redirected to 5 rad while it runs, ends at 2 rad. -/
theorem parked_at_superseded_target :
    ¬∀ calls : List (Call (Exact ℚ)),
      Along apply (OnStep fun _ dt => Double.ValidStep dt) demo calls →
      Along apply (OnStep fun loop dt => loop.Finishes dt → loop.Settled dt) demo calls := by
  intro settles
  have settled := settles
    [.setCommand (go 2), .step millisecond, .step millisecond, .step (fin 1),
      .setCommand (go 5), .step (fin 1), .step (fin 1)] (by decide +kernel)
  exact absurd settled (by decide +kernel)

section Judgement

variable {R : Type} [Double R]

/-- The servo is within the position tolerance of a target. -/
def Reached (loop : ControlLoop R) (targetPositionRad : R) : Prop :=
  Double.abs (targetPositionRad - loop.plant.state.positionRad)
    ≤ loop.configuration.positionToleranceRad

instance (loop : ControlLoop R) (target : R) : Decidable (loop.Reached target) :=
  inferInstanceAs (Decidable (_ ≤ _))

/-- A command that leaves the decision to complete to `target_reached`. -/
def Completes (command : MotionCommand R) : Prop :=
  command.powerAvailable = true ∧ command.emergencyStop = false ∧ ¬Malformed command ∧
    command.enable = true ∧ command.stop = false

instance (command : MotionCommand R) : Decidable (Completes command) :=
  inferInstanceAs (Decidable (_ ∧ _ ∧ _ ∧ _ ∧ _))

/-- The step completes a move without a stop, with the servo at the target in force. -/
def CompletesAtTarget (loop : ControlLoop R) (dt : R) : Prop :=
  loop.stateMachine.state = .running → (loop.step dt).status.state = .ready →
    loop.command.stop = false → loop.Reached loop.command.targetPositionRad

instance (loop : ControlLoop R) (dt : R) : Decidable (loop.CompletesAtTarget dt) :=
  inferInstanceAs (Decidable (_ → _ → _ → _))

/-- No command replaces the target while `target_reached` waits for the next step,
unless the servo is at the new target too. -/
def KeepsTarget (loop : ControlLoop R) : Call R → Prop
  | .setCommand command =>
    loop.stateMachine.state = .running → loop.status.targetReached = true →
      Completes command → loop.Reached command.targetPositionRad
  | _ => True

instance decideKeepsTarget (loop : ControlLoop R) : (call : Call R) → Decidable (loop.KeepsTarget call)
  | .setCommand _ => inferInstanceAs (Decidable (_ → _ → _ → _))
  | .setExternalFault _ | .step _ => .isTrue trivial

/-- The `target_reached` in the status is about the target in force. -/
def Judged (loop : ControlLoop R) : Prop :=
  loop.stateMachine.state = .running → loop.status.targetReached = true →
    Completes loop.command → loop.Reached loop.command.targetPositionRad

theorem apply_judged (loop : ControlLoop R) (call : Call R) (keeps : loop.KeepsTarget call)
    (judged : loop.Judged) : (loop.apply call).Judged := by
  cases call with
  | setCommand command => exact keeps
  | setExternalFault fault => exact judged
  | step dt =>
    intro _ reached _
    -- a step leaves the command in force, and has judged against it
    change Double.abs ((loop.step dt).command.targetPositionRad - _)
      ≤ (loop.step dt).configuration.positionToleranceRad
    rw [step_command, step_configuration]
    exact step_targetReached loop dt reached

/-- A step from `running` to `ready` without a stop reads `target_reached`. -/
theorem completing_step (loop : ControlLoop R) (running : loop.stateMachine.state = .running)
    (ready : loop.nextMachine.state = .ready) (stop : loop.command.stop = false) :
    loop.status.targetReached = true ∧ Completes loop.command := by
  have outcome := nextMachine_outcome loop
  generalize loop.nextMachine = next at outcome ready
  cases outcome with
  | unpowered | stopped | faulted | released => cases ready
  | latched =>
    rw [running] at ready
    cases ready
  | moved power noEmergency clear _ =>
    have wellFormed := ((detectedFault_none loop).mp clear).2
    rw [running] at ready
    -- of the four branches out of `running` only `target_reached` leads to `ready`
    cases enable : loop.command.enable with
    | false => simp [ControllerStateMachine.transition, enable] at ready
    | true =>
      cases reached : loop.status.targetReached with
      | false => simp [ControllerStateMachine.transition, enable, stop, reached] at ready
      | true => exact ⟨rfl, power, noEmergency, wellFormed, enable, stop⟩

/-- As long as commands keep the target of a reached move, moves complete at the
target in force. -/
theorem completion_judged (configuration : Configuration R) (controller : PidController R)
    (plant : ServoPlant R) (calls : List (Call R))
    (keeps : Along apply KeepsTarget (create configuration controller plant) calls) :
    Along apply (OnStep CompletesAtTarget) (create configuration controller plant) calls := by
  apply along_of_invariant apply KeepsTarget _ Judged apply_judged _ _ calls keeps
  -- a fresh loop is not running
  · intro running
    cases running
  · intro loop call _ judged
    cases call with
    | setCommand command => trivial
    | setExternalFault fault => trivial
    | step dt =>
      intro running ready stop
      rw [step_state] at ready
      have ⟨reached, completes⟩ := completing_step loop running ready stop
      exact judged running reached completes

/-- With `target_reached` set, the demo loop gets a new target within the tolerance, and the move
completes there. -/
theorem completion_judged_nearby :
    let start := [.setCommand (go 0), .step millisecond, .step millisecond, .step millisecond]
    let nearby := [.setCommand (go 0.004), .step millisecond]
    let reached := run apply demo start
    (reached.status.state = .running ∧ reached.status.targetReached = true) ∧
      reached.command.targetPositionRad = 0 ∧
      (run apply demo (start ++ nearby)).status.state = .ready ∧
      Along apply (OnStep CompletesAtTarget) demo (start ++ nearby) := by
  intro start nearby reached
  have judged : Along apply (OnStep CompletesAtTarget) demo (start ++ nearby) :=
    completion_judged .initial (demoController.map fin) (ServoPlant.lift .initial)
      (start ++ nearby) (by decide +kernel)
  exact ⟨by decide +kernel, by decide +kernel, by decide +kernel, judged⟩

/-- A new target that arrives with `target_reached` set is reported complete, and
its start consumed, one radian away from it. -/
theorem completed_unexecuted :
    ¬∀ calls : List (Call (Exact ℚ)), Along apply (OnStep CompletesAtTarget) demo calls := by
  intro completes
  have completed := completes
    [.setCommand (go 0), .step millisecond, .step millisecond, .step millisecond,
      .setCommand (go 1), .step millisecond]
  exact absurd completed (by decide +kernel)

end Judgement

end ControlLoop

end MotionBridge
