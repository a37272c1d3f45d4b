import MotionBridge.Control.TrajectoryProfile
import MotionBridge.Runtime.FiniteLoop

/-!
# The limits of a move

A move is planned once, when the axis enters `running`, and followed as long as it
stays there. Its references keep the limits of the command it was planned for, however
long the steps are and whatever commands arrive later.
-/
namespace MotionBridge

open Foundation
open Exact (fin)

/-- What the limits of a move from `p₀` to `target` allow between two references, each
with the time step that led to it. -/
structure Limited (p₀ target v a : ℝ) (before after : ℝ × TrajectoryPoint ℝ) : Prop where
  between : after.2.positionRad ∈ Set.uIcc p₀ target
  forward : p₀ ≤ target →
    before.2.positionRad ≤ after.2.positionRad ∧ 0 ≤ after.2.velocityRadS
  backward : target ≤ p₀ →
    after.2.positionRad ≤ before.2.positionRad ∧ after.2.velocityRadS ≤ 0
  velocity : |after.2.velocityRadS| ≤ v
  positionStep : |after.2.positionRad - before.2.positionRad| ≤ v * after.1
  velocityStep : |after.2.velocityRadS - before.2.velocityRadS| ≤ a * after.1

/-- A reference that stands still where it began keeps every limit. -/
theorem Limited.standing {p₀ v a dt : ℝ} (target before : ℝ) {point : TrajectoryPoint ℝ}
    (position : point.positionRad = p₀) (velocity : point.velocityRadS = 0) (positive : 0 < dt)
    (positiveV : 0 < v) (positiveA : 0 < a) :
    Limited p₀ target v a (before, point) (dt, point) := by
  refine ⟨?_, fun _ => ⟨le_rfl, velocity.ge⟩, fun _ => ⟨le_rfl, velocity.le⟩, ?_, ?_, ?_⟩
  · rw [position]
    exact Set.left_mem_uIcc
  · rw [velocity, abs_zero]
    exact positiveV.le
  · rw [sub_self, abs_zero]
    positivity
  · rw [sub_self, abs_zero]
    positivity

namespace TrapezoidalTrajectory

/-- The trajectory follows the profile of a move, or the move is too short for one. -/
def Moving (p₀ target v a : ℝ) (trajectory : TrapezoidalTrajectory ℝ) : Prop :=
  (trajectory.active = false ∧ trajectory.referencePositionRad = p₀ ∧
    trajectory.referenceVelocityRadS = 0) ∨
  ∃ profile direction elapsed, OnProfile profile p₀ direction elapsed trajectory ∧
    (direction = 1 ∨ direction = -1) ∧ 0 ≤ elapsed ∧ 0 < profile.length ∧
    target = p₀ + direction * profile.length ∧ profile.peak ≤ v ∧ profile.acceleration = a

theorem plan_moving (trajectory : TrapezoidalTrajectory ℝ) (p₀ target v a : ℝ) (positiveV : 0 < v)
    (positiveA : 0 < a) : ((trajectory.reset p₀).plan target v a).Moving p₀ target v a := by
  by_cases moves : 1e-12 < |target - p₀|
  · have distance : 0 < |target - p₀| := lt_trans (by norm_num) moves
    have on := plan_onProfile (trajectory.reset p₀) target v a positiveV positiveA rfl moves
    refine Or.inr ⟨_, _, 0, on, ite_eq_or_eq _ _ _, le_rfl, ?_, on.target, ?_, rfl⟩
    · rw [moveProfile_length _ v a (abs_nonneg _) positiveV positiveA]
      exact distance
    · exact moveProfile_peak_le _ v a positiveV positiveA
  · exact Or.inl ⟨decide_eq_false moves, rfl, rfl⟩

theorem update_limited {profile : TrapezoidalProfile} {start direction elapsed v : ℝ}
    {trajectory : TrapezoidalTrajectory ℝ} (before dt : ℝ) (positive : 0 < dt)
    (started : 0 ≤ elapsed) (on : OnProfile profile start direction elapsed trajectory)
    (unit : direction = 1 ∨ direction = -1) (moves : 0 < profile.length)
    (peak : profile.peak ≤ v) :
    Limited start (start + direction * profile.length) v profile.acceleration
      (before, trajectory.current) (dt, (trajectory.update dt).current) := by
  have next := update_onProfile dt positive started on
  obtain ⟨begun, onward, ended, step⟩ := profile.travelled_spent started positive.le
  have forth := profile.speed_nonneg
    (le_min (add_nonneg started positive.le) profile.duration_nonneg) (min_le_right _ _)
  have limited := (profile.speed_le_peak (min (elapsed + dt) profile.duration)).trans peak
  have short := step.trans (mul_le_mul_of_nonneg_right peak positive.le)
  have size : |direction| = 1 := (abs_eq one_pos.le).mpr unit
  have smooth := update_smooth dt positive started size on
  have position : trajectory.current.positionRad = _ := on.position
  have position' : (trajectory.update dt).current.positionRad = _ := next.position
  have velocity' : (trajectory.update dt).current.velocityRadS = _ := next.velocity
  generalize profile.travelled (min elapsed profile.duration) = x at *
  generalize profile.travelled (min (elapsed + dt) profile.duration) = y at *
  generalize profile.speed (min (elapsed + dt) profile.duration) = w at *
  refine ⟨?_, ?_, ?_, ?_, ?_, smooth⟩
  · rw [position', Set.mem_uIcc]
    rcases unit with rfl | rfl
    · exact Or.inl ⟨by linarith, by linarith⟩
    · exact Or.inr ⟨by linarith, by linarith⟩
  · intro forward
    rw [position', velocity', position]
    rcases unit with rfl | rfl
    · exact ⟨by linarith, by linarith⟩
    -- there is a way to go, so the target is not in front
    · linarith
  · intro backward
    rw [position', velocity', position]
    rcases unit with rfl | rfl
    · linarith
    · exact ⟨by linarith, by linarith⟩
  · rw [velocity', abs_mul, size, one_mul, abs_of_nonneg forth]
    exact limited
  · rw [position', position, add_sub_add_left_eq_sub, ← mul_sub, abs_mul, size, one_mul,
      abs_of_nonneg (sub_nonneg.mpr onward)]
    exact short

/-- One update of a move keeps its limits and goes on with it. -/
theorem moving_update {p₀ target v a : ℝ} {trajectory : TrapezoidalTrajectory ℝ} (before dt : ℝ)
    (positive : 0 < dt) (positiveV : 0 < v) (positiveA : 0 < a)
    (moving : trajectory.Moving p₀ target v a) :
    (trajectory.update dt).Moving p₀ target v a ∧
      Limited p₀ target v a (before, trajectory.current) (dt, (trajectory.update dt).current) := by
  rcases moving with ⟨inactive, position, velocity⟩ |
    ⟨profile, direction, elapsed, on, unit, started, moves, rfl, peak, rfl⟩
  · rw [update_inactive trajectory dt inactive]
    exact ⟨Or.inl ⟨inactive, position, velocity⟩,
      Limited.standing target before position velocity positive positiveV positiveA⟩
  · exact ⟨Or.inr ⟨profile, direction, elapsed + dt, update_onProfile dt positive started on, unit,
      by positivity, moves, rfl, peak, rfl⟩,
      update_limited before dt positive started on unit moves peak⟩

end TrapezoidalTrajectory

namespace ControlLoop

section Source

variable {R : Type} [Double R]

/-- The time steps of a run, with the references they report. -/
def references (loop : ControlLoop R) : List (Call R) → List (R × TrajectoryPoint R)
  | [] => []
  | .step dt :: calls =>
    (dt, (loop.step dt).status.reference) :: references (loop.step dt) calls
  | .setCommand command :: calls => references (loop.setCommand command) calls
  | .setExternalFault fault :: calls => references (loop.setExternalFault fault) calls

/-- A valid step that reports `running`. -/
def RunsOn (loop : ControlLoop R) (dt : R) : Prop :=
  Double.ValidStep dt ∧ (loop.step dt).status.state = .running

end Source

/-- The loop is on a move, and the reference is where the move has come to. -/
structure Underway (p₀ target v a : ℝ) (trajectory : TrapezoidalTrajectory ℝ)
    (loop : ControlLoop (Exact ℝ)) : Prop where
  running : loop.stateMachine.state = .running
  prepared : loop.motionInitialized = true
  trajectory_eq : loop.trajectory = trajectory.map fin
  moving : trajectory.Moving p₀ target v a

/-- A step that follows a profile. -/
theorem follow_underway {p₀ target v a x : ℝ} {trajectory : TrapezoidalTrajectory ℝ}
    (loop : ControlLoop (Exact ℝ)) (runs : (loop.step (fin x)).status.state = .running)
    (follows : loop.moveTrajectory = trajectory.map fin)
    (moving : (trajectory.update x).Moving p₀ target v a) :
    Underway p₀ target v a (trajectory.update x) (loop.step (fin x)) := by
  rw [step_state] at runs
  refine ⟨(step_stateMachine loop (fin x)).symm ▸ runs, ?_, ?_, moving⟩
  · rw [step_running loop (fin x) runs]
    rfl
  · rw [step_running loop (fin x) runs]
    change loop.moveTrajectory.update (fin x) = _
    rw [follows, TrapezoidalTrajectory.update_fin]

/-- As long as the steps report `running`, their references keep the limits of the move
under way. -/
theorem references_limited {p₀ target v a : ℝ} (positiveV : 0 < v) (positiveA : 0 < a)
    (trajectory : TrapezoidalTrajectory ℝ) (loop : ControlLoop (Exact ℝ)) (before : ℝ)
    (underway : Underway p₀ target v a trajectory loop) (later : List (Call (Exact ℝ)))
    (block : Along apply (OnStep RunsOn) loop later) :
    ∃ points : List (ℝ × TrajectoryPoint ℝ),
      references loop later = points.map (Prod.map fin (TrajectoryPoint.map fin)) ∧
        List.IsChain (Limited p₀ target v a) ((before, trajectory.current) :: points) := by
  induction later generalizing loop trajectory before with
  | nil => exact ⟨[], rfl, List.isChain_singleton _⟩
  | cons call later ih =>
    obtain ⟨first, rest⟩ := block
    cases call with
    | setCommand command =>
      exact ih trajectory (loop.setCommand command) before
        ⟨underway.running, underway.prepared, underway.trajectory_eq, underway.moving⟩ rest
    | setExternalFault fault =>
      exact ih trajectory (loop.setExternalFault fault) before
        ⟨underway.running, underway.prepared, underway.trajectory_eq, underway.moving⟩ rest
    | step dt =>
      obtain ⟨valid, runs⟩ := first
      obtain ⟨x, rfl, positive⟩ := (Exact.validStep_iff dt).mp valid
      have follows : loop.moveTrajectory = trajectory.map fin := by
        rw [moveTrajectory, if_neg (loop.followed underway.running underway.prepared),
          underway.trajectory_eq]
      obtain ⟨moving, limited⟩ := TrapezoidalTrajectory.moving_update before x positive positiveV
        positiveA underway.moving
      have next := follow_underway loop runs follows moving
      obtain ⟨points, reported, chain⟩ := ih (trajectory.update x) (loop.step (fin x)) x next rest
      refine ⟨(x, (trajectory.update x).current) :: points, ?_, ?_⟩
      · rw [references, reported, step_reference, next.trajectory_eq]
        rfl
      · exact List.isChain_cons_cons.mpr ⟨limited, chain⟩

/-- In every run, the steps that report `running` from one that enters it on keep the
limits of the command in force at that first step, whatever follows. -/
theorem motion_limits (configuration : Configuration (Exact ℝ)) (controller : PidController ℝ)
    (plant : ServoPlant ℝ) (calls : List (Call (Exact ℝ))) (dt : Exact ℝ)
    (later : List (Call (Exact ℝ)))
    (outside : (run apply (exact configuration controller plant) calls).status.state ≠ .running)
    (block : Along apply (OnStep RunsOn) (run apply (exact configuration controller plant) calls)
      (.step dt :: later)) :
    let loop := run apply (exact configuration controller plant) calls
    ∃ (p₀ target v a : ℝ) (points : List (ℝ × TrajectoryPoint ℝ)),
      loop.plant.state.positionRad = fin p₀ ∧ loop.command.targetPositionRad = fin target ∧
        loop.command.maxVelocityRadS = fin v ∧ loop.command.maxAccelerationRadS2 = fin a ∧
        references loop (.step dt :: later) =
          points.map (Prod.map fin (TrajectoryPoint.map fin)) ∧
        List.IsChain (Limited p₀ target v a)
          ((0, { positionRad := p₀, velocityRadS := 0, finished := false }) :: points) := by
  intro loop
  obtain ⟨⟨valid, runs⟩, rest⟩ := block
  obtain ⟨x, rfl, positive⟩ := (Exact.validStep_iff dt).mp valid
  have next : loop.nextMachine.state = .running := (step_state loop (fin x)).symm.trans runs
  obtain ⟨_, plant', trajectory, behind, _⟩ := run_isFinite configuration controller plant calls
  obtain ⟨target, v, a, targetEq, velocityEq, accelerationEq, positiveV, positiveA, move⟩ :=
    moveTrajectory_finite behind (running_wellFormed loop next).2
  have enters : loop.Enters := by
    have reports := (run_reports configuration (controller.map fin) plant.lift calls).1
    exact Or.inl (reports ▸ outside)
  rw [if_pos enters] at move
  have planned := TrapezoidalTrajectory.plan_moving trajectory plant'.state.positionRad target v a
    positiveV positiveA
  obtain ⟨moving, limited⟩ :=
    TrapezoidalTrajectory.moving_update 0 x positive positiveV positiveA planned
  have underway := follow_underway loop runs move moving
  obtain ⟨points, reported, chain⟩ :=
    references_limited positiveV positiveA _ (loop.step (fin x)) x underway later rest
  refine ⟨plant'.state.positionRad, target, v, a, _ :: points, ?_, targetEq, velocityEq,
    accelerationEq, ?_, List.isChain_cons_cons.mpr ⟨?_, chain⟩⟩
  · rw [behind.plant_eq]
    rfl
  · rw [references, reported, step_reference, underway.trajectory_eq]
    rfl
  · exact ⟨limited.between, limited.forward, limited.backward, limited.velocity,
      limited.positionStep, limited.velocityStep⟩

section Start

variable {R : Type} [Double R]

/-- Nothing keeps the axis from starting. -/
structure Starting (loop : ControlLoop R) : Prop where
  power : loop.command.powerAvailable = true
  noEmergency : loop.command.emergencyStop = false
  enable : loop.command.enable = true
  start : loop.command.start = true
  wellFormed : ¬Malformed loop.command
  external : loop.externalFault = .none

theorem starting_step (loop : ControlLoop R) (dt : R) {state next : ControllerState}
    (starting : loop.Starting) (here : loop.stateMachine.state = state)
    (free : ¬ControllerStateMachine.Held state)
    (onward : ControllerStateMachine.transition state loop.command loop.status.targetReached =
      next) :
    (loop.step dt).Starting ∧ (loop.step dt).stateMachine.state = next := by
  have clear := (detectedFault_none loop).mpr ⟨starting.external, starting.wellFormed⟩
  subst here onward
  constructor
  · obtain ⟨power, noEmergency, enable, start, wellFormed, external⟩ := starting
    rw [← step_command loop dt] at power noEmergency enable start wellFormed
    rw [← step_externalFault loop dt] at external
    exact ⟨power, noEmergency, enable, start, wellFormed, external⟩
  · rw [step_stateMachine]
    have outcome := nextMachine_outcome loop
    generalize loop.nextMachine = next at outcome ⊢
    cases outcome with
    | unpowered unpowered => exact absurd starting.power (by simp [unpowered])
    | stopped _ emergency => exact absurd starting.noEmergency (by simp [emergency])
    | faulted _ _ fault => exact absurd clear fault
    | released _ _ _ held | latched _ _ _ held => exact absurd held free
    | moved => rfl

/-- While the reference moves, the target is not reported reached. -/
theorem step_unreached (loop : ControlLoop R) (dt : R)
    (moving : (loop.step dt).trajectory.active = true) :
    (loop.step dt).status.targetReached = false := by
  obtain ⟨trajectory, _, _, _, step⟩ := loop.step_reported dt
  rw [step] at moving ⊢
  change trajectory.active = true at moving
  refine decide_eq_false fun reached => ?_
  have finished : (!trajectory.active) = true := reached.1
  rw [moving] at finished
  cases finished

/-- A switched-off loop that nothing keeps from starting is ready after two steps, and nothing
has happened to its axis or trajectory. -/
theorem ready_after_two (loop : ControlLoop R) (first second : R)
    (starting : loop.Starting) (off : loop.stateMachine.state = .powerOff) :
    ((loop.step first).step second).Starting ∧
      ((loop.step first).step second).stateMachine.state = .ready ∧
      ((loop.step first).step second).plant = (loop.plant.update 0 first).update 0 second := by
  have powers : ControllerStateMachine.transition .powerOff loop.command
      loop.status.targetReached = .disabled := rfl
  obtain ⟨starting₁, disabled⟩ := starting_step loop first starting off (by decide) powers
  have enables : ControllerStateMachine.transition .disabled (loop.step first).command
      (loop.step first).status.targetReached = .ready := if_pos starting₁.enable
  obtain ⟨starting₂, ready⟩ := starting_step _ second starting₁ disabled (by decide) enables
  -- outside `running` the plant gets no torque
  have idle : ∀ (loop : ControlLoop R) (dt : R), (loop.step dt).stateMachine.state ≠ .running →
      (loop.step dt).plant = loop.plant.update 0 dt := by
    intro loop dt idle
    rw [step_stateMachine] at idle
    rw [step_idle loop dt idle]
    rfl
  refine ⟨starting₂, ready, ?_⟩
  rw [idle _ second (by rw [ready]; decide), idle _ first (by rw [disabled]; decide)]

end Start

/-- In the middle of a move, with nothing to end it. -/
structure Amid (profile : TrapezoidalProfile) (start direction elapsed : ℝ)
    (loop : ControlLoop (Exact ℝ)) : Prop where
  starting : loop.Starting
  unstopped : loop.command.stop = false
  running : loop.stateMachine.state = .running
  prepared : loop.motionInitialized = true
  unreached : loop.status.targetReached = false
  started : 0 ≤ elapsed
  follows : ∃ trajectory : TrapezoidalTrajectory ℝ, loop.trajectory = trajectory.map fin ∧
    trajectory.OnProfile profile start direction elapsed

/-- A step that ends in `running` before its profile does. -/
theorem amid_of_running {profile : TrapezoidalProfile} {start direction elapsed x : ℝ}
    {loop : ControlLoop (Exact ℝ)} (starting : (loop.step (fin x)).Starting)
    (unstopped : loop.command.stop = false) (positive : 0 < x) (started : 0 ≤ elapsed)
    (runs : (loop.step (fin x)).stateMachine.state = .running)
    {trajectory : TrapezoidalTrajectory ℝ} (follows : loop.moveTrajectory = trajectory.map fin)
    (on : trajectory.OnProfile profile start direction elapsed)
    (short : elapsed + x < profile.duration) :
    (loop.step (fin x)).Amid profile start direction (elapsed + x) := by
  have next := TrapezoidalTrajectory.update_onProfile x positive started on
  have step := step_running loop (fin x)
    ((congrArg _ (step_stateMachine loop (fin x))).symm.trans runs)
  have moved : (loop.step (fin x)).trajectory = (trajectory.update x).map fin := by
    rw [step]
    change loop.moveTrajectory.update (fin x) = _
    rw [follows, TrapezoidalTrajectory.update_fin]
  refine ⟨starting, ?_, runs, ?_, ?_, by positivity, _, moved, next⟩
  · rw [step_command]
    exact unstopped
  · rw [step]
    rfl
  -- the profile goes on after this step, so its end is not reported
  · apply step_unreached
    rw [moved]
    exact next.active_iff.mpr short

/-- Before the profile ends, the next step runs as well. -/
theorem amid_step {profile : TrapezoidalProfile} {start direction elapsed x : ℝ}
    {loop : ControlLoop (Exact ℝ)} (amid : loop.Amid profile start direction elapsed)
    (positive : 0 < x) (short : elapsed + x < profile.duration) :
    loop.RunsOn (fin x) ∧ (loop.step (fin x)).Amid profile start direction (elapsed + x) := by
  obtain ⟨trajectory, same, on⟩ := amid.follows
  have onward : ControllerStateMachine.transition .running loop.command loop.status.targetReached =
      .running := by
    simp [ControllerStateMachine.transition, amid.starting.enable, amid.unstopped, amid.unreached]
  obtain ⟨starting, runs⟩ := starting_step loop (fin x) amid.starting amid.running (by decide) onward
  have follows : loop.moveTrajectory = trajectory.map fin := by
    rw [moveTrajectory, if_neg (loop.followed amid.running amid.prepared), same]
  refine ⟨⟨(Exact.validStep_iff _).mpr ⟨x, rfl, positive⟩, ?_⟩,
    amid_of_running starting amid.unstopped positive amid.started runs follows on short⟩
  rwa [step_state, ← step_stateMachine]

/-- The step that starts a move. -/
theorem amid_start {limits : PidController ℝ} {parameters : Parameters ℝ}
    {loop : ControlLoop (Exact ℝ)} (finite : IsFinite limits parameters loop)
    (starting : loop.Starting) (unstopped : loop.command.stop = false)
    (ready : loop.stateMachine.state = .ready) {p₀ p v a x : ℝ}
    (here : loop.plant.state.positionRad = fin p₀) (target : loop.command.targetPositionRad = fin p)
    (velocity : loop.command.maxVelocityRadS = fin v)
    (acceleration : loop.command.maxAccelerationRadS2 = fin a) (positiveV : 0 < v)
    (positiveA : 0 < a) (moves : 1e-12 < |p - p₀|) (positive : 0 < x)
    (short : x < (TrapezoidalTrajectory.moveProfile |p - p₀| v a positiveV positiveA).duration) :
    loop.RunsOn (fin x) ∧ (loop.step (fin x)).Amid
      (TrapezoidalTrajectory.moveProfile |p - p₀| v a positiveV positiveA) p₀
      (if 0 ≤ p - p₀ then 1 else -1) x := by
  have onward : ControllerStateMachine.transition .ready loop.command loop.status.targetReached =
      .running := by
    simp [ControllerStateMachine.transition, starting.enable, starting.start]
  obtain ⟨next, runs⟩ := starting_step loop (fin x) starting ready (by decide) onward
  obtain ⟨_, plant, trajectory, behind, _⟩ := finite
  obtain ⟨_, _, _, hp, hv, ha, _, _, move⟩ := moveTrajectory_finite behind starting.wellFormed
  have enters : loop.Enters := Or.inl (by simp [ready])
  rw [behind.plant_eq] at here
  cases here
  cases target.symm.trans hp
  cases velocity.symm.trans hv
  cases acceleration.symm.trans ha
  rw [if_pos enters] at move
  have on := TrapezoidalTrajectory.plan_onProfile (trajectory.reset plant.state.positionRad) p v a
    positiveV positiveA rfl moves
  have amid := amid_of_running next unstopped positive le_rfl runs move on (by rwa [zero_add])
  rw [zero_add] at amid
  refine ⟨⟨(Exact.validStep_iff _).mpr ⟨x, rfl, positive⟩, ?_⟩, amid⟩
  rwa [step_state, ← step_stateMachine]

/-- Enabled and started, with both limits 1. -/
noncomputable def unitMove (target : ℝ) : MotionCommand (Exact ℝ) :=
  { (MotionCommand.initial : MotionCommand (Exact ℝ)) with
    enable := true
    start := true
    targetPositionRad := fin target
    maxVelocityRadS := fin 1
    maxAccelerationRadS2 := fin 1 }

noncomputable def unitController : PidController ℝ := PidController.create ⟨1, 0, 0, 0⟩ (-10) 10

theorem unitMove_wellFormed (target : ℝ) : ¬Malformed (unitMove target) := by
  simp [Malformed, TrapezoidalTrajectory.Rejects, unitMove]

theorem rests_update (plant : ServoPlant ℝ) (rest : plant.state.velocityRadS = 0) (dt : ℝ) :
    (plant.update 0 dt).state.velocityRadS = 0 ∧
      (plant.update 0 dt).state.positionRad = plant.state.positionRad := by
  by_cases valid : Double.ValidStep dt
  · obtain ⟨velocity, position⟩ := plant.update_coasts dt valid
    rw [velocity, position, ServoPlant.coastedPosition, ServoPlant.coastedVelocity, rest]
    simp
  · simp only [ServoPlant.update, if_pos valid, rest, true_and]

/-- Three steps of a move of 1 rad; before the second one a command for 5 rad arrives. -/
theorem motion_limits_retargeted :
    let loop := run apply (exact .initial unitController .initial)
      [.setCommand (unitMove 1), .step (fin 0.1), .step (fin 0.1)]
    let later := [.setCommand (unitMove 5), .step (fin 0.1), .step (fin 0.3)]
    ∃ (p₀ target v a : ℝ) (points : List (ℝ × TrajectoryPoint ℝ)),
      loop.plant.state.positionRad = fin p₀ ∧ loop.command.targetPositionRad = fin target ∧
        loop.command.maxVelocityRadS = fin v ∧ loop.command.maxAccelerationRadS2 = fin a ∧
        references loop (.step (fin 0.1) :: later) =
          points.map (Prod.map fin (TrajectoryPoint.map fin)) ∧
        List.IsChain (Limited p₀ target v a)
          ((0, { positionRad := p₀, velocityRadS := 0, finished := false }) :: points) := by
  intro loop later
  have begins : ((exact .initial unitController .initial).setCommand (unitMove 1)).Starting :=
    ⟨rfl, rfl, rfl, rfl, unitMove_wellFormed 1, rfl⟩
  obtain ⟨starting, ready, plant⟩ := ready_after_two _ (fin 0.1) (fin 0.1) begins rfl
  change loop.Starting at starting
  change loop.stateMachine.state = .ready at ready
  have command : loop.command = unitMove 1 := by
    simp only [loop, run_cons, run_nil, apply, step_command]
    rfl
  -- the axis has not moved yet
  have here : loop.plant.state.positionRad = fin 0 := by
    change loop.plant = ((ServoPlant.initial : ServoPlant ℝ).lift.update (fin 0) (fin 0.1)).update
      (fin 0) (fin 0.1) at plant
    rw [plant, ServoPlant.update_fin, ServoPlant.update_fin]
    obtain ⟨still, first⟩ := rests_update .initial rfl 0.1
    obtain ⟨_, second⟩ := rests_update _ still 0.1
    exact congrArg fin (second.trans first)
  have profile : (TrapezoidalTrajectory.moveProfile |1 - 0| 1 1 one_pos one_pos).duration = 2 := by
    norm_num [TrapezoidalTrajectory.moveProfile, TrapezoidalProfile.duration]
  obtain ⟨runs₁, amid⟩ := amid_start (p := 1) (v := 1) (a := 1) (x := 0.1)
    (run_isFinite _ _ _ _) starting (by rw [command]; rfl) ready here (by rw [command]; rfl)
    (by rw [command]; rfl) (by rw [command]; rfl) one_pos one_pos (by norm_num) (by norm_num)
    (by rw [profile]; norm_num)
  -- the new target is not planned: the profile is still the one to 1 rad
  have retargeted : ((loop.step (fin 0.1)).setCommand (unitMove 5)).Amid
      (TrapezoidalTrajectory.moveProfile |1 - 0| 1 1 one_pos one_pos) 0
      (if (0 : ℝ) ≤ 1 - 0 then 1 else -1) 0.1 :=
    ⟨⟨rfl, rfl, rfl, rfl, unitMove_wellFormed 5, amid.starting.external⟩, rfl, amid.running,
      amid.prepared, amid.unreached, amid.started, amid.follows⟩
  obtain ⟨runs₂, amid⟩ := amid_step (x := 0.1) retargeted (by norm_num) (by rw [profile]; norm_num)
  obtain ⟨runs₃, _⟩ := amid_step (x := 0.3) amid (by norm_num) (by rw [profile]; norm_num)
  apply motion_limits .initial unitController .initial
    [.setCommand (unitMove 1), .step (fin 0.1), .step (fin 0.1)] (fin 0.1) later
  · change loop.status.state ≠ .running
    have reports : Reports loop :=
      run_reports .initial (unitController.map fin) (ServoPlant.lift .initial) _
    rw [reports.1, ready]
    decide
  · simp only [later, along_cons, along_nil, and_true, apply, OnStep, true_and]
    exact ⟨runs₁, runs₂, runs₃⟩

end ControlLoop

end MotionBridge
