import MotionBridge.Properties.Coasting

/-!
# Terminal speed

The largest torque and the damping of the plant balance each other at one speed. No run drives
the axis beyond it, and an axis that is faster is slowed down to it.
-/
namespace MotionBridge

open Foundation
open Exact (fin)

section Axis

variable {K : Type} [Field K] [LinearOrder K]

/-- How much faster than `terminal` the axis is. -/
def excess (terminal : K) (state : ServoState K) : K := max 0 (|state.velocityRadS| - terminal)

/-- Driven from one state to a later one: the excess speed has shrunk by `factor`, and what is
lost of it pays for the way beyond that of the terminal speed. -/
structure Driven (terminal range time factor : K) (before after : ServoState K) : Prop where
  kept : 0 ≤ factor
  speed : excess terminal after ≤ excess terminal before * factor
  way : |after.positionRad - before.positionRad| ≤
    terminal * time + range * (excess terminal before - excess terminal after)

variable {terminal range : K}

theorem excess_nonneg (state : ServoState K) : 0 ≤ excess terminal state := le_max_left _ _

variable [IsStrictOrderedRing K]

theorem speed_le_excess (state : ServoState K) :
    |state.velocityRadS| ≤ terminal + excess terminal state :=
  sub_le_iff_le_add'.mp (le_max_right _ _)

theorem driven_refl (state : ServoState K) : Driven terminal range 0 1 state state :=
  ⟨zero_le_one, by rw [mul_one], by simp⟩

theorem driven_trans {time more factor further : K} {first second third : ServoState K}
    (before : Driven terminal range time factor first second)
    (after : Driven terminal range more further second third) :
    Driven terminal range (time + more) (factor * further) first third := by
  refine ⟨mul_nonneg before.kept after.kept, ?_, ?_⟩
  · calc excess terminal third ≤ excess terminal second * further := after.speed
      _ ≤ excess terminal first * factor * further :=
        mul_le_mul_of_nonneg_right before.speed after.kept
      _ = excess terminal first * (factor * further) := mul_assoc _ _ _
  · calc |third.positionRad - first.positionRad|
        ≤ |third.positionRad - second.positionRad| + |second.positionRad - first.positionRad| :=
          abs_sub_le _ _ _
      _ ≤ (terminal * more + range * (excess terminal second - excess terminal third)) +
          (terminal * time + range * (excess terminal first - excess terminal second)) :=
          add_le_add after.way before.way
      _ = terminal * (time + more) + range * (excess terminal first - excess terminal third) := by
          ring

/-- One step gives the velocity a share of that at which its torque would hold the axis. -/
theorem driven_step {time share : K} {before after : ServoState K} (held : K)
    (nonneg : 0 ≤ share) (most : share ≤ 1) (worth : 0 ≤ range) (pays : range * share = time)
    (bounded : |held| ≤ terminal)
    (velocity : after.velocityRadS = before.velocityRadS * (1 - share) + held * share)
    (position : after.positionRad = before.positionRad + after.velocityRadS * time) :
    Driven terminal range time (1 - share) before after := by
  have kept : 0 ≤ 1 - share := sub_nonneg.mpr most
  have elapsed : 0 ≤ time := pays ▸ mul_nonneg worth nonneg
  have triangle : |after.velocityRadS| ≤ |before.velocityRadS| * (1 - share) + |held| * share := by
    have parts := abs_add_le (before.velocityRadS * (1 - share)) (held * share)
    rwa [abs_mul, abs_mul, abs_of_nonneg kept, abs_of_nonneg nonneg, ← velocity] at parts
  have speed : |after.velocityRadS| - terminal ≤
      (|before.velocityRadS| - terminal) * (1 - share) := by
    linarith [mul_le_mul_of_nonneg_right bounded nonneg]
  have shrunk : excess terminal after ≤ excess terminal before * (1 - share) := by
    refine max_le (mul_nonneg (excess_nonneg before) kept) (speed.trans ?_)
    exact mul_le_mul_of_nonneg_right (le_max_right _ _) kept
  refine ⟨kept, shrunk, ?_⟩
  -- at the old excess the way would cost exactly the share that is lost
  have paid : excess terminal after * time ≤
      range * (excess terminal before - excess terminal after) := by
    have lost : excess terminal before * share ≤
        excess terminal before - excess terminal after := by linarith
    calc excess terminal after * time ≤ excess terminal before * time := by
          refine mul_le_mul_of_nonneg_right (shrunk.trans ?_) elapsed
          exact mul_le_of_le_one_right (excess_nonneg before) (sub_le_self 1 nonneg)
      _ = range * (excess terminal before * share) := by
          rw [← pays]
          ring
      _ ≤ range * (excess terminal before - excess terminal after) :=
          mul_le_mul_of_nonneg_left lost worth
  rw [position, add_sub_cancel_left, abs_mul, abs_of_nonneg elapsed]
  calc |after.velocityRadS| * time ≤ (terminal + excess terminal after) * time :=
        mul_le_mul_of_nonneg_right (speed_le_excess after) elapsed
    _ ≤ terminal * time + range * (excess terminal before - excess terminal after) := by
        rw [add_mul]
        exact add_le_add_right paid _

end Axis

namespace ServoPlant

variable {K : Type} [Field K] [LinearOrder K] [SquareRoot K]

/-- The torque that `update` lets through. -/
def applied (plant : ServoPlant K) (torque : K) : K :=
  Double.clamp torque (-plant.parameters.maximumTorqueNm) plant.parameters.maximumTorqueNm

/-- An update depends on the torque through its limits alone. -/
theorem update_clamped {R : Type} [Double R] (plant : ServoPlant R) {first second : R} (dt : R)
    (same : Double.clamp first (-plant.parameters.maximumTorqueNm) plant.parameters.maximumTorqueNm =
      Double.clamp second (-plant.parameters.maximumTorqueNm) plant.parameters.maximumTorqueNm) :
    plant.update first dt = plant.update second dt := by
  simp only [update, same]

variable [IsStrictOrderedRing K]

theorem applied_le (plant : ServoPlant K) (torque : K) :
    |plant.applied torque| ≤ plant.parameters.maximumTorqueNm := by
  have limit : 0 < plant.parameters.maximumTorqueNm := plant.positive.2.2
  have ordered : -plant.parameters.maximumTorqueNm ≤ plant.parameters.maximumTorqueNm := by linarith
  exact abs_le.mpr (clamp_mem torque _ _ ordered)

/-- The limits of the plant make no torque larger. -/
theorem applied_abs (plant : ServoPlant K) (torque : K) : |plant.applied torque| ≤ |torque| := by
  have limit : 0 < plant.parameters.maximumTorqueNm := plant.positive.2.2
  simp only [applied, Double.clamp]
  split_ifs with below above
  · rw [abs_neg, abs_of_pos limit, abs_of_neg (below.trans (neg_lt_zero.mpr limit))]
    linarith
  · rw [abs_of_pos limit]
    exact above.le.trans (le_abs_self torque)
  · exact le_rfl

theorem update_driven (plant : ServoPlant K) (torque dt : K) {bound : K}
    (damped : 0 < plant.parameters.viscousDampingNmSRad) (positive : 0 < dt)
    (short : plant.parameters.viscousDampingNmSRad * dt ≤ plant.parameters.inertiaKgM2)
    (bounded : |plant.applied torque| ≤ bound) :
    Driven (bound / plant.parameters.viscousDampingNmSRad)
      (plant.parameters.inertiaKgM2 / plant.parameters.viscousDampingNmSRad) dt
      (1 - plant.parameters.viscousDampingNmSRad * dt / plant.parameters.inertiaKgM2) plant.state
      (plant.update torque dt).state := by
  have inertia : 0 < plant.parameters.inertiaKgM2 := plant.positive.1
  have running := not_not.mpr ((validStep_field dt).mpr positive)
  apply driven_step (plant.applied torque / plant.parameters.viscousDampingNmSRad)
  · exact div_nonneg (mul_nonneg damped.le positive.le) inertia.le
  · exact (div_le_one inertia).mpr short
  · exact (div_pos inertia damped).le
  · field_simp
  · rw [abs_div, abs_of_pos damped]
    exact div_le_div_of_nonneg_right bounded damped.le
  · simp only [update, if_neg running]
    change _ + (plant.applied torque - _) / _ * dt = _
    field_simp
    ring
  · simp only [update, if_neg running]

end ServoPlant

namespace ControlLoop

variable {K : Type} [Field K] [LinearOrder K] [SquareRoot K]

/-- The time steps of some calls. -/
def durations {R : Type} (calls : List (Call R)) : List R :=
  calls.filterMap fun
    | .step dt => some dt
    | _ => none

@[simp] theorem durations_snoc {R : Type} (calls : List (Call R)) (call : Call R) :
    durations (calls ++ [call]) = durations calls ++ durations [call] := List.filterMap_append

/-- The speed at which the damping balances the largest torque. -/
def terminalSpeed (controller : PidController K) (parameters : Parameters K) : K :=
  min parameters.maximumTorqueNm (max (-controller.minimumOutput) controller.maximumOutput) /
    parameters.viscousDampingNmSRad

variable [IsStrictOrderedRing K]

/-- Whatever the command, a step applies a finite torque within both limits. -/
theorem step_applies {limits : PidController K} {loop : ControlLoop (Exact K)} (x : K)
    (positive : 0 < x) (around : limits.minimumOutput ≤ 0 ∧ 0 ≤ limits.maximumOutput)
    (plant : ServoPlant K) (finite : IsFinite limits plant.parameters loop)
    (behind : loop.plant = plant.lift) :
    ∃ torque, (loop.step (fin x)).plant = (plant.update torque x).lift ∧
      |plant.applied torque| ≤ min plant.parameters.maximumTorqueNm
        (max (-limits.minimumOutput) limits.maximumOutput) := by
  obtain ⟨_, other, next, _, torque, moves⟩ := step_finite (fin x) finite
  obtain ⟨_, _, asked, _, step⟩ := loop.step_reported (fin x)
  have valid : Double.ValidStep (fin x) := (Exact.validStep_iff _).mpr ⟨x, rfl, positive⟩
  have updated : (loop.step (fin x)).plant = plant.lift.update asked (fin x) := by
    rw [step, ← behind]
    rfl
  have known : (loop.step (fin x)).plant = other.lift.update (fin torque) (fin x) :=
    moves.finite.plant_eq.trans moves.moved
  -- both updates report the torque they applied
  have clamped := congrArg (fun plant => plant.state.commandedTorqueNm) (updated.symm.trans known)
  simp only [ServoPlant.update_torque _ _ _ valid] at clamped
  have alike : other.lift.parameters = plant.lift.parameters := by
    simp only [ServoPlant.lift, moves.parametersBefore]
  rw [alike] at clamped
  refine ⟨torque, ?_, le_min (plant.applied_le torque) ?_⟩
  · rw [updated, plant.lift.update_clamped (fin x) clamped, ServoPlant.update_fin]
  · obtain ⟨low, high⟩ := moves.range around
    refine (plant.applied_abs torque).trans (abs_le.mpr ⟨?_, high.trans (le_max_right _ _)⟩)
    exact neg_le.mp ((neg_le_neg low).trans (le_max_left _ _))

/-- From any reachable state, whatever the commands: the speed beyond the terminal speed shrinks
by a fixed factor in each step, and the way is that of the terminal speed, and of what has
been lost beyond it. -/
theorem terminal_speed (configuration : Configuration (Exact K)) (controller : PidController K)
    (around : controller.minimumOutput ≤ 0 ∧ 0 ≤ controller.maximumOutput) (plant : ServoPlant K)
    (damped : 0 < plant.parameters.viscousDampingNmSRad) (loop : ControlLoop (Exact K))
    (reachable : Reachable (exact configuration controller plant) loop)
    (later : List (Call (Exact K)))
    (short : ∀ dt ∈ durations later, Double.ValidStep dt ∧
      fin plant.parameters.viscousDampingNmSRad * dt ≤ fin plant.parameters.inertiaKgM2) :
    let terminal := terminalSpeed controller plant.parameters
    let b := plant.parameters.viscousDampingNmSRad
    let J := plant.parameters.inertiaKgM2
    ∃ (start finish : ServoPlant K) (steps : List K), loop.plant = start.lift ∧
      (run apply loop later).plant = finish.lift ∧ durations later = steps.map fin ∧
      excess terminal finish.state ≤
        excess terminal start.state * (steps.map fun dt => 1 - b * dt / J).prod ∧
      |finish.state.positionRad - start.state.positionRad| ≤ terminal * steps.sum +
        J / b * (excess terminal start.state - excess terminal finish.state) := by
  intro terminal b J
  obtain ⟨_, start, _, behind, _, _, parameters⟩ := reachable_isFinite reachable
  suffices driven : ∃ (finish : ServoPlant K) (steps : List K),
      (run apply loop later).plant = finish.lift ∧ durations later = steps.map fin ∧
      IsFinite controller plant.parameters (run apply loop later) ∧
      finish.parameters = plant.parameters ∧ Driven terminal (J / b) steps.sum
        (steps.map fun dt => 1 - b * dt / J).prod start.state finish.state by
    obtain ⟨finish, steps, ended, same, _, _, driven⟩ := driven
    exact ⟨start, finish, steps, behind.plant_eq, ended, same, driven.speed, driven.way⟩
  induction later using List.reverseRecOn with
  | nil =>
    exact ⟨start, [], behind.plant_eq, rfl, reachable_isFinite reachable, parameters, driven_refl _⟩
  | append_singleton before call ih =>
    rw [durations_snoc] at short
    obtain ⟨earlier, last⟩ := List.forall_mem_append.mp short
    obtain ⟨middle, steps, reached, same, finite, alike, driven⟩ := ih earlier
    simp only [run_snoc, durations_snoc]
    have kept := apply_isFinite (run apply loop before) call finite
    cases call with
    | setCommand command =>
      exact ⟨middle, steps, reached, same ▸ List.append_nil _, kept, alike, driven⟩
    | setExternalFault fault =>
      exact ⟨middle, steps, reached, same ▸ List.append_nil _, kept, alike, driven⟩
    | step dt =>
      obtain ⟨valid, fits⟩ := last dt (List.mem_singleton_self dt)
      obtain ⟨x, rfl, positive⟩ := (Exact.validStep_iff dt).mp valid
      rw [← alike] at finite damped fits
      obtain ⟨torque, moved, bounded⟩ := step_applies x positive around middle finite reached
      have step := middle.update_driven torque x damped positive fits bounded
      rw [alike] at step
      refine ⟨middle.update torque x, steps ++ [x], moved, ?_, kept,
        (middle.update_parameters torque x).trans alike, ?_⟩
      · rw [same, List.map_append]
        rfl
      · rw [List.sum_append, List.map_append, List.prod_append, List.sum_singleton, List.map_singleton,
          List.prod_singleton]
        exact driven_trans driven step

/-- The plant of the demos after a second under its largest torque, faster than its terminal
speed. -/
def spun : ServoPlant ℚ := (ServoPlant.initial : ServoPlant ℚ).update 10 1

/-- The axis runs, at more than twice its terminal speed. -/
def spinning : ControlLoop (Exact ℚ) :=
  run apply (exact .initial demoController spun)
    [.setCommand (go 200), .step millisecond, .step millisecond, .step millisecond]

/-- A target behind the axis, set between two more running cycles. -/
def behindIt : List (Call (Exact ℚ)) :=
  [.step millisecond, .setCommand (go 125), .step (fin (1 / 100))]

/-- The controller brakes with its largest torque, the axis loses speed and moves on. -/
theorem terminal_speed_spinning :
    let terminal := terminalSpeed demoController spun.parameters
    let stopped := run apply spinning behindIt
    (stopped.status.state = .running ∧ stopped.status.servo.commandedTorqueNm = -10.0 ∧
      fin terminal < stopped.plant.state.velocityRadS ∧
      stopped.plant.state.velocityRadS < spinning.plant.state.velocityRadS) ∧
    ∃ (start finish : ServoPlant ℚ) (steps : List ℚ), spinning.plant = start.lift ∧
      stopped.plant = finish.lift ∧ durations behindIt = steps.map fin ∧
      excess terminal finish.state ≤
        excess terminal start.state * (steps.map fun dt => 1 - 0.18 * dt / 0.08).prod ∧
      |finish.state.positionRad - start.state.positionRad| ≤ terminal * steps.sum +
        0.08 / 0.18 * (excess terminal start.state - excess terminal finish.state) := by
  intro terminal stopped
  have running : stopped.status.state = .running ∧
      stopped.status.servo.commandedTorqueNm = -10.0 ∧
      fin terminal < stopped.plant.state.velocityRadS ∧
      stopped.plant.state.velocityRadS < spinning.plant.state.velocityRadS := by decide +kernel
  exact ⟨running, terminal_speed .initial demoController (by decide +kernel) spun
    (by decide +kernel) spinning (calls_reachable _ _) behindIt (by decide +kernel)⟩

end ControlLoop

end MotionBridge
