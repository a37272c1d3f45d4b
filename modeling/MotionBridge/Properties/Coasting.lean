import MotionBridge.Runtime.FiniteLoop
import MotionBridge.Runtime.RunFor

/-!
# Coasting

Outside `running` the plant gets no torque, and its damping alone slows the axis down.
The speed lost in a step pays for the way travelled in it.
-/
namespace MotionBridge

open Foundation
open Exact (fin)

section Axis

variable {K : Type} [Field K] [LinearOrder K] [IsStrictOrderedRing K]

/-- Slowed down from one state to a later one, with a way of at most `range` for every
unit of speed that was lost. -/
structure Coasted (range : K) (before after : ServoState K) : Prop where
  slower : |after.velocityRadS| ≤ |before.velocityRadS|
  forward : 0 ≤ before.velocityRadS → 0 ≤ after.velocityRadS
  backward : before.velocityRadS ≤ 0 → after.velocityRadS ≤ 0
  way : |after.positionRad - before.positionRad| ≤
    range * (|before.velocityRadS| - |after.velocityRadS|)

variable {range : K}

theorem coasted_refl (state : ServoState K) : Coasted range state state :=
  ⟨le_rfl, id, id, by simp⟩

theorem coasted_trans {first second third : ServoState K} (before : Coasted range first second)
    (after : Coasted range second third) : Coasted range first third := by
  refine ⟨after.slower.trans before.slower, fun positive => after.forward (before.forward positive),
    fun negative => after.backward (before.backward negative), ?_⟩
  calc |third.positionRad - first.positionRad|
      ≤ |third.positionRad - second.positionRad| + |second.positionRad - first.positionRad| :=
        abs_sub_le _ _ _
    _ ≤ range * (|second.velocityRadS| - |third.velocityRadS|) +
        range * (|first.velocityRadS| - |second.velocityRadS|) :=
        add_le_add after.way before.way
    _ = range * (|first.velocityRadS| - |third.velocityRadS|) := by ring

/-- The whole way is bounded by the speed at its beginning. -/
theorem coasted_bounded {before after : ServoState K} (nonneg : 0 ≤ range)
    (coasted : Coasted range before after) :
    |after.positionRad - before.positionRad| ≤ range * |before.velocityRadS| := by
  apply coasted.way.trans
  apply mul_le_mul_of_nonneg_left _ nonneg
  exact sub_le_self _ (abs_nonneg _)

end Axis

namespace ServoPlant

variable {K : Type} [Field K] [LinearOrder K] [SquareRoot K] [IsStrictOrderedRing K]

/-- What `update` makes of a state when it gets no torque. -/
theorem update_zero (plant : ServoPlant K) (dt : K) (positive : 0 < dt) :
    let factor := 1 - plant.parameters.viscousDampingNmSRad * dt / plant.parameters.inertiaKgM2
    (plant.update 0 dt).state.velocityRadS = plant.state.velocityRadS * factor ∧
      (plant.update 0 dt).state.positionRad =
        plant.state.positionRad + plant.state.velocityRadS * factor * dt := by
  intro factor
  obtain ⟨velocity, position⟩ := plant.update_coasts dt ((validStep_field dt).mpr positive)
  have shrinks : plant.coastedVelocity dt = plant.state.velocityRadS * factor := by
    rw [coastedVelocity]
    ring
  rw [velocity, position, coastedPosition, shrinks]
  exact ⟨rfl, rfl⟩

/-- Without torque the velocity shrinks by a factor between zero and one. -/
theorem update_coasted (plant : ServoPlant K) (dt : K)
    (damped : 0 < plant.parameters.viscousDampingNmSRad) (positive : 0 < dt)
    (short : plant.parameters.viscousDampingNmSRad * dt ≤ plant.parameters.inertiaKgM2) :
    Coasted (plant.parameters.inertiaKgM2 / plant.parameters.viscousDampingNmSRad) plant.state
      (plant.update 0 dt).state := by
  obtain ⟨velocity, position⟩ := plant.update_zero dt positive
  have inertia : 0 < plant.parameters.inertiaKgM2 := plant.positive.1
  generalize plant.state = before at *
  generalize (plant.update 0 dt).state = after at *
  generalize plant.parameters.inertiaKgM2 = J at *
  generalize plant.parameters.viscousDampingNmSRad = b at *
  have lost : 0 ≤ b * dt / J := div_nonneg (mul_nonneg damped.le positive.le) inertia.le
  have kept : 0 ≤ 1 - b * dt / J := sub_nonneg.mpr ((div_le_one inertia).mpr short)
  have speed : |after.velocityRadS| = |before.velocityRadS| * (1 - b * dt / J) := by
    rw [velocity, abs_mul, abs_of_nonneg kept]
  have shrunk : |before.velocityRadS| * (1 - b * dt / J) ≤ |before.velocityRadS| :=
    mul_le_of_le_one_right (abs_nonneg _) (sub_le_self 1 lost)
  refine ⟨speed.trans_le shrunk, ?_, ?_, ?_⟩
  · intro forward
    rw [velocity]
    exact mul_nonneg forward kept
  · intro backward
    rw [velocity]
    exact mul_nonpos_of_nonpos_of_nonneg backward kept
  -- at the old velocity the way would be exactly what the lost speed pays for
  · have paid : J / b * (|before.velocityRadS| - |before.velocityRadS| * (1 - b * dt / J)) =
        |before.velocityRadS| * dt := by
      field_simp
      ring
    rw [speed, paid, position, add_sub_cancel_left, abs_mul, abs_mul, abs_of_nonneg kept,
      abs_of_pos positive]
    exact mul_le_mul_of_nonneg_right shrunk positive.le

end ServoPlant

namespace ControlLoop

variable {K : Type} [Field K] [LinearOrder K] [SquareRoot K]

/-- A step that ends outside `running`, and is no longer than the damping allows. -/
def Coasts (parameters : Parameters K) (loop : ControlLoop (Exact K)) (dt : Exact K) : Prop :=
  (loop.step dt).status.state ≠ .running ∧ Double.ValidStep dt ∧
    fin parameters.viscousDampingNmSRad * dt ≤ fin parameters.inertiaKgM2

instance (parameters : Parameters K) (loop : ControlLoop (Exact K)) (dt : Exact K) :
    Decidable (loop.Coasts parameters dt) := inferInstanceAs (Decidable (_ ∧ _ ∧ _))

variable [IsStrictOrderedRing K]

/-- Statistics and refusals do not touch what a loop computes with. -/
theorem reachable_isFinite {configuration : Configuration (Exact K)} {controller : PidController K}
    {plant : ServoPlant K} {loop : ControlLoop (Exact K)}
    (reachable : Reachable (exact configuration controller plant) loop) :
    IsFinite controller plant.parameters loop := by
  refine reachable_invariant _ apply_isFinite ?_ ?_ reachable
    (exact_isFinite configuration controller plant)
  · rintro loop timing ⟨controller, plant, trajectory, behind, rest⟩
    exact ⟨controller, plant, trajectory, ⟨behind.1, behind.2, behind.3⟩, rest⟩
  · rintro loop ⟨controller, plant, trajectory, behind, rest⟩
    exact ⟨controller, plant, trajectory, ⟨behind.1, behind.2, behind.3⟩, rest⟩

/-- Calls that only let the axis coast slow it down. -/
theorem run_coasted (plant : ServoPlant K) (damped : 0 < plant.parameters.viscousDampingNmSRad)
    (loop : ControlLoop (Exact K)) (behind : loop.plant = plant.lift)
    (calls : List (Call (Exact K)))
    (coasts : Along apply (OnStep (Coasts plant.parameters)) loop calls) :
    ∃ later : ServoPlant K, (run apply loop calls).plant = later.lift ∧
      later.parameters = plant.parameters ∧
      Coasted (plant.parameters.inertiaKgM2 / plant.parameters.viscousDampingNmSRad) plant.state
        later.state := by
  refine run_invariant apply (OnStep (Coasts plant.parameters)) (fun loop =>
    ∃ later : ServoPlant K, loop.plant = later.lift ∧ later.parameters = plant.parameters ∧
      Coasted (plant.parameters.inertiaKgM2 / plant.parameters.viscousDampingNmSRad) plant.state
        later.state) ?_ loop calls coasts ⟨plant, behind, rfl, coasted_refl _⟩
  rintro loop call guard ⟨later, behind, parameters, coasted⟩
  cases call with
  | setCommand command => exact ⟨later, behind, parameters, coasted⟩
  | setExternalFault fault => exact ⟨later, behind, parameters, coasted⟩
  | step dt =>
    obtain ⟨stopped, valid, short⟩ := guard
    obtain ⟨x, rfl, positive⟩ := (Exact.validStep_iff dt).mp valid
    rw [step_state] at stopped
    rw [← parameters] at damped short
    have step := later.update_coasted x damped positive short
    rw [parameters] at step
    refine ⟨later.update 0 x, ?_, (later.update_parameters 0 x).trans parameters,
      coasted_trans coasted step⟩
    change (loop.step (fin x)).plant = _
    rw [step_idle loop (fin x) stopped, ← ServoPlant.update_fin, ← behind]
    rfl

/-- Position and velocity of the axis after some calls. -/
def axis (loop : ControlLoop (Exact K)) (calls : List (Call (Exact K))) : ServoState (Exact K) :=
  (run apply loop calls).plant.state

/-- From any reachable state, an axis that is not run again loses speed without turning
round, and all its positions lie within `J |v₀| / b` of each other. -/
theorem bounded_coasting (configuration : Configuration (Exact K)) (controller : PidController K)
    (plant : ServoPlant K) (damped : 0 < plant.parameters.viscousDampingNmSRad)
    (loop : ControlLoop (Exact K)) (reachable : Reachable (exact configuration controller plant) loop)
    (later : List (Call (Exact K)))
    (coasts : Along apply (OnStep (Coasts plant.parameters)) loop later) :
    ∀ before between after, later = before ++ (between ++ after) →
      (Double.abs (loop.axis (before ++ between)).velocityRadS ≤
          Double.abs (loop.axis before).velocityRadS ∧
        (0 ≤ (loop.axis before).velocityRadS → 0 ≤ (loop.axis (before ++ between)).velocityRadS) ∧
        ((loop.axis before).velocityRadS ≤ 0 → (loop.axis (before ++ between)).velocityRadS ≤ 0)) ∧
      Double.abs ((loop.axis (before ++ between)).positionRad - (loop.axis before).positionRad) ≤
        fin plant.parameters.inertiaKgM2 * Double.abs loop.plant.state.velocityRadS /
          fin plant.parameters.viscousDampingNmSRad := by
  intro before between after split
  subst split
  obtain ⟨_, start, _, behind, _, _, parameters⟩ := reachable_isFinite reachable
  rw [← parameters] at damped coasts ⊢
  rw [along_append, along_append] at coasts
  obtain ⟨first, rest, _⟩ := coasts
  obtain ⟨middle, atMiddle, same, toMiddle⟩ :=
    run_coasted start damped loop behind.plant_eq before first
  have inertia : 0 < start.parameters.inertiaKgM2 := start.positive.1
  have nonneg := (div_pos inertia damped).le
  have undamped := damped.ne'
  rw [← same] at damped rest
  obtain ⟨last, atLast, _, toLast⟩ :=
    run_coasted middle damped (run apply loop before) atMiddle between rest
  rw [same] at toLast
  have reached : loop.axis before = middle.lift.state := congrArg ServoPlant.state atMiddle
  have ended : loop.axis (before ++ between) = last.lift.state := by
    change (run apply loop (before ++ between)).plant.state = _
    rw [run_append, atLast]
  rw [reached, ended]
  refine ⟨⟨toLast.slower, toLast.forward, toLast.backward⟩, ?_⟩
  have bound : fin start.parameters.inertiaKgM2 * Double.abs loop.plant.state.velocityRadS /
      fin start.parameters.viscousDampingNmSRad =
        fin (start.parameters.inertiaKgM2 / start.parameters.viscousDampingNmSRad *
          |start.state.velocityRadS|) := by
    rw [behind.plant_eq, div_mul_eq_mul_div]
    exact Exact.fin_div _ _ undamped
  have way : Double.abs (last.lift.state.positionRad - middle.lift.state.positionRad) =
      fin |last.state.positionRad - middle.state.positionRad| := by
    rw [← Exact.abs_fin, ← Exact.fin_sub]
    rfl
  rw [bound, way, Exact.fin_le_fin]
  exact (coasted_bounded nonneg toLast).trans (mul_le_mul_of_nonneg_left toMiddle.slower nonneg)

/-- A move of the demo loop, disabled soon after its start. -/
def disabledMove : List (Call (Exact ℚ)) :=
  [.setCommand (go 1), .step millisecond, .step millisecond, .step millisecond, .step millisecond,
    .setCommand .initial]

theorem bounded_coasting_disabled :
    (run apply (exact .initial demoController .initial) disabledMove).plant.state.velocityRadS ≠ 0 ∧
      Double.abs (((run apply (exact .initial demoController .initial) disabledMove).axis
            ([] ++ [.step millisecond, .step millisecond])).positionRad -
          ((run apply (exact .initial demoController .initial) disabledMove).axis []).positionRad) ≤
        fin (ServoPlant.initial : ServoPlant ℚ).parameters.inertiaKgM2 *
          Double.abs (run apply (exact .initial demoController .initial)
            disabledMove).plant.state.velocityRadS /
          fin (ServoPlant.initial : ServoPlant ℚ).parameters.viscousDampingNmSRad := by
  have moving : (run apply (exact .initial demoController .initial)
      disabledMove).plant.state.velocityRadS ≠ 0 := by decide +kernel
  have coasting := bounded_coasting .initial demoController .initial (by decide +kernel)
    (run apply (exact .initial demoController .initial) disabledMove) (calls_reachable _ _)
    [.step millisecond, .step millisecond] (by decide +kernel) []
    [.step millisecond, .step millisecond] [] rfl
  have way := coasting.2
  exact And.intro moving way

end ControlLoop

end MotionBridge
