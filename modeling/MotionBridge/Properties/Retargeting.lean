import MotionBridge.Control.TrajectoryProfile
import MotionBridge.Foundation.Run

/-!
# New targets in the middle of a move

A profile begins at standstill, and `setTarget` plans it from the present position
without looking at the present velocity. From a standstill the acceleration limit
holds; from a moving reference the first short update breaks it.
-/
namespace MotionBridge

open Foundation

namespace TrapezoidalTrajectory

/-- New targets under the limits `v` and `a`, and valid time steps. -/
def Operation.Uniform (v a : ℝ) : Operation ℝ → Prop
  | .reset _ => False
  | .setTarget _ maxVelocityRadS maxAccelerationRadS2 =>
    maxVelocityRadS = v ∧ maxAccelerationRadS2 = a
  | .update dt => 0 < dt

/-- An update changes the reported velocity by no more than the acceleration allows. -/
def Smooth (a : ℝ) (trajectory : TrapezoidalTrajectory ℝ) : Operation ℝ → Prop
  | .update dt => |(trajectory.update dt).current.velocityRadS -
      trajectory.current.velocityRadS| ≤ a * dt
  | _ => True

/-- A new target finds the reference at standstill, or already there. -/
def Unhurried (trajectory : TrapezoidalTrajectory ℝ) : Operation ℝ → Prop
  | .setTarget p _ _ => trajectory.referenceVelocityRadS = 0 ∨
      |p - trajectory.referencePositionRad| ≤ 1e-12
  | _ => True

/-- The trajectory follows a profile with acceleration `a`, or nothing. -/
def Follows (a : ℝ) (trajectory : TrapezoidalTrajectory ℝ) : Prop :=
  trajectory.active = false ∨ ∃ profile start direction elapsed,
    OnProfile profile start direction elapsed trajectory ∧ profile.acceleration = a ∧
      |direction| = 1 ∧ 0 ≤ elapsed

theorem follows_smooth {a : ℝ} (positiveA : 0 < a) (trajectory : TrapezoidalTrajectory ℝ)
    (operation : Operation ℝ) {v : ℝ} (uniform : operation.Uniform v a)
    (follows : trajectory.Follows a) : trajectory.Smooth a operation := by
  cases operation with
  | reset p => trivial
  | setTarget p v a => trivial
  | update dt =>
    have positive : 0 < dt := uniform
    rcases follows with inactive | ⟨profile, start, direction, elapsed, on, rfl, unit, started⟩
    · -- a trajectory that is not active stays as it is, whatever its velocity
      simp only [Smooth, update_inactive trajectory dt inactive, sub_self, abs_zero]
      positivity
    · exact update_smooth dt positive started unit on

theorem accepted_field (p v a : ℝ) (positiveV : 0 < v) (positiveA : 0 < a) : ¬Rejects p v a := by
  simp [Rejects, not_le.mpr positiveV, not_le.mpr positiveA]

theorem plan_follows (trajectory : TrapezoidalTrajectory ℝ) (p v a : ℝ) (positiveV : 0 < v)
    (positiveA : 0 < a) (unhurried : trajectory.Unhurried (.setTarget p v a)) :
    (trajectory.plan p v a).Follows a := by
  by_cases moves : 1e-12 < |p - trajectory.referencePositionRad|
  · have rest : trajectory.referenceVelocityRadS = 0 :=
      unhurried.resolve_right (not_le.mpr moves)
    exact Or.inr ⟨_, _, _, 0, plan_onProfile trajectory p v a positiveV positiveA rest moves,
      rfl, abs_direction _, le_rfl⟩
  -- too short a move is not begun
  · exact Or.inl (decide_eq_false moves)

theorem apply_follows {v a : ℝ} (positiveV : 0 < v) (positiveA : 0 < a)
    (trajectory : TrapezoidalTrajectory ℝ) (operation : Operation ℝ)
    (uniform : operation.Uniform v a) (unhurried : trajectory.Unhurried operation)
    (follows : trajectory.Follows a) : (trajectory.apply operation).Follows a := by
  cases operation with
  | reset p => exact Or.inl rfl
  | setTarget p v' a' =>
    obtain ⟨rfl, rfl⟩ := uniform
    rw [apply, setTarget_accepted _ _ _ _ (accepted_field p v' a' positiveV positiveA)]
    exact plan_follows trajectory p v' a' positiveV positiveA unhurried
  | update dt =>
    have positive : 0 < dt := uniform
    rcases follows with inactive | ⟨profile, start, direction, elapsed, on, rfl, unit, started⟩
    · exact Or.inl (by rwa [apply, update_inactive trajectory dt inactive])
    · exact Or.inr ⟨profile, start, direction, elapsed + dt,
        update_onProfile dt positive started on, rfl, unit, by positivity⟩

/-- A valid update of an active trajectory overwrites the velocity it had. -/
theorem update_velocity (trajectory : TrapezoidalTrajectory ℝ) (dt w : ℝ)
    (active : trajectory.active = true) (positive : 0 < dt) :
    { trajectory with referenceVelocityRadS := w }.update dt = trajectory.update dt := by
  have moving : ¬(trajectory.active = false ∨ ¬Double.ValidStep dt) := by
    simp [active, positive]
  simp only [update, if_neg moving]
  split_ifs <;> rfl

/-- The first update after planning accelerates from zero, whatever velocity the
reference had. -/
theorem update_planned (trajectory : TrapezoidalTrajectory ℝ) (p v a dt : ℝ) (positiveV : 0 < v)
    (positiveA : 0 < a) (moves : 1e-12 < |p - trajectory.referencePositionRad|)
    (positive : 0 < dt)
    (early : dt ≤ (moveProfile |p - trajectory.referencePositionRad| v a positiveV positiveA).ramp) :
    |((trajectory.plan p v a).update dt).referenceVelocityRadS| = a * dt := by
  -- a trajectory that differs in its velocity only, and plans the same move
  let rested : TrapezoidalTrajectory ℝ := { trajectory with referenceVelocityRadS := 0 }
  have planned := plan_onProfile rested p v a positiveV positiveA rfl moves
  have on := update_onProfile dt positive le_rfl planned
  have same : (rested.plan p v a).update dt = (trajectory.plan p v a).update dt :=
    update_velocity (trajectory.plan p v a) dt 0 (decide_eq_true moves) positive
  generalize reached : moveProfile |p - rested.referencePositionRad| v a positiveV positiveA =
    profile at on
  have acceleration : profile.acceleration = a := by
    rw [← reached]
    rfl
  have within : dt ≤ profile.ramp := by
    rw [← reached]
    exact early
  have cruised : profile.ramp ≤ profile.ramp + profile.cruise :=
    le_add_of_nonneg_right profile.cruise_nonneg
  rw [← same, on.velocity, zero_add,
    min_eq_left (within.trans (cruised.trans profile.ramp_le_duration)),
    profile.speed_ramp within, acceleration, abs_mul, abs_direction, one_mul,
    abs_of_pos (mul_pos positiveA positive)]

/-- A target set from a moving reference breaks the limit for some time step. -/
theorem retarget_smooth_iff (trajectory : TrapezoidalTrajectory ℝ) (p v a : ℝ) (positiveV : 0 < v)
    (positiveA : 0 < a) :
    (∀ dt, 0 < dt → (trajectory.plan p v a).Smooth a (.update dt)) ↔
      trajectory.Unhurried (.setTarget p v a) := by
  constructor
  · intro smooth
    by_contra hurried
    obtain ⟨moving, far⟩ := not_or.mp hurried
    have moves : 1e-12 < |p - trajectory.referencePositionRad| := not_le.mp far
    have ramp := moveProfile_ramp_pos |p - trajectory.referencePositionRad| v a positiveV positiveA
      (lt_trans (by norm_num) moves)
    have speed : 0 < |trajectory.referenceVelocityRadS| := abs_pos.mpr moving
    -- so short a step that neither the old velocity nor the ramp is used up
    let dt := min (moveProfile |p - trajectory.referencePositionRad| v a positiveV positiveA).ramp
      (|trajectory.referenceVelocityRadS| / (4 * a))
    have positive : 0 < dt := lt_min ramp (by positivity)
    have short : 4 * (a * dt) ≤ |trajectory.referenceVelocityRadS| := by
      have bound := min_le_right
        (moveProfile |p - trajectory.referencePositionRad| v a positiveV positiveA).ramp
        (|trajectory.referenceVelocityRadS| / (4 * a))
      rw [le_div_iff₀ (by positivity)] at bound
      linarith
    have change : |((trajectory.plan p v a).update dt).referenceVelocityRadS -
        trajectory.referenceVelocityRadS| ≤ a * dt := smooth dt positive
    have planned := update_planned trajectory p v a dt positiveV positiveA moves positive
      (min_le_left _ _)
    have triangle := abs_sub_abs_le_abs_sub trajectory.referenceVelocityRadS
      ((trajectory.plan p v a).update dt).referenceVelocityRadS
    rw [abs_sub_comm] at triangle
    have product : 0 < a * dt := mul_pos positiveA positive
    linarith
  · intro unhurried dt positive
    have uniform : (Operation.update dt).Uniform v a := positive
    exact follows_smooth positiveA _ _ uniform
      (plan_follows trajectory p v a positiveV positiveA unhurried)

/-- Runs that set their targets at standstill keep to the acceleration limit, and after
any run a new target keeps to it for every next time step exactly at standstill. -/
theorem retargeting_smooth (trajectory : TrapezoidalTrajectory ℝ) (p₀ v a : ℝ)
    (positiveV : 0 < v) (positiveA : 0 < a) (operations : List (Operation ℝ))
    (uniform : ∀ operation ∈ operations, operation.Uniform v a) :
    (Along apply Unhurried (trajectory.reset p₀) operations →
      Along apply (Smooth a) (trajectory.reset p₀) operations) ∧
    ∀ p, (∀ dt, 0 < dt → Along apply (Smooth a) (run apply (trajectory.reset p₀) operations)
        [.setTarget p v a, .update dt]) ↔
      Unhurried (run apply (trajectory.reset p₀) operations) (.setTarget p v a) := by
  have valid := along_inputs apply (Operation.Uniform v a) (trajectory.reset p₀) operations uniform
  constructor
  · intro unhurried
    apply along_of_invariant apply
      (fun trajectory operation => operation.Uniform v a ∧ trajectory.Unhurried operation) _
      (Follows a) _ _ _ operations _ (Or.inl rfl)
    · intro trajectory operation ⟨uniform, unhurried⟩ follows
      exact apply_follows positiveV positiveA trajectory operation uniform unhurried follows
    · intro trajectory operation ⟨uniform, _⟩ follows
      exact follows_smooth positiveA trajectory operation uniform follows
    · exact (along_and apply _ _ _ operations).mpr ⟨valid, unhurried⟩
  · intro p
    have planned := setTarget_accepted (run apply (trajectory.reset p₀) operations) p v a
      (accepted_field p v a positiveV positiveA)
    rw [← retarget_smooth_iff _ p v a positiveV positiveA]
    simp only [along_cons, along_nil, and_true, apply, planned]
    exact forall₂_congr fun dt positive => and_iff_right trivial

/-- Half a second into a move of 1 rad with both limits 1. -/
theorem unit_halfway (trajectory : TrapezoidalTrajectory ℝ) (target : ℝ)
    (ahead : target = trajectory.referencePositionRad + 1) :
    ((trajectory.plan target 1 1).update 0.5).referencePositionRad =
        trajectory.referencePositionRad + 0.125 ∧
      ((trajectory.plan target 1 1).update 0.5).referenceVelocityRadS = 0.5 := by
  have root : (Double.sqrt 1 : ℝ) = 1 := Real.sqrt_one
  subst ahead
  simp only [update, plan, min_field, abs_field, follow, add_sub_cancel_left]
  norm_num [root]

/-- Three seconds later it is over. -/
theorem unit_arrives (trajectory : TrapezoidalTrajectory ℝ) (target : ℝ)
    (ahead : target = trajectory.referencePositionRad + 1) :
    (((trajectory.plan target 1 1).update 0.5).update 3).referencePositionRad = target ∧
      (((trajectory.plan target 1 1).update 0.5).update 3).referenceVelocityRadS = 0 := by
  have root : (Double.sqrt 1 : ℝ) = 1 := Real.sqrt_one
  subst ahead
  simp only [update, plan, min_field, abs_field, follow, arrive, add_sub_cancel_left]
  norm_num [root]

/-- A move, the next one after its arrival, and in the middle of that the present position for
a target. -/
noncomputable def unhurriedMoves : List (Operation ℝ) :=
  [.setTarget 1 1 1, .update 0.5, .update 3, .setTarget 2 1 1, .update 0.5, .setTarget 1.125 1 1,
    .update 0.1]

theorem retargeting_smooth_unhurried :
    Along apply (Smooth 1) ((initial : TrapezoidalTrajectory ℝ).reset 0) unhurriedMoves := by
  have uniform : ∀ operation ∈ unhurriedMoves, operation.Uniform 1 1 := by
    simp only [unhurriedMoves, List.forall_mem_cons, Operation.Uniform]
    norm_num
  have planned := fun (trajectory : TrapezoidalTrajectory ℝ) p =>
    setTarget_accepted trajectory p 1 1 (accepted_field p 1 1 one_pos one_pos)
  have arrives := unit_arrives ((initial : TrapezoidalTrajectory ℝ).reset 0) 1
    (by simp [reset])
  refine (retargeting_smooth initial 0 1 1 one_pos one_pos unhurriedMoves uniform).1 ?_
  simp only [unhurriedMoves, along_cons, along_nil, apply, planned]
  obtain ⟨position, velocity⟩ := arrives
  generalize ((((initial : TrapezoidalTrajectory ℝ).reset 0).plan 1 1 1).update 0.5).update 3 =
    arrived at position velocity ⊢
  have halfway := unit_halfway arrived 2 (by rw [position]; norm_num)
  refine ⟨Or.inl rfl, trivial, trivial, Or.inl velocity, trivial, Or.inr ?_, trivial, trivial⟩
  rw [halfway.1, position]
  norm_num

/-- The velocity of 0.5 at that moment drops to 0.1 in the tenth of a second after a new
target. -/
theorem retargeted_jump :
    ¬∀ (p₀ v a : ℝ) (operations : List (Operation ℝ)), 0 < v → 0 < a →
      (∀ operation ∈ operations, operation.Uniform v a) →
        Along apply (Smooth a) ((initial : TrapezoidalTrajectory ℝ).reset p₀) operations := by
  intro smooth
  have uniform : ∀ operation ∈ [.setTarget 1 1 1, .update 0.5, .setTarget 2 1 1, .update 0.1],
      Operation.Uniform 1 1 operation := by
    simp only [List.forall_mem_cons, Operation.Uniform]
    norm_num
  have steps := smooth 0 1 1 _ one_pos one_pos uniform
  have planned := fun (trajectory : TrapezoidalTrajectory ℝ) p =>
    setTarget_accepted trajectory p 1 1 (accepted_field p 1 1 one_pos one_pos)
  obtain ⟨position, velocity⟩ := unit_halfway ((initial : TrapezoidalTrajectory ℝ).reset 0)
    1 (by simp [reset])
  simp only [along_cons, apply, planned] at steps
  rw [show ((initial : TrapezoidalTrajectory ℝ).reset 0).referencePositionRad = 0 from rfl, zero_add]
    at position
  generalize ((initial.reset (0 : ℝ)).plan 1 1 1).update 0.5 = halfway at *
  have change : |((halfway.plan 2 1 1).update 0.1).referenceVelocityRadS -
      halfway.referenceVelocityRadS| ≤ 1 * 0.1 := steps.2.2.2.1
  have fresh : |((halfway.plan 2 1 1).update 0.1).referenceVelocityRadS| = 1 * 0.1 := by
    apply update_planned halfway 2 1 1 0.1 one_pos one_pos
    · rw [position]
      norm_num
    · norm_num
    · simp only [moveProfile, position]
      norm_num
  have triangle := abs_sub_abs_le_abs_sub halfway.referenceVelocityRadS
    ((halfway.plan 2 1 1).update 0.1).referenceVelocityRadS
  rw [abs_sub_comm, fresh, velocity] at triangle
  rw [velocity] at change
  norm_num at triangle change
  linarith

end TrapezoidalTrajectory

end MotionBridge
