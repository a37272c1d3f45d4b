import MotionBridge.Control.TrapezoidalTrajectory
import MotionBridge.Foundation.Run

/-!
# What a finished trajectory says

A trajectory stops being active in `reset`, on arrival, and in a `setTarget` whose
target is where the reference already is. The first two clear the velocity.
-/
namespace MotionBridge

open Foundation
open Exact (fin)

namespace TrapezoidalTrajectory

section Source

variable {R : Type} [Double R]

/-- A finished trajectory reports standstill at its target. -/
def AtRest (trajectory : TrapezoidalTrajectory R) : Prop :=
  trajectory.current.finished = true → trajectory.current.velocityRadS = 0 ∧
    Double.abs (trajectory.current.positionRad - trajectory.target) ≤ 1e-12

instance [DecidableEq R] (trajectory : TrapezoidalTrajectory R) : Decidable trajectory.AtRest :=
  inferInstanceAs (Decidable (_ → _))

/-- No accepted target lies where a moving reference is at that moment. -/
def KeepsMoving (trajectory : TrapezoidalTrajectory R) : Operation R → Prop
  | .setTarget p v a => ¬Rejects p v a →
      Double.abs (p - trajectory.referencePositionRad) ≤ 1e-12 →
        trajectory.referenceVelocityRadS = 0
  | _ => True

instance decideKeepsMoving [DecidableEq R] (trajectory : TrapezoidalTrajectory R) :
    (operation : Operation R) → Decidable (trajectory.KeepsMoving operation)
  | .setTarget _ _ _ => inferInstanceAs (Decidable (_ → _ → _))
  | .reset _ | .update _ => .isTrue trivial

/-- Positions are set to finite values only. -/
def Operation.Grounded : Operation R → Prop
  | .reset p => Double.isfinite p = true
  | _ => True

instance Operation.decideGrounded : (operation : Operation R) → Decidable operation.Grounded
  | .reset _ => inferInstanceAs (Decidable (_ = _))
  | .setTarget _ _ _ | .update _ => .isTrue trivial

end Source

variable {K : Type} [Field K] [LinearOrder K] [SquareRoot K]

/-- Every number in the trajectory is finite. -/
def IsFinite (trajectory : TrapezoidalTrajectory (Exact K)) : Prop :=
  ∃ finite : TrapezoidalTrajectory K, trajectory = finite.map fin

/-- Planning leaves the reference as it is, so a target that is already reached stops
the trajectory at whatever velocity it has. -/
theorem setTarget_atRest_iff (trajectory : TrapezoidalTrajectory (Exact K)) (p v a : Exact K)
    (finite : trajectory.IsFinite) (rest : trajectory.AtRest) :
    (trajectory.setTarget p v a).1.AtRest ↔ trajectory.KeepsMoving (.setTarget p v a) := by
  obtain ⟨finite, same⟩ := finite
  by_cases rejected : Rejects p v a
  · rw [setTarget_rejected trajectory p v a rejected]
    exact iff_of_true rest fun accepted => absurd rejected accepted
  · obtain ⟨p', v', a', rfl, rfl, rfl, _, _⟩ := accepted_fin rejected
    have position : trajectory.referencePositionRad = fin finite.referencePositionRad := by
      rw [same]
      rfl
    rw [setTarget_accepted _ _ _ _ rejected]
    have finished : (trajectory.plan (fin p') (fin v') (fin a')).current.finished = true ↔
        Double.abs (fin p' - trajectory.referencePositionRad) ≤ 1e-12 := by
      simp only [current, plan, Bool.not_eq_true', decide_eq_false_iff_not, position,
        Exact.fin_sub, Exact.abs_fin, Exact.ofScientific_eq, gt_iff_lt, Exact.fin_lt_fin,
        Exact.fin_le_fin, not_lt]
    constructor
    · intro resting _ near
      exact (resting (finished.mpr near)).1
    · intro moving ended
      have near := finished.mp ended
      refine ⟨moving rejected near, ?_⟩
      change Double.abs (trajectory.referencePositionRad - fin p') ≤ 1e-12
      rw [position, Exact.fin_sub, Exact.abs_fin] at near ⊢
      rwa [abs_sub_comm]

variable [IsStrictOrderedRing K]

theorem apply_isFinite (trajectory : TrapezoidalTrajectory (Exact K))
    (operation : Operation (Exact K)) (grounded : operation.Grounded)
    (finite : trajectory.IsFinite) : (trajectory.apply operation).IsFinite := by
  obtain ⟨finite, rfl⟩ := finite
  cases operation with
  | reset p =>
    obtain ⟨x, rfl⟩ := (Exact.isfinite_iff p).mp grounded
    exact ⟨finite.reset x, reset_fin finite x⟩
  | setTarget p v a =>
    by_cases rejected : Rejects p v a
    · exact ⟨finite, congrArg Prod.fst (setTarget_rejected (finite.map fin) p v a rejected)⟩
    · obtain ⟨p', v', a', rfl, rfl, rfl, positiveV, positiveA⟩ := accepted_fin rejected
      refine ⟨finite.plan p' v' a', ?_⟩
      rw [apply, setTarget_accepted _ _ _ _ rejected]
      exact plan_fin finite p' v' a' positiveV positiveA
  | update dt => exact update_finite finite dt

/-- Where the reference is the target, there is nothing left between them. -/
theorem atRest_of_arrived {trajectory : TrapezoidalTrajectory (Exact K)} {x : K}
    (velocity : trajectory.referenceVelocityRadS = 0)
    (position : trajectory.referencePositionRad = fin x)
    (target : trajectory.targetPositionRad = fin x) : trajectory.AtRest := by
  intro _
  refine ⟨velocity, ?_⟩
  change Double.abs (trajectory.referencePositionRad - trajectory.targetPositionRad) ≤ 1e-12
  rw [position, target, Exact.fin_sub, Exact.abs_fin, sub_self, abs_zero]
  show (0 : K) ≤ 1e-12
  norm_num

theorem update_atRest (trajectory : TrapezoidalTrajectory (Exact K)) (dt : Exact K)
    (finite : trajectory.IsFinite) (rest : trajectory.AtRest) :
    (trajectory.update dt).AtRest := by
  obtain ⟨finite, same⟩ := finite
  have target : trajectory.targetPositionRad = fin finite.targetPositionRad := by
    rw [same]
    rfl
  by_cases skipped : trajectory.active = false ∨ ¬Double.ValidStep dt
  · rw [update, if_pos skipped]
    exact rest
  · have active : trajectory.active = true := by
      simpa using mt Or.inl skipped
    have following : ∀ elapsed way velocity, (trajectory.follow elapsed way velocity).AtRest := by
      intro elapsed way velocity finished
      change (!trajectory.active) = true at finished
      rw [active] at finished
      cases finished
    simp only [update, if_neg skipped]
    split_ifs
    · exact following _ _ _
    · exact following _ _ _
    · exact following _ _ _
    · exact atRest_of_arrived rfl target target

/-- In every run from construction, a finished trajectory is at rest at its target
after each operation unless some operation stops a moving one. -/
theorem finished_atRest_iff (operations : List (Operation (Exact K)))
    (grounded : ∀ operation ∈ operations, operation.Grounded) :
    (initial : TrapezoidalTrajectory (Exact K)).AtRest ∧
      (Along apply (fun trajectory operation => (trajectory.apply operation).AtRest) initial
          operations ↔
        Along apply KeepsMoving initial operations) := by
  have constructed : (initial : TrapezoidalTrajectory (Exact K)).AtRest :=
    atRest_of_arrived rfl rfl rfl
  refine ⟨constructed, ?_⟩
  apply along_congr apply (fun _ operation => operation.Grounded) _ _
    (fun trajectory => trajectory.IsFinite ∧ trajectory.AtRest) _ _ initial operations
    (along_inputs apply Operation.Grounded initial operations grounded)
    ⟨⟨initial, rfl⟩, constructed⟩
  · intro trajectory operation grounded ⟨finite, rest⟩
    cases operation with
    | reset p =>
      obtain ⟨x, rfl⟩ := (Exact.isfinite_iff p).mp grounded
      exact iff_of_true (atRest_of_arrived rfl rfl rfl) trivial
    | setTarget p v a => exact setTarget_atRest_iff trajectory p v a finite rest
    | update dt => exact iff_of_true (update_atRest trajectory dt finite rest) trivial
  · intro trajectory operation grounded ⟨finite, _⟩ rest
    exact ⟨apply_isFinite trajectory operation grounded finite, rest⟩

/-- A move from 0 to 1 followed to its end, and then the same target again. -/
theorem finished_atRest_arrived :
    Along apply (fun trajectory operation => (trajectory.apply operation).AtRest)
      (initial : TrapezoidalTrajectory (Exact ℚ))
      [.reset (fin 0), .setTarget (fin 1) (fin 1) (fin 1), .update (fin 3),
        .setTarget (fin 1) (fin 1) (fin 1)] :=
  (finished_atRest_iff [.reset (fin 0), .setTarget (fin 1) (fin 1) (fin 1), .update (fin 3),
    .setTarget (fin 1) (fin 1) (fin 1)] (by decide)).2.mpr (by decide +kernel)

/-- Half a second into that move the reference passes 0.125, where a new target ends the
move with the velocity of that moment. -/
theorem finished_in_motion :
    ¬∀ operations : List (Operation (Exact ℚ)),
      (∀ operation ∈ operations, operation.Grounded) →
        Along apply (fun trajectory operation => (trajectory.apply operation).AtRest) initial
          operations := by
  intro rests
  have rested := rests [.reset (fin 0), .setTarget (fin 1) (fin 1) (fin 1), .update (fin 0.5),
    .setTarget (fin 0.125) (fin 1) (fin 1)] (by decide)
  exact absurd rested (by decide +kernel)

end TrapezoidalTrajectory

end MotionBridge
