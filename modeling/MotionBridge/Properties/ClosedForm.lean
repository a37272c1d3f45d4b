import Mathlib.Data.Real.Sign
import MotionBridge.Control.TrajectoryProfile

/-!
# A trajectory is its closed form

However the time is cut into updates, a move follows one velocity profile: the
smallest of the rising slope, the velocity limit and the falling slope.
-/
namespace MotionBridge

open Foundation

namespace TrapezoidalTrajectory

noncomputable section

/-- The time a move over `distance` takes. -/
def moveTime (distance v a : ℝ) : ℝ :=
  if v * v / a ≥ distance then √(distance / a) + √(distance / a) else distance / v + v / a

/-- The speed on the way, `t` after the start. -/
def moveSpeed (distance v a t : ℝ) : ℝ :=
  min (min (a * t) v) (a * (moveTime distance v a - t))

theorem duration_moveProfile (distance v a : ℝ) (positiveV : 0 < v) (positiveA : 0 < a) :
    (moveProfile distance v a positiveV positiveA).duration = moveTime distance v a := by
  simp only [TrapezoidalProfile.duration, moveProfile, moveTime]
  split_ifs
  · rw [add_zero]
  · field_simp
    ring

theorem speed_moveProfile (distance v a : ℝ) (positiveV : 0 < v) (positiveA : 0 < a) :
    (moveProfile distance v a positiveV positiveA).speed = moveSpeed distance v a := by
  funext t
  rw [moveSpeed, ← duration_moveProfile distance v a positiveV positiveA]
  exact TrapezoidalProfile.speed_eq_min _ (moveProfile_peak_le distance v a positiveV positiveA)
    (moveProfile_shape distance v a positiveV positiveA) t

/-- After any positive updates that add up to `s`, the reference is where the profile
is at `s`, and has arrived once the profile is over. -/
theorem closed_form (trajectory : TrapezoidalTrajectory ℝ) (p₀ p₁ v a : ℝ) (positiveV : 0 < v)
    (positiveA : 0 < a) (moves : 1e-12 < |p₁ - p₀|) (steps : List ℝ)
    (positive : ∀ dt ∈ steps, 0 < dt) :
    let moved := steps.foldl update ((trajectory.reset p₀).setTarget p₁ v a).1
    let duration := moveTime |p₁ - p₀| v a
    let speed := moveSpeed |p₁ - p₀| v a
    let direction := Real.sign (p₁ - p₀)
    (steps.sum < duration → moved.current =
      { positionRad := p₀ + direction * ∫ t in 0..steps.sum, speed t
        velocityRadS := direction * speed steps.sum
        finished := false }) ∧
    (duration ≤ steps.sum → moved.current =
      { positionRad := p₁, velocityRadS := 0, finished := true }) := by
  intro moved duration speed direction
  have accepted : ¬Rejects p₁ v a := by
    simp [Rejects, not_le.mpr positiveV, not_le.mpr positiveA]
  have displaced : p₁ - p₀ ≠ 0 := by
    intro equal
    rw [equal, abs_zero] at moves
    exact absurd moves (by norm_num)
  have heading : direction = if 0 ≤ p₁ - p₀ then 1 else -1 := by
    split_ifs with forward
    · exact Real.sign_of_pos (lt_of_le_of_ne forward displaced.symm)
    · exact Real.sign_of_neg (not_le.mp forward)
  have planned := plan_onProfile (trajectory.reset p₀) p₁ v a positiveV positiveA rfl moves
  have on : OnProfile (moveProfile |p₁ - p₀| v a positiveV positiveA) p₀ direction steps.sum
      moved := by
    have followed := updates_onProfile steps positive le_rfl planned
    simp only [moved, setTarget_accepted _ p₁ v a accepted, heading]
    rwa [zero_add] at followed
  have lasts : (moveProfile |p₁ - p₀| v a positiveV positiveA).duration = duration :=
    duration_moveProfile _ v a positiveV positiveA
  constructor
  · intro before
    have way := on.position
    have velocity := on.velocity
    rw [lasts, min_eq_left before.le, TrapezoidalProfile.travelled, speed_moveProfile] at way
    rw [lasts, min_eq_left before.le, speed_moveProfile] at velocity
    have active := on.active_iff.mpr (before.trans_eq lasts.symm)
    rw [current, way, velocity, active]
    rfl
  · intro late
    obtain ⟨arrived, resting, finished⟩ := on.finished (lasts.trans_le late)
    -- the target of the profile is the one it was planned for
    have same : moved.targetPositionRad = p₁ := by
      rw [on.target, heading]
      exact planned.target.symm
    rw [current, arrived, resting, finished, same]
    rfl

/-- Two seconds of a move from 0 to 1 with both limits 1, cut in three. -/
theorem closed_form_unit :
    let moved := [1, 0.5, 0.5].foldl update ((initial.reset (0 : ℝ)).setTarget 1 1 1).1
    moved.current = { positionRad := 1, velocityRadS := 0, finished := true } := by
  have distance : |(1 : ℝ) - 0| = 1 := by norm_num
  have lasts : moveTime |(1 : ℝ) - 0| 1 1 = 2 := by
    rw [distance, moveTime]
    norm_num
  refine (closed_form initial 0 1 1 1 one_pos one_pos (by norm_num) [1, 0.5, 0.5] ?_).2 ?_
  · simp only [List.forall_mem_cons]
    norm_num
  · rw [lasts]
    norm_num

end

end TrapezoidalTrajectory

end MotionBridge
