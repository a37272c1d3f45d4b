import MotionBridge.Control.TrapezoidalTrajectory
import MotionBridge.Foundation.TrapezoidalProfile

/-!
# Trajectories follow their profile

In real arithmetic the branches of `update` compute one trapezoidal profile, read at
the time elapsed since the move was planned.
-/
namespace MotionBridge

open Foundation

namespace TrapezoidalTrajectory

noncomputable section

/-- The profile of a move over `distance` under the given limits. -/
def moveProfile (distance v a : ℝ) (positiveV : 0 < v) (positiveA : 0 < a) :
    TrapezoidalProfile where
  acceleration := a
  ramp := if v * v / a ≥ distance then √(distance / a) else v / a
  cruise := if v * v / a ≥ distance then 0 else (distance - v * v / a) / v
  acceleration_pos := positiveA
  ramp_nonneg := by
    split_ifs
    · exact Real.sqrt_nonneg _
    · positivity
  cruise_nonneg := by
    split_ifs with triangular
    · exact le_rfl
    · exact div_nonneg (sub_nonneg.mpr (not_le.mp triangular).le) positiveV.le

theorem moveProfile_length (distance v a : ℝ) (nonneg : 0 ≤ distance) (positiveV : 0 < v)
    (positiveA : 0 < a) : (moveProfile distance v a positiveV positiveA).length =
      distance := by
  simp only [TrapezoidalProfile.length, moveProfile]
  split_ifs
  · rw [add_zero, mul_assoc, Real.mul_self_sqrt (by positivity)]
    field_simp
  · field_simp
    ring

/-- The limits hold: a triangular profile stays below the velocity limit. -/
theorem moveProfile_peak_le (distance v a : ℝ) (positiveV : 0 < v) (positiveA : 0 < a) :
    (moveProfile distance v a positiveV positiveA).peak ≤ v := by
  simp only [TrapezoidalProfile.peak, moveProfile]
  split_ifs with triangular
  · have root : √(distance / a) ≤ v / a := by
      apply Real.sqrt_le_iff.mpr
      refine ⟨by positivity, ?_⟩
      rw [div_pow, sq a, ← div_div, div_le_div_iff_of_pos_right positiveA, sq]
      exact triangular
    calc a * √(distance / a) ≤ a * (v / a) := mul_le_mul_of_nonneg_left root positiveA.le
      _ = v := mul_div_cancel₀ v positiveA.ne'
  · exact (mul_div_cancel₀ v positiveA.ne').le

theorem moveProfile_shape (distance v a : ℝ) (positiveV : 0 < v) (positiveA : 0 < a) :
    (moveProfile distance v a positiveV positiveA).peak = v ∨
      (moveProfile distance v a positiveV positiveA).cruise = 0 := by
  simp only [TrapezoidalProfile.peak, moveProfile]
  split_ifs
  · exact Or.inr rfl
  · exact Or.inl (mul_div_cancel₀ v positiveA.ne')

/-- The trajectory is on its way from `start` in `direction`, `elapsed` after planning. -/
structure OnProfile (profile : TrapezoidalProfile) (start direction elapsed : ℝ)
    (trajectory : TrapezoidalTrajectory ℝ) : Prop where
  acceleration : trajectory.maxAccelerationRadS2 = profile.acceleration
  ramp : trajectory.accelerationTimeS = profile.ramp
  cruise : trajectory.cruiseTimeS = profile.cruise
  peak : trajectory.peakVelocityRadS = profile.peak
  total : trajectory.totalTimeS = profile.duration
  start_eq : trajectory.startPositionRad = start
  direction_eq : trajectory.direction = direction
  target : trajectory.targetPositionRad = start + direction * profile.length
  elapsed_eq : trajectory.elapsedTimeS = min elapsed profile.duration
  position : trajectory.referencePositionRad =
    start + direction * profile.travelled (min elapsed profile.duration)
  velocity : trajectory.referenceVelocityRadS =
    direction * profile.speed (min elapsed profile.duration)
  active_iff : trajectory.active = true ↔ elapsed < profile.duration

theorem moveProfile_ramp_pos (distance v a : ℝ) (positiveV : 0 < v) (positiveA : 0 < a)
    (moves : 0 < distance) : 0 < (moveProfile distance v a positiveV positiveA).ramp := by
  simp only [moveProfile]
  split_ifs
  · exact Real.sqrt_pos.mpr (div_pos moves positiveA)
  · exact div_pos positiveV positiveA

theorem moveProfile_duration_pos (distance v a : ℝ) (positiveV : 0 < v) (positiveA : 0 < a)
    (moves : 0 < distance) :
    0 < (moveProfile distance v a positiveV positiveA).duration := by
  have ramp := moveProfile_ramp_pos distance v a positiveV positiveA moves
  have cruise := (moveProfile distance v a positiveV positiveA).cruise_nonneg
  rw [TrapezoidalProfile.duration]
  linarith

/-- The direction of a move has no size. -/
theorem abs_direction (displacement : ℝ) : |if 0 ≤ displacement then (1 : ℝ) else -1| = 1 := by
  split_ifs
  · exact abs_one
  · rw [abs_neg, abs_one]

/-- The times and the peak `plan` computes are those of the profile. -/
theorem plan_profile (trajectory : TrapezoidalTrajectory ℝ) (p v a : ℝ) (positiveV : 0 < v)
    (positiveA : 0 < a) :
    let profile := moveProfile |p - trajectory.referencePositionRad| v a positiveV positiveA
    (trajectory.plan p v a).accelerationTimeS = profile.ramp ∧
      (trajectory.plan p v a).cruiseTimeS = profile.cruise ∧
      (trajectory.plan p v a).peakVelocityRadS = profile.peak ∧
      (trajectory.plan p v a).totalTimeS = profile.duration := by
  intro profile
  -- the source compares twice the way of one ramp with the distance
  have ramps : 2.0 * (0.5 * a * (v / a) * (v / a)) = v * v / a := by
    field_simp
    norm_num
  have total : (trajectory.plan p v a).totalTimeS =
      2.0 * (trajectory.plan p v a).accelerationTimeS + (trajectory.plan p v a).cruiseTimeS := rfl
  by_cases triangular : v * v / a ≥ |p - trajectory.referencePositionRad|
  · have ramp : (trajectory.plan p v a).accelerationTimeS = profile.ramp := by
      simp only [plan, abs_field, ramps, profile, moveProfile, if_pos triangular]
      rfl
    have cruise : (trajectory.plan p v a).cruiseTimeS = profile.cruise := by
      simp only [plan, abs_field, ramps, profile, moveProfile, if_pos triangular]
    refine ⟨ramp, cruise, ?_, ?_⟩
    · rw [TrapezoidalProfile.peak, ← ramp]
      simp only [plan, abs_field, ramps, if_pos triangular]
      rfl
    · rw [total, ramp, cruise, TrapezoidalProfile.duration]
      norm_num
      ring
  · have ramp : (trajectory.plan p v a).accelerationTimeS = profile.ramp := by
      simp only [plan, abs_field, ramps, profile, moveProfile, if_neg triangular]
    have cruise : (trajectory.plan p v a).cruiseTimeS = profile.cruise := by
      simp only [plan, abs_field, ramps, profile, moveProfile, if_neg triangular]
    refine ⟨ramp, cruise, ?_, ?_⟩
    · rw [TrapezoidalProfile.peak, ← ramp]
      simp only [plan, abs_field, ramps, profile, moveProfile, if_neg triangular]
      exact (mul_div_cancel₀ v positiveA.ne').symm
    · rw [total, ramp, cruise, TrapezoidalProfile.duration]
      norm_num
      ring

/-- Planning at rest puts the trajectory at the beginning of its profile. -/
theorem plan_onProfile (trajectory : TrapezoidalTrajectory ℝ) (p v a : ℝ) (positiveV : 0 < v)
    (positiveA : 0 < a) (rest : trajectory.referenceVelocityRadS = 0)
    (moves : 1e-12 < |p - trajectory.referencePositionRad|) :
    OnProfile (moveProfile |p - trajectory.referencePositionRad| v a positiveV positiveA)
      trajectory.referencePositionRad
      (if 0 ≤ p - trajectory.referencePositionRad then 1 else -1) 0 (trajectory.plan p v a) := by
  have distance : 0 < |p - trajectory.referencePositionRad| := lt_trans (by norm_num) moves
  have duration := moveProfile_duration_pos _ v a positiveV positiveA distance
  obtain ⟨ramp, cruise, peak, total⟩ := plan_profile trajectory p v a positiveV positiveA
  refine ⟨rfl, ramp, cruise, peak, total, rfl, ?_, ?_, ?_, ?_, ?_, ?_⟩
  · simp only [plan, ge_iff_le]
  · rw [moveProfile_length _ v a distance.le, target_plan]
    split_ifs with forward
    · rw [abs_of_nonneg forward]
      ring
    · rw [abs_of_neg (not_le.mp forward)]
      ring
  · rw [min_eq_left duration.le]
    rfl
  · rw [min_eq_left duration.le, TrapezoidalProfile.travelled_zero, mul_zero, add_zero]
    rfl
  · rw [min_eq_left duration.le, TrapezoidalProfile.speed_zero, mul_zero]
    exact rest
  · exact iff_of_true (decide_eq_true moves) duration

section Steps

variable {profile : TrapezoidalProfile} {start direction elapsed : ℝ}
variable {trajectory : TrapezoidalTrajectory ℝ}

theorem OnProfile.finished (on : OnProfile profile start direction elapsed trajectory)
    (late : profile.duration ≤ elapsed) :
    trajectory.referencePositionRad = trajectory.targetPositionRad ∧
      trajectory.referenceVelocityRadS = 0 ∧ trajectory.active = false := by
  refine ⟨?_, ?_, ?_⟩
  · rw [on.position, on.target, min_eq_right late, TrapezoidalProfile.travelled_duration]
  · rw [on.velocity, min_eq_right late, TrapezoidalProfile.speed_duration, mul_zero]
  · simpa using mt on.active_iff.mp (not_lt.mpr late)

theorem OnProfile.unfinished {later : ℝ} (before : min later profile.duration < profile.duration) :
    later < profile.duration := by
  by_contra late
  rw [min_eq_right (not_lt.mp late)] at before
  exact lt_irrefl _ before

/-- A point of the profile before its end, made the reference. -/
theorem follow_onProfile {later way velocity : ℝ}
    (on : OnProfile profile start direction elapsed trajectory) (active : trajectory.active = true)
    (before : min later profile.duration < profile.duration)
    (travelled : way = profile.travelled (min later profile.duration))
    (speed : velocity = profile.speed (min later profile.duration)) :
    OnProfile profile start direction later
      (trajectory.follow (min later profile.duration) way velocity) := by
  refine ⟨on.1, on.2, on.3, on.4, on.5, on.6, on.7, on.8, rfl, ?_, ?_, ?_⟩
  · rw [← travelled, ← on.start_eq, ← on.direction_eq]
    rfl
  · rw [← speed, ← on.direction_eq]
    rfl
  · exact iff_of_true active (OnProfile.unfinished before)

/-- The target is the end of the profile. -/
theorem arrive_onProfile {later : ℝ} (on : OnProfile profile start direction elapsed trajectory)
    (late : profile.duration ≤ later) :
    OnProfile profile start direction later
      (trajectory.arrive (min later profile.duration)) := by
  refine ⟨on.1, on.2, on.3, on.4, on.5, on.6, on.7, on.8, rfl, ?_, ?_, ?_⟩
  · rw [min_eq_right late, TrapezoidalProfile.travelled_duration, ← on.target]
    rfl
  · rw [min_eq_right late, TrapezoidalProfile.speed_duration, mul_zero]
    rfl
  · exact iff_of_false Bool.false_ne_true (not_lt.mpr late)

/-- Every update moves on along the profile by its time step. -/
theorem update_onProfile (dt : ℝ) (positive : 0 < dt) (started : 0 ≤ elapsed)
    (on : OnProfile profile start direction elapsed trajectory) :
    OnProfile profile start direction (elapsed + dt) (trajectory.update dt) := by
  have valid : Double.ValidStep dt := (validStep_field dt).mpr positive
  by_cases active : elapsed < profile.duration
  · have moving : trajectory.active = true := on.active_iff.mpr active
    have advanced : Double.min (trajectory.elapsedTimeS + dt) profile.duration =
        min (elapsed + dt) profile.duration := by
      rw [min_field, on.elapsed_eq, min_eq_left active.le]
    have after : 0 ≤ min (elapsed + dt) profile.duration :=
      le_min (by linarith) profile.duration_nonneg
    have cruised : profile.ramp ≤ profile.ramp + profile.cruise :=
      le_add_of_nonneg_right profile.cruise_nonneg
    simp only [update, moving, valid, not_true_eq_false, or_self, Bool.true_eq_false, if_false,
      on.acceleration, on.ramp, on.cruise, on.peak, on.total, advanced]
    -- the four branches of the source are the phases of the profile and its end
    split_ifs with ramp cruise brake
    · apply follow_onProfile on moving
      · exact ramp.trans_le (cruised.trans profile.ramp_le_duration)
      · rw [profile.travelled_ramp after ramp.le]
        norm_num
        ring
      · exact (profile.speed_ramp ramp.le).symm
    · apply follow_onProfile on moving
      · exact cruise.trans_le profile.ramp_le_duration
      · rw [profile.travelled_cruise (not_lt.mp ramp) cruise.le]
        norm_num
        ring
      · exact (profile.speed_cruise (not_lt.mp ramp) cruise.le).symm
    · apply follow_onProfile on moving brake
      · rw [profile.travelled_brake (not_lt.mp cruise)]
        norm_num
        ring
      · rw [profile.speed_brake (not_lt.mp cruise), TrapezoidalProfile.peak,
          TrapezoidalProfile.duration]
        ring
    · apply arrive_onProfile on
      by_contra early
      exact brake (min_lt_of_left_lt (not_le.mp early))
  · -- a finished trajectory stays where it is, and so does its profile
    have finished : trajectory.active = false := by
      by_contra moving
      exact active (on.active_iff.mp (by simpa using moving))
    have late : min (elapsed + dt) profile.duration = min elapsed profile.duration := by
      rw [min_eq_right (not_lt.mp active), min_eq_right (by linarith [not_lt.mp active])]
    rw [update_inactive trajectory dt finished]
    refine ⟨on.1, on.2, on.3, on.4, on.5, on.6, on.7, on.8, ?_, ?_, ?_, ?_⟩
    · rw [late]
      exact on.elapsed_eq
    · rw [late]
      exact on.position
    · rw [late]
      exact on.velocity
    · exact iff_of_false (by simp [finished]) (by linarith)

/-- A run of updates depends on the time they add up to alone. -/
theorem updates_onProfile (steps : List ℝ) (positive : ∀ dt ∈ steps, 0 < dt) (started : 0 ≤ elapsed)
    (on : OnProfile profile start direction elapsed trajectory) :
    OnProfile profile start direction (elapsed + steps.sum) (steps.foldl update trajectory) := by
  induction steps generalizing elapsed trajectory with
  | nil => rwa [List.sum_nil, add_zero]
  | cons dt steps ih =>
    have first : 0 < dt := positive dt (List.mem_cons_self ..)
    rw [List.sum_cons, ← add_assoc, List.foldl_cons]
    exact ih (fun step member => positive step (List.mem_cons_of_mem _ member))
      (add_nonneg started first.le) (update_onProfile dt first started on)

/-- An update changes the velocity by no more than the acceleration of the profile. -/
theorem update_smooth (dt : ℝ) (positive : 0 < dt) (started : 0 ≤ elapsed)
    (unit : |direction| = 1) (on : OnProfile profile start direction elapsed trajectory) :
    |(trajectory.update dt).referenceVelocityRadS - trajectory.referenceVelocityRadS| ≤
      profile.acceleration * dt := by
  have step : |min (elapsed + dt) profile.duration - min elapsed profile.duration| ≤ dt := by
    obtain ⟨order, short⟩ := profile.spent_step elapsed positive.le
    rwa [abs_of_nonneg (sub_nonneg.mpr order)]
  calc |(trajectory.update dt).referenceVelocityRadS - trajectory.referenceVelocityRadS|
      = |profile.speed (min (elapsed + dt) profile.duration) -
          profile.speed (min elapsed profile.duration)| := by
        rw [(update_onProfile dt positive started on).velocity, on.velocity, ← mul_sub, abs_mul,
          unit, one_mul]
    _ ≤ profile.acceleration *
          |min (elapsed + dt) profile.duration - min elapsed profile.duration| :=
        profile.speed_lipschitz _ _
    _ ≤ profile.acceleration * dt :=
        mul_le_mul_of_nonneg_left step profile.acceleration_pos.le

end Steps

end

end TrapezoidalTrajectory

end MotionBridge
