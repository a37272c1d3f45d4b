import Mathlib.Analysis.SpecialFunctions.Integrals.Basic

/-!
# Trapezoidal motion profiles

A speed that rises with constant acceleration, stays level, and falls again the way
it rose. With no level part the profile is a triangle. The way travelled is the area
under the speed.
-/
namespace Foundation

open MeasureTheory

structure TrapezoidalProfile where
  acceleration : ℝ
  ramp : ℝ
  cruise : ℝ
  acceleration_pos : 0 < acceleration
  ramp_nonneg : 0 ≤ ramp
  cruise_nonneg : 0 ≤ cruise

namespace TrapezoidalProfile

noncomputable section

def duration (profile : TrapezoidalProfile) : ℝ := profile.ramp + profile.cruise + profile.ramp

def peak (profile : TrapezoidalProfile) : ℝ := profile.acceleration * profile.ramp

def speed (profile : TrapezoidalProfile) (t : ℝ) : ℝ :=
  profile.acceleration * min (min t profile.ramp) (profile.duration - t)

def travelled (profile : TrapezoidalProfile) (t : ℝ) : ℝ := ∫ s in 0..t, profile.speed s

variable (profile : TrapezoidalProfile)

theorem ramp_le_duration : profile.ramp + profile.cruise ≤ profile.duration := by
  have ramp := profile.ramp_nonneg
  rw [duration]
  linarith

theorem duration_nonneg : 0 ≤ profile.duration :=
  (add_nonneg profile.ramp_nonneg profile.cruise_nonneg).trans profile.ramp_le_duration

theorem peak_nonneg : 0 ≤ profile.peak :=
  mul_nonneg profile.acceleration_pos.le profile.ramp_nonneg

theorem continuous_speed : Continuous profile.speed := by
  unfold speed
  fun_prop

theorem integrable_speed (a b : ℝ) : IntervalIntegrable profile.speed volume a b :=
  profile.continuous_speed.intervalIntegrable a b

theorem speed_nonneg {t : ℝ} (after : 0 ≤ t) (before : t ≤ profile.duration) :
    0 ≤ profile.speed t := by
  apply mul_nonneg profile.acceleration_pos.le
  exact le_min (le_min after profile.ramp_nonneg) (sub_nonneg.mpr before)

theorem speed_le_peak (t : ℝ) : profile.speed t ≤ profile.peak := by
  apply mul_le_mul_of_nonneg_left _ profile.acceleration_pos.le
  exact (min_le_left _ _).trans (min_le_right _ _)

/-- A speed limit above the peak changes nothing in a profile without a level part. -/
theorem speed_eq_min {limit : ℝ} (below : profile.peak ≤ limit)
    (shape : profile.peak = limit ∨ profile.cruise = 0) (t : ℝ) :
    profile.speed t = min (min (profile.acceleration * t) limit)
      (profile.acceleration * (profile.duration - t)) := by
  have peaked : profile.speed t = min (min (profile.acceleration * t) profile.peak)
      (profile.acceleration * (profile.duration - t)) := by
    rw [speed, mul_min_of_nonneg _ _ profile.acceleration_pos.le,
      mul_min_of_nonneg _ _ profile.acceleration_pos.le, peak]
  rcases shape with reached | level
  · rw [peaked, reached]
  · have slopes : min (profile.acceleration * t)
        (profile.acceleration * (profile.duration - t)) ≤ profile.peak := by
      rw [← mul_min_of_nonneg _ _ profile.acceleration_pos.le]
      apply mul_le_mul_of_nonneg_left _ profile.acceleration_pos.le
      rw [duration, level]
      -- one of the two slopes is below the middle
      rcases le_total t profile.ramp with early | late
      · exact (min_le_left _ _).trans early
      · exact (min_le_right _ _).trans (by linarith)
    rw [peaked, min_right_comm, min_right_comm _ limit, min_eq_left slopes,
      min_eq_left (slopes.trans below)]

/-- The speed never changes faster than the acceleration allows. -/
theorem speed_lipschitz (s t : ℝ) :
    |profile.speed t - profile.speed s| ≤ profile.acceleration * |t - s| := by
  have level : |min (min t profile.ramp) (profile.duration - t) -
      min (min s profile.ramp) (profile.duration - s)| ≤ |t - s| := by
    refine (abs_min_sub_min_le_max _ _ _ _).trans (max_le ?_ ?_)
    · refine (abs_min_sub_min_le_max _ _ _ _).trans (max_le le_rfl ?_)
      rw [sub_self, abs_zero]
      exact abs_nonneg _
    · rw [sub_sub_sub_cancel_left, abs_sub_comm]
  rw [speed, speed, ← mul_sub, abs_mul, abs_of_pos profile.acceleration_pos]
  exact mul_le_mul_of_nonneg_left level profile.acceleration_pos.le

@[simp] theorem speed_zero : profile.speed 0 = 0 := by
  rw [speed, min_eq_left profile.ramp_nonneg, sub_zero, min_eq_left profile.duration_nonneg,
    mul_zero]

@[simp] theorem speed_duration : profile.speed profile.duration = 0 := by
  have ramp : profile.ramp ≤ profile.duration :=
    (le_add_of_nonneg_right profile.cruise_nonneg).trans profile.ramp_le_duration
  rw [speed, min_eq_right ramp, sub_self, min_eq_right profile.ramp_nonneg, mul_zero]

@[simp] theorem travelled_zero : profile.travelled 0 = 0 := intervalIntegral.integral_same

theorem travelled_sub (s t : ℝ) :
    profile.travelled t - profile.travelled s = ∫ u in s..t, profile.speed u :=
  intervalIntegral.integral_interval_sub_left (profile.integrable_speed 0 t)
    (profile.integrable_speed 0 s)

/-- Forward, and no faster than the peak speed. -/
theorem travelled_step {s t : ℝ} (after : 0 ≤ s) (order : s ≤ t) (before : t ≤ profile.duration) :
    profile.travelled s ≤ profile.travelled t ∧
      profile.travelled t - profile.travelled s ≤ profile.peak * (t - s) := by
  constructor
  · rw [← sub_nonneg, travelled_sub]
    apply intervalIntegral.integral_nonneg order
    intro u inside
    exact profile.speed_nonneg (after.trans inside.1) (inside.2.trans before)
  · rw [travelled_sub]
    have bound := intervalIntegral.integral_mono_on order (profile.integrable_speed s t)
      (continuous_const.intervalIntegrable s t) fun u _ => profile.speed_le_peak u
    rwa [intervalIntegral.integral_const, smul_eq_mul, mul_comm] at bound

/-! The area in closed form, phase by phase. -/

theorem speed_ramp {t : ℝ} (before : t ≤ profile.ramp) :
    profile.speed t = profile.acceleration * t := by
  have cruise := profile.cruise_nonneg
  rw [speed, min_eq_left before, min_eq_left (by rw [duration]; linarith)]

theorem speed_cruise {t : ℝ} (after : profile.ramp ≤ t)
    (before : t ≤ profile.ramp + profile.cruise) : profile.speed t = profile.peak := by
  rw [speed, min_eq_right after, min_eq_left (by rw [duration]; linarith), peak]

theorem speed_brake {t : ℝ} (after : profile.ramp + profile.cruise ≤ t) :
    profile.speed t = profile.acceleration * (profile.duration - t) := by
  have ramp := profile.ramp_nonneg
  have cruise := profile.cruise_nonneg
  have late : profile.duration - t ≤ min t profile.ramp := by
    rw [duration]
    exact le_min (by linarith) (by linarith)
  rw [speed, min_eq_right late]

theorem travelled_ramp {t : ℝ} (after : 0 ≤ t) (before : t ≤ profile.ramp) :
    profile.travelled t = 2⁻¹ * profile.acceleration * t ^ 2 := by
  have rising : Set.EqOn profile.speed (fun s => profile.acceleration * s) (Set.uIcc 0 t) := by
    intro s inside
    rw [Set.uIcc_of_le after] at inside
    exact profile.speed_ramp (inside.2.trans before)
  rw [travelled, intervalIntegral.integral_congr rising, intervalIntegral.integral_const_mul,
    integral_id]
  ring

theorem travelled_cruise {t : ℝ} (after : profile.ramp ≤ t)
    (before : t ≤ profile.ramp + profile.cruise) :
    profile.travelled t =
      2⁻¹ * profile.acceleration * profile.ramp ^ 2 + profile.peak * (t - profile.ramp) := by
  have level : Set.EqOn profile.speed (fun _ => profile.peak) (Set.uIcc profile.ramp t) := by
    intro s inside
    rw [Set.uIcc_of_le after] at inside
    exact profile.speed_cruise inside.1 (inside.2.trans before)
  have since := profile.travelled_sub profile.ramp t
  rw [intervalIntegral.integral_congr level, intervalIntegral.integral_const, smul_eq_mul,
    profile.travelled_ramp profile.ramp_nonneg le_rfl] at since
  linarith

theorem travelled_brake {t : ℝ} (after : profile.ramp + profile.cruise ≤ t) :
    profile.travelled t =
      2⁻¹ * profile.acceleration * profile.ramp ^ 2 + profile.peak * profile.cruise +
        profile.peak * (t - profile.ramp - profile.cruise) -
        2⁻¹ * profile.acceleration * (t - profile.ramp - profile.cruise) ^ 2 := by
  have falling : Set.EqOn profile.speed
      (fun s => profile.acceleration * (profile.duration - s))
      (Set.uIcc (profile.ramp + profile.cruise) t) := by
    intro s inside
    rw [Set.uIcc_of_le after] at inside
    exact profile.speed_brake inside.1
  have since := profile.travelled_sub (profile.ramp + profile.cruise) t
  rw [intervalIntegral.integral_congr falling, intervalIntegral.integral_const_mul,
    intervalIntegral.integral_comp_sub_left (fun u => u), integral_id,
    profile.travelled_cruise (le_add_of_nonneg_right profile.cruise_nonneg) le_rfl] at since
  rw [peak, duration] at *
  linarith

/-- The way of the whole profile. -/
def length (profile : TrapezoidalProfile) : ℝ :=
  profile.acceleration * profile.ramp * (profile.ramp + profile.cruise)

theorem travelled_duration : profile.travelled profile.duration = profile.length := by
  rw [profile.travelled_brake profile.ramp_le_duration, peak, duration, length]
  ring

/-- The time spent on the profile grows no faster than time. -/
theorem spent_step (elapsed : ℝ) {dt : ℝ} (nonneg : 0 ≤ dt) :
    min elapsed profile.duration ≤ min (elapsed + dt) profile.duration ∧
      min (elapsed + dt) profile.duration - min elapsed profile.duration ≤ dt := by
  constructor
  · exact min_le_min_right _ (le_add_of_nonneg_right nonneg)
  · rw [sub_le_iff_le_add', min_add]
    exact min_le_min_left _ (le_add_of_nonneg_right nonneg)

/-- A time step leads on along the way, no farther than its end and no faster than the
peak speed. -/
theorem travelled_spent {elapsed dt : ℝ} (started : 0 ≤ elapsed) (nonneg : 0 ≤ dt) :
    0 ≤ profile.travelled (min elapsed profile.duration) ∧
      profile.travelled (min elapsed profile.duration) ≤
        profile.travelled (min (elapsed + dt) profile.duration) ∧
      profile.travelled (min (elapsed + dt) profile.duration) ≤ profile.length ∧
      profile.travelled (min (elapsed + dt) profile.duration) -
        profile.travelled (min elapsed profile.duration) ≤ profile.peak * dt := by
  have after : 0 ≤ min elapsed profile.duration := le_min started profile.duration_nonneg
  obtain ⟨order, short⟩ := profile.spent_step elapsed nonneg
  have within : min (elapsed + dt) profile.duration ≤ profile.duration := min_le_right _ _
  have begun := (profile.travelled_step le_rfl after (min_le_right _ _)).1
  have step := profile.travelled_step after order within
  have ended := (profile.travelled_step (after.trans order) within le_rfl).1
  rw [profile.travelled_zero] at begun
  rw [profile.travelled_duration] at ended
  exact ⟨begun, step.1, ended, step.2.trans (mul_le_mul_of_nonneg_left short profile.peak_nonneg)⟩

end

end TrapezoidalProfile

end Foundation
