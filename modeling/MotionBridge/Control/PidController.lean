import MotionBridge.Foundation.Exact

namespace MotionBridge

open Foundation

structure Gains (R : Type) where
  kp : R
  ki : R
  kd : R
  derivativeFilterTimeS : R
  deriving DecidableEq, Repr

/-- `Gains{}`. -/
def Gains.initial {R : Type} [Double R] : Gains R := ⟨24.0, 4.0, 1.2, 0.01⟩

structure PidController (R : Type) where
  gains : Gains R
  minimumOutput : R
  maximumOutput : R
  integral : R
  previousError : R
  filteredDerivative : R
  firstUpdate : Bool
  deriving DecidableEq, Repr

namespace PidController

section Source

variable {R : Type} [Double R]

def create (gains : Gains R) (minimumOutput maximumOutput : R) : PidController R :=
  ⟨gains, minimumOutput, maximumOutput, 0, 0, 0, true⟩

def reset (controller : PidController R) : PidController R :=
  { controller with
    integral := 0
    previousError := 0
    filteredDerivative := 0
    firstUpdate := true }

/-- First-order filter on the raw difference quotient of the error. -/
def filterDerivative (controller : PidController R) (error dtSeconds : R) : R :=
  let rawDerivative :=
    if controller.firstUpdate then 0 else (error - controller.previousError) / dtSeconds
  let filterTime := Double.max 0 controller.gains.derivativeFilterTimeS
  let alpha := dtSeconds / (filterTime + dtSeconds)
  controller.filteredDerivative + alpha * (rawDerivative - controller.filteredDerivative)

/-- The next controller and its output; an invalid step gives a zero output and
changes nothing. -/
def update (controller : PidController R) (reference measurement dtSeconds : R) :
    PidController R × R :=
  if ¬Double.ValidStep dtSeconds then (controller, 0)
  else
    let error := reference - measurement
    let filteredDerivative := controller.filterDerivative error dtSeconds
    let candidateIntegral := controller.integral + error * dtSeconds
    let unsaturated := controller.gains.kp * error + controller.gains.ki * candidateIntegral
      + controller.gains.kd * filteredDerivative
    let output := Double.clamp unsaturated controller.minimumOutput controller.maximumOutput
    let saturatedHigh := unsaturated > controller.maximumOutput
    let saturatedLow := unsaturated < controller.minimumOutput
    let drivesOutOfSaturation := (saturatedHigh ∧ error < 0) ∨ (saturatedLow ∧ error > 0)
    ({ controller with
        -- anti-windup: a saturated output integrates only what brings it back
        integral :=
          if (¬saturatedHigh ∧ ¬saturatedLow) ∨ drivesOutOfSaturation then candidateIntegral
          else controller.integral
        previousError := error
        filteredDerivative := filteredDerivative
        firstUpdate := false }, output)

@[simp] theorem reset_limits (controller : PidController R) :
    controller.reset.minimumOutput = controller.minimumOutput ∧
      controller.reset.maximumOutput = controller.maximumOutput := ⟨rfl, rfl⟩

@[simp] theorem reset_gains (controller : PidController R) :
    controller.reset.gains = controller.gains := rfl

theorem update_gains (controller : PidController R) (reference measurement dt : R) :
    (controller.update reference measurement dt).1.gains = controller.gains := by
  simp only [update]
  split_ifs <;> rfl

/-- The output range is fixed at construction. -/
theorem update_limits (controller : PidController R) (reference measurement dt : R) :
    (controller.update reference measurement dt).1.minimumOutput = controller.minimumOutput ∧
      (controller.update reference measurement dt).1.maximumOutput = controller.maximumOutput := by
  simp only [update]
  split_ifs <;> exact ⟨rfl, rfl⟩

end Source

def map {R S : Type} (f : R → S) (controller : PidController R) : PidController S where
  gains := ⟨f controller.gains.kp, f controller.gains.ki, f controller.gains.kd,
    f controller.gains.derivativeFilterTimeS⟩
  minimumOutput := f controller.minimumOutput
  maximumOutput := f controller.maximumOutput
  integral := f controller.integral
  previousError := f controller.previousError
  filteredDerivative := f controller.filteredDerivative
  firstUpdate := controller.firstUpdate

section Finite

open Exact (fin)

variable {K : Type} [Field K] [LinearOrder K] [SquareRoot K]

theorem reset_fin (controller : PidController K) :
    (controller.map fin).reset = controller.reset.map fin := rfl

/-- The output of a controller with ordered limits around zero stays in range. -/
theorem output_mem (controller : PidController K) (reference measurement dt : K)
    (straddles : controller.minimumOutput ≤ 0 ∧ 0 ≤ controller.maximumOutput) :
    controller.minimumOutput ≤ (controller.update reference measurement dt).2 ∧
      (controller.update reference measurement dt).2 ≤ controller.maximumOutput := by
  by_cases valid : Double.ValidStep dt
  · simp only [update, if_neg (not_not.mpr valid)]
    exact clamp_mem _ _ _ (straddles.1.trans straddles.2)
  · simp only [update, if_pos valid]
    exact straddles

variable [IsStrictOrderedRing K]

theorem filterDerivative_fin (controller : PidController K) (error dt : K) (positive : 0 < dt) :
    (controller.map fin).filterDerivative (fin error) (fin dt) =
      fin (controller.filterDerivative error dt) := by
  -- the source divides by the filter time plus the step, and clips the former at zero
  have denominator : Double.max 0 controller.gains.derivativeFilterTimeS + dt ≠ 0 := by
    rw [max_field]
    exact (add_pos_of_nonneg_of_pos (le_max_left _ _) positive).ne'
  simp only [filterDerivative, map, Exact.zero_eq, Exact.fin_max, Exact.fin_sub, Exact.fin_add,
    Exact.fin_div _ _ positive.ne', Exact.fin_div _ _ denominator]
  split_ifs <;> simp only [Exact.fin_sub, Exact.fin_mul, Exact.fin_add]

theorem update_fin (controller : PidController K) (reference measurement dt : K) :
    (controller.map fin).update (fin reference) (fin measurement) (fin dt) =
      ((controller.update reference measurement dt).1.map fin,
        fin (controller.update reference measurement dt).2) := by
  have valid : Double.ValidStep (fin dt) ↔ Double.ValidStep dt := by simp [Double.ValidStep]
  simp only [update, valid]
  by_cases skipped : Double.ValidStep dt
  · have positive : 0 < dt := by simpa using skipped
    rw [if_neg (not_not.mpr skipped), if_neg (not_not.mpr skipped)]
    -- both quotients are in `filterDerivative`; the rest has no division
    simp only [Exact.fin_sub, filterDerivative_fin _ _ _ positive]
    simp only [map, Exact.fin_mul, Exact.fin_add, Exact.fin_clamp, Exact.fin_lt_fin,
      Exact.zero_eq, gt_iff_lt]
    split_ifs <;> rfl
  · rw [if_pos skipped, if_pos skipped]
    rfl

/-- Whatever the time step, the controller stays finite, keeps its output range
and stays inside it. -/
theorem update_finite (controller : PidController K) (reference measurement : K) (dt : Exact K) :
    ∃ (next : PidController K) (output : K),
      (controller.map fin).update (fin reference) (fin measurement) dt =
        (next.map fin, fin output) ∧
      next.minimumOutput = controller.minimumOutput ∧
      next.maximumOutput = controller.maximumOutput ∧
      (controller.minimumOutput ≤ 0 ∧ 0 ≤ controller.maximumOutput →
        controller.minimumOutput ≤ output ∧ output ≤ controller.maximumOutput) := by
  by_cases valid : Double.ValidStep dt
  · obtain ⟨x, rfl, _⟩ := (Exact.validStep_iff dt).mp valid
    have limits := update_limits controller reference measurement x
    exact ⟨_, _, update_fin controller reference measurement x, limits.1, limits.2,
      output_mem controller reference measurement x⟩
  -- an invalid step returns zero, which lies in a range around zero
  · exact ⟨controller, 0, if_pos valid, rfl, rfl, id⟩

end Finite

end PidController

end MotionBridge
