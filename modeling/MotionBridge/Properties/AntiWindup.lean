import MotionBridge.Control.PidController
import MotionBridge.Foundation.History
import MotionBridge.Foundation.Run

/-! How far the integral of a saturated controller can wind up. -/
namespace MotionBridge

open Foundation

namespace PidController

/-- What a caller of the controller can do to it. -/
inductive Call (R : Type) where
  | update (reference measurement dtSeconds : R)
  | reset
  deriving DecidableEq, Repr

def apply {R : Type} [Double R] (controller : PidController R) : Call R → PidController R
  | .update reference measurement dtSeconds =>
    (controller.update reference measurement dtSeconds).1
  | .reset => controller.reset

variable {K : Type} [Field K] [LinearOrder K] [SquareRoot K]

def Call.Valid : Call K → Prop
  | .update _ _ dtSeconds => Double.ValidStep dtSeconds
  | .reset => True

/-- The error moves by at most `bound` per second from the update right before. -/
def Slew (bound : K) (before : List (Call K)) : Call K → Prop
  | .update reference measurement dtSeconds => ∀ reference' measurement' dtSeconds',
    before.getLast? = some (.update reference' measurement' dtSeconds') →
      |(reference - measurement) - (reference' - measurement')| ≤ bound * dtSeconds
  | .reset => True

/-- The integral term is at most `margin` outside the output range. -/
def Wound (controller : PidController K) (margin : K) : Prop :=
  controller.minimumOutput - margin ≤ controller.gains.ki * controller.integral ∧
    controller.gains.ki * controller.integral ≤ controller.maximumOutput + margin

/-- What the bound asks of a controller; no call changes it. -/
structure Tuned (controller : PidController K) : Prop where
  kp : 0 ≤ controller.gains.kp
  ki : 0 ≤ controller.gains.ki
  kd : 0 ≤ controller.gains.kd
  straddles : controller.minimumOutput ≤ 0 ∧ 0 ≤ controller.maximumOutput

theorem apply_gains (controller : PidController K) (call : Call K) :
    (controller.apply call).gains = controller.gains := by
  cases call with
  | reset => exact controller.reset_gains
  | update reference measurement dt => exact update_gains controller reference measurement dt

theorem apply_limits (controller : PidController K) (call : Call K) :
    (controller.apply call).minimumOutput = controller.minimumOutput ∧
      (controller.apply call).maximumOutput = controller.maximumOutput := by
  cases call with
  | reset => exact controller.reset_limits
  | update reference measurement dt => exact update_limits controller reference measurement dt

/-- Gains and limits are those of the start, whatever was called. -/
theorem run_settings (controller : PidController K) (calls : List (Call K)) :
    (run apply controller calls).gains = controller.gains ∧
      (run apply controller calls).minimumOutput = controller.minimumOutput ∧
      (run apply controller calls).maximumOutput = controller.maximumOutput := by
  refine run_always apply (fun c => c.gains = controller.gains ∧
    c.minimumOutput = controller.minimumOutput ∧
    c.maximumOutput = controller.maximumOutput) ?_ controller calls ⟨rfl, rfl, rfl⟩
  intro c call ⟨gains, minimum, maximum⟩
  have limits := apply_limits c call
  exact ⟨(apply_gains c call).trans gains, limits.1.trans minimum, limits.2.trans maximum⟩

theorem apply_tuned (controller : PidController K) (call : Call K) (tuned : controller.Tuned) :
    (controller.apply call).Tuned := by
  have gains := apply_gains controller call
  have limits := apply_limits controller call
  refine ⟨?_, ?_, ?_, ?_⟩
  · rw [gains]
    exact tuned.kp
  · rw [gains]
    exact tuned.ki
  · rw [gains]
    exact tuned.kd
  · rw [limits.1, limits.2]
    exact tuned.straddles

variable [IsStrictOrderedRing K]

/-- A filtered derivative moves towards the raw one, never beyond it. -/
theorem filterDerivative_bounded (controller : PidController K) (error dt bound : K)
    (positive : 0 < dt) (filtered : |controller.filteredDerivative| ≤ bound)
    (slew : controller.firstUpdate = false → |error - controller.previousError| ≤ bound * dt) :
    |controller.filterDerivative error dt| ≤ bound := by
  have nonneg : 0 ≤ bound := (abs_nonneg _).trans filtered
  have raw : |if controller.firstUpdate then 0 else (error - controller.previousError) / dt| ≤
      bound := by
    split_ifs with first
    · rwa [abs_zero]
    · rw [abs_div, abs_of_pos positive, div_le_iff₀ positive]
      exact slew (by simpa using first)
  have filter : 0 ≤ Double.max 0 controller.gains.derivativeFilterTimeS := by
    rw [max_field]
    exact le_max_left _ _
  -- the weight of the raw derivative lies between zero and one
  obtain ⟨weight, share, nonnegWeight, weightLe⟩ :
      ∃ weight : K, dt / (Double.max 0 controller.gains.derivativeFilterTimeS + dt) = weight ∧
        0 ≤ weight ∧ weight ≤ 1 := by
    refine ⟨_, rfl, by positivity, ?_⟩
    rw [div_le_one (by positivity)]
    exact le_add_of_nonneg_left filter
  simp only [filterDerivative, share]
  rw [abs_le] at raw filtered ⊢
  constructor
  · nlinarith
  · nlinarith

/-- An accepted integral either fits the range with the other terms, or moves back
towards it. -/
theorem integral_step (controller : PidController K) (reference measurement dt margin : K)
    (positive : 0 < dt) (tuned : controller.Tuned)
    (derivative : |controller.gains.kd *
      controller.filterDerivative (reference - measurement) dt| ≤ margin)
    (wound : controller.Wound margin) :
    (controller.update reference measurement dt).1.Wound margin := by
  have valid : Double.ValidStep dt := (validStep_field dt).mpr positive
  obtain ⟨lower, upper⟩ := wound
  obtain ⟨derivativeLower, derivativeUpper⟩ := abs_le.mp derivative
  have ki := tuned.ki
  have kp := tuned.kp
  have ⟨below, above⟩ := tuned.straddles
  simp only [Wound, update, if_neg (not_not.mpr valid)]
  generalize controller.gains.kd * controller.filterDerivative (reference - measurement) dt =
    d at derivativeLower derivativeUpper ⊢
  generalize reference - measurement = error
  split_ifs with accepted
  · rcases le_or_gt 0 error with forward | backward
    · -- a forward error can only push the integral up
      have grows : 0 ≤ controller.gains.ki * (error * dt) := by positivity
      have proportional : 0 ≤ controller.gains.kp * error := by positivity
      refine ⟨by linarith [mul_add controller.gains.ki controller.integral (error * dt)], ?_⟩
      rcases accepted with ⟨inside, _⟩ | ⟨_, out⟩ | ⟨low, _⟩
      · linarith
      · linarith
      · linarith
    · have shrinks : controller.gains.ki * (error * dt) ≤ 0 :=
        mul_nonpos_of_nonneg_of_nonpos ki (mul_nonpos_of_nonpos_of_nonneg backward.le positive.le)
      have proportional : controller.gains.kp * error ≤ 0 :=
        mul_nonpos_of_nonneg_of_nonpos kp backward.le
      refine ⟨?_, by linarith [mul_add controller.gains.ki controller.integral (error * dt)]⟩
      rcases accepted with ⟨_, inside⟩ | ⟨high, _⟩ | ⟨_, out⟩
      · linarith
      · linarith
      · linarith
  · exact ⟨lower, upper⟩

/-- A call that adds no more than `margin` through the derivative. -/
def Damped (margin : K) (controller : PidController K) : Call K → Prop
  | .update reference measurement dtSeconds => Double.ValidStep dtSeconds ∧
    |controller.gains.kd * controller.filterDerivative (reference - measurement) dtSeconds| ≤ margin
  | .reset => True

theorem apply_wound (controller : PidController K) (call : Call K) (margin : K)
    (nonneg : 0 ≤ margin) (damped : controller.Damped margin call) (tuned : controller.Tuned)
    (wound : controller.Wound margin) : (controller.apply call).Wound margin := by
  cases call with
  | update reference measurement dt =>
    have positive : 0 < dt := (validStep_field dt).mp damped.1
    exact integral_step controller reference measurement dt margin positive tuned damped.2 wound
  | reset =>
    have ⟨below, above⟩ := tuned.straddles
    simp only [Wound, apply, reset, mul_zero]
    exact ⟨by linarith, by linarith⟩

theorem wound_run (controller : PidController K) (margin : K) (nonneg : 0 ≤ margin)
    (calls : List (Call K)) (damped : Along apply (Damped margin) controller calls)
    (tuned : controller.Tuned) (unwound : controller.integral = 0) :
    (run apply controller calls).Wound margin := by
  have ⟨below, above⟩ := tuned.straddles
  have start : controller.Wound margin := by
    rw [Wound, unwound, mul_zero]
    exact ⟨by linarith, by linarith⟩
  refine (run_invariant apply (Damped margin) (fun c => c.Tuned ∧ c.Wound margin) ?_ controller
    calls damped ⟨tuned, start⟩).2
  intro c call damped ⟨tuned, wound⟩
  exact ⟨apply_tuned c call tuned, apply_wound c call margin nonneg damped tuned wound⟩

/-- What the controller remembers of the calls made so far. -/
structure Traced (bound : K) (controller : PidController K) (calls : List (Call K)) : Prop where
  filtered : |controller.filteredDerivative| ≤ bound
  previous : controller.firstUpdate = false → ∃ reference measurement dtSeconds,
    calls.getLast? = some (.update reference measurement dtSeconds) ∧
      controller.previousError = reference - measurement

theorem traced_bounded {bound : K} {controller : PidController K} {calls : List (Call K)}
    (traced : Traced bound controller calls) (reference measurement dt : K) (positive : 0 < dt)
    (slew : Slew bound calls (.update reference measurement dt)) :
    |controller.filterDerivative (reference - measurement) dt| ≤ bound := by
  apply filterDerivative_bounded controller _ dt bound positive traced.filtered
  intro later
  obtain ⟨reference', measurement', dt', last, previous⟩ := traced.previous later
  rw [previous]
  exact slew reference' measurement' dt' last

theorem traced_run (gains : Gains K) (minimumOutput maximumOutput bound : K) (nonneg : 0 ≤ bound)
    (calls : List (Call K)) (valid : ∀ call ∈ calls, call.Valid)
    (slew : Throughout (Slew bound) calls) :
    Traced bound (run apply (create gains minimumOutput maximumOutput) calls) calls := by
  induction calls using List.reverseRecOn with
  | nil => exact ⟨by simpa [create] using nonneg, fun later => by simp [create] at later⟩
  | append_singleton calls call ih =>
    obtain ⟨earlier, last⟩ := (throughout_snoc _ calls call).mp slew
    obtain ⟨validEarlier, validLast⟩ := List.forall_mem_append.mp valid
    have traced := ih validEarlier earlier
    rw [run_snoc]
    cases call with
    | reset => exact ⟨by simpa [apply, reset] using nonneg, fun later => by cases later⟩
    | update reference measurement dt =>
      have valid : Double.ValidStep dt := validLast _ (List.mem_singleton_self _)
      have positive : 0 < dt := (validStep_field dt).mp valid
      have bounded := traced_bounded traced reference measurement dt positive last
      simp only [apply, update, if_neg (not_not.mpr valid)]
      exact ⟨bounded, fun _ => ⟨reference, measurement, dt, List.getLast?_concat, rfl⟩⟩

/-- As long as the error moves by at most `bound` per second, the integral term stays
within `kd * bound` of the output range; without a derivative term it never leaves it. -/
theorem anti_windup (gains : Gains K) (minimumOutput maximumOutput : K)
    (nonneg : 0 ≤ gains.kp ∧ 0 ≤ gains.ki ∧ 0 ≤ gains.kd)
    (straddles : minimumOutput ≤ 0 ∧ 0 ≤ maximumOutput) (calls : List (Call K))
    (valid : ∀ call ∈ calls, call.Valid) :
    let integral := (run apply (create gains minimumOutput maximumOutput) calls).integral
    (∀ bound, 0 ≤ bound → Throughout (Slew bound) calls →
      minimumOutput - gains.kd * bound ≤ gains.ki * integral ∧
        gains.ki * integral ≤ maximumOutput + gains.kd * bound) ∧
    (gains.kd = 0 → minimumOutput ≤ gains.ki * integral ∧ gains.ki * integral ≤ maximumOutput) := by
  intro integral
  have tuned : (create gains minimumOutput maximumOutput).Tuned :=
    ⟨nonneg.1, nonneg.2.1, nonneg.2.2, straddles⟩
  have kept : ∀ before, (run apply (create gains minimumOutput maximumOutput) before).gains =
      gains := fun before => (run_settings _ before).1
  have wound : ∀ margin, 0 ≤ margin →
      Along apply (Damped margin) (create gains minimumOutput maximumOutput) calls →
      minimumOutput - margin ≤ gains.ki * integral ∧
        gains.ki * integral ≤ maximumOutput + margin := by
    intro margin nonneg damped
    have result := wound_run _ margin nonneg calls damped tuned rfl
    obtain ⟨gainsKept, minimumKept, maximumKept⟩ := run_settings (create gains minimumOutput
      maximumOutput) calls
    rwa [Wound, gainsKept, minimumKept, maximumKept] at result
  constructor
  · intro bound nonnegBound slew
    apply wound _ (mul_nonneg nonneg.2.2 nonnegBound)
    rw [along_iff]
    intro before call after split
    cases call with
    | reset => trivial
    | update reference measurement dt =>
      have validCall := valid (.update reference measurement dt) (by rw [split]; simp)
      have traced := traced_run gains minimumOutput maximumOutput bound nonnegBound before
        (fun call member => valid call (by rw [split]; exact List.mem_append_left _ member))
        (throughout_left (split ▸ slew))
      have bounded := traced_bounded traced reference measurement dt
        ((validStep_field dt).mp validCall) (slew before _ after split)
      refine ⟨validCall, ?_⟩
      rw [kept before, abs_mul, abs_of_nonneg nonneg.2.2]
      exact mul_le_mul_of_nonneg_left bounded nonneg.2.2
  · intro noDerivative
    have result := wound 0 le_rfl (by
      rw [along_iff]
      intro before call after split
      cases call with
      | reset => trivial
      | update reference measurement dt =>
        refine ⟨valid (.update reference measurement dt) (by rw [split]; simp), ?_⟩
        rw [kept before, noDerivative, zero_mul, abs_zero])
    simpa using result

/-- The derivative of an error that falls by 5 per second makes room for the integral: its term
leaves the output range, but not by more than the derivative term. -/
theorem anti_windup_falling :
    let falling : List (Call ℚ) :=
      [.update 10 0 0.01, .update 9.95 0 0.01, .update 9.9 0 0.01]
    let integral := (run apply (create ⟨0, 10, 1, 0⟩ (-2) 2) falling).integral
    2 < 10 * integral ∧ 10 * integral ≤ 2 + 1 * 5 := by
  intro falling integral
  have slew : Throughout (Slew 5) falling := by
    refine (throughout_snoc _ [_, _] _).mpr ⟨(throughout_snoc _ [_] _).mpr
      ⟨(throughout_snoc _ [] _).mpr ⟨throughout_nil _, ?_⟩, ?_⟩, ?_⟩
    · rintro _ _ _ ⟨⟩
    · rintro _ _ _ ⟨⟩
      norm_num
    · rintro _ _ _ ⟨⟩
      norm_num
  have bounds := (anti_windup (⟨0, 10, 1, 0⟩ : Gains ℚ) (-2) 2 (by decide +kernel)
    (by decide +kernel) falling (by norm_num [falling, Call.Valid])).1 5 (by norm_num) slew
  exact ⟨by decide +kernel, bounds.2⟩

end PidController

end MotionBridge
