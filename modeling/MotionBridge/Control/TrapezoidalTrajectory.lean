import MotionBridge.Core.Types
import MotionBridge.Foundation.Exact

namespace MotionBridge

open Foundation

structure TrapezoidalTrajectory (R : Type) where
  startPositionRad : R
  targetPositionRad : R
  referencePositionRad : R
  referenceVelocityRadS : R
  maxVelocityRadS : R
  maxAccelerationRadS2 : R
  direction : R
  distanceRad : R
  peakVelocityRadS : R
  accelerationTimeS : R
  cruiseTimeS : R
  elapsedTimeS : R
  totalTimeS : R
  active : Bool
  deriving DecidableEq, Repr

namespace TrapezoidalTrajectory

section Source

variable {R : Type} [Double R]

def initial : TrapezoidalTrajectory R where
  startPositionRad := 0
  targetPositionRad := 0
  referencePositionRad := 0
  referenceVelocityRadS := 0
  maxVelocityRadS := 0
  maxAccelerationRadS2 := 0
  direction := 1
  distanceRad := 0
  peakVelocityRadS := 0
  accelerationTimeS := 0
  cruiseTimeS := 0
  elapsedTimeS := 0
  totalTimeS := 0
  active := false

/-- The limits of the last move stay behind: only `setTarget` writes them. -/
def reset (trajectory : TrapezoidalTrajectory R) (positionRad : R) : TrapezoidalTrajectory R :=
  { trajectory with
    startPositionRad := positionRad
    targetPositionRad := positionRad
    referencePositionRad := positionRad
    referenceVelocityRadS := 0
    direction := 1
    distanceRad := 0
    peakVelocityRadS := 0
    accelerationTimeS := 0
    cruiseTimeS := 0
    elapsedTimeS := 0
    totalTimeS := 0
    active := false }

/-- The guard in front of a new profile. -/
def Rejects (targetPositionRad maxVelocityRadS maxAccelerationRadS2 : R) : Prop :=
  Double.isfinite targetPositionRad = false ∨ Double.isfinite maxVelocityRadS = false ∨
    Double.isfinite maxAccelerationRadS2 = false ∨ maxVelocityRadS ≤ 0 ∨ maxAccelerationRadS2 ≤ 0

instance (target velocity acceleration : R) : Decidable (Rejects target velocity acceleration) :=
  inferInstanceAs (Decidable (_ ∨ _))

/-- The profile from the present reference, once the arguments are accepted. -/
def plan (trajectory : TrapezoidalTrajectory R)
    (targetPositionRad maxVelocityRadS maxAccelerationRadS2 : R) : TrapezoidalTrajectory R :=
  let displacement := targetPositionRad - trajectory.referencePositionRad
  let distance := Double.abs displacement
  let rampTime := maxVelocityRadS / maxAccelerationRadS2
  let accelerationDistance := 0.5 * maxAccelerationRadS2 * rampTime * rampTime
  -- a triangular profile never reaches the velocity limit
  let triangular := 2.0 * accelerationDistance ≥ distance
  let accelerationTime :=
    if triangular then Double.sqrt (distance / maxAccelerationRadS2) else rampTime
  let peakVelocity := if triangular then maxAccelerationRadS2 * accelerationTime else maxVelocityRadS
  let cruiseTime := if triangular then 0 else (distance - 2.0 * accelerationDistance) / peakVelocity
  { trajectory with
    startPositionRad := trajectory.referencePositionRad
    targetPositionRad := targetPositionRad
    maxVelocityRadS := maxVelocityRadS
    maxAccelerationRadS2 := maxAccelerationRadS2
    direction := if displacement ≥ 0 then 1 else -1
    distanceRad := distance
    elapsedTimeS := 0
    accelerationTimeS := accelerationTime
    peakVelocityRadS := peakVelocity
    cruiseTimeS := cruiseTime
    totalTimeS := 2.0 * accelerationTime + cruiseTime
    active := decide (distance > 1e-12) }

def setTarget (trajectory : TrapezoidalTrajectory R)
    (targetPositionRad maxVelocityRadS maxAccelerationRadS2 : R) : TrapezoidalTrajectory R × Bool :=
  if Rejects targetPositionRad maxVelocityRadS maxAccelerationRadS2 then (trajectory, false)
  else (trajectory.plan targetPositionRad maxVelocityRadS maxAccelerationRadS2, true)

def current (trajectory : TrapezoidalTrajectory R) : TrajectoryPoint R :=
  ⟨trajectory.referencePositionRad, trajectory.referenceVelocityRadS, !trajectory.active⟩

def target (trajectory : TrapezoidalTrajectory R) : R := trajectory.targetPositionRad

/-- A point on the profile, turned into the reference. -/
def follow (trajectory : TrapezoidalTrajectory R) (elapsed profilePosition profileVelocity : R) :
    TrapezoidalTrajectory R :=
  { trajectory with
    elapsedTimeS := elapsed
    referencePositionRad := trajectory.startPositionRad + trajectory.direction * profilePosition
    referenceVelocityRadS := trajectory.direction * profileVelocity }

def arrive (trajectory : TrapezoidalTrajectory R) (elapsed : R) : TrapezoidalTrajectory R :=
  { trajectory with
    elapsedTimeS := elapsed
    referencePositionRad := trajectory.targetPositionRad
    referenceVelocityRadS := 0
    active := false }

/-- The source returns `current()` of the result. -/
def update (trajectory : TrapezoidalTrajectory R) (dtSeconds : R) : TrapezoidalTrajectory R :=
  if trajectory.active = false ∨ ¬Double.ValidStep dtSeconds then trajectory
  else
    let a := trajectory.maxAccelerationRadS2
    let peak := trajectory.peakVelocityRadS
    let elapsed := Double.min (trajectory.elapsedTimeS + dtSeconds) trajectory.totalTimeS
    let accelerationDistance :=
      0.5 * a * trajectory.accelerationTimeS * trajectory.accelerationTimeS
    let cruiseDistance := peak * trajectory.cruiseTimeS
    if elapsed < trajectory.accelerationTimeS then
      trajectory.follow elapsed (0.5 * a * elapsed * elapsed) (a * elapsed)
    else if elapsed < trajectory.accelerationTimeS + trajectory.cruiseTimeS then
      let cruiseElapsed := elapsed - trajectory.accelerationTimeS
      trajectory.follow elapsed (accelerationDistance + peak * cruiseElapsed) peak
    else if elapsed < trajectory.totalTimeS then
      let decelerationElapsed := elapsed - trajectory.accelerationTimeS - trajectory.cruiseTimeS
      trajectory.follow elapsed
        (accelerationDistance + cruiseDistance + peak * decelerationElapsed
          - 0.5 * a * decelerationElapsed * decelerationElapsed)
        (peak - a * decelerationElapsed)
    else trajectory.arrive elapsed

/-- The member functions that change a trajectory. -/
inductive Operation (R : Type) where
  | reset (positionRad : R)
  | setTarget (targetPositionRad maxVelocityRadS maxAccelerationRadS2 : R)
  | update (dtSeconds : R)
  deriving DecidableEq, Repr

def apply (trajectory : TrapezoidalTrajectory R) : Operation R → TrapezoidalTrajectory R
  | .reset positionRad => trajectory.reset positionRad
  | .setTarget targetPositionRad maxVelocityRadS maxAccelerationRadS2 =>
    (trajectory.setTarget targetPositionRad maxVelocityRadS maxAccelerationRadS2).1
  | .update dtSeconds => trajectory.update dtSeconds

@[simp] theorem target_plan (trajectory : TrapezoidalTrajectory R) (p v a : R) :
    (trajectory.plan p v a).targetPositionRad = p := rfl

@[simp] theorem referencePosition_plan (trajectory : TrapezoidalTrajectory R) (p v a : R) :
    (trajectory.plan p v a).referencePositionRad = trajectory.referencePositionRad := rfl

theorem setTarget_accepted (trajectory : TrapezoidalTrajectory R) (p v a : R)
    (accepted : ¬Rejects p v a) : trajectory.setTarget p v a = (trajectory.plan p v a, true) :=
  if_neg accepted

theorem setTarget_rejected (trajectory : TrapezoidalTrajectory R) (p v a : R)
    (rejected : Rejects p v a) : trajectory.setTarget p v a = (trajectory, false) :=
  if_pos rejected

theorem update_inactive (trajectory : TrapezoidalTrajectory R) (dt : R)
    (inactive : trajectory.active = false) : trajectory.update dt = trajectory :=
  if_pos (Or.inl inactive)

/-- Following a profile leaves its target alone. -/
@[simp] theorem target_update (trajectory : TrapezoidalTrajectory R) (dt : R) :
    (trajectory.update dt).targetPositionRad = trajectory.targetPositionRad := by
  simp only [update]
  split_ifs <;> rfl

/-- Where the reference comes to rest if no new profile is planned. -/
def restingPoint (trajectory : TrapezoidalTrajectory R) : R :=
  if trajectory.active then trajectory.targetPositionRad else trajectory.referencePositionRad

theorem update_resting (trajectory : TrapezoidalTrajectory R) (dt : R)
    (finished : (trajectory.update dt).active = false) :
    (trajectory.update dt).referencePositionRad = trajectory.restingPoint := by
  by_cases idle : trajectory.active = false
  · rw [update_inactive trajectory dt idle, restingPoint, idle]
    rfl
  · have active : trajectory.active = true := by simpa using idle
    rw [restingPoint, active, if_pos rfl]
    -- every branch but the last one leaves the profile active
    simp only [update] at finished ⊢
    split_ifs at finished ⊢
    · exact absurd finished idle
    · exact absurd finished idle
    · exact absurd finished idle
    · exact absurd finished idle
    · rfl

end Source

def map {R S : Type} (f : R → S) (trajectory : TrapezoidalTrajectory R) :
    TrapezoidalTrajectory S where
  startPositionRad := f trajectory.startPositionRad
  targetPositionRad := f trajectory.targetPositionRad
  referencePositionRad := f trajectory.referencePositionRad
  referenceVelocityRadS := f trajectory.referenceVelocityRadS
  maxVelocityRadS := f trajectory.maxVelocityRadS
  maxAccelerationRadS2 := f trajectory.maxAccelerationRadS2
  direction := f trajectory.direction
  distanceRad := f trajectory.distanceRad
  peakVelocityRadS := f trajectory.peakVelocityRadS
  accelerationTimeS := f trajectory.accelerationTimeS
  cruiseTimeS := f trajectory.cruiseTimeS
  elapsedTimeS := f trajectory.elapsedTimeS
  totalTimeS := f trajectory.totalTimeS
  active := trajectory.active

@[simp] theorem current_map {R S : Type} (f : R → S) (trajectory : TrapezoidalTrajectory R) :
    (trajectory.map f).current = trajectory.current.map f := rfl

theorem restingPoint_map {R S : Type} (f : R → S) (trajectory : TrapezoidalTrajectory R) :
    (trajectory.map f).restingPoint = f trajectory.restingPoint := by
  cases active : trajectory.active with
  | true => simp [restingPoint, map, active]
  | false => simp [restingPoint, map, active]

/-! In exact arithmetic a finite trajectory stays finite, and its operations are
those of the field. -/

section Finite

open Exact (fin)

variable {K : Type} [Field K] [LinearOrder K] [SquareRoot K]

theorem reset_fin (trajectory : TrapezoidalTrajectory K) (p : K) :
    (trajectory.map fin).reset (fin p) = (trajectory.reset p).map fin := rfl

theorem update_fin (trajectory : TrapezoidalTrajectory K) (dt : K) :
    (trajectory.map fin).update (fin dt) = (trajectory.update dt).map fin := by
  have valid : Double.ValidStep (fin dt) ↔ Double.ValidStep dt := by simp [Double.ValidStep]
  simp only [update, valid]
  by_cases skipped : trajectory.active = false ∨ ¬Double.ValidStep dt
  · rw [if_pos skipped, if_pos (by exact skipped)]
  · rw [if_neg skipped, if_neg (by exact skipped)]
    simp only [map, Exact.fin_add, Exact.fin_min, Exact.ofScientific_eq, Exact.fin_mul,
      Exact.fin_lt_fin, Exact.fin_sub, follow, arrive, Exact.zero_eq]
    split_ifs <;> rfl

/-- An invalid step is ignored, so no step brings in a special value. -/
theorem update_finite (trajectory : TrapezoidalTrajectory K) (dt : Exact K) :
    ∃ next : TrapezoidalTrajectory K, (trajectory.map fin).update dt = next.map fin := by
  by_cases valid : Double.ValidStep dt
  · obtain ⟨x, rfl, _⟩ := (Exact.validStep_iff dt).mp valid
    exact ⟨trajectory.update x, update_fin trajectory x⟩
  · exact ⟨trajectory, if_pos (Or.inr valid)⟩

/-- Accepted arguments are finite, and the limits positive. -/
theorem accepted_fin {p v a : Exact K} (accepted : ¬Rejects p v a) :
    ∃ p' v' a', p = fin p' ∧ v = fin v' ∧ a = fin a' ∧ 0 < v' ∧ 0 < a' := by
  simp only [Rejects, not_or, Bool.not_eq_false] at accepted
  obtain ⟨hp, hv, ha, positiveV, positiveA⟩ := accepted
  obtain ⟨p', rfl⟩ := (Exact.isfinite_iff p).mp hp
  obtain ⟨v', rfl⟩ := (Exact.isfinite_iff v).mp hv
  obtain ⟨a', rfl⟩ := (Exact.isfinite_iff a).mp ha
  exact ⟨p', v', a', rfl, rfl, rfl, not_le.mp positiveV, not_le.mp positiveA⟩

variable [IsStrictOrderedRing K]

theorem plan_fin (trajectory : TrapezoidalTrajectory K) (p v a : K) (positiveV : 0 < v)
    (positiveA : 0 < a) :
    (trajectory.map fin).plan (fin p) (fin v) (fin a) = (trajectory.plan p v a).map fin := by
  have root : 0 ≤ |p - trajectory.referencePositionRad| / a := by positivity
  simp only [plan, map, Exact.fin_sub, Exact.abs_fin, Exact.fin_div _ _ positiveA.ne',
    Exact.ofScientific_eq, Exact.fin_mul, Exact.fin_le_fin, ge_iff_le, gt_iff_lt, Exact.fin_lt_fin,
    Exact.sqrt_fin _ root, Exact.zero_eq, Exact.one_eq, Exact.fin_neg, abs_field]
  split_ifs <;> simp only [Exact.fin_div _ _ positiveV.ne', Exact.fin_mul, Exact.fin_add]

/-- A fresh profile comes to rest at the target it was planned for, or is too short
to be worth following. -/
theorem plan_resting (trajectory : TrapezoidalTrajectory K) (p v a : K) :
    |(trajectory.plan p v a).restingPoint - p| ≤ 1e-12 := by
  by_cases moves : |p - trajectory.referencePositionRad| > 1e-12
  · have active : (trajectory.plan p v a).active = true := decide_eq_true moves
    rw [restingPoint, if_pos active, target_plan, sub_self, abs_zero]
    norm_num
  · have idle : ¬(trajectory.plan p v a).active = true := by
      intro active
      exact moves (of_decide_eq_true active)
    rw [restingPoint, if_neg idle, referencePosition_plan, abs_sub_comm]
    exact not_lt.mp moves

end Finite

end TrapezoidalTrajectory

end MotionBridge
