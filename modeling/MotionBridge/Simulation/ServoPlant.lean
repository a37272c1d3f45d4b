import MotionBridge.Core.Types
import MotionBridge.Foundation.Exact

namespace MotionBridge

open Foundation

structure Parameters (R : Type) where
  inertiaKgM2 : R
  viscousDampingNmSRad : R
  torqueConstantNmA : R
  maximumTorqueNm : R
  deriving DecidableEq, Repr

/-- `Parameters{}`. -/
def Parameters.initial {R : Type} [Double R] : Parameters R := ⟨0.08, 0.18, 0.5, 10.0⟩

/-- What the constructor checks. -/
def Parameters.Positive {R : Type} [Double R] (parameters : Parameters R) : Prop :=
  0 < parameters.inertiaKgM2 ∧ 0 < parameters.torqueConstantNmA ∧ 0 < parameters.maximumTorqueNm

instance {R : Type} [Double R] (parameters : Parameters R) : Decidable parameters.Positive :=
  inferInstanceAs (Decidable (_ ∧ _ ∧ _))

/-- A plant exists only with parameters its constructor accepted. -/
structure ServoPlant (R : Type) [Double R] where
  parameters : Parameters R
  positive : parameters.Positive
  state : ServoState R

namespace ServoPlant

section Source

variable {R : Type} [Double R]

def create (parameters : Parameters R) : Except String (ServoPlant R) :=
  if positive : parameters.Positive then .ok ⟨parameters, positive, .initial⟩
  else .error "ServoPlant parameters must be positive"

/-- Semi-implicit Euler: the new velocity moves the position. -/
def update (plant : ServoPlant R) (torqueCommandNm dtSeconds : R) : ServoPlant R :=
  if ¬Double.ValidStep dtSeconds then plant
  else
    let p := plant.parameters
    let torque := Double.clamp torqueCommandNm (-p.maximumTorqueNm) p.maximumTorqueNm
    let acceleration :=
      (torque - p.viscousDampingNmSRad * plant.state.velocityRadS) / p.inertiaKgM2
    let velocity := plant.state.velocityRadS + acceleration * dtSeconds
    { plant with
      state :=
        { positionRad := plant.state.positionRad + velocity * dtSeconds
          velocityRadS := velocity
          commandedTorqueNm := torque
          simulatedCurrentA := torque / p.torqueConstantNmA } }

def reset (plant : ServoPlant R) (positionRad : R) : ServoPlant R :=
  { plant with state := { ServoState.initial with positionRad := positionRad } }

theorem update_parameters (plant : ServoPlant R) (torque dt : R) :
    (plant.update torque dt).parameters = plant.parameters := by
  simp only [update]
  split_ifs <;> rfl

theorem update_torque (plant : ServoPlant R) (torque dt : R) (valid : Double.ValidStep dt) :
    (plant.update torque dt).state.commandedTorqueNm =
      Double.clamp torque (-plant.parameters.maximumTorqueNm) plant.parameters.maximumTorqueNm := by
  simp only [update, if_neg (not_not.mpr valid)]

def coastedVelocity (plant : ServoPlant R) (dtSeconds : R) : R :=
  plant.state.velocityRadS +
    (0 - plant.parameters.viscousDampingNmSRad * plant.state.velocityRadS) /
      plant.parameters.inertiaKgM2 * dtSeconds

def coastedPosition (plant : ServoPlant R) (dtSeconds : R) : R :=
  plant.state.positionRad + plant.coastedVelocity dtSeconds * dtSeconds

theorem update_coasts [Double.Lawful R] (plant : ServoPlant R) (dt : R)
    (valid : Double.ValidStep dt) :
    (plant.update 0 dt).state.velocityRadS = plant.coastedVelocity dt ∧
      (plant.update 0 dt).state.positionRad = plant.coastedPosition dt := by
  have torque := Double.clamp_zero plant.positive.2.2
  simp only [update, if_neg (not_not.mpr valid), torque]
  exact ⟨rfl, rfl⟩

end Source

section Finite

open Exact (fin)

variable {K : Type} [Field K] [LinearOrder K] [SquareRoot K]

/-- A plant over the field, seen with the special values added. -/
def lift (plant : ServoPlant K) : ServoPlant (Exact K) where
  parameters :=
    { inertiaKgM2 := fin plant.parameters.inertiaKgM2
      viscousDampingNmSRad := fin plant.parameters.viscousDampingNmSRad
      torqueConstantNmA := fin plant.parameters.torqueConstantNmA
      maximumTorqueNm := fin plant.parameters.maximumTorqueNm }
  positive := plant.positive
  state :=
    { positionRad := fin plant.state.positionRad
      velocityRadS := fin plant.state.velocityRadS
      commandedTorqueNm := fin plant.state.commandedTorqueNm
      simulatedCurrentA := fin plant.state.simulatedCurrentA }

theorem update_fin (plant : ServoPlant K) (torque dt : K) :
    plant.lift.update (fin torque) (fin dt) = (plant.update torque dt).lift := by
  have valid : Double.ValidStep (fin dt) ↔ Double.ValidStep dt := by simp [Double.ValidStep]
  -- the constructor's checks keep both divisors away from zero
  have inertia : plant.parameters.inertiaKgM2 ≠ 0 := ne_of_gt plant.positive.1
  have constant : plant.parameters.torqueConstantNmA ≠ 0 := ne_of_gt plant.positive.2.1
  simp only [update, valid]
  by_cases skipped : Double.ValidStep dt
  · rw [if_neg (not_not.mpr skipped), if_neg (not_not.mpr skipped)]
    simp only [lift, Exact.fin_neg, Exact.fin_clamp, Exact.fin_mul, Exact.fin_sub,
      Exact.fin_div _ _ inertia, Exact.fin_div _ _ constant, Exact.fin_add]
  · rw [if_pos skipped, if_pos skipped]

/-- `ServoPlant{}` is accepted by its own constructor. -/
theorem initial_positive [IsStrictOrderedRing K] : (Parameters.initial : Parameters K).Positive := by
  refine ⟨?_, ?_, ?_⟩ <;> norm_num [Parameters.initial]

def initial [IsStrictOrderedRing K] : ServoPlant K := ⟨.initial, initial_positive, .initial⟩

theorem update_finite (plant : ServoPlant K) (torque : K) (dt : Exact K) :
    ∃ next : ServoPlant K, plant.lift.update (fin torque) dt = next.lift ∧
      next.parameters = plant.parameters := by
  by_cases valid : Double.ValidStep dt
  · obtain ⟨x, rfl, _⟩ := (Exact.validStep_iff dt).mp valid
    exact ⟨_, update_fin plant torque x, update_parameters plant torque x⟩
  · exact ⟨plant, if_pos valid, rfl⟩

end Finite

end ServoPlant

end MotionBridge
