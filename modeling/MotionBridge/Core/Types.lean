import MotionBridge.Foundation.Double

namespace MotionBridge

open Foundation

inductive ControllerState where
  | powerOff
  | disabled
  | ready
  | running
  | stopping
  | fault
  | emergencyStop
  deriving DecidableEq, Repr

inductive FaultCode where
  | none
  | communicationTimeout
  | positionLimitExceeded
  | velocityLimitExceeded
  | followingErrorExceeded
  | controlLoopOverrun
  | invalidCommand
  deriving DecidableEq, Repr

/-- The `uint16_t` behind each enumerator. -/
def FaultCode.code : FaultCode → UInt16
  | none => 0
  | communicationTimeout => 1001
  | positionLimitExceeded => 1002
  | velocityLimitExceeded => 1003
  | followingErrorExceeded => 1004
  | controlLoopOverrun => 1005
  | invalidCommand => 1006

theorem FaultCode.code_eq_zero (fault : FaultCode) : fault.code = 0 ↔ fault = none := by
  cases fault <;> decide

structure MotionCommand (R : Type) where
  powerAvailable : Bool
  enable : Bool
  start : Bool
  stop : Bool
  resetFault : Bool
  emergencyStop : Bool
  targetPositionRad : R
  maxVelocityRadS : R
  maxAccelerationRadS2 : R
  deriving DecidableEq, Repr

/-- `MotionCommand{}`: powered, nothing requested, valid limits. -/
def MotionCommand.initial {R : Type} [Double R] : MotionCommand R where
  powerAvailable := true
  enable := false
  start := false
  stop := false
  resetFault := false
  emergencyStop := false
  targetPositionRad := 0
  maxVelocityRadS := 0.8
  maxAccelerationRadS2 := 1.5

structure ServoState (R : Type) where
  positionRad : R
  velocityRadS : R
  commandedTorqueNm : R
  simulatedCurrentA : R
  deriving DecidableEq, Repr

def ServoState.initial {R : Type} [Double R] : ServoState R := ⟨0, 0, 0, 0⟩

structure TrajectoryPoint (R : Type) where
  positionRad : R
  velocityRadS : R
  finished : Bool
  deriving DecidableEq, Repr

def TrajectoryPoint.initial {R : Type} [Double R] : TrajectoryPoint R := ⟨0, 0, true⟩

def TrajectoryPoint.map {R S : Type} (f : R → S) (point : TrajectoryPoint R) :
    TrajectoryPoint S :=
  ⟨f point.positionRad, f point.velocityRadS, point.finished⟩

structure LoopStatistics (R : Type) where
  cycles : UInt64
  deadlineMisses : UInt64
  meanExecutionUs : R
  maximumExecutionUs : R
  maximumJitterUs : R
  deriving DecidableEq, Repr

def LoopStatistics.initial {R : Type} [Double R] : LoopStatistics R := ⟨0, 0, 0, 0, 0⟩

structure ControllerStatus (R : Type) where
  state : ControllerState
  fault : FaultCode
  servo : ServoState R
  reference : TrajectoryPoint R
  followingErrorRad : R
  timing : LoopStatistics R
  targetReached : Bool
  deriving DecidableEq, Repr

def ControllerStatus.initial {R : Type} [Double R] : ControllerStatus R where
  state := .powerOff
  fault := .none
  servo := .initial
  reference := .initial
  followingErrorRad := 0
  timing := .initial
  targetReached := false

end MotionBridge
