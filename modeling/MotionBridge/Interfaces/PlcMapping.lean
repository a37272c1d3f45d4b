import Mathlib.Data.Nat.Bitwise
import MotionBridge.Core.Types

namespace MotionBridge

open Foundation

namespace PlcControlBit

def enable : UInt16 := (1 : UInt16) <<< 0
def start : UInt16 := (1 : UInt16) <<< 1
def stop : UInt16 := (1 : UInt16) <<< 2
def resetFault : UInt16 := (1 : UInt16) <<< 3
def emergencyStop : UInt16 := (1 : UInt16) <<< 4
def powerAvailable : UInt16 := (1 : UInt16) <<< 5

end PlcControlBit

namespace PlcStatusBit

def ready : UInt16 := (1 : UInt16) <<< 0
def running : UInt16 := (1 : UInt16) <<< 1
def fault : UInt16 := (1 : UInt16) <<< 2
def emergencyStop : UInt16 := (1 : UInt16) <<< 3
def targetReached : UInt16 := (1 : UInt16) <<< 4

end PlcStatusBit

structure PlcCommandData (R : Type) where
  controlWord : UInt16
  targetPositionRad : R
  maxVelocityRadS : R
  maxAccelerationRadS2 : R
  heartbeat : UInt32
  deriving DecidableEq, Repr

/-- `PlcCommandData{}`. -/
def PlcCommandData.initial {R : Type} [Double R] : PlcCommandData R :=
  ⟨PlcControlBit.powerAvailable, 0, 0.8, 1.5, 0⟩

structure PlcStatusData (R : Type) where
  statusWord : UInt16
  actualPositionRad : R
  actualVelocityRadS : R
  followingErrorRad : R
  faultCode : UInt16
  controllerHeartbeat : UInt32
  deriving DecidableEq, Repr

/-- `PlcStatusData{}`. -/
def PlcStatusData.initial {R : Type} [Double R] : PlcStatusData R := ⟨0, 0, 0, 0, 0, 0⟩

variable {R : Type}

def decodePlcCommand (data : PlcCommandData R) : MotionCommand R :=
  let bitIsSet (bit : UInt16) : Bool := data.controlWord &&& bit != 0
  { powerAvailable := bitIsSet PlcControlBit.powerAvailable
    enable := bitIsSet PlcControlBit.enable
    start := bitIsSet PlcControlBit.start
    stop := bitIsSet PlcControlBit.stop
    resetFault := bitIsSet PlcControlBit.resetFault
    emergencyStop := bitIsSet PlcControlBit.emergencyStop
    targetPositionRad := data.targetPositionRad
    maxVelocityRadS := data.maxVelocityRadS
    maxAccelerationRadS2 := data.maxAccelerationRadS2 }

/-- One `if` of the source: the bit is or-ed in when its condition holds. -/
def setBit (word : UInt16) (condition : Bool) (bit : UInt16) : UInt16 :=
  if condition then word ||| bit else word

def statusWord (state : ControllerState) (targetReached : Bool) : UInt16 :=
  let word := setBit 0 (state == .ready) PlcStatusBit.ready
  let word := setBit word (state == .running) PlcStatusBit.running
  let word := setBit word (state == .fault) PlcStatusBit.fault
  let word := setBit word (state == .emergencyStop) PlcStatusBit.emergencyStop
  setBit word targetReached PlcStatusBit.targetReached

def encodePlcStatus (status : ControllerStatus R) (controllerHeartbeat : UInt32) :
    PlcStatusData R where
  statusWord := statusWord status.state status.targetReached
  actualPositionRad := status.servo.positionRad
  actualVelocityRadS := status.servo.velocityRadS
  followingErrorRad := status.followingErrorRad
  faultCode := status.fault.code
  controllerHeartbeat := controllerHeartbeat

/-- Masking with a single bit looks at that bit. -/
theorem bit_isSet (word bit : UInt16) (k : Nat) (single : bit.toNat = 2 ^ k) :
    (word &&& bit != 0) = word.toNat.testBit k := by
  have masked : (word &&& bit).toNat = (word.toNat.testBit k).toNat * 2 ^ k := by
    rw [UInt16.toNat_and, single, Nat.and_two_pow]
  cases isSet : word.toNat.testBit k with
  | true =>
    rw [isSet, Bool.toNat_true, Nat.one_mul] at masked
    have nonzero : word &&& bit ≠ 0 := by
      intro zero
      rw [zero] at masked
      exact absurd masked.symm (Nat.two_pow_pos k).ne'
    exact bne_iff_ne.mpr nonzero
  | false =>
    rw [isSet, Bool.toNat_false, Nat.zero_mul] at masked
    exact bne_eq_false_iff_eq.mpr (UInt16.toNat_inj.mp masked)

/-- Each state bit of the status word names exactly its own state. -/
theorem statusWord_bits (state : ControllerState) (targetReached : Bool) :
    (statusWord state targetReached &&& PlcStatusBit.ready ≠ 0 ↔ state = .ready) ∧
    (statusWord state targetReached &&& PlcStatusBit.running ≠ 0 ↔ state = .running) ∧
    (statusWord state targetReached &&& PlcStatusBit.fault ≠ 0 ↔ state = .fault) ∧
    (statusWord state targetReached &&& PlcStatusBit.emergencyStop ≠ 0 ↔ state = .emergencyStop) ∧
    (statusWord state targetReached &&& PlcStatusBit.targetReached ≠ 0 ↔
      targetReached = true) := by
  cases state <;> cases targetReached <;> decide

end MotionBridge
