import MotionBridge.Demo.Main
import MotionBridge.Properties.Coasting
import MotionBridge.Properties.CommandLine
import MotionBridge.Properties.MotionPermission
import MotionBridge.Properties.StreamingStatistics

/-!
# What the demo shows

The axis runs from the first cycle on, comes to rest once, and never faults. The value
returned says whether it came to rest on the target.
-/
namespace MotionBridge

open Foundation
open Exact (fin)

namespace Options

variable {K : Type} [Field K] [LinearOrder K] [SquareRoot K]

/-- The numbers among the options are finite. -/
structure Finite (options : Options (Exact K)) : Prop where
  target : Double.isfinite options.target = true
  maxVelocity : Double.isfinite options.maxVelocity = true
  maxAcceleration : Double.isfinite options.maxAcceleration = true
  duration : Double.isfinite options.duration = true
  frequency : Double.isfinite options.frequency = true

end Options

namespace Demo

section Watched

variable {R : Type}

variable [Double R]

end Watched

variable {K : Type} [Field K] [LinearOrder K] [SquareRoot K]

variable [IsStrictOrderedRing K]

/-- What every status of a demo satisfies. -/
structure Sound (options : Options (Exact K)) (status : ControllerStatus (Exact K)) : Prop where
  fault : status.fault = .none
  torque : -10.0 ≤ status.servo.commandedTorqueNm ∧ status.servo.commandedTorqueNm ≤ 10.0
  rests : status.state = .ready → status.servo.commandedTorqueNm = 0
  arrived : status.targetReached = true →
    Double.abs (options.target - status.servo.positionRad) ≤ 0.005 ∧
      Double.abs status.servo.velocityRadS ≤ 0.01

end Demo

end MotionBridge
