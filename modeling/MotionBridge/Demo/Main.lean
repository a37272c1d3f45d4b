import MotionBridge.Demo.Options
import MotionBridge.Runtime.RunFor

/-!
# The demo program

`main` reads its options, brings an axis into motion with three steps of a control loop,
and runs the loop for the rest of the time.
-/
namespace MotionBridge

open Foundation

namespace Demo

/-- A line of the CSV file. -/
structure Row (R : Type) where
  timeS : R
  state : ControllerState
  referencePositionRad : R
  actualPositionRad : R
  referenceVelocityRadS : R
  actualVelocityRadS : R
  torqueNm : R
  followingErrorRad : R
  deriving DecidableEq, Repr

/-- A line about the progress of the run. -/
structure Progress (R : Type) where
  cycle : UInt64
  state : ControllerState
  referencePositionRad : R
  positionRad : R
  velocityRadS : R
  torqueNm : R
  deriving DecidableEq, Repr

/-- What a run shows: the statuses its callback was called with, the lines it wrote of
them, and the status it ended with. -/
structure Outcome (R : Type) where
  watched : List (ControllerStatus R)
  rows : List (Row R)
  progress : List (Progress R)
  status : ControllerStatus R
  deriving DecidableEq, Repr

/-- How `main` returns. -/
inductive Return (R : Type) where
  | help
  | exception (what : String)
  | finished (outcome : Outcome R)
  deriving DecidableEq, Repr

/-- What `main` meets outside: `strtod` and the conversion to `std::uint64_t`, a file
system that opens a file, fails to, or throws on the way, and the clock. -/
structure Surroundings (R : Type) where
  strtod : String → R × ℕ
  truncate : R → UInt64
  openCsv : String → Except String Bool
  clock : ℕ → R × R × Bool

variable {R : Type} [Double R]

def controller : PidController R := .create ⟨32.0, 5.0, 2.0, 0.008⟩ (-10.0) 10.0

/-- The commands of the three steps, and the one that stays in force. -/
def enableCommand : MotionCommand R := { (MotionCommand.initial : MotionCommand R) with enable := true }

def startCommand (options : Options R) : MotionCommand R :=
  { (enableCommand : MotionCommand R) with
    start := true
    targetPositionRad := options.target
    maxVelocityRadS := options.maxVelocity
    maxAccelerationRadS2 := options.maxAcceleration }

def moveCommand (options : Options R) : MotionCommand R :=
  { startCommand options with start := false }

/-- The part of `main` before the run. -/
def started (options : Options R) (plant : ServoPlant R) : ControlLoop R :=
  let dt := 1 / options.frequency
  let loop := ControlLoop.create ⟨options.frequency, 0.005, 0.01⟩ controller plant
  let loop := (loop.setCommand .initial).step dt
  let loop := (loop.setCommand enableCommand).step dt
  let loop := (loop.setCommand (startCommand options)).step dt
  loop.setCommand (moveCommand options)

/-- The callback makes no calls of the loop, so it sees what its cycle leaves. -/
def watched (loop : ControlLoop R) (realTime : Bool) :
    List (ControlLoop.Cycle R) → List (ControllerStatus R)
  | [] => []
  | measured :: rest =>
    let next := loop.cycle realTime measured
    if next.status.targetReached = true ∧ next.status.state = .ready then [next.status]
    else next.status :: watched next realTime rest

def row (options : Options R) (status : ControllerStatus R) : Row R where
  timeS := OfScientific.ofScientific status.timing.cycles.toNat false 0 / options.frequency
  state := status.state
  referencePositionRad := status.reference.positionRad
  actualPositionRad := status.servo.positionRad
  referenceVelocityRadS := status.reference.velocityRadS
  actualVelocityRadS := status.servo.velocityRadS
  torqueNm := status.servo.commandedTorqueNm
  followingErrorRad := status.followingErrorRad

/-- The lines about the progress, with the cycle reported last. -/
def progress (interval lastReportCycle : UInt64) :
    List (ControllerStatus R) → List (Progress R)
  | [] => []
  | status :: rest =>
    let cycles := status.timing.cycles
    if interval > 0 ∧ cycles ≥ lastReportCycle + interval then
      { cycle := cycles
        state := status.state
        referencePositionRad := status.reference.positionRad
        positionRad := status.servo.positionRad
        velocityRadS := status.servo.velocityRadS
        torqueNm := status.servo.commandedTorqueNm } :: progress interval cycles rest
    else progress interval lastReportCycle rest

/-- The cycles as the clock shows them. -/
def cycles (surroundings : Surroundings R) (cycle : ℕ) : ControlLoop.Cycle R :=
  let (executionUs, jitterUs, missed) := surroundings.clock cycle
  ⟨executionUs, jitterUs, missed, []⟩

/-- The part of `main` from the run on. -/
def perform (surroundings : Surroundings R) (options : Options R) (csv : Bool)
    (loop : ControlLoop R) : Outcome R :=
  let realTime := !options.fast
  let cycleCount := surroundings.truncate (Double.max 0 options.duration * options.frequency)
  let statuses :=
    watched loop realTime ((List.range cycleCount.toNat).map (cycles surroundings))
  let interval := surroundings.truncate (options.frequency / 4.0)
  { watched := statuses
    rows := if csv then statuses.map (row options) else []
    progress := progress interval 0 statuses
    status := (loop.runFor surroundings.truncate options.duration realTime
      (cycles surroundings)).status }

/-- The value `main` returns. -/
def Return.code : Return R → ℕ
  | help => 0
  | exception _ => 1
  | finished outcome =>
    if outcome.status.targetReached = true ∧ outcome.status.fault = .none then 0 else 2

end Demo

end MotionBridge
