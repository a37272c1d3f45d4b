import MotionBridge.Interfaces.PlcMapping
import MotionBridge.Runtime.LatestValueMailbox

/-!
# The communication thread

`run` is cut into steps at every call of the PLC, every lock attempt and every
sleep. What the PLC and the mutexes answer is an input of each step.
-/
namespace MotionBridge

structure PlcCommunicationWorker.Configuration where
  pollPeriodMs : Int
  reconnectPeriodMs : Int
  deriving DecidableEq, Repr

namespace PlcCommunicationWorker

/-- `Configuration{}`. -/
def Configuration.initial : Configuration := ⟨20, 500⟩

structure Statistics where
  successfulReads : UInt64
  successfulWrites : UInt64
  communicationErrors : UInt64
  deriving DecidableEq, Repr

/-- Where `run` stands: before the step it is named after. -/
inductive Point (R : Type) where
  | head
  | connect
  | sleepReconnect
  | readCommand
  | lockCommand (command : PlcCommandData R)
  | publishCommand (command : PlcCommandData R)
  | lockStatus
  | readStatus
  | writeStatus (status : Snapshot (PlcStatusData R))
  | sleepCycle
  | disconnect
  | finished
  deriving DecidableEq, Repr

/-- The `std::jthread`, with the stop token and the local variable of `run`. -/
structure Thread (R : Type) where
  point : Point R
  stopRequested : Bool
  lastStatusSequence : UInt64
  deriving DecidableEq, Repr

/-- What the surroundings of `run` answer; a step looks at the answer it asks for. -/
structure Answers (R : Type) where
  connects : Bool
  reply : Option (PlcCommandData R)
  lucky : Bool
  writes : Bool
  deriving DecidableEq, Repr

inductive Event (R : Type) where
  | connect (accepted : Bool)
  | disconnect
  | sleep
  | read (reply : Option (PlcCommandData R))
  | publish (command : Snapshot (PlcCommandData R))
  | write (status : Snapshot (PlcStatusData R)) (accepted : Bool)
  deriving DecidableEq, Repr

end PlcCommunicationWorker

structure PlcCommunicationWorker (R : Type) where
  configuration : PlcCommunicationWorker.Configuration
  commandMailbox : LatestValueMailbox (PlcCommandData R)
  statusMailbox : LatestValueMailbox (PlcStatusData R)
  thread : Option (PlcCommunicationWorker.Thread R)
  connected : Bool
  statistics : PlcCommunicationWorker.Statistics
  deriving DecidableEq, Repr

namespace PlcCommunicationWorker

variable {R : Type}

def create (configuration : Configuration) : Except String (PlcCommunicationWorker R) :=
  if configuration.pollPeriodMs ≤ 0 ∨ configuration.reconnectPeriodMs ≤ 0 then
    .error "PLC worker periods must be positive"
  else
    .ok {
      configuration := configuration
      commandMailbox := .initial
      statusMailbox := .initial
      thread := none
      connected := false
      statistics := ⟨0, 0, 0⟩ }

/-- A thread that is still joinable is not replaced. -/
def start (worker : PlcCommunicationWorker R) : PlcCommunicationWorker R :=
  match worker.thread with
  | some _ => worker
  | none => { worker with thread := some ⟨.head, false, 0⟩ }

/-- The first half of `stop`. -/
def requestStop (worker : PlcCommunicationWorker R) : PlcCommunicationWorker R :=
  { worker with thread := worker.thread.map fun thread => { thread with stopRequested := true } }

/-- The second half of `stop`, which waits until `run` has returned. -/
def join (worker : PlcCommunicationWorker R) : PlcCommunicationWorker R :=
  match worker.thread with
  | some thread => if thread.point matches .finished then { worker with thread := none } else worker
  | none => worker

def moveTo (worker : PlcCommunicationWorker R) (thread : Thread R) (point : Point R) :
    PlcCommunicationWorker R :=
  { worker with thread := some { thread with point := point } }

/-- The error path of a failed read or write, back to the head of the loop. -/
def fail (worker : PlcCommunicationWorker R) (thread : Thread R) : PlcCommunicationWorker R :=
  { worker with
    thread := some { thread with point := .head }
    connected := false
    statistics := { worker.statistics with
      communicationErrors := worker.statistics.communicationErrors + 1 } }

/-- One step of `run`. -/
def run (worker : PlcCommunicationWorker R) (thread : Thread R) (answers : Answers R) :
    PlcCommunicationWorker R × List (Event R) :=
  match thread.point with
  | .head =>
    let point := if thread.stopRequested then .disconnect
      else if worker.connected then .readCommand else .connect
    (worker.moveTo thread point, [])
  | .connect =>
    if answers.connects then
      ({ worker with connected := true }.moveTo thread .readCommand, [.connect true])
    else
      let errors := worker.statistics.communicationErrors + 1
      ({ worker with statistics := { worker.statistics with communicationErrors := errors } }.moveTo
        thread .sleepReconnect, [.connect false])
  | .sleepReconnect => (worker.moveTo thread .head, [.sleep])
  | .readCommand =>
    match answers.reply with
    -- the connection is given up at once, without a sleep
    | none => (worker.fail thread, [.read none, .disconnect])
    | some command => (worker.moveTo thread (.lockCommand command), [.read (some command)])
  | .lockCommand command =>
    -- a command that finds the mailbox locked is dropped
    let (mailbox, owns) := worker.commandMailbox.tryLock answers.lucky
    ({ worker with commandMailbox := mailbox }.moveTo thread
      (if owns then .publishCommand command else .lockStatus), [])
  | .publishCommand command =>
    let reads := worker.statistics.successfulReads + 1
    ({ worker with
        commandMailbox := worker.commandMailbox.publish command
        statistics := { worker.statistics with successfulReads := reads } }.moveTo thread .lockStatus,
      [.publish ⟨command, worker.commandMailbox.sequence + 1⟩])
  | .lockStatus =>
    let (mailbox, owns) := worker.statusMailbox.tryLock answers.lucky
    ({ worker with statusMailbox := mailbox }.moveTo thread
      (if owns then .readStatus else .sleepCycle), [])
  | .readStatus =>
    let unlocked := { worker with statusMailbox := worker.statusMailbox.unlock }
    match worker.statusMailbox.read with
    | some status =>
      -- a status already written is not written again
      (unlocked.moveTo thread
        (if status.sequence ≠ thread.lastStatusSequence then .writeStatus status else .sleepCycle), [])
    | none => (unlocked.moveTo thread .sleepCycle, [])
  | .writeStatus status =>
    if answers.writes then
      let writes := worker.statistics.successfulWrites + 1
      ({ worker with statistics := { worker.statistics with successfulWrites := writes } }.moveTo
        { thread with lastStatusSequence := status.sequence } .sleepCycle, [.write status true])
    else (worker.fail thread, [.write status false, .disconnect])
  | .sleepCycle => (worker.moveTo thread .head, [.sleep])
  | .disconnect => ({ worker with connected := false }.moveTo thread .finished, [.disconnect])
  | .finished => (worker, [])

/-- A step of the thread, if there is one. -/
def work (worker : PlcCommunicationWorker R) (answers : Answers R) :
    PlcCommunicationWorker R × List (Event R) :=
  match worker.thread with
  | some thread => worker.run thread answers
  | none => (worker, [])

/-- The command a thread at this point has read and not yet published or dropped. -/
def Point.command : Point R → Option (PlcCommandData R)
  | .lockCommand command | .publishCommand command => some command
  | _ => none

/-- The status a thread at this point has found and not yet written. -/
def Point.status : Point R → Option (Snapshot (PlcStatusData R))
  | .writeStatus status => some status
  | _ => none

def point (worker : PlcCommunicationWorker R) : Option (Point R) := worker.thread.map Thread.point

def heldCommand (worker : PlcCommunicationWorker R) : Option (PlcCommandData R) :=
  worker.thread.bind fun thread => thread.point.command

def heldStatus (worker : PlcCommunicationWorker R) : Option (Snapshot (PlcStatusData R)) :=
  worker.thread.bind fun thread => thread.point.status

@[simp] theorem heldStatus_moveTo (worker : PlcCommunicationWorker R) (thread : Thread R)
    (point : Point R) : (worker.moveTo thread point).heldStatus = point.status := rfl

@[simp] theorem heldStatus_fail (worker : PlcCommunicationWorker R) (thread : Thread R) :
    (worker.fail thread).heldStatus = none := rfl

@[simp] theorem heldCommand_moveTo (worker : PlcCommunicationWorker R) (thread : Thread R)
    (point : Point R) : (worker.moveTo thread point).heldCommand = point.command := rfl

@[simp] theorem heldCommand_fail (worker : PlcCommunicationWorker R) (thread : Thread R) :
    (worker.fail thread).heldCommand = none := rfl

@[simp] theorem point_moveTo (worker : PlcCommunicationWorker R) (thread : Thread R)
    (point : Point R) : (worker.moveTo thread point).point = some point := rfl

@[simp] theorem moveTo_commandMailbox (worker : PlcCommunicationWorker R) (thread : Thread R)
    (point : Point R) : (worker.moveTo thread point).commandMailbox = worker.commandMailbox := rfl

@[simp] theorem fail_commandMailbox (worker : PlcCommunicationWorker R) (thread : Thread R) :
    (worker.fail thread).commandMailbox = worker.commandMailbox := rfl

theorem create_fresh {configuration : Configuration} {worker : PlcCommunicationWorker R}
    (created : create configuration = .ok worker) :
    worker.commandMailbox = .initial ∧ worker.statusMailbox = .initial ∧
      worker.thread = none := by
  unfold create at created
  split at created
  · cases created
  · cases created
    exact ⟨rfl, rfl, rfl⟩

theorem start_cases (worker : PlcCommunicationWorker R) :
    worker.start = worker ∨
      worker.start = { worker with thread := some ⟨.head, false, 0⟩ } ∧ worker.thread = none := by
  cases running : worker.thread with
  | some thread => simp [start, running]
  | none => simp [start, running]

theorem join_cases (worker : PlcCommunicationWorker R) :
    worker.join = worker ∨
      worker.join = { worker with thread := none } ∧ worker.point = some .finished := by
  cases running : worker.thread with
  | none => simp [join, running]
  | some thread =>
    cases at_point : thread.point with
    | finished => simp [join, point, running, at_point]
    | _ => simp [join, running, at_point]

/-- The owner of the worker never touches the mailbox. -/
theorem start_commandMailbox (worker : PlcCommunicationWorker R) :
    worker.start.commandMailbox = worker.commandMailbox := by
  rcases worker.start_cases with same | ⟨started, _⟩
  · rw [same]
  · rw [started]

theorem join_commandMailbox (worker : PlcCommunicationWorker R) :
    worker.join.commandMailbox = worker.commandMailbox := by
  rcases worker.join_cases with same | ⟨joined, _⟩
  · rw [same]
  · rw [joined]

theorem heldCommand_start (worker : PlcCommunicationWorker R) :
    worker.start.heldCommand = worker.heldCommand := by
  rcases worker.start_cases with same | ⟨started, running⟩
  · rw [same]
  -- a new thread begins at the head of the loop, with nothing read
  · simp [started, heldCommand, running, Point.command]

theorem heldCommand_requestStop (worker : PlcCommunicationWorker R) :
    worker.requestStop.heldCommand = worker.heldCommand := by
  cases running : worker.thread with
  | some thread => simp [requestStop, heldCommand, running]
  | none => simp [requestStop, heldCommand, running]

theorem heldStatus_requestStop (worker : PlcCommunicationWorker R) :
    worker.requestStop.heldStatus = worker.heldStatus := by
  cases running : worker.thread with
  | some thread => simp [requestStop, heldStatus, running]
  | none => simp [requestStop, heldStatus, running]

theorem heldCommand_join (worker : PlcCommunicationWorker R) :
    worker.join.heldCommand = worker.heldCommand ∨ worker.join.heldCommand = none := by
  rcases worker.join_cases with same | ⟨joined, _⟩
  · exact Or.inl (by rw [same])
  · right
    rw [joined]
    rfl

/-- Only the two steps of `try_publish` touch the command mailbox. -/
theorem run_elsewhere (worker : PlcCommunicationWorker R) (thread : Thread R) (answers : Answers R)
    (elsewhere : thread.point.command = none) :
    (worker.run thread answers).1.commandMailbox = worker.commandMailbox := by
  cases at_point : thread.point with
  | lockCommand command | publishCommand command =>
    rw [at_point] at elsewhere
    cases elsewhere
  | head | sleepReconnect | lockStatus | sleepCycle | disconnect | finished =>
    simp [run, at_point]
  | connect | writeStatus =>
    simp only [run, at_point]
    split_ifs <;> rfl
  | readCommand =>
    cases reply : answers.reply with
    | none => simp [run, at_point, reply]
    | some command => simp [run, at_point, reply]
  | readStatus =>
    cases status : worker.statusMailbox.read with
    | none => simp [run, at_point, status]
    | some snapshot => simp [run, at_point, status]

/-- An event that is not a step of a command on its way. -/
def Event.Minor : Event R → Prop
  | .read (some _) | .publish _ => False
  | _ => True

/-- Outside `try_publish` and a successful read the thread carries no command. -/
theorem run_minor {worker : PlcCommunicationWorker R} {thread : Thread R}
    (running : worker.thread = some thread) (answers : Answers R)
    (elsewhere : thread.point.command = none)
    (unread : thread.point = .readCommand → answers.reply = none) :
    (worker.run thread answers).1.heldCommand = none ∧
      ∀ event ∈ (worker.run thread answers).2, event.Minor := by
  cases at_point : thread.point with
  | lockCommand command | publishCommand command =>
    rw [at_point] at elsewhere
    cases elsewhere
  | head =>
    simp only [run, at_point, heldCommand_moveTo]
    -- none of the three successors of the loop head holds a command
    split_ifs <;> simp [Point.command]
  | connect =>
    simp only [run, at_point]
    split_ifs <;> simp [Point.command, Event.Minor]
  | sleepReconnect | sleepCycle | disconnect =>
    simp [run, at_point, Point.command, Event.Minor]
  | readCommand => simp [run, at_point, unread at_point, Event.Minor]
  | lockStatus =>
    simp only [run, at_point, heldCommand_moveTo]
    split_ifs <;> simp [Point.command]
  | readStatus =>
    cases status : worker.statusMailbox.read with
    | none => simp [run, at_point, status, Point.command]
    | some snapshot =>
      simp only [run, at_point, status, heldCommand_moveTo]
      split_ifs <;> simp [Point.command]
  | writeStatus status =>
    simp only [run, at_point]
    split_ifs <;> simp [Point.command, Event.Minor]
  | finished => simp [run, at_point, heldCommand, running, Point.command]

end PlcCommunicationWorker

end MotionBridge
