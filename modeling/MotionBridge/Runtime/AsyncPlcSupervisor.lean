import MotionBridge.Foundation.Run
import MotionBridge.Runtime.FiniteLoop
import MotionBridge.Runtime.LatestValueMailbox
import MotionBridge.Runtime.Supervision

namespace MotionBridge

open Foundation

structure AsyncPlcSupervisor (R : Type) [Double R] extends CommunicationMonitor R where
  controlLoop : ControlLoop R
  lastCommandSequence : Option UInt64
  controllerHeartbeat : UInt32
  communicationHealthy : Bool

namespace AsyncPlcSupervisor

variable {R : Type} [Double R]

/-- The watchdog is armed before there is any command. -/
def create (watchdogTimeoutSeconds : R) (controlLoop : ControlLoop R) :
    Except String (AsyncPlcSupervisor R) := do
  let watchdog ← Watchdog.create watchdogTimeoutSeconds
  return {
    watchdog := watchdog.kick
    lastPlcHeartbeat := none
    controlLoop := controlLoop
    lastCommandSequence := none
    controllerHeartbeat := 0
    communicationHealthy := false }

/-- A snapshot is new unless it carries the sequence number accepted last. -/
def acceptedSnapshot (supervisor : AsyncPlcSupervisor R)
    (snapshot : Option (Snapshot (PlcCommandData R))) : Option (Snapshot (PlcCommandData R)) :=
  match snapshot with
  | some snapshot =>
    if supervisor.lastCommandSequence ≠ some snapshot.sequence then some snapshot else none
  | none => none

theorem accepted_some {supervisor : AsyncPlcSupervisor R}
    {snapshot : Option (Snapshot (PlcCommandData R))} {accepted : Snapshot (PlcCommandData R)}
    (accepts : supervisor.acceptedSnapshot snapshot = some accepted) :
    snapshot = some accepted ∧ supervisor.lastCommandSequence ≠ some accepted.sequence := by
  cases snapshot with
  | none => cases accepts
  | some sample =>
    simp only [acceptedSnapshot] at accepts
    split at accepts
    next newer =>
      cases accepts
      exact ⟨rfl, newer⟩
    next => cases accepts

theorem accepted_none {supervisor : AsyncPlcSupervisor R} {sample : Snapshot (PlcCommandData R)}
    (refuses : supervisor.acceptedSnapshot (some sample) = none) :
    supervisor.lastCommandSequence = some sample.sequence := by
  by_contra newer
  simp [acceptedSnapshot, newer] at refuses

/-- `snapshot` is what the command mailbox returned, `connected` the flag of the
worker. The status is handed to the status mailbox in every update. -/
def update (supervisor : AsyncPlcSupervisor R) (dtSeconds : R)
    (snapshot : Option (Snapshot (PlcCommandData R))) (connected : Bool) :
    AsyncPlcSupervisor R × Update R :=
  let accepted := supervisor.acceptedSnapshot snapshot
  let command := accepted.map Snapshot.value
  let monitor := (supervisor.hearCommand command).advance dtSeconds
  -- neither the connection nor a missing heartbeat counts here
  let externalFault : FaultCode :=
    if monitor.watchdog.expired then .communicationTimeout else .none
  let controlLoop :=
    ((supervisor.controlLoop.setPlcCommand command).setExternalFault externalFault).step dtSeconds
  let controllerHeartbeat := supervisor.controllerHeartbeat + 1
  ({ toCommunicationMonitor := monitor
     controlLoop := controlLoop
     lastCommandSequence :=
       (accepted.map Snapshot.sequence).or supervisor.lastCommandSequence
     controllerHeartbeat := controllerHeartbeat
     communicationHealthy :=
       connected && monitor.lastPlcHeartbeat.isSome && !monitor.watchdog.expired },
    { dtSeconds := dtSeconds
      command := command
      status := controlLoop.status
      published := some (encodePlcStatus controlLoop.status controllerHeartbeat) })

/-- What one update is given: the snapshot of the mailbox and the flag of the worker. -/
structure Input (R : Type) where
  dtSeconds : R
  snapshot : Option (Snapshot (PlcCommandData R))
  connected : Bool
  deriving DecidableEq, Repr

def next (supervisor : AsyncPlcSupervisor R) (input : Input R) :
    AsyncPlcSupervisor R × List (Update R) :=
  let (supervisor, update) :=
    supervisor.update input.dtSeconds input.snapshot input.connected
  (supervisor, [update])

/-- The updates a supervisor makes on a sequence of inputs. -/
def history (supervisor : AsyncPlcSupervisor R) (inputs : List (Input R)) : List (Update R) :=
  (run (logged next) (supervisor, []) inputs).2

theorem create_monitor {timeout : R} {controlLoop : ControlLoop R}
    {supervisor : AsyncPlcSupervisor R} (created : create timeout controlLoop = .ok supervisor) :
    supervisor.lastPlcHeartbeat = none ∧ supervisor.watchdog.timeoutSeconds = timeout ∧
      supervisor.controlLoop = controlLoop ∧ supervisor.lastCommandSequence = none ∧
      supervisor.controllerHeartbeat = 0 := by
  unfold create at created
  cases watchdogCreated : Watchdog.create timeout with
  | error message =>
    rw [watchdogCreated] at created
    cases created
  | ok watchdog =>
    have timeout := Watchdog.create_timeout watchdogCreated
    rw [watchdogCreated] at created
    cases created
    exact ⟨rfl, timeout, rfl, rfl, rfl⟩

/-- Only an accepted snapshot changes the command in force. -/
theorem update_command (supervisor : AsyncPlcSupervisor R) (dt : R)
    (snapshot : Option (Snapshot (PlcCommandData R))) (connected : Bool) :
    (supervisor.update dt snapshot connected).1.controlLoop.command =
      match supervisor.acceptedSnapshot snapshot with
      | some accepted => decodePlcCommand accepted.value
      | none => supervisor.controlLoop.command := by
  simp only [update, ControlLoop.step_command]
  cases supervisor.acceptedSnapshot snapshot with
  | none => rfl
  | some accepted => rfl

theorem update_lastCommandSequence (supervisor : AsyncPlcSupervisor R) (dt : R)
    (snapshot : Option (Snapshot (PlcCommandData R))) (connected : Bool) :
    (supervisor.update dt snapshot connected).1.lastCommandSequence =
      ((supervisor.acceptedSnapshot snapshot).map Snapshot.sequence).or
        supervisor.lastCommandSequence := rfl

/-- An update that reports an operational state found the watchdog alive. -/
theorem update_operational (supervisor : AsyncPlcSupervisor R) (dt : R)
    (snapshot : Option (Snapshot (PlcCommandData R))) (connected : Bool)
    (operational : ControllerStateMachine.Operational
      (supervisor.update dt snapshot connected).2.status.state) :
    (supervisor.update dt snapshot connected).1.watchdog.expired = false := by
  have detected := ControlLoop.step_operational _ dt operational
  have external := ((ControlLoop.detectedFault_none _).mp detected).1
  by_contra expired
  change (if (supervisor.update dt snapshot connected).1.watchdog.expired
    then FaultCode.communicationTimeout else .none) = .none at external
  rw [if_pos (by simpa using expired)] at external
  cases external

/-- The demo loop under an asynchronous supervisor. -/
def demo : AsyncPlcSupervisor (Exact ℚ) where
  watchdog := Watchdog.demo.kick
  lastPlcHeartbeat := none
  controlLoop := ControlLoop.demo
  lastCommandSequence := none
  controllerHeartbeat := 0
  communicationHealthy := false

theorem demo_created : create 0.10 ControlLoop.demo = .ok demo := by
  have timeout : 0 < (0.10 : Exact ℚ) ∧ Double.isfinite (0.10 : Exact ℚ) = true :=
    Watchdog.demo.accepted
  simp only [create, Watchdog.create, dif_pos timeout, bind, Except.bind]
  rfl

end AsyncPlcSupervisor

end MotionBridge
