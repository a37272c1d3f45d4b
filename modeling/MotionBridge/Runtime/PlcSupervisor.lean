import MotionBridge.Foundation.Run
import MotionBridge.Runtime.FiniteLoop
import MotionBridge.Runtime.Supervision

namespace MotionBridge

open Foundation

structure PlcSupervisor.Configuration (R : Type) where
  pollPeriodSeconds : R
  watchdogTimeoutSeconds : R
  deriving DecidableEq, Repr

/-- `Configuration{}`. -/
def PlcSupervisor.Configuration.initial {R : Type} [Double R] : PlcSupervisor.Configuration R :=
  ⟨0.02, 0.10⟩

/-- A supervisor exists only with the periods its constructor accepted. -/
structure PlcSupervisor (R : Type) [Double R] extends CommunicationMonitor R where
  configuration : PlcSupervisor.Configuration R
  accepted : 0 < configuration.pollPeriodSeconds ∧
    Double.isfinite configuration.pollPeriodSeconds = true
  controlLoop : ControlLoop R
  pollElapsedSeconds : R
  controllerHeartbeat : UInt32
  communicationHealthy : Bool

namespace PlcSupervisor

section Source

variable {R : Type} [Double R]

/-- The watchdog member is built, and may throw, before the poll period is checked.
The first update polls. -/
def create (configuration : Configuration R) (controlLoop : ControlLoop R) :
    Except String (PlcSupervisor R) := do
  let watchdog ← Watchdog.create configuration.watchdogTimeoutSeconds
  if accepted : 0 < configuration.pollPeriodSeconds ∧
      Double.isfinite configuration.pollPeriodSeconds = true then
    return {
      watchdog := watchdog
      lastPlcHeartbeat := none
      configuration := configuration
      accepted := accepted
      controlLoop := controlLoop
      pollElapsedSeconds := configuration.pollPeriodSeconds
      controllerHeartbeat := 0
      communicationHealthy := false }
  else throw "PLC poll period must be positive and finite"

/-- `reply` is what the PLC answers if this update polls it. -/
def update (supervisor : PlcSupervisor R) (dtSeconds : R) (reply : Option (PlcCommandData R)) :
    PlcSupervisor R × Update R :=
  let waited := supervisor.pollElapsedSeconds + dtSeconds
  let polled := decide (waited ≥ supervisor.configuration.pollPeriodSeconds)
  let command := if polled then reply else none
  -- a kick comes before this update's time is added
  let monitor := (supervisor.hearCommand command).advance dtSeconds
  let communicationHealthy := !monitor.watchdog.expired && monitor.lastPlcHeartbeat.isSome
  let externalFault : FaultCode := if communicationHealthy then .none else .communicationTimeout
  let controlLoop :=
    ((supervisor.controlLoop.setPlcCommand command).setExternalFault externalFault).step dtSeconds
  let controllerHeartbeat :=
    if polled then supervisor.controllerHeartbeat + 1 else supervisor.controllerHeartbeat
  ({ supervisor with
      toCommunicationMonitor := monitor
      controlLoop := controlLoop
      pollElapsedSeconds := if polled then 0 else waited
      controllerHeartbeat := controllerHeartbeat
      communicationHealthy := communicationHealthy },
    { dtSeconds := dtSeconds
      command := command
      status := controlLoop.status
      published :=
        if polled then some (encodePlcStatus controlLoop.status controllerHeartbeat) else none })

/-- The arguments of one update, and the answer the PLC has ready for it. -/
structure Input (R : Type) where
  dtSeconds : R
  reply : Option (PlcCommandData R)
  deriving DecidableEq, Repr

def next (supervisor : PlcSupervisor R) (input : Input R) : PlcSupervisor R × List (Update R) :=
  let (supervisor, update) := supervisor.update input.dtSeconds input.reply
  (supervisor, [update])

/-- The updates a supervisor makes on a sequence of inputs. -/
def history (supervisor : PlcSupervisor R) (inputs : List (Input R)) : List (Update R) :=
  (run (logged next) (supervisor, []) inputs).2

theorem update_monitor (supervisor : PlcSupervisor R) (dt : R)
    (reply : Option (PlcCommandData R)) :
    (supervisor.update dt reply).1.toCommunicationMonitor =
      (supervisor.hearCommand (supervisor.update dt reply).2.command).advance dt := rfl

/-- An update that reports an operational state found the communication healthy. -/
theorem update_operational (supervisor : PlcSupervisor R) (dt : R)
    (reply : Option (PlcCommandData R))
    (operational : ControllerStateMachine.Operational (supervisor.update dt reply).2.status.state) :
    (supervisor.update dt reply).1.watchdog.expired = false ∧
      (supervisor.update dt reply).1.lastPlcHeartbeat ≠ none := by
  have detected := ControlLoop.step_operational _ dt operational
  have healthy : (supervisor.update dt reply).1.communicationHealthy = true := by
    by_contra unhealthy
    have external := ((ControlLoop.detectedFault_none _).mp detected).1
    change (if (supervisor.update dt reply).1.communicationHealthy then FaultCode.none
      else .communicationTimeout) = .none at external
    rw [if_neg unhealthy] at external
    cases external
  change (!(supervisor.update dt reply).1.watchdog.expired &&
    (supervisor.update dt reply).1.lastPlcHeartbeat.isSome) = true at healthy
  rw [Bool.and_eq_true, Bool.not_eq_true'] at healthy
  exact ⟨healthy.1, Option.isSome_iff_ne_none.mp healthy.2⟩

theorem create_monitor {configuration : Configuration R} {controlLoop : ControlLoop R}
    {supervisor : PlcSupervisor R} (created : create configuration controlLoop = .ok supervisor) :
    supervisor.lastPlcHeartbeat = none ∧
      supervisor.watchdog.timeoutSeconds = configuration.watchdogTimeoutSeconds ∧
      supervisor.controlLoop = controlLoop ∧ supervisor.configuration = configuration ∧
      supervisor.pollElapsedSeconds = configuration.pollPeriodSeconds ∧
      supervisor.controllerHeartbeat = 0 := by
  unfold create at created
  cases watchdogCreated : Watchdog.create configuration.watchdogTimeoutSeconds with
  | error message =>
    rw [watchdogCreated] at created
    cases created
  | ok watchdog =>
    have timeout := Watchdog.create_timeout watchdogCreated
    rw [watchdogCreated] at created
    simp only [bind, Except.bind] at created
    split at created
    · cases created
      exact ⟨rfl, timeout, rfl, rfl, rfl, rfl⟩
    · cases created

end Source

/-- The demo loop under a supervisor with the default periods. -/
def demo : PlcSupervisor (Exact ℚ) where
  watchdog := .demo
  lastPlcHeartbeat := none
  configuration := .initial
  accepted := by decide +kernel
  controlLoop := ControlLoop.demo
  pollElapsedSeconds := 0.02
  controllerHeartbeat := 0
  communicationHealthy := false

theorem demo_created : create .initial ControlLoop.demo = .ok demo := by
  have period : 0 < (Configuration.initial : Configuration (Exact ℚ)).pollPeriodSeconds ∧
      Double.isfinite (Configuration.initial : Configuration (Exact ℚ)).pollPeriodSeconds = true :=
    demo.accepted
  have timeout : 0 < (Configuration.initial : Configuration (Exact ℚ)).watchdogTimeoutSeconds ∧
      Double.isfinite
        (Configuration.initial : Configuration (Exact ℚ)).watchdogTimeoutSeconds = true :=
    Watchdog.demo.accepted
  simp only [create, Watchdog.create, dif_pos timeout, dif_pos period, bind, Except.bind]
  rfl

end PlcSupervisor

end MotionBridge
