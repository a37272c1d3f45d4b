import MotionBridge.Foundation.History
import MotionBridge.Foundation.Exact
import MotionBridge.Interfaces.PlcMapping
import MotionBridge.Runtime.ControlLoop
import MotionBridge.Runtime.Watchdog

/-!
# Communication supervision

Both supervisors keep a watchdog and the last PLC heartbeat, and treat a command
alike: a first or changed heartbeat kicks the watchdog. Their updates are recorded
as seen from outside, and the watchdog is measured against that record.
-/
namespace MotionBridge

open Foundation
open Exact (fin)

/-- One `update` of a supervisor: `command` is the PLC command it took over,
`published` the status it sent towards the PLC. -/
structure Update (R : Type) where
  dtSeconds : R
  command : Option (PlcCommandData R)
  status : ControllerStatus R
  published : Option (PlcStatusData R)
  deriving DecidableEq, Repr

/-- The heartbeat of the last command taken over. -/
def lastHeartbeat {R : Type} (history : List (Update R)) : Option UInt32 :=
  (history.filterMap Update.command).getLast?.map PlcCommandData.heartbeat

/-- The update took over a command with a first or changed heartbeat. -/
def Renews {R : Type} (history : List (Update R)) (update : Update R) : Prop :=
  ∃ command, update.command = some command ∧ lastHeartbeat history ≠ some command.heartbeat

instance decideRenews {R : Type} (history : List (Update R)) (update : Update R) :
    Decidable (Renews history update) :=
  decidable_of_iff (∃ command ∈ update.command, lastHeartbeat history ≠ some command.heartbeat)
    Iff.rfl

/-- The last renewal lies less than `timeout` back, counted from the renewing update
to the last one. -/
def RecentlyRenewed {R : Type} [Double R] (timeout : R) (history : List (Update R)) : Prop :=
  ∃ before renewal later, history = before ++ renewal :: later ∧ Renews before renewal ∧
    Unrenewed Renews (before ++ [renewal]) later ∧
    ((renewal :: later).map Update.dtSeconds).sum < timeout

theorem lastHeartbeat_snoc {R : Type} (history : List (Update R)) (update : Update R) :
    lastHeartbeat (history ++ [update]) =
      (update.command.map PlcCommandData.heartbeat).or (lastHeartbeat history) := by
  cases command : update.command with
  | none => simp [lastHeartbeat, List.filterMap_append, command]
  | some data => simp [lastHeartbeat, List.filterMap_append, command]

/-- A command from the PLC, when there is one, is put in force. -/
def ControlLoop.setPlcCommand {R : Type} [Double R] (loop : ControlLoop R) :
    Option (PlcCommandData R) → ControlLoop R
  | some data => loop.setCommand (decodePlcCommand data)
  | none => loop

@[simp] theorem ControlLoop.setPlcCommand_stateMachine {R : Type} [Double R]
    (loop : ControlLoop R) (command : Option (PlcCommandData R)) :
    (loop.setPlcCommand command).stateMachine = loop.stateMachine := by
  cases command <;> rfl

/-- What a supervisor knows of its PLC. -/
structure CommunicationMonitor (R : Type) [Double R] where
  watchdog : Watchdog R
  lastPlcHeartbeat : Option UInt32

namespace CommunicationMonitor

section Source

variable {R : Type} [Double R]

/-- The block that handles a command from the PLC. -/
def hear (monitor : CommunicationMonitor R) (heartbeat : UInt32) : CommunicationMonitor R :=
  if monitor.lastPlcHeartbeat ≠ some heartbeat then
    ⟨monitor.watchdog.kick, some heartbeat⟩
  else monitor

def hearCommand (monitor : CommunicationMonitor R) :
    Option (PlcCommandData R) → CommunicationMonitor R
  | some command => monitor.hear command.heartbeat
  | none => monitor

def advance (monitor : CommunicationMonitor R) (dtSeconds : R) : CommunicationMonitor R :=
  { monitor with watchdog := monitor.watchdog.advance dtSeconds }

/-- The monitor agrees with a record of the updates made so far. -/
structure Watched (timeout : R) (monitor : CommunicationMonitor R) (history : List (Update R)) :
    Prop where
  timeout_eq : monitor.watchdog.timeoutSeconds = timeout
  heartbeat_eq : monitor.lastPlcHeartbeat = lastHeartbeat history
  elapsed : monitor.lastPlcHeartbeat ≠ none → monitor.watchdog.armed = true ∧
    Elapsed Renews Update.dtSeconds history monitor.watchdog.elapsedSeconds

@[simp] theorem hearCommand_timeout (monitor : CommunicationMonitor R)
    (command : Option (PlcCommandData R)) :
    (monitor.hearCommand command).watchdog.timeoutSeconds = monitor.watchdog.timeoutSeconds := by
  cases command with
  | none => rfl
  | some data =>
    simp only [hearCommand, hear]
    split_ifs <;> rfl

@[simp] theorem hearCommand_heartbeat (monitor : CommunicationMonitor R)
    (command : Option (PlcCommandData R)) :
    (monitor.hearCommand command).lastPlcHeartbeat =
      (command.map PlcCommandData.heartbeat).or monitor.lastPlcHeartbeat := by
  cases command with
  | none => rfl
  | some data =>
    by_cases changed : monitor.lastPlcHeartbeat = some data.heartbeat
    · simp [hearCommand, hear, changed]
    · simp [hearCommand, hear, changed]

/-- A command with a new heartbeat kicks the watchdog. -/
theorem hearCommand_changed (monitor : CommunicationMonitor R) (command : PlcCommandData R)
    (changed : monitor.lastPlcHeartbeat ≠ some command.heartbeat) :
    monitor.hearCommand (some command) = ⟨monitor.watchdog.kick, some command.heartbeat⟩ := by
  rw [hearCommand, hear, if_pos changed]

end Source

variable {K : Type} [Field K] [LinearOrder K] [SquareRoot K]

theorem watched_update {timeout : Exact K} {monitor : CommunicationMonitor (Exact K)}
    {history : List (Update (Exact K))} (update : Update (Exact K))
    (valid : Double.ValidStep update.dtSeconds) (watched : Watched timeout monitor history) :
    Watched timeout ((monitor.hearCommand update.command).advance update.dtSeconds)
      (history ++ [update]) := by
  have heartbeat : ((monitor.hearCommand update.command).advance update.dtSeconds).lastPlcHeartbeat
      = lastHeartbeat (history ++ [update]) := by
    rw [lastHeartbeat_snoc, ← watched.heartbeat_eq]
    exact hearCommand_heartbeat monitor update.command
  refine ⟨?_, heartbeat, ?_⟩
  · simp [advance, watched.timeout_eq]
  · intro heard
    by_cases renews : Renews history update
    · -- the kick starts the count at zero, and this update is its first addend
      obtain ⟨command, taken, changed⟩ := renews
      have kicked : monitor.hearCommand update.command =
          ⟨monitor.watchdog.kick, some command.heartbeat⟩ := by
        rw [taken]
        exact hearCommand_changed monitor command (watched.heartbeat_eq ▸ changed)
      rw [kicked]
      refine ⟨by simp [advance, Watchdog.kick], ?_⟩
      have counted : (monitor.watchdog.kick.advance update.dtSeconds).elapsedSeconds =
          update.dtSeconds := by
        rw [Watchdog.advance_elapsed _ _ rfl valid]
        exact zero_add update.dtSeconds
      change Elapsed Renews Update.dtSeconds _
        (monitor.watchdog.kick.advance update.dtSeconds).elapsedSeconds
      rw [counted]
      exact .renewed ⟨command, taken, changed⟩
    -- a command with the heartbeat heard last changes nothing, so the count goes on
    · have kept : monitor.hearCommand update.command = monitor := by
        cases taken : update.command with
        | none => rfl
        | some command =>
          have same : monitor.lastPlcHeartbeat = some command.heartbeat := by
            by_contra changed
            rw [watched.heartbeat_eq] at changed
            exact renews ⟨command, taken, changed⟩
          rw [hearCommand, hear, if_neg (not_not.mpr same)]
      rw [kept] at heard ⊢
      obtain ⟨armed, elapsed⟩ := watched.elapsed heard
      refine ⟨by simp [advance, armed], ?_⟩
      change Elapsed Renews Update.dtSeconds _ (monitor.watchdog.advance update.dtSeconds).elapsedSeconds
      rw [Watchdog.advance_elapsed _ _ armed valid]
      exact .waited renews elapsed

/-- An alive watchdog that has heard from the PLC has been renewed recently. -/
theorem watched_recent {timeout : Exact K} {monitor : CommunicationMonitor (Exact K)}
    {history : List (Update (Exact K))} (watched : Watched timeout monitor history)
    (heard : monitor.lastPlcHeartbeat ≠ none) (alive : monitor.watchdog.expired = false)
    (valid : ∀ update ∈ history, Double.ValidStep update.dtSeconds) :
    RecentlyRenewed timeout history := by
  obtain ⟨armed, elapsed⟩ := watched.elapsed heard
  obtain ⟨before, renewal, later, split, renews, unrenewed, sum⟩ := elapsed_split elapsed
  refine ⟨before, renewal, later, split, renews, unrenewed, ?_⟩
  -- `expired` compares the other way round; timeout and sum are finite, so that decides it
  obtain ⟨limit, timeoutEq, _⟩ := (Exact.validStep_iff _).mp monitor.watchdog.accepted
  obtain ⟨t, finite⟩ := Exact.sum_finite ((renewal :: later).map Update.dtSeconds) (by
    intro dt member
    obtain ⟨update, inside, rfl⟩ := List.mem_map.mp member
    apply valid update
    rw [split]
    exact List.mem_append_right before inside)
  have notExpired : ¬monitor.watchdog.elapsedSeconds ≥ monitor.watchdog.timeoutSeconds := by
    simpa [Watchdog.expired, armed] using alive
  rw [← sum, finite, timeoutEq] at notExpired
  rw [← watched.timeout_eq, timeoutEq]
  change (_ : Exact K) < _
  exact finite ▸ not_le.mp notExpired

end CommunicationMonitor

/-- The watchdog of the demos, not yet armed. -/
def Watchdog.demo : Watchdog (Exact ℚ) := ⟨0.10, by decide +kernel, 0, false⟩

end MotionBridge
