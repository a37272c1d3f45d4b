import MotionBridge.Communication.AsyncSystem
import MotionBridge.Runtime.PlcSupervisor

/-! Losing the PLC stops the axis: whoever reports an operational state has heard a
new heartbeat within the watchdog timeout. -/
namespace MotionBridge

open Foundation
open Exact (fin)
open ControllerStateMachine (Operational)

variable {K : Type} [Field K] [LinearOrder K] [SquareRoot K]

namespace PlcSupervisor

/-- What holds between two updates of a supervisor with a given record. -/
structure Supervised (timeout : Exact K) (supervisor : PlcSupervisor (Exact K))
    (history : List (Update (Exact K))) : Prop where
  watched : supervisor.toCommunicationMonitor.Watched timeout history
  valid : ∀ update ∈ history, Double.ValidStep update.dtSeconds
  recent : Throughout (fun before update => Operational update.status.state →
    RecentlyRenewed timeout (before ++ [update])) history

theorem supervised_update {timeout : Exact K} {supervisor : PlcSupervisor (Exact K)}
    {history : List (Update (Exact K))} (dt : Exact K) (reply : Option (PlcCommandData (Exact K)))
    (validStep : Double.ValidStep dt) (supervised : Supervised timeout supervisor history) :
    Supervised timeout (supervisor.update dt reply).1
      (history ++ [(supervisor.update dt reply).2]) := by
  have watched : (supervisor.update dt reply).1.Watched timeout
      (history ++ [(supervisor.update dt reply).2]) :=
    CommunicationMonitor.watched_update (supervisor.update dt reply).2 validStep supervised.watched
  have valid : ∀ update ∈ history ++ [(supervisor.update dt reply).2],
      Double.ValidStep update.dtSeconds :=
    List.forall_mem_append.mpr ⟨supervised.valid, List.forall_mem_singleton.mpr validStep⟩
  -- the record grows by this update, which has to be justified when it is operational
  refine ⟨watched, valid, (throughout_snoc _ _ _).mpr ⟨supervised.recent, ?_⟩⟩
  intro operational
  obtain ⟨alive, heard⟩ := update_operational supervisor dt reply operational
  exact CommunicationMonitor.watched_recent watched heard alive valid

/-- A synchronous supervisor reports an operational state only in updates less than
the watchdog timeout after the last poll that brought a new heartbeat. -/
theorem communication_loss (configuration : Configuration (Exact K))
    (loopConfiguration : ControlLoop.Configuration (Exact K)) (controller : PidController (Exact K))
    (plant : ServoPlant (Exact K)) (supervisor : PlcSupervisor (Exact K))
    (created : create configuration (ControlLoop.create loopConfiguration controller plant) =
      .ok supervisor)
    (inputs : List (Input (Exact K)))
    (valid : ∀ input ∈ inputs, Double.ValidStep input.dtSeconds) :
    Throughout (fun before update =>
      update.status.state ∈
          [ControllerState.disabled, .ready, .running, .stopping] →
        RecentlyRenewed configuration.watchdogTimeoutSeconds (before ++ [update]))
      (history supervisor inputs) := by
  obtain ⟨unheard, timeout, _⟩ := create_monitor created
  have initial : Supervised configuration.watchdogTimeoutSeconds supervisor [] := by
    refine ⟨⟨timeout, unheard, fun heard => absurd unheard heard⟩, ?_, throughout_nil _⟩
    intro update member
    cases member
  have supervised := run_invariant (logged next)
    (fun _ input => Double.ValidStep input.dtSeconds)
    (fun state => Supervised configuration.watchdogTimeoutSeconds state.1 state.2)
    (fun _ input valid supervised => supervised_update input.dtSeconds input.reply valid supervised)
    (supervisor, []) inputs (along_inputs _ _ _ inputs valid) initial
  intro before update after split state
  apply supervised.recent before update after split
  simpa [Operational] using state

/-- Every other update polls. The second poll goes unanswered, the third brings a new heartbeat. -/
def pollsAtHalfRate : List (Input (Exact ℚ)) :=
  [⟨0.01, some AsyncSystem.startCommand⟩, ⟨0.01, none⟩, ⟨0.01, none⟩, ⟨0.01, none⟩,
    ⟨0.01, some { AsyncSystem.startCommand with heartbeat := 2 }⟩, ⟨0.01, none⟩]

/-- The axis runs through the poll without a reply, and goes on running with the new heartbeat. -/
theorem communication_loss_polled :
    (history demo pollsAtHalfRate).map (fun update => update.published.isSome) =
        [true, false, true, false, true, false] ∧
      (history demo pollsAtHalfRate).map (fun update => update.status.state) =
        [.disabled, .ready, .running, .running, .running, .running] ∧
      ∀ before update after, history demo pollsAtHalfRate = before ++ update :: after →
        RecentlyRenewed 0.10 (before ++ [update]) := by
  have states : (history demo pollsAtHalfRate).map (fun update => update.status.state) =
      [.disabled, .ready, .running, .running, .running, .running] := by decide +kernel
  refine ⟨by decide +kernel, states, fun before update after split => ?_⟩
  apply communication_loss .initial .initial (ControlLoop.demoController.map fin)
    (ServoPlant.lift .initial) demo demo_created pollsAtHalfRate (by decide +kernel)
    before update after split
  -- no update of this run reports a switched-off or faulted axis
  have member : update.status.state ∈ (history demo pollsAtHalfRate).map
      (fun update => update.status.state) :=
    List.mem_map_of_mem (split ▸ List.mem_append_right before List.mem_cons_self)
  rw [states] at member
  simp only [List.mem_cons, List.not_mem_nil, or_false] at member ⊢
  rcases member with state | state | state | state | state | state <;> simp [state]

end PlcSupervisor

/-- The states an axis can be in while it has only seen the default command. -/
def Resting (state : ControllerState) : Prop :=
  state = .powerOff ∨ state = .disabled ∨ state = .fault

/-- The default command enables nothing and resets nothing. -/
theorem resting_step {R : Type} [Double R] (loop : ControlLoop R) (dt : R)
    (unset : loop.command = .initial) (resting : Resting loop.stateMachine.state) :
    Resting (loop.step dt).stateMachine.state := by
  rw [ControlLoop.step_stateMachine]
  have outcome := ControlLoop.nextMachine_outcome loop
  rw [unset] at outcome
  generalize loop.nextMachine = next at outcome ⊢
  cases outcome with
  | unpowered unpowered => cases unpowered
  | stopped _ emergency => cases emergency
  -- the watchdog may expire before the first command
  | faulted => exact Or.inr (Or.inr rfl)
  | released _ _ _ _ reset => cases reset
  | latched => exact resting
  | moved _ _ _ free =>
    rcases resting with off | disabled | fault
    · rw [off]
      exact Or.inr (Or.inl rfl)
    · rw [disabled]
      exact Or.inr (Or.inl rfl)
    · exact absurd (Or.inl fault) free

namespace AsyncPlcSupervisor

/-- What holds between two updates of an asynchronous supervisor. Its watchdog runs
before the first command, when only the default command keeps the axis at rest. -/
structure Supervised (timeout : Exact K) (supervisor : AsyncPlcSupervisor (Exact K))
    (history : List (Update (Exact K))) : Prop where
  watched : supervisor.toCommunicationMonitor.Watched timeout history
  valid : ∀ update ∈ history, Double.ValidStep update.dtSeconds
  unset : supervisor.lastPlcHeartbeat = none → supervisor.controlLoop.command = .initial ∧
    Resting supervisor.controlLoop.stateMachine.state
  recent : Throughout (fun before update =>
    update.status.state ∈ [ControllerState.ready, .running, .stopping] →
      RecentlyRenewed timeout (before ++ [update])) history

/-- As long as no heartbeat has been heard, no command has been put in force. -/
theorem unset_update (supervisor : AsyncPlcSupervisor (Exact K)) (dt : Exact K)
    (snapshot : Option (Snapshot (PlcCommandData (Exact K)))) (connected : Bool)
    (unset : supervisor.lastPlcHeartbeat = none → supervisor.controlLoop.command = .initial ∧
      Resting supervisor.controlLoop.stateMachine.state)
    (unheard : (supervisor.update dt snapshot connected).1.lastPlcHeartbeat = none) :
    (supervisor.update dt snapshot connected).1.controlLoop.command = .initial ∧
      Resting (supervisor.update dt snapshot connected).1.controlLoop.stateMachine.state := by
  have heartbeat := CommunicationMonitor.hearCommand_heartbeat supervisor.toCommunicationMonitor
    (supervisor.update dt snapshot connected).2.command
  change (supervisor.hearCommand
    (supervisor.update dt snapshot connected).2.command).lastPlcHeartbeat = none at unheard
  -- nothing heard after the update means no command in it and nothing heard before
  rw [unheard, eq_comm, Option.or_eq_none_iff, Option.map_eq_none_iff] at heartbeat
  obtain ⟨noCommand, unheardBefore⟩ := heartbeat
  obtain ⟨command, resting⟩ := unset unheardBefore
  have loop : ∃ fault, (supervisor.update dt snapshot connected).1.controlLoop =
      (supervisor.controlLoop.setExternalFault fault).step dt := by
    change (supervisor.acceptedSnapshot snapshot).map Snapshot.value = none at noCommand
    simp only [update, noCommand]
    exact ⟨_, rfl⟩
  obtain ⟨fault, loop⟩ := loop
  rw [loop]
  exact ⟨by rw [ControlLoop.step_command]; exact command, resting_step _ dt command resting⟩

theorem supervised_update {timeout : Exact K} {supervisor : AsyncPlcSupervisor (Exact K)}
    {history : List (Update (Exact K))} (dt : Exact K)
    (snapshot : Option (Snapshot (PlcCommandData (Exact K)))) (connected : Bool)
    (validStep : Double.ValidStep dt) (supervised : Supervised timeout supervisor history) :
    Supervised timeout (supervisor.update dt snapshot connected).1
      (history ++ [(supervisor.update dt snapshot connected).2]) := by
  have watched : (supervisor.update dt snapshot connected).1.Watched timeout
      (history ++ [(supervisor.update dt snapshot connected).2]) :=
    CommunicationMonitor.watched_update (supervisor.update dt snapshot connected).2 validStep
      supervised.watched
  have valid : ∀ update ∈ history ++ [(supervisor.update dt snapshot connected).2],
      Double.ValidStep update.dtSeconds :=
    List.forall_mem_append.mpr ⟨supervised.valid, List.forall_mem_singleton.mpr validStep⟩
  have unset := unset_update supervisor dt snapshot connected supervised.unset
  refine ⟨watched, valid, unset, (throughout_snoc _ _ _).mpr ⟨supervised.recent, ?_⟩⟩
  intro state
  have operational : Operational (supervisor.update dt snapshot connected).2.status.state := by
    simp only [List.mem_cons, List.not_mem_nil, or_false] at state
    exact Or.inr state
  have alive := update_operational supervisor dt snapshot connected operational
  -- the external fault ignores a missing heartbeat, so the default command has to do
  have heard : (supervisor.update dt snapshot connected).1.lastPlcHeartbeat ≠ none := by
    intro unheard
    have resting := (unset unheard).2
    have reported : (supervisor.update dt snapshot connected).2.status.state =
        (supervisor.update dt snapshot connected).1.controlLoop.stateMachine.state := by
      simp [update]
    rw [← reported] at resting
    simp only [List.mem_cons, List.not_mem_nil, or_false] at state
    rcases resting with at_rest | at_rest | at_rest <;> simp [at_rest] at state
  exact CommunicationMonitor.watched_recent watched heard alive valid

end AsyncPlcSupervisor

namespace AsyncSystem

/-- The time step an update starts with is valid. -/
def Action.Valid : Action (Exact K) → Prop
  | .control dtSeconds _ => Double.ValidStep dtSeconds
  | _ => True

instance decideValid : (action : Action (Exact K)) → Decidable action.Valid
  | .control dtSeconds _ => inferInstanceAs (Decidable (Double.ValidStep dtSeconds))
  | .start | .requestStop | .join | .work _ => .isTrue trivial

/-- So is that of the update in progress. -/
def ValidInProgress : ControlPoint (Exact K) → Prop
  | .readCommand dtSeconds | .stepLoop dtSeconds _ => Double.ValidStep dtSeconds
  | _ => True

theorem act_valid (system : AsyncSystem (Exact K)) (action : Action (Exact K))
    (valid : action.Valid) (inProgress : ValidInProgress system.control) :
    ValidInProgress (system.act action).1.control := by
  cases action with
  | start | requestStop | join | work => exact inProgress
  | control dt lucky =>
    simp only [act]
    cases point : system.control with
    | idle =>
      simp only [advance, point]
      split_ifs
      · exact valid
      · exact valid
    | readCommand dt' =>
      rw [point] at inProgress
      simp only [advance, point]
      exact inProgress
    | stepLoop dt' snapshot =>
      simp only [advance, point]
      trivial
    | lockStatus status =>
      simp only [advance, point]
      split_ifs <;> trivial
    | publishStatus status =>
      simp only [advance, point]
      trivial

theorem pending_valid (system : AsyncSystem (Exact K)) (dt : Exact K)
    (snapshot : Option (Snapshot (PlcCommandData (Exact K))))
    (pending : system.pending = some (dt, snapshot))
    (inProgress : ValidInProgress system.control) : Double.ValidStep dt := by
  unfold AsyncSystem.pending at pending
  split at pending
  next point =>
    cases pending
    rw [point] at inProgress
    exact inProgress
  next => cases pending

structure Supervised (timeout : Exact K) (system : AsyncSystem (Exact K))
    (log : List (Event (Exact K))) : Prop where
  inProgress : ValidInProgress system.control
  supervised : system.supervisor.Supervised timeout (updates log)

theorem supervised_act {timeout : Exact K} {system : AsyncSystem (Exact K)}
    {log : List (Event (Exact K))} (action : Action (Exact K)) (valid : action.Valid)
    (supervised : Supervised timeout system log) :
    Supervised timeout (system.act action).1 (log ++ (system.act action).2) := by
  refine ⟨act_valid system action valid supervised.inProgress, ?_⟩
  have effect := act_effect system action
  rw [updates_append]
  generalize (system.act action).1 = next at effect ⊢
  generalize (system.act action).2 = events at effect ⊢
  -- of the five effects only a completed update adds to the record
  cases effect with
  | silent keeps _ _ silent =>
    rw [silent.updates, List.append_nil, keeps.supervisor]
    exact supervised.supervised
  | read _ keeps | sample _ _ keeps =>
    rw [keeps.supervisor]
    simpa [updates] using supervised.supervised
  | publish _ _ _ _ unchanged =>
    rw [unchanged]
    simpa [updates] using supervised.supervised
  | update dt snapshot pending _ updated =>
    have validStep := pending_valid system dt snapshot pending supervised.inProgress
    have next := AsyncPlcSupervisor.supervised_update dt snapshot system.worker.connected validStep
      supervised.supervised
    rw [updated]
    cases accepted : system.supervisor.acceptedSnapshot snapshot with
    | none => simpa [updates, accepted] using next
    | some command => simpa [updates, accepted] using next

/-- In every interleaving, an asynchronous supervisor lets the axis be enabled only in
updates less than the watchdog timeout after it applied a command with a new heartbeat. -/
theorem async_communication_loss (timeout : Exact K)
    (loopConfiguration : ControlLoop.Configuration (Exact K)) (controller : PidController (Exact K))
    (plant : ServoPlant (Exact K)) (supervisor : AsyncPlcSupervisor (Exact K))
    (created : AsyncPlcSupervisor.create timeout
      (ControlLoop.create loopConfiguration controller plant) = .ok supervisor)
    (worker : PlcCommunicationWorker (Exact K)) (actions : List (Action (Exact K)))
    (valid : ∀ action ∈ actions, action.Valid) :
    Throughout (fun before update =>
      update.status.state ∈ [ControllerState.ready, .running, .stopping] →
        RecentlyRenewed timeout (before ++ [update]))
      (updates ((create worker supervisor).observe actions).2) := by
  obtain ⟨unheard, timeoutEq, fresh, _⟩ := AsyncPlcSupervisor.create_monitor created
  have initial : Supervised timeout (create worker supervisor) [] := by
    refine ⟨trivial, ⟨timeoutEq, unheard, fun heard => absurd unheard heard⟩, ?_, ?_,
      throughout_nil _⟩
    · intro update member
      cases member
    · intro _
      change supervisor.controlLoop.command = .initial ∧
        Resting supervisor.controlLoop.stateMachine.state
      rw [fresh]
      exact ⟨rfl, Or.inl rfl⟩
  have supervised := run_invariant (logged act) (fun _ action => action.Valid)
    (fun state => Supervised timeout state.1 state.2)
    (fun _ action valid supervised => supervised_act action valid supervised)
    (create worker supervisor, []) actions (along_inputs _ _ _ actions valid) initial
  exact supervised.supervised.recent

/-- The worker publishes one command, and the axis runs in the third update after it. -/
theorem async_communication_loss_started :
    RecentlyRenewed 0.10 (updates (demo.observe
      (.start :: List.replicate 5 (serve startCommand) ++ List.replicate 15 tick)).2) := by
  have running : (updates (demo.observe (.start :: List.replicate 5 (serve startCommand) ++
      List.replicate 15 tick)).2).getLast?.map (fun update => update.status.state) =
        some .running := by decide +kernel
  obtain ⟨update, last, state⟩ := Option.map_eq_some_iff.mp running
  obtain ⟨before, split⟩ := List.getLast?_eq_some_iff.mp last
  have recent := async_communication_loss 0.10 .initial (ControlLoop.demoController.map fin)
    (ServoPlant.lift .initial) AsyncPlcSupervisor.demo AsyncPlcSupervisor.demo_created
    demo.worker (.start :: List.replicate 5 (serve startCommand) ++ List.replicate 15 tick)
    (by decide +kernel) before update [] split (by rw [state]; decide)
  rwa [← split] at recent

end AsyncSystem

end MotionBridge
