import MotionBridge.Properties.Recovery
import MotionBridge.Properties.RoundTrip

/-!
# Recovery across both threads

Once the PLC can be reached again and asks for a restart with a new heartbeat, the way of its
command to the supervisor is short enough for the axis to come back before the watchdog expires
again.
-/
namespace MotionBridge

open Foundation
open Exact (fin)

section Updates

variable {R : Type} [Double R]

namespace AsyncPlcSupervisor

/-- With the watchdog alive the loop is told of no fault. -/
theorem update_alive (supervisor : AsyncPlcSupervisor R) (dt : R)
    (snapshot : Option (Snapshot (PlcCommandData R))) (connected : Bool)
    (alive : (supervisor.update dt snapshot connected).1.watchdog.expired = false) :
    (supervisor.update dt snapshot connected).1.controlLoop =
      ((supervisor.controlLoop.setPlcCommand ((supervisor.acceptedSnapshot snapshot).map
        Snapshot.value)).setExternalFault .none).step dt := by
  change ((supervisor.controlLoop.setPlcCommand _).setExternalFault
    (if (supervisor.update dt snapshot connected).1.watchdog.expired then
      .communicationTimeout else .none)).step dt = _
  rw [alive]
  rfl

theorem update_coherent (supervisor : AsyncPlcSupervisor R) (dt : R)
    (snapshot : Option (Snapshot (PlcCommandData R))) (connected : Bool)
    (coherent : supervisor.controlLoop.stateMachine.Coherent) :
    (supervisor.update dt snapshot connected).1.controlLoop.stateMachine.Coherent := by
  apply ControlLoop.apply_coherent _ (.step dt)
  change (supervisor.controlLoop.setPlcCommand _).stateMachine.Coherent
  rw [ControlLoop.setPlcCommand_stateMachine]
  exact coherent

end AsyncPlcSupervisor

namespace AsyncSystem

/-- The heartbeat heard last came with the command applied last. -/
def Attributed (system : AsyncSystem R) (log : List (Event R)) : Prop :=
  system.supervisor.lastPlcHeartbeat =
    (applied log).getLast?.map fun snapshot => snapshot.value.heartbeat

theorem attributed_act {system : AsyncSystem R} {log : List (Event R)} (action : Action R)
    (attributed : Attributed system log) :
    Attributed (system.act action).1 (log ++ (system.act action).2) := by
  have effect := act_effect system action
  generalize (system.act action).1 = next at effect ⊢
  generalize (system.act action).2 = events at effect ⊢
  unfold Attributed at attributed ⊢
  cases effect with
  | silent keeps _ _ silent =>
    rw [keeps.supervisor, applied_append, silent.applied, List.append_nil]
    exact attributed
  | read _ keeps | sample _ _ keeps =>
    rw [keeps.supervisor, attributed]
    simp [applied]
  | publish _ _ _ _ supervisor =>
    rw [supervisor, attributed]
    simp [applied]
  | update dt snapshot _ _ supervisor =>
    have heard := CommunicationMonitor.hearCommand_heartbeat system.supervisor.toCommunicationMonitor
      ((system.supervisor.acceptedSnapshot snapshot).map Snapshot.value)
    rw [applied_append, applied_update, supervisor]
    change (system.supervisor.hearCommand
      ((system.supervisor.acceptedSnapshot snapshot).map Snapshot.value)).lastPlcHeartbeat = _
    rw [heard, attributed]
    cases system.supervisor.acceptedSnapshot snapshot with
    | none => simp
    | some sample => simp

/-- An update whose sample holds this command has it taken over, now or before. -/
theorem sample_taken {system : AsyncSystem R} {log : List (Event R)} {dt : R}
    {sample : Snapshot (PlcCommandData R)} (delivered : Delivered system log)
    (attributed : Attributed system log) (pending : system.pending = some (dt, some sample)) :
    let command := (system.supervisor.acceptedSnapshot (some sample)).map Snapshot.value
    (system.supervisor.hearCommand command).lastPlcHeartbeat = some sample.value.heartbeat ∧
      (system.supervisor.controlLoop.setPlcCommand command).command =
        decodePlcCommand sample.value := by
  have sampled : system.pendingSample = some sample := by
    rw [pendingSample, pending]
    rfl
  cases accepted : system.supervisor.acceptedSnapshot (some sample) with
  | none =>
    -- refused, since it was the last one to be applied
    have again := refused_sample delivered sampled accepted
    constructor
    · change system.supervisor.lastPlcHeartbeat = _
      rw [attributed, again]
      rfl
    · exact delivered.inForce sample again
  | some taken =>
    obtain ⟨same, _⟩ := AsyncPlcSupervisor.accepted_some accepted
    cases same
    constructor
    · simp
    · rfl

end AsyncSystem

end Updates

variable {K : Type} [Field K] [LinearOrder K] [SquareRoot K]

namespace CommunicationMonitor

/-- When this heartbeat is the one heard last, it was first heard at most `spent` ago. -/
def Renewed (heartbeat : UInt32) (spent : K) (monitor : CommunicationMonitor (Exact K)) : Prop :=
  monitor.lastPlcHeartbeat = some heartbeat → Kicked spent monitor

theorem renewed_hear {heartbeat : UInt32} {spent : K} {monitor : CommunicationMonitor (Exact K)}
    (nonneg : 0 ≤ spent) (command : Option (PlcCommandData (Exact K)))
    (renewed : Renewed heartbeat spent monitor) :
    Renewed heartbeat spent (monitor.hearCommand command) := by
  intro last
  cases command with
  | none => exact renewed last
  | some data =>
    by_cases changed : monitor.lastPlcHeartbeat ≠ some data.heartbeat
    · obtain ⟨armed, heard, x, elapsed, small⟩ := kicked_changed monitor data changed
      exact ⟨armed, heard, x, elapsed, small.trans nonneg⟩
    · rw [hearCommand, hear, if_neg changed] at last ⊢
      exact renewed last

variable [IsStrictOrderedRing K]

theorem renewed_advance {heartbeat : UInt32} {spent x : K}
    {monitor : CommunicationMonitor (Exact K)} (positive : 0 < x)
    (renewed : Renewed heartbeat spent monitor) :
    Renewed heartbeat (spent + x) (monitor.advance (fin x)) :=
  fun last => kicked_advance positive (renewed last)

end CommunicationMonitor

namespace AsyncSystem

/-- What the supervisor knows, and the time of the updates, since the PLC has set this heartbeat. -/
structure Since (heartbeat : UInt32) (timeout : Exact K) (system : AsyncSystem (Exact K))
    (late : List (Event (Exact K))) : Prop where
  timeout_eq : system.supervisor.watchdog.timeoutSeconds = timeout
  coherent : system.supervisor.controlLoop.stateMachine.Coherent
  elapsed : ∃ spent, ((updates late).map Update.dtSeconds).sum = fin spent ∧ 0 ≤ spent ∧
    system.supervisor.Renewed heartbeat spent

variable [IsStrictOrderedRing K]

theorem since_act {heartbeat : UInt32} {timeout : Exact K} {system : AsyncSystem (Exact K)}
    {late : List (Event (Exact K))} (action : Action (Exact K))
    (valid : ∀ update ∈ updates (system.act action).2, Double.ValidStep update.dtSeconds)
    (since : Since heartbeat timeout system late) :
    Since heartbeat timeout (system.act action).1 (late ++ (system.act action).2) := by
  rcases act_updated system action with ⟨quiet, same⟩ | ⟨dt, snapshot, _, supervisor, updated, _⟩
  · refine ⟨same ▸ since.timeout_eq, same ▸ since.coherent, ?_⟩
    rw [updates_append, quiet, List.append_nil, same]
    exact since.elapsed
  · obtain ⟨spent, sum, nonneg, renewed⟩ := since.elapsed
    have validStep : Double.ValidStep dt := valid _ (updated ▸ List.mem_singleton_self _)
    obtain ⟨x, rfl, positive⟩ := (Exact.validStep_iff _).mp validStep
    refine ⟨?_, ?_, spent + x, ?_, by linarith, ?_⟩
    · rw [supervisor]
      change (Watchdog.advance (system.supervisor.hearCommand _).watchdog _).timeoutSeconds = _
      rw [Watchdog.advance_timeout, CommunicationMonitor.hearCommand_timeout, since.timeout_eq]
    · rw [supervisor]
      exact system.supervisor.update_coherent _ snapshot _ since.coherent
    · rw [updates_append, updated, List.map_append, List.sum_append, sum, List.map_singleton,
        List.sum_singleton]
      rfl
    · rw [supervisor]
      exact CommunicationMonitor.renewed_advance positive
        (CommunicationMonitor.renewed_hear nonneg _ renewed)

/-- What a recovery has come to in some updates. -/
structure Resumed (starting : Prop) (loop : ControlLoop (Exact K))
    (updates : List (Update (Exact K))) : Prop where
  recovering : loop.Recovering updates.length
  last : ∀ update ∈ updates.getLast?, update.status.state = loop.stateMachine.state
  reported : Throughout (Recovers starting) updates

/-- An update whose sample asks for a restart, in time. -/
theorem resumed_update {timeout : Exact K} {spent x : K} {supervisor : AsyncPlcSupervisor (Exact K)}
    {command : PlcCommandData (Exact K)} {updates : List (Update (Exact K))}
    (snapshot : Option (Snapshot (PlcCommandData (Exact K)))) (connected : Bool)
    (isTimeout : supervisor.watchdog.timeoutSeconds = timeout) (nonneg : 0 ≤ spent)
    (renewed : supervisor.Renewed command.heartbeat spent) (positive : 0 < x)
    (timely : fin (spent + x) < timeout) (restoring : Restoring (decodePlcCommand command))
    (heard : (supervisor.hearCommand ((supervisor.acceptedSnapshot snapshot).map
      Snapshot.value)).lastPlcHeartbeat = some command.heartbeat)
    (inForce : (supervisor.controlLoop.setPlcCommand ((supervisor.acceptedSnapshot snapshot).map
      Snapshot.value)).command = decodePlcCommand command)
    (resumed : Resumed ((decodePlcCommand command).start = true) supervisor.controlLoop updates) :
    Resumed ((decodePlcCommand command).start = true)
      (supervisor.update (fin x) snapshot connected).1.controlLoop
      (updates ++ [(supervisor.update (fin x) snapshot connected).2]) := by
  have machine := supervisor.controlLoop.setPlcCommand_stateMachine
    ((supervisor.acceptedSnapshot snapshot).map Snapshot.value)
  have recovered : Recovered ((decodePlcCommand command).start = true) timeout spent
      (supervisor.hearCommand ((supervisor.acceptedSnapshot snapshot).map Snapshot.value))
      (supervisor.controlLoop.setPlcCommand ((supervisor.acceptedSnapshot snapshot).map
        Snapshot.value)) updates := by
    refine ⟨?_, CommunicationMonitor.renewed_hear nonneg _ renewed heard, inForce ▸ restoring,
      fun starts => inForce ▸ starts, ?_, ?_, resumed.reported⟩
    · rw [CommunicationMonitor.hearCommand_timeout, isTimeout]
    · obtain ⟨coherent, operational, served⟩ := resumed.recovering
      rw [← machine] at coherent operational served
      exact ⟨coherent, operational, served⟩
    · rw [machine]
      exact resumed.last
  have alive := recovered_alive positive timely recovered
  have loop := supervisor.update_alive (fin x) snapshot connected alive
  have elapsed := recovered_elapse (supervisor.update (fin x) snapshot connected).2 positive recovered
    (by rw [← loop]; rfl)
  exact ⟨loop ▸ elapsed.recovering, loop ▸ elapsed.last, elapsed.reported⟩

/-- A step of a run in which every update follows the command, in time. -/
structure Favourable (command : PlcCommandData (Exact K)) (timeout : Exact K)
    (early : List (Event (Exact K))) (state : AsyncSystem (Exact K) × List (Event (Exact K)))
    (action : Action (Exact K)) : Prop where
  follows : ∀ event ∈ (act state.1 action).2, Follows command event
  valid : ∀ update ∈ updates (act state.1 action).2, Double.ValidStep update.dtSeconds
  timely : ((updates (state.2 ++ (act state.1 action).2)).map Update.dtSeconds).sum < timeout
  delivered : Delivered state.1 (early ++ state.2)
  attributed : Attributed state.1 (early ++ state.2)

/-- The run since the PLC has set its heartbeat, and since its command is sampled. -/
structure Reviving (command : PlcCommandData (Exact K)) (timeout : Exact K)
    (before : List (Event (Exact K))) (state : AsyncSystem (Exact K) × List (Event (Exact K))) :
    Prop where
  since : Since command.heartbeat timeout state.1 state.2
  resumed : ∃ final, state.2 = before ++ final ∧
    Resumed ((decodePlcCommand command).start = true) state.1.supervisor.controlLoop (updates final)

theorem reviving_act {command : PlcCommandData (Exact K)} {timeout : Exact K}
    {early before : List (Event (Exact K))}
    {state : AsyncSystem (Exact K) × List (Event (Exact K))} (action : Action (Exact K))
    (restoring : Restoring (decodePlcCommand command))
    (favourable : Favourable command timeout early state action)
    (reviving : Reviving command timeout before state) :
    Reviving command timeout before (logged act state action) := by
  have since := since_act action favourable.valid reviving.since
  obtain ⟨final, log, resumed⟩ := reviving.resumed
  refine ⟨since, final ++ (act state.1 action).2, by rw [logged, log, List.append_assoc], ?_⟩
  simp only [logged, updates_append]
  rcases act_updated state.1 action with
    ⟨quiet, same⟩ | ⟨dt, snapshot, pending, supervisor, updated, shown⟩
  · rw [quiet, List.append_nil, same]
    exact resumed
  · obtain ⟨spent, sum, nonneg, renewed⟩ := reviving.since.elapsed
    have validStep : Double.ValidStep dt :=
      favourable.valid _ (updated ▸ List.mem_singleton_self _)
    obtain ⟨x, rfl, positive⟩ := (Exact.validStep_iff _).mp validStep
    have timely := favourable.timely
    rw [updates_append, updated, List.map_append, List.sum_append, sum, List.map_singleton,
      List.sum_singleton] at timely
    obtain ⟨found, rfl, rfl⟩ := favourable.follows _ shown
    obtain ⟨heard, inForce⟩ := sample_taken favourable.delivered favourable.attributed pending
    rw [updated, supervisor]
    exact resumed_update (some found) _ reviving.since.timeout_eq nonneg renewed positive timely
      restoring heard inForce resumed

omit [IsStrictOrderedRing K] in
/-- What every update preserves, and what holds of a supervisor that was just built. -/
theorem monitored_observe {timeout : Exact K} {configuration : ControlLoop.Configuration (Exact K)}
    {controller : PidController (Exact K)} {plant : ServoPlant (Exact K)}
    {supervisor : AsyncPlcSupervisor (Exact K)}
    (created : AsyncPlcSupervisor.create timeout (ControlLoop.create configuration controller plant) =
      .ok supervisor)
    (worker : PlcCommunicationWorker (Exact K)) (actions : List (Action (Exact K))) :
    let outcome := (create worker supervisor).observe actions
    outcome.1.supervisor.watchdog.timeoutSeconds = timeout ∧
      outcome.1.supervisor.controlLoop.stateMachine.Coherent ∧ Attributed outcome.1 outcome.2 := by
  obtain ⟨unheard, isTimeout, loop, _⟩ := AsyncPlcSupervisor.create_monitor created
  refine run_always (logged act) (fun state => state.1.supervisor.watchdog.timeoutSeconds = timeout ∧
    state.1.supervisor.controlLoop.stateMachine.Coherent ∧ Attributed state.1 state.2) ?_ _ actions
    ⟨isTimeout, ?_, unheard⟩
  · rintro ⟨system, log⟩ action ⟨isTimeout, coherent, attributed⟩
    refine ⟨?_, ?_, attributed_act action attributed⟩
    · rcases act_updated system action with ⟨_, same⟩ | ⟨dt, snapshot, _, updated, _⟩
      · exact same ▸ isTimeout
      · simp only [logged, updated]
        change (Watchdog.advance (system.supervisor.hearCommand _).watchdog _).timeoutSeconds = _
        rw [Watchdog.advance_timeout, CommunicationMonitor.hearCommand_timeout, isTimeout]
    · rcases act_updated system action with ⟨_, same⟩ | ⟨dt, snapshot, _, updated, _⟩
      · exact same ▸ coherent
      · simp only [logged, updated]
        exact system.supervisor.update_coherent dt snapshot _ coherent
  · change supervisor.controlLoop.stateMachine.Coherent
    rw [loop]
    exact ControllerStateMachine.initial_coherent

/-- Some of the updates take no longer than all of them. -/
theorem timely_part {timeout : Exact K} (limited : ∃ limit, timeout = fin limit)
    {part rest : List (Update (Exact K))}
    (valid : ∀ update ∈ part ++ rest, Double.ValidStep update.dtSeconds)
    (timely : ((part ++ rest).map Update.dtSeconds).sum < timeout) :
    (part.map Update.dtSeconds).sum < timeout := by
  obtain ⟨limit, rfl⟩ := limited
  obtain ⟨validPart, validRest⟩ := List.forall_mem_append.mp valid
  obtain ⟨x, here, _⟩ := Exact.sum_nonneg (part.map Update.dtSeconds) (by simpa using validPart)
  obtain ⟨y, more, nonneg⟩ := Exact.sum_nonneg (rest.map Update.dtSeconds) (by simpa using validRest)
  rw [List.map_append, List.sum_append, here, more] at timely
  rw [here]
  have whole : x + y < limit := timely
  exact (Exact.fin_lt_fin _ _).mpr (by linarith)

section Late

variable {R : Type} [Double R]

/-- Each step emits a part of what the whole run emits. -/
theorem act_emits (system : AsyncSystem R) (part : List (Action R)) (action : Action R)
    (rest : List (Action R)) :
    ∃ more, (system.observe (part ++ action :: rest)).2 =
      (system.observe part).2 ++ ((system.observe part).1.act action).2 ++ more :=
  run_logged_split act system part action rest

/-- A step emits nothing but followers of the command, when the rest of its run does not. -/
theorem follows_step {command : PlcCommandData R} {now : AsyncSystem R} {sampled : List (Action R)}
    {final : List (Event R)} (follows : ∀ event ∈ final, Follows command event)
    (part : List (Action R)) (action : Action R) (rest : List (Action R))
    (lastly : (now.observe (sampled ++ (part ++ action :: rest))).2 =
      (now.observe sampled).2 ++ final) :
    ∀ event ∈ ((now.observe (sampled ++ part)).1.act action).2, Follows command event := by
  obtain ⟨more, parts⟩ := act_emits (now.observe sampled).1 part action rest
  rw [observe_from] at lastly ⊢
  rw [parts] at lastly
  intro event member
  apply follows
  rw [← List.append_cancel_left lastly]
  exact List.mem_append_left _ (List.mem_append_right _ member)

end Late

/-- So does the time of the updates up to a step stay below that of the whole run. -/
theorem timely_step {timeout : Exact K} {now : AsyncSystem (Exact K)}
    (limited : ∃ limit, timeout = fin limit) (part : List (Action (Exact K)))
    (action : Action (Exact K)) (rest : List (Action (Exact K)))
    (valid : ∀ update ∈ updates (now.observe (part ++ action :: rest)).2,
      Double.ValidStep update.dtSeconds)
    (timely : ((updates (now.observe (part ++ action :: rest)).2).map Update.dtSeconds).sum < timeout) :
    (∀ update ∈ updates ((now.observe part).1.act action).2, Double.ValidStep update.dtSeconds) ∧
      ((updates ((now.observe part).2 ++ ((now.observe part).1.act action).2)).map
        Update.dtSeconds).sum < timeout := by
  obtain ⟨more, parts⟩ := act_emits now part action rest
  rw [parts, updates_append] at valid timely
  refine ⟨fun update member => valid update ?_, timely_part limited valid timely⟩
  rw [updates_append]
  exact List.mem_append_left _ (List.mem_append_right _ member)

/-- From the moment the PLC sets a heartbeat other than the one heard last. -/
theorem since_run {heartbeat : UInt32} {timeout : Exact K} {now : AsyncSystem (Exact K)}
    (limited : ∃ limit, timeout = fin limit)
    (isTimeout : now.supervisor.watchdog.timeoutSeconds = timeout)
    (coherent : now.supervisor.controlLoop.stateMachine.Coherent)
    (changed : now.supervisor.lastPlcHeartbeat ≠ some heartbeat) (part rest : List (Action (Exact K)))
    (valid : ∀ update ∈ updates (now.observe (part ++ rest)).2, Double.ValidStep update.dtSeconds)
    (timely : ((updates (now.observe (part ++ rest)).2).map Update.dtSeconds).sum < timeout) :
    Since heartbeat timeout (now.observe part).1 (now.observe part).2 := by
  refine run_invariant (logged act)
    (fun state action => ∀ update ∈ updates (act state.1 action).2, Double.ValidStep update.dtSeconds)
    (fun state => Since heartbeat timeout state.1 state.2)
    (fun state action valid since => since_act action valid since) _ part ?_
    ⟨isTimeout, coherent, 0, rfl, le_rfl, fun last => absurd last changed⟩
  -- only the time steps of this part matter, which are among those of the whole run
  rw [along_iff]
  rintro earlier action later rfl
  rw [List.append_assoc, List.cons_append] at valid timely
  exact (timely_step limited earlier action (later ++ rest) valid timely).1

/-- Once the command is sampled, every step is favourable. -/
theorem favourable_run {command : PlcCommandData (Exact K)} {timeout : Exact K}
    {early final : List (Event (Exact K))} {now : AsyncSystem (Exact K)}
    (limited : ∃ limit, timeout = fin limit) (sampled third : List (Action (Exact K)))
    (follows : ∀ event ∈ final, Follows command event)
    (lastly : (now.observe (sampled ++ third)).2 = (now.observe sampled).2 ++ final)
    (valid : ∀ update ∈ updates (now.observe (sampled ++ third)).2,
      Double.ValidStep update.dtSeconds)
    (timely : ((updates (now.observe (sampled ++ third)).2).map Update.dtSeconds).sum < timeout)
    (known : ∀ part rest, third = part ++ rest →
      Delivered (now.observe (sampled ++ part)).1 (early ++ (now.observe (sampled ++ part)).2) ∧
        Attributed (now.observe (sampled ++ part)).1 (early ++ (now.observe (sampled ++ part)).2)) :
    Along (logged act) (Favourable command timeout early) (now.observe sampled) third := by
  rw [along_iff]
  rintro part action rest rfl
  have follows := follows_step follows part action rest lastly
  rw [← List.append_assoc] at valid timely
  obtain ⟨validStep, brief⟩ := timely_step limited (sampled ++ part) action rest valid timely
  obtain ⟨delivered, attributed⟩ := known part (action :: rest) rfl
  rw [← observe_append]
  exact ⟨follows, validStep, brief, delivered, attributed⟩

/-- Whatever has happened before: the PLC asks for a restart, with a heartbeat other than the one
heard last. In time, and as long as the updates since then take less than the watchdog waits,
none of them reports a fault, and after the first the axis is ready or running. -/
theorem recovery_response (workerConfiguration : PlcCommunicationWorker.Configuration)
    (worker : PlcCommunicationWorker (Exact K))
    (workerCreated : PlcCommunicationWorker.create workerConfiguration = .ok worker)
    (configuration : ControlLoop.Configuration (Exact K)) (controller : PidController (Exact K))
    (plant : ServoPlant (Exact K)) (timeout : Exact K) (supervisor : AsyncPlcSupervisor (Exact K))
    (created : AsyncPlcSupervisor.create timeout (ControlLoop.create configuration controller plant) =
      .ok supervisor)
    (before first second third : List (Action (Exact K))) (command : PlcCommandData (Exact K))
    (restoring : Restoring (decodePlcCommand command))
    (setting : Setting (create worker supervisor) before first second third command)
    (changed : ((create worker supervisor).observe before).1.supervisor.lastPlcHeartbeat ≠
      some command.heartbeat)
    (late : List (Event (Exact K)))
    (since : ((create worker supervisor).observe (before ++ first ++ second ++ third)).2 =
      ((create worker supervisor).observe before).2 ++ late)
    (valid : ∀ update ∈ updates late, Double.ValidStep update.dtSeconds)
    (timely : ((updates late).map Update.dtSeconds).sum < timeout) :
    ∃ final, ((create worker supervisor).observe (before ++ first ++ second ++ third)).2 =
        ((create worker supervisor).observe (before ++ first ++ second)).2 ++ final ∧
      Throughout (Recovers ((decodePlcCommand command).start = true)) (updates final) := by
  have same := fresh_of_create workerCreated supervisor
  obtain ⟨middle, final, _, lately, log, follows, _, _⟩ :=
    answered_in_time workerConfiguration supervisor (same ▸ setting)
  rw [← same] at lately log
  have delivered := fun actions => delivered_run workerCreated created actions
  have monitored := fun actions => monitored_observe created worker actions
  have published := setting.published
  have limited : ∃ limit, timeout = fin limit := by
    obtain ⟨_, isTimeout, _⟩ := AsyncPlcSupervisor.create_monitor created
    obtain ⟨limit, same, _⟩ := (Exact.validStep_iff _).mp supervisor.watchdog.accepted
    exact ⟨limit, isTimeout.symm.trans same⟩
  generalize create worker supervisor = system at *
  rw [← List.append_assoc, ← lately] at log
  refine ⟨final, log, ?_⟩
  -- from here on everything is told of the run since `before`
  simp only [List.append_assoc before] at log since published
  generalize first ++ second = sampled at log since published
  obtain ⟨isTimeout, coherent, _⟩ := monitored before
  rw [observe_from] at since published
  cases List.append_cancel_left since
  simp only [observe_from system before, List.append_assoc] at log
  have lastly := List.append_cancel_left log
  have known : ∀ part rest, third = part ++ rest →
      Delivered ((system.observe before).1.observe (sampled ++ part)).1
          ((system.observe before).2 ++ ((system.observe before).1.observe (sampled ++ part)).2) ∧
        Attributed ((system.observe before).1.observe (sampled ++ part)).1
          ((system.observe before).2 ++ ((system.observe before).1.observe (sampled ++ part)).2) := by
    rintro part rest rfl
    have bounded := delivered (before ++ (sampled ++ part))
    have attributed := (monitored (before ++ (sampled ++ part))).2.2
    rw [observe_from] at bounded attributed
    refine ⟨bounded ?_, attributed⟩
    -- no more has been published up to there than in the whole run
    rw [← List.append_assoc sampled, observe_from _ (sampled ++ part), ← List.append_assoc,
      published_append, List.length_append] at published
    exact Nat.lt_of_le_of_lt (Nat.le_add_right _ _) published
  have begun := since_run limited isTimeout coherent changed sampled third valid timely
  -- the recovery begins here: none of its updates has been made
  have resting : Resumed ((decodePlcCommand command).start = true)
      ((system.observe before).1.observe sampled).1.supervisor.controlLoop (updates []) := by
    refine ⟨⟨begun.coherent, fun some => ?_, fun some => ?_⟩, ?_, throughout_nil _⟩
    · simp [updates] at some
    · simp [updates] at some
    · simp [updates]
  have reviving := run_invariant (logged act) (Favourable command timeout (system.observe before).2)
    (Reviving command timeout ((system.observe before).1.observe sampled).2)
    (fun _ action favourable reviving => reviving_act action restoring favourable reviving) _ third
    (favourable_run limited sampled third follows lastly valid timely known)
    ⟨begun, [], (List.append_nil _).symm, resting⟩
  rw [← observe_append] at reviving
  obtain ⟨more, grown, resumed⟩ := reviving.resumed
  cases List.append_cancel_left (lastly.symm.trans grown)
  exact resumed.reported

/-- The demo is enabled, and hears nothing of the PLC for longer than its watchdog waits. -/
def outage : List (Action (Exact ℚ)) :=
  .start :: List.replicate 8 (serve startCommand) ++ List.replicate 5 tick ++
    List.replicate 5 (.control (fin 0.2) true)

def restartCommand : PlcCommandData (Exact ℚ) :=
  { startCommand with
    controlWord := startCommand.controlWord ||| PlcControlBit.resetFault
    heartbeat := 2 }

/-- Then it is asked to restart. -/
theorem recovery_response_demo :
    let asked := outage ++ List.replicate 12 (serve restartCommand) ++
      List.replicate 8 tick
    ∃ final, (demo.observe (asked ++ (List.replicate 10 (serve restartCommand) ++
          List.replicate 10 tick))).2 = (demo.observe asked).2 ++ final ∧
      Throughout (Recovers ((decodePlcCommand restartCommand).start = true))
        (updates final) :=
  recovery_response .initial demo.worker demo_worker_created .initial
    (ControlLoop.demoController.map fin) (ServoPlant.lift .initial) 0.10 AsyncPlcSupervisor.demo
    AsyncPlcSupervisor.demo_created outage (List.replicate 12 (serve restartCommand))
    (List.replicate 8 tick) (List.replicate 10 (serve restartCommand) ++
      List.replicate 10 tick) restartCommand (by decide +kernel)
    ⟨⟨⟨.head, false, 0⟩, by decide +kernel⟩, by decide +kernel, by decide +kernel,
      by decide +kernel, by decide +kernel, by decide +kernel, by decide +kernel⟩
    (by decide +kernel) _
    (by
      rw [List.append_assoc, List.append_assoc, ← List.append_assoc (List.replicate 12 _),
        observe_from])
    (by decide +kernel) (by decide +kernel)

end AsyncSystem

end MotionBridge
