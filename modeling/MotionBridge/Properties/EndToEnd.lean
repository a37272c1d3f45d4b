import MotionBridge.Communication.StatusChannel
import MotionBridge.Foundation.FixedPoint
import MotionBridge.Properties.AdaptersAgree
import MotionBridge.Properties.Delivery

/-!
# From the data block to the axis and back

What the supervisor applies was asked for in the data block of the PLC, and what is stored
there was reported by the control loop, each in its order. No sequence number has to be
compared for this, so it does not matter whether one wraps.
-/
namespace MotionBridge

open Foundation

namespace AsyncSystem

variable {R : Type}

/-- The statuses stored in the status mailbox. -/
def reported (log : List (Event R)) : List (Snapshot (PlcStatusData R)) :=
  log.filterMap fun
    | .publishStatus status => some status
    | _ => none

/-- The statuses the PLC accepted. -/
def told (log : List (Event R)) : List (Snapshot (PlcStatusData R)) :=
  log.filterMap fun
    | .worker (.write status true) => some status
    | _ => none

def tell (last : Option (PlcStatusData R)) : Event R → Option (PlcStatusData R)
  | .worker (.write status accepted) => if accepted then some status.value else none
  | _ => last

/-- What the PLC was told last, unless the last write failed. -/
def lastTold (log : List (Event R)) : Option (PlcStatusData R) := log.foldl tell none

@[simp] theorem reported_append (log events : List (Event R)) :
    reported (log ++ events) = reported log ++ reported events := List.filterMap_append

@[simp] theorem told_append (log events : List (Event R)) :
    told (log ++ events) = told log ++ told events := List.filterMap_append

end AsyncSystem

/-- The status on its way from an update into the mailbox. -/
def ControlPoint.status {R : Type} : ControlPoint R → Option (PlcStatusData R)
  | .lockStatus status | .publishStatus status => some status
  | _ => none

namespace AsyncSystem

variable {R : Type} [Double R]

/-- A system whose worker has just been built. -/
def fresh (configuration : PlcCommunicationWorker.Configuration) (supervisor : AsyncPlcSupervisor R) :
    AsyncSystem R :=
  create ⟨configuration, .initial, .initial, none, false, ⟨0, 0, 0⟩⟩ supervisor

theorem fresh_of_create {configuration : PlcCommunicationWorker.Configuration}
    {worker : PlcCommunicationWorker R}
    (created : PlcCommunicationWorker.create configuration = .ok worker)
    (supervisor : AsyncPlcSupervisor R) : create worker supervisor = fresh configuration supervisor := by
  unfold PlcCommunicationWorker.create at created
  split at created
  · cases created
  · cases created
    rfl

/-! ### Commands -/

/-- What the supervisor has applied, and the sample it has yet to decide on. `before` is the
command that was in force at first. -/
structure Passed (before : MotionCommand R) (system : AsyncSystem R) (log : List (Event R)) : Prop where
  carried : Carried system log
  retraces : Retraces (published log) (applied log ++ system.pendingSample.toList)
  inForce : system.supervisor.controlLoop.command =
    (applied log).getLast?.elim before fun snapshot => decodePlcCommand snapshot.value

variable {before : MotionCommand R}

theorem fresh_passed (configuration : PlcCommunicationWorker.Configuration)
    (supervisor : AsyncPlcSupervisor R) :
    Passed supervisor.controlLoop.command (fresh configuration supervisor) [] := by
  refine ⟨⟨rfl, ?_, nofun, nofun, throughout_nil _, throughout_nil _⟩, .done _, rfl⟩
  exact List.Sublist.refl _

/-- A step without a new sample or an update. -/
theorem passed_quiet {system next : AsyncSystem R} {log events : List (Event R)}
    (passed : Passed before system log) (carried : Carried next (log ++ events))
    (supervisor : next.supervisor = system.supervisor) (pending : next.pending = system.pending)
    (unapplied : applied events = []) : Passed before next (log ++ events) := by
  refine ⟨carried, ?_, ?_⟩
  · rw [published_append, applied_append, unapplied, List.append_nil, pendingSample_congr pending]
    exact passed.retraces.grow _
  · rw [supervisor, applied_append, unapplied, List.append_nil]
    exact passed.inForce

theorem passed_act {system : AsyncSystem R} {log : List (Event R)} (action : Action R)
    (passed : Passed before system log) :
    Passed before (system.act action).1 (log ++ (system.act action).2) := by
  have carried := carried_act action passed.carried
  have effect := act_effect system action
  generalize (system.act action).1 = next at effect carried ⊢
  generalize (system.act action).2 = events at effect carried ⊢
  -- a command that is dropped after its sample is left out of what was applied
  have decided : Retraces (published log) (applied log) :=
    passed.retraces.sublist (List.sublist_append_left _ _)
  cases effect with
  | silent keeps _ pending silent =>
    exact passed_quiet passed carried keeps.supervisor pending silent.applied
  | read command keeps _ pending => exact passed_quiet passed carried keeps.supervisor pending rfl
  | publish command _ _ _ supervisor pending =>
    exact passed_quiet passed carried supervisor pending rfl
  | sample dt snapshot keeps _ origin pending =>
    have sampled : next.pendingSample = snapshot := by
      rw [pendingSample, pending]
      rfl
    refine ⟨carried, ?_, ?_⟩
    · rw [published_append, applied_append, sampled]
      cases snapshot with
      | none => simpa [applied, published] using decided
      | some snapshot =>
        rcases origin with missing | read
        · cases missing
        -- the mailbox shows the last publication
        · have last := passed.carried.mailbox.symm.trans read.symm
          simpa [applied, published] using decided.look last
    · rw [keeps.supervisor, passed.inForce]
      simp [applied]
  | update dt snapshot pending worker supervisor done =>
    have sampled : system.pendingSample = snapshot := by
      rw [pendingSample, pending]
      rfl
    have idle : next.pendingSample = none := by
      rw [pendingSample, done]
      rfl
    have command : next.supervisor.controlLoop.command = _ :=
      (congrArg (fun s => s.controlLoop.command) supervisor).trans
        (AsyncPlcSupervisor.update_command _ _ _ _)
    have retraces := passed.retraces
    rw [sampled] at retraces
    refine ⟨carried, ?_, ?_⟩
    · cases accepted : system.supervisor.acceptedSnapshot snapshot with
      | none => simpa [published, applied, idle] using decided
      | some sample =>
        obtain ⟨rfl, _⟩ := AsyncPlcSupervisor.accepted_some accepted
        simpa [published, applied, idle] using retraces
    · cases accepted : system.supervisor.acceptedSnapshot snapshot with
      | none =>
        rw [accepted] at command
        simpa [applied, command] using passed.inForce
      | some sample =>
        rw [accepted] at command
        simp [applied, command]

/-! ### Statuses -/

/-- What the loop has reported, what has come into the mailbox, and what the worker has told
the PLC or is about to. -/
structure Returned (system : AsyncSystem R) (log : List (Event R)) : Prop where
  mailbox : system.worker.statusMailbox.read = (reported log).getLast?
  produced : ((reported log).map Snapshot.value ++ system.control.status.toList).Sublist
    ((updates log).filterMap Update.published)
  retraces : Retraces (reported log) (told log ++ system.worker.heldStatus.toList)

theorem fresh_returned (configuration : PlcCommunicationWorker.Configuration)
    (supervisor : AsyncPlcSupervisor R) : Returned (fresh configuration supervisor) [] :=
  ⟨rfl, List.Sublist.refl _, .done _⟩

/-- The worker's own step, or a call of its owner, which reports nothing. -/
theorem returned_worker {system : AsyncSystem R} {log : List (Event R)}
    (returned : Returned system log) {worker : PlcCommunicationWorker R}
    {events : List (PlcCommunicationWorker.Event R)}
    (mailbox : worker.statusMailbox.read = system.worker.statusMailbox.read)
    (retraces : Retraces (reported log)
      (told log ++ told (events.map Event.worker) ++ worker.heldStatus.toList)) :
    Returned { system with worker := worker } (log ++ events.map .worker) := by
  have unreported : reported (events.map (Event.worker (R := R))) = [] := by
    simp [reported]
  have unproduced : updates (events.map (Event.worker (R := R))) = [] := by
    simp [updates]
  constructor
  · rw [reported_append, unreported, List.append_nil]
    exact mailbox.trans returned.mailbox
  · rw [reported_append, updates_append, unreported, unproduced, List.append_nil, List.append_nil]
    exact returned.produced
  · rw [reported_append, told_append, unreported, List.append_nil]
    exact retraces

omit [Double R] in
/-- The writes among the events of the worker. -/
theorem told_worker (worker : PlcCommunicationWorker R)
    (events : List (PlcCommunicationWorker.Event R)) :
    told (events.map Event.worker) =
      Relay.forwarded (StatusChannel.looks worker ++ StatusChannel.writes events) := by
  have looking : Relay.forwarded (StatusChannel.looks worker) = [] := by
    simp only [StatusChannel.looks]
    split <;> rfl
  rw [Relay.forwarded_append, looking, List.nil_append]
  induction events with
  | nil => rfl
  | cons event events ih =>
    cases event with
    | write status accepted =>
      cases accepted with
      | true => exact congrArg (status :: ·) ih
      | false => exact ih
    | connect | disconnect | sleep | read | publish => exact ih

theorem returned_work {system : AsyncSystem R} {log : List (Event R)}
    (answers : PlcCommunicationWorker.Answers R) (returned : Returned system log) :
    Returned (system.act (.work answers)).1 (log ++ (system.act (.work answers)).2) := by
  cases running : system.worker.thread with
  | none =>
    have idle : system.worker.work answers = (system.worker, []) := by
      simp only [PlcCommunicationWorker.work, running]
    simpa [act, idle] using returned
  | some thread =>
    have step : system.worker.work answers = system.worker.run thread answers := by
      simp only [PlcCommunicationWorker.work, running]
    obtain ⟨later, continues, same, effect⟩ :=
      StatusChannel.run_effect system.worker thread running answers
    have held : system.worker.heldStatus = thread.point.status := by
      rw [PlcCommunicationWorker.heldStatus, running, Option.bind_some]
    have holds : (system.worker.run thread answers).1.heldStatus = later.point.status := by
      rw [PlcCommunicationWorker.heldStatus, continues, Option.bind_some]
    simp only [act, step]
    apply returned_worker returned same.read
    rw [told_worker system.worker, holds]
    have retraces := returned.retraces
    rw [held] at retraces
    generalize StatusChannel.looks system.worker ++
      StatusChannel.writes (system.worker.run thread answers).2 = events at effect ⊢
    cases effect with
    | silent before after _ =>
      rw [before] at retraces
      simpa [after, Relay.forwarded] using retraces
    | look before found _ =>
      rw [before, Option.toList_none, List.append_nil] at retraces
      rw [returned.mailbox] at found ⊢
      cases shown : (reported log).getLast? with
      | none =>
        rw [shown] at found
        simpa [found, Relay.forwarded] using retraces
      | some status =>
        -- the status is held, or was the last one written
        rw [shown, Option.filter_some] at found
        rw [found]
        split_ifs
        · simpa [Relay.forwarded] using retraces.look shown
        · simpa [Relay.forwarded] using retraces
    | write status accepted before after _ =>
      rw [before] at retraces
      rw [after]
      cases accepted with
      | true => simpa [Relay.forwarded] using retraces
      | false =>
        have written := retraces.sublist (List.sublist_append_left _ _)
        simpa [Relay.forwarded] using written

/-- An owner of the worker who changes neither the mailbox nor the status in hand. -/
theorem returned_owner {system : AsyncSystem R} {log : List (Event R)}
    (returned : Returned system log) {worker : PlcCommunicationWorker R}
    (mailbox : worker.statusMailbox = system.worker.statusMailbox)
    (held : worker.heldStatus = system.worker.heldStatus ∨ worker.heldStatus = none) :
    Returned { system with worker := worker } (log ++ []) := by
  refine @returned_worker _ _ _ _ returned worker [] (congrArg LatestValueMailbox.read mailbox) ?_
  rcases held with same | dropped
  · simpa [told, same] using returned.retraces
  · simpa [told, dropped] using returned.retraces.sublist (List.sublist_append_left _ _)

/-- A step of the control thread that leaves the worker what it was to a status. -/
theorem returned_control {system next : AsyncSystem R} {log events : List (Event R)}
    (returned : Returned system log)
    (mailbox : next.worker.statusMailbox.read = system.worker.statusMailbox.read)
    (held : next.worker.heldStatus = system.worker.heldStatus)
    (unreported : reported events = []) (untold : told events = [])
    (produced : ((reported log).map Snapshot.value ++ next.control.status.toList).Sublist
      ((updates log).filterMap Update.published ++ (updates events).filterMap Update.published)) :
    Returned next (log ++ events) := by
  constructor
  · rw [reported_append, unreported, List.append_nil]
    exact mailbox.trans returned.mailbox
  · rw [reported_append, unreported, List.append_nil, updates_append, List.filterMap_append]
    exact produced
  · rw [reported_append, told_append, unreported, untold, List.append_nil, List.append_nil, held]
    exact returned.retraces

theorem returned_advance {system : AsyncSystem R} {log : List (Event R)} (dt : R) (lucky : Bool)
    (returned : Returned system log) :
    Returned (system.advance dt lucky).1 (log ++ (system.advance dt lucky).2) := by
  have kept := (List.sublist_append_left _ _).trans returned.produced
  cases point : system.control with
  | idle =>
    simp only [advance, point]
    -- whether or not the command mailbox could be locked
    split_ifs
    · exact returned_control returned rfl rfl rfl rfl (by simpa [ControlPoint.status, updates] using kept)
    · exact returned_control returned rfl rfl rfl rfl (by simpa [ControlPoint.status, updates] using kept)
  | readCommand dt' =>
    simp only [advance, point]
    exact returned_control returned rfl rfl rfl rfl (by simpa [ControlPoint.status, updates] using kept)
  | stepLoop dt' snapshot =>
    obtain ⟨status, reports⟩ : ∃ status,
        (system.supervisor.update dt' snapshot system.worker.connected).2.published = some status :=
      ⟨_, rfl⟩
    have more := kept.append (List.Sublist.refl [status])
    simp only [advance, point, reports]
    cases system.supervisor.acceptedSnapshot snapshot with
    | none =>
      refine returned_control returned rfl rfl rfl rfl ?_
      simpa [ControlPoint.status, updates, reports] using more
    | some sample =>
      refine returned_control returned rfl rfl rfl rfl ?_
      simpa [ControlPoint.status, updates, reports] using more
  | lockStatus status =>
    have way := returned.produced
    rw [point] at way
    simp only [advance, point]
    refine returned_control returned (LatestValueMailbox.tryLock_read _ _) rfl rfl rfl ?_
    -- a status that finds its mailbox locked is not reported
    split_ifs
    · simpa [ControlPoint.status, updates] using way
    · simpa [ControlPoint.status, updates] using kept
  | publishStatus status =>
    have way := returned.produced
    rw [point] at way
    simp only [advance, point]
    constructor
    · rw [reported_append]
      simp [reported]
    · simpa [ControlPoint.status, updates, reported] using way
    · have untold : told [Event.publishStatus
          ⟨status, system.worker.statusMailbox.sequence + 1⟩] = [] := rfl
      rw [reported_append, told_append, untold, List.append_nil]
      exact returned.retraces.grow _

theorem returned_act {system : AsyncSystem R} {log : List (Event R)} (action : Action R)
    (returned : Returned system log) :
    Returned (system.act action).1 (log ++ (system.act action).2) := by
  cases action with
  | start =>
    rcases system.worker.start_cases with same | ⟨started, idle⟩
    · rw [act, same]
      exact returned_owner returned rfl (Or.inl rfl)
    · rw [act, started]
      exact returned_owner returned rfl (Or.inr rfl)
  | requestStop =>
    exact returned_owner returned rfl (Or.inl system.worker.heldStatus_requestStop)
  | join =>
    rcases system.worker.join_cases with same | ⟨joined, _⟩
    · rw [act, same]
      exact returned_owner returned rfl (Or.inl rfl)
    · rw [act, joined]
      exact returned_owner returned rfl (Or.inr rfl)
  | work answers => exact returned_work answers returned
  | control dt lucky => exact returned_advance dt lucky returned

end AsyncSystem

/-! ### The PLC -/

/-- A worker in front of a link reads what the PLC asks for, and knows what it has been told. -/
structure PlcCommunicationWorker.Heard {R N : Type} (link next : PlcLink R N)
    (events : List (AsyncSystem.Event R)) : Prop where
  command : next.command = link.command
  reads : AsyncSystem.reads events = [] ∨
    ∃ command, AsyncSystem.reads events = [command] ∧ link.command = some command
  told : ∀ last, (∀ status, last = some status → link.status = some status) →
    ∀ status, events.foldl AsyncSystem.tell last = some status → next.status = some status

namespace PlcCommunicationWorker

variable {R N : Type} (deliver : IPlcInterface.Network R N)

theorem heard_silent {link next : PlcLink R N} (command : next.command = link.command)
    (status : next.status = link.status) {events : List (AsyncSystem.Event R)}
    (unread : AsyncSystem.reads events = [])
    (untold : ∀ last, events.foldl AsyncSystem.tell last = last) : Heard link next events := by
  refine ⟨command, Or.inl unread, ?_⟩
  intro last known told same
  rw [untold] at same
  rw [status]
  exact known told same

theorem exchange_heard (worker : PlcCommunicationWorker R) (lucky : Bool) (link : PlcLink R N) :
    Heard link ((worker.exchange lucky).serve (PlcLink.answer deliver) link).1
      (((worker.exchange lucky).serve (PlcLink.answer deliver) link).2.2.map
        AsyncSystem.Event.worker) := by
  cases running : worker.thread with
  | none =>
    simp only [exchange, running]
    apply heard_silent <;> intros <;> rfl
  | some thread =>
    simp only [exchange, running, runExchange]
    cases point : thread.point with
    | connect =>
      simp only [Client.serve_call, Client.serve_done, run, point]
      split_ifs
      · apply heard_silent <;> intros <;> rfl
      · apply heard_silent <;> intros <;> rfl
    | readCommand =>
      have command : (PlcLink.answer deliver link .readCommand).1.command = link.command :=
        link.answer_command _
      have status : (PlcLink.answer deliver link .readCommand).1.status = link.status :=
        link.answer_read_status
      simp only [Client.serve_call]
      cases reply : (PlcLink.answer deliver link .readCommand).2 with
      | none =>
        -- the reconnection after a failed read leaves the contents as they are
        simp only [Option.isSome_none, Bool.false_eq_true, if_false, Client.serve_call,
          Client.serve_done, run, point]
        apply heard_silent
        · exact command
        · exact status
        · rfl
        · intro last
          rfl
      | some read =>
        simp only [Option.isSome_some, if_true, Client.serve_done, run, point]
        refine ⟨command, Or.inr ⟨read, rfl, link.answer_read_some reply⟩, ?_⟩
        intro last known told same
        rw [status]
        exact known told same
    | writeStatus snapshot =>
      have command : (PlcLink.answer deliver link (.writeStatus snapshot.value)).1.command =
        link.command := link.answer_command _
      simp only [Client.serve_call]
      cases reply : (PlcLink.answer deliver link (.writeStatus snapshot.value)).2 with
      | false =>
        simp only [Bool.false_eq_true, if_false, Client.serve_call, Client.serve_done, run, point]
        refine ⟨command, Or.inl rfl, ?_⟩
        -- nothing is known of the PLC after a refused write
        intro last _ told same
        cases same
      | true =>
        simp only [if_true, Client.serve_done, run, point]
        refine ⟨command, Or.inl rfl, ?_⟩
        intro last _ told same
        cases same
        exact link.answer_write_true snapshot.value reply
    | readStatus =>
      simp only [Client.serve_done, run, point]
      cases worker.statusMailbox.read with
      | none => apply heard_silent <;> intros <;> rfl
      | some snapshot => apply heard_silent <;> intros <;> rfl
    | _ =>
      simp only [Client.serve_call, Client.serve_done, run, point]
      apply heard_silent <;> intros <;> rfl

end PlcCommunicationWorker

namespace AsyncSystem

open PlcCommunicationWorker (Heard heard_silent)

variable {R N : Type} [Double R] (deliver : IPlcInterface.Network R N)

/-- Only the worker speaks to the PLC. -/
theorem exchange_heard (system : AsyncSystem R) (task : Task R) (link : PlcLink R N) :
    Heard link ((system.exchange task).serve (PlcLink.answer deliver) link).1
      ((system.exchange task).serve (PlcLink.answer deliver) link).2.2 := by
  cases task with
  | start | requestStop | join => apply heard_silent <;> intros <;> rfl
  | work lucky =>
    rw [exchange, Client.serve_bind]
    exact system.worker.exchange_heard deliver lucky link
  | control dt lucky =>
    simp only [exchange, Client.serve_done, act]
    cases point : system.control with
    | idle =>
      simp only [advance, point]
      split_ifs <;> apply heard_silent <;> intros <;> rfl
    | stepLoop dt' snapshot =>
      simp only [advance, point]
      cases system.supervisor.acceptedSnapshot snapshot with
      | none => apply heard_silent <;> intros <;> rfl
      | some sample => apply heard_silent <;> intros <;> rfl
    | readCommand | lockStatus | publishStatus =>
      simp only [advance, point]
      apply heard_silent <;> intros <;> rfl

/-- What the PLC asks for in the course of a run. -/
def asked {I M C : Type} (first : C) (asks : M → C) (turns : List (Turn I M)) : List C :=
  first :: turns.filterMap fun
    | .move move => some (asks move)
    | .step _ => none

@[simp] theorem asked_step {I M C : Type} (first : C) (asks : M → C) (turns : List (Turn I M))
    (task : I) : asked first asks (turns ++ [.step task]) = asked first asks turns := by
  simp [asked]

@[simp] theorem asked_move {I M C : Type} (first : C) (asks : M → C) (turns : List (Turn I M))
    (move : M) : asked first asks (turns ++ [.move move]) = asked first asks turns ++ [asks move] := by
  simp [asked]

theorem asked_map {I M C D : Type} (first : C) (asks : M → C) (f : C → D) (turns : List (Turn I M)) :
    asked (f first) (fun move => f (asks move)) turns = (asked first asks turns).map f := by
  induction turns using List.reverseRecOn with
  | nil => rfl
  | append_singleton turns turn ih =>
    cases turn with
    | step task => rw [asked_step, asked_step, ih]
    | move move => rw [asked_move, asked_move, ih, List.map_append, List.map_singleton]

/-- A PLC that always asks for something is followed through its contents. -/
theorem asked_retraces {I M C : Type} {first : M} {f : M → C} {turns : List (Turn I M)} {seen : List C}
    (retraces : Retraces (asked (some (f first)) (fun move => some (f move)) turns) (seen.map some)) :
    Retraces ((asked first id turns).map f) seen := by
  apply Retraces.of_some
  rw [List.map_map]
  exact asked_map first id (some ∘ f) turns ▸ retraces

/-- The system, the link it uses and the history of both. -/
structure Tracked (before : MotionCommand R) (history : List (Option (PlcCommandData R)))
    (system : AsyncSystem R) (link : PlcLink R N) (log : List (Event R)) : Prop where
  passed : Passed before system log
  returned : Returned system log
  asking : history.getLast? = some link.command
  reads : Retraces history ((reads log).map some)
  told : ∀ status, lastTold log = some status → link.status = some status

theorem tracked_step {before : MotionCommand R} {history : List (Option (PlcCommandData R))}
    {system : AsyncSystem R} {link : PlcLink R N} {log : List (Event R)} (task : Task R)
    (tracked : Tracked before history system link log) :
    let outcome := (system.exchange task).serve (PlcLink.answer deliver) link
    Tracked before history outcome.2.1 outcome.1 (log ++ outcome.2.2) := by
  intro outcome
  have heard : Heard link outcome.1 outcome.2.2 := exchange_heard deliver system task link
  obtain ⟨action, same⟩ := exchange_act (PlcLink.answer deliver) system task link
  have user : outcome.2 = system.act action := same
  refine ⟨?_, ?_, ?_, ?_, ?_⟩
  · rw [user]
    exact passed_act action tracked.passed
  · rw [user]
    exact returned_act action tracked.returned
  · rw [heard.command]
    exact tracked.asking
  · rw [reads_append, List.map_append]
    rcases heard.reads with nothing | ⟨command, read, held⟩
    · simpa [nothing] using tracked.reads
    · rw [read]
      exact tracked.reads.look (held ▸ tracked.asking)
  · intro status last
    rw [lastTold, List.foldl_append] at last
    exact heard.told _ tracked.told status last

theorem tracked_run {M : Type} (asks : M → Option (PlcCommandData R)) (moves : N → M → N)
    (configuration : PlcCommunicationWorker.Configuration) (supervisor : AsyncPlcSupervisor R)
    (link : PlcLink R N) (turns : List (Turn (Task R) M)) :
    let both := run (logged (together (PlcLink.answer deliver) (PlcLink.program asks moves) exchange))
      ((fresh configuration supervisor, link), []) turns
    Tracked supervisor.controlLoop.command (asked link.command asks turns) both.1.1 both.1.2 both.2 := by
  induction turns using List.reverseRecOn with
  | nil =>
    refine ⟨fresh_passed configuration supervisor, fresh_returned configuration supervisor, rfl,
      .done _, ?_⟩
    intro status told
    cases told
  | append_singleton turns turn ih =>
    simp only [run_snoc]
    generalize run (logged (together (PlcLink.answer deliver) (PlcLink.program asks moves) exchange))
      ((fresh configuration supervisor, link), []) turns = both at ih ⊢
    cases turn with
    | step task =>
      rw [asked_step]
      exact tracked_step deliver task ih
    | move move =>
      rw [asked_move]
      simp only [logged, together, List.append_nil]
      exact ⟨ih.passed, ih.returned, List.getLast?_concat, ih.reads.grow _, ih.told⟩

/-- In every interleaving of the worker, the control loop and the PLC program, over any
network: the commands applied were in the data block, and were applied in the order in which
they were there; the one in force is the last of them. The statuses the PLC accepted were
reported by the control loop, in that order, and after a successful write the data block
holds the last of them. -/
theorem s7_end_to_end (bits : R ≃ UInt64) {Net : Type} {snap7 : Snap7 Net}
    {program : Net → S7DbLayout.CommandBuffer → Net} {blocks : Net → S7Plc.Blocks}
    (documented : snap7.Documented blocks) (s7 : S7Plc.Configuration)
    (programs : S7Plc.Programs program blocks s7.dbNumber) (net : Net)
    (configuration : PlcCommunicationWorker.Configuration) (supervisor : AsyncPlcSupervisor R)
    (turns : List (Turn (Task R) S7DbLayout.CommandBuffer)) :
    let both := withS7 exchange (fresh configuration supervisor) bits snap7 program s7 net turns
    let log := both.2
    let contents := asked ((blocks net).commandBytes s7.dbNumber) id turns
    Retraces (contents.map (S7DbLayout.decodeCommand bits.symm)) ((applied log).map Snapshot.value) ∧
      both.1.1.supervisor.controlLoop.command = ((applied log).getLast?.elim
        supervisor.controlLoop.command fun snapshot => decodePlcCommand snapshot.value) ∧
      Retraces ((updates log).filterMap Update.published) ((told log).map Snapshot.value) ∧
      ∀ status, lastTold log = some status →
        (blocks both.1.2.2).statusBytes s7.dbNumber = S7DbLayout.encodeStatus bits status := by
  intro both log contents
  obtain ⟨users, events, mirrors⟩ := withS7_mirrors exchange (fresh configuration supervisor) bits
    documented s7 programs net turns
  have tracked := tracked_run (S7Plc.network bits snap7 s7)
    (fun bytes => some (S7DbLayout.decodeCommand bits.symm bytes)) program configuration supervisor
    (S7Plc.link bits blocks s7 net) turns
  simp only [← users, ← events] at tracked
  refine ⟨?_, tracked.passed.inForce, ?_, ?_⟩
  -- what was read was in the data block, what was published was read, what was applied was published
  · have read := asked_retraces tracked.reads
    have published := (List.sublist_append_left _ _).trans tracked.passed.carried.held
    have applied := (tracked.passed.retraces.sublist (List.sublist_append_left _ _)).map Snapshot.value
    exact read.trans ((Retraces.of_sublist published).trans applied)
  · have told := (tracked.returned.retraces.sublist (List.sublist_append_left _ _)).map Snapshot.value
    have reported := (List.sublist_append_left _ _).trans tracked.returned.produced
    exact (Retraces.of_sublist reported).trans told
  · intro status last
    exact mirrors.status status (tracked.told status last)

/-! ### An example -/

def fixedLoop : ControlLoop FixedPoint :=
  ControlLoop.create .initial (.create ⟨32.0, 5.0, 2.0, 0.008⟩ (-10.0) 10.0)
    ⟨.initial, by decide +kernel, .initial⟩

def fixedSupervisor : AsyncPlcSupervisor FixedPoint where
  watchdog := ⟨0.10, by decide +kernel, 0, true⟩
  lastPlcHeartbeat := none
  controlLoop := fixedLoop
  lastCommandSequence := none
  controllerHeartbeat := 0
  communicationHealthy := false

def works (steps : ℕ) : List (Task FixedPoint) := List.replicate steps (.work true)

def ticks (steps : ℕ) : List (Task FixedPoint) := List.replicate steps (.control 0.001 true)

/-- Power and emergency stop. -/
def emergencyBytes : S7DbLayout.CommandBuffer := (Vector.replicate 30 0).set! 1 0x30

/-- The PLC asks for an emergency stop while the worker still has the command from before. -/
def overtaken : List (Turn (Task FixedPoint) S7DbLayout.CommandBuffer) :=
  (.start :: works 3).map .step ++ .move emergencyBytes ::
    (works 5 ++ ticks 5 ++ works 9 ++ ticks 5 ++ works 8).map .step

theorem s7_end_to_end_overtaken :
    let both := withS7 exchange (fresh .initial fixedSupervisor) FixedPoint.equivBits
      (S7Plc.Station.snap7 toString) (·.program 2) .initial quietStation overtaken
    both.1.1.supervisor.controlLoop.command.emergencyStop = true ∧
      ∃ status, both.1.2.2.blocks.statusBytes 2 =
          S7DbLayout.encodeStatus FixedPoint.equivBits status ∧
        status.statusWord &&& PlcStatusBit.emergencyStop ≠ 0 := by
  intro both
  obtain ⟨_, _, _, holds⟩ := s7_end_to_end FixedPoint.equivBits
    (S7Plc.Station.documented toString) .initial (S7Plc.Station.programs 2) quietStation .initial
    fixedSupervisor overtaken
  have here : withS7 exchange (fresh .initial fixedSupervisor) FixedPoint.equivBits
    (S7Plc.Station.snap7 toString) (·.program 2) .initial quietStation overtaken = both := rfl
  simp only [here] at holds
  have told : lastTold both.2 = some ⟨24, ⟨0⟩, ⟨0⟩, ⟨0⟩, 0, 2⟩ := by decide +kernel
  exact ⟨by decide +kernel, _, holds _ told, by decide⟩

end AsyncSystem

end MotionBridge
