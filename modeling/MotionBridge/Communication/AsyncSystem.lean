import MotionBridge.Communication.PlcCommunicationWorker
import MotionBridge.Foundation.Run
import MotionBridge.Runtime.AsyncPlcSupervisor

/-!
# The asynchronous system

The communication thread, the thread that calls `AsyncPlcSupervisor::update` and the
owner of the worker take steps in any order. They share the two mailboxes and the
`connected` flag.
-/
namespace MotionBridge

open Foundation
open Exact (fin)

/-- Where the control thread stands in `update`. -/
inductive ControlPoint (R : Type) where
  | idle
  | readCommand (dtSeconds : R)
  | stepLoop (dtSeconds : R) (snapshot : Option (Snapshot (PlcCommandData R)))
  | lockStatus (status : PlcStatusData R)
  | publishStatus (status : PlcStatusData R)
  deriving DecidableEq, Repr

structure AsyncSystem (R : Type) [Double R] where
  worker : PlcCommunicationWorker R
  supervisor : AsyncPlcSupervisor R
  control : ControlPoint R

namespace AsyncSystem

/-- `work` and `control` are the next step of either thread; `lucky` excludes a
spurious failure of a lock attempt in it. A new update uses `dtSeconds`. -/
inductive Action (R : Type) where
  | start
  | requestStop
  | join
  | work (answers : PlcCommunicationWorker.Answers R)
  | control (dtSeconds : R) (lucky : Bool)
  deriving DecidableEq, Repr

/-- `sample` is what `try_read_command` returned, `apply` a command passed to
`set_command`. An `update` is shown with its sample and the command it left in force. -/
inductive Event (R : Type) where
  | worker (event : PlcCommunicationWorker.Event R)
  | sample (snapshot : Option (Snapshot (PlcCommandData R)))
  | apply (snapshot : Snapshot (PlcCommandData R))
  | update (update : Update R) (sample : Option (Snapshot (PlcCommandData R)))
      (inForce : MotionCommand R)
  | publishStatus (status : Snapshot (PlcStatusData R))
  deriving DecidableEq, Repr

section Source

variable {R : Type} [Double R]

def create (worker : PlcCommunicationWorker R) (supervisor : AsyncPlcSupervisor R) :
    AsyncSystem R := ⟨worker, supervisor, .idle⟩

/-- One step of the control thread. -/
def advance (system : AsyncSystem R) (dtSeconds : R) (lucky : Bool) :
    AsyncSystem R × List (Event R) :=
  match system.control with
  | .idle =>
    let (mailbox, owns) := system.worker.commandMailbox.tryLock lucky
    if owns then
      ({ system with
          worker := { system.worker with commandMailbox := mailbox }
          control := .readCommand dtSeconds }, [])
    else ({ system with control := .stepLoop dtSeconds none }, [.sample none])
  | .readCommand dtSeconds =>
    let mailbox := system.worker.commandMailbox
    ({ system with
        worker := { system.worker with commandMailbox := mailbox.unlock }
        control := .stepLoop dtSeconds mailbox.read }, [.sample mailbox.read])
  | .stepLoop dtSeconds snapshot =>
    -- between the mailboxes the update shares nothing but the flag
    let (supervisor, update) :=
      system.supervisor.update dtSeconds snapshot system.worker.connected
    let control := match update.published with
      | some status => .lockStatus status
      | none => .idle
    ({ system with supervisor := supervisor, control := control },
      ((system.supervisor.acceptedSnapshot snapshot).map Event.apply).toList ++
        [.update update snapshot supervisor.controlLoop.command])
  | .lockStatus status =>
    let (mailbox, owns) := system.worker.statusMailbox.tryLock lucky
    ({ system with
        worker := { system.worker with statusMailbox := mailbox }
        -- a status that finds its mailbox locked is dropped
        control := if owns then .publishStatus status else .idle }, [])
  | .publishStatus status =>
    let mailbox := system.worker.statusMailbox
    ({ system with
        worker := { system.worker with statusMailbox := mailbox.publish status }
        control := .idle }, [.publishStatus ⟨status, mailbox.sequence + 1⟩])

def act (system : AsyncSystem R) : Action R → AsyncSystem R × List (Event R)
  | .start => ({ system with worker := system.worker.start }, [])
  | .requestStop => ({ system with worker := system.worker.requestStop }, [])
  | .join => ({ system with worker := system.worker.join }, [])
  | .work answers =>
    let (worker, events) := system.worker.work answers
    ({ system with worker := worker }, events.map .worker)
  | .control dtSeconds lucky => system.advance dtSeconds lucky

/-- The system after a run, and everything that happened in it. -/
def observe (system : AsyncSystem R) (actions : List (Action R)) : AsyncSystem R × List (Event R) :=
  run (logged act) (system, []) actions

end Source

section Observations

variable {R : Type}

/-- The commands read from the PLC. -/
def reads (log : List (Event R)) : List (PlcCommandData R) :=
  log.filterMap fun
    | .worker (.read reply) => reply
    | _ => none

/-- The commands stored in the mailbox. -/
def published (log : List (Event R)) : List (Snapshot (PlcCommandData R)) :=
  log.filterMap fun
    | .worker (.publish snapshot) => some snapshot
    | _ => none

/-- What the supervisor got from the mailbox. -/
def samples (log : List (Event R)) : List (Option (Snapshot (PlcCommandData R))) :=
  log.filterMap fun
    | .sample snapshot => some snapshot
    | _ => none

/-- The commands the supervisor passed to `set_command`. -/
def applied (log : List (Event R)) : List (Snapshot (PlcCommandData R)) :=
  log.filterMap fun
    | .apply snapshot => some snapshot
    | _ => none

def updates (log : List (Event R)) : List (Update R) :=
  log.filterMap fun
    | .update update _ _ => some update
    | _ => none

@[simp] theorem reads_append (log events : List (Event R)) :
    reads (log ++ events) = reads log ++ reads events := List.filterMap_append

@[simp] theorem published_append (log events : List (Event R)) :
    published (log ++ events) = published log ++ published events := List.filterMap_append

@[simp] theorem samples_append (log events : List (Event R)) :
    samples (log ++ events) = samples log ++ samples events := List.filterMap_append

@[simp] theorem applied_append (log events : List (Event R)) :
    applied (log ++ events) = applied log ++ applied events := List.filterMap_append

@[simp] theorem updates_append (log events : List (Event R)) :
    updates (log ++ events) = updates log ++ updates events := List.filterMap_append

/-- Nothing in these events concerns the way of a command. -/
structure Silent (events : List (Event R)) : Prop where
  reads : reads events = []
  published : published events = []
  samples : samples events = []
  applied : applied events = []
  updates : updates events = []

theorem silent_nil : Silent ([] : List (Event R)) := ⟨rfl, rfl, rfl, rfl, rfl⟩

theorem silent_worker (events : List (PlcCommunicationWorker.Event R))
    (minor : ∀ event ∈ events, event.Minor) : Silent (events.map Event.worker) := by
  induction events with
  | nil => exact silent_nil
  | cons event events ih =>
    have rest := ih fun other member => minor other (List.mem_cons_of_mem _ member)
    have first := minor event (List.mem_cons_self ..)
    cases event with
    | publish command => cases first
    | read reply =>
      cases reply with
      | some command => cases first
      | none => exact ⟨rest.reads, rest.published, rest.samples, rest.applied, rest.updates⟩
    | connect | disconnect | sleep | write =>
      exact ⟨rest.reads, rest.published, rest.samples, rest.applied, rest.updates⟩

end Observations

section Effects

variable {R : Type} [Double R]

/-- The time step and the sample of an update in progress. -/
def pending (system : AsyncSystem R) : Option (R × Option (Snapshot (PlcCommandData R))) :=
  match system.control with
  | .stepLoop dtSeconds snapshot => some (dtSeconds, snapshot)
  | _ => none

def pendingSample (system : AsyncSystem R) : Option (Snapshot (PlcCommandData R)) :=
  system.pending.bind Prod.snd

/-- The command mailbox as seen by a reader, the command on its way into it, the
update in progress and the supervisor: the parts a command passes through. -/
structure Keeps (system next : AsyncSystem R) : Prop where
  mailbox : next.worker.commandMailbox.read = system.worker.commandMailbox.read
  sequence : next.worker.commandMailbox.sequence = system.worker.commandMailbox.sequence
  supervisor : next.supervisor = system.supervisor

/-- What one step does to a command on its way. -/
inductive Effect (system : AsyncSystem R) : AsyncSystem R → List (Event R) → Prop
  | silent {next : AsyncSystem R} {events : List (Event R)} :
      Keeps system next →
      next.worker.heldCommand = system.worker.heldCommand ∨ next.worker.heldCommand = none →
      next.pending = system.pending → Silent events → Effect system next events
  | read {next : AsyncSystem R} (command : PlcCommandData R) :
      Keeps system next → next.worker.heldCommand = some command →
      next.pending = system.pending → Effect system next [.worker (.read (some command))]
  | publish {next : AsyncSystem R} (command : PlcCommandData R) :
      system.worker.heldCommand = some command → next.worker.heldCommand = none →
      next.worker.commandMailbox = system.worker.commandMailbox.publish command →
      next.supervisor = system.supervisor → next.pending = system.pending →
      Effect system next
        [.worker (.publish ⟨command, system.worker.commandMailbox.sequence + 1⟩)]
  | sample {next : AsyncSystem R} (dt : R) (snapshot : Option (Snapshot (PlcCommandData R))) :
      Keeps system next → next.worker.heldCommand = system.worker.heldCommand →
      snapshot = none ∨ snapshot = system.worker.commandMailbox.read →
      next.pending = some (dt, snapshot) → Effect system next [.sample snapshot]
  | update {next : AsyncSystem R} (dt : R) (snapshot : Option (Snapshot (PlcCommandData R))) :
      system.pending = some (dt, snapshot) → next.worker = system.worker →
      next.supervisor = (system.supervisor.update dt snapshot system.worker.connected).1 →
      next.pending = none →
      Effect system next (((system.supervisor.acceptedSnapshot snapshot).map Event.apply).toList ++
        [.update (system.supervisor.update dt snapshot system.worker.connected).2 snapshot
          next.supervisor.controlLoop.command])

theorem work_effect (system : AsyncSystem R) (answers : PlcCommunicationWorker.Answers R) :
    Effect system (system.act (.work answers)).1 (system.act (.work answers)).2 := by
  cases running : system.worker.thread with
  | none =>
    have idle : system.worker.work answers = (system.worker, []) := by
      simp only [PlcCommunicationWorker.work, running]
    simp only [act, idle]
    exact .silent ⟨rfl, rfl, rfl⟩ (Or.inl rfl) rfl silent_nil
  | some thread =>
    have step : system.worker.work answers = system.worker.run thread answers := by
      simp only [PlcCommunicationWorker.work, running]
    have held : system.worker.heldCommand = thread.point.command := by
      simp only [PlcCommunicationWorker.heldCommand, running, Option.bind_some]
    -- away from the way of a command, the worker's own lemmas say that nothing moves on it
    have minor : thread.point.command = none →
        (thread.point = .readCommand → answers.reply = none) →
        Effect system (system.act (.work answers)).1 (system.act (.work answers)).2 := by
      intro elsewhere unread
      have mailbox := system.worker.run_elsewhere thread answers elsewhere
      obtain ⟨released, events⟩ :=
        PlcCommunicationWorker.run_minor running answers elsewhere unread
      simp only [act, step]
      refine .silent ⟨?_, ?_, rfl⟩ (Or.inr released) rfl (silent_worker _ events)
      · exact congrArg LatestValueMailbox.read mailbox
      · exact congrArg LatestValueMailbox.sequence mailbox
    cases point : thread.point with
    | lockCommand command =>
      rw [point] at held
      simp only [act, step, PlcCommunicationWorker.run, point]
      refine .silent ⟨?_, ?_, rfl⟩ ?_ rfl silent_nil
      · simp
      · simp
      · rw [held, PlcCommunicationWorker.heldCommand_moveTo]
        -- the command is kept for publication, or dropped
        split_ifs
        · exact Or.inl rfl
        · exact Or.inr rfl
    | publishCommand command =>
      rw [point] at held
      simp only [act, step, PlcCommunicationWorker.run, point]
      exact .publish command held rfl rfl rfl rfl
    | readCommand =>
      cases reply : answers.reply with
      -- a failed read carries nothing, and closes the connection
      | none => exact minor (by rw [point]; rfl) fun _ => reply
      | some command =>
        simp only [act, step, PlcCommunicationWorker.run, point, reply]
        exact .read command ⟨rfl, rfl, rfl⟩ rfl rfl
    | _ =>
      -- none of these points is the one before a read
      apply minor (by rw [point]; rfl)
      intro reading
      rw [point] at reading
      cases reading

theorem control_effect (system : AsyncSystem R) (dt : R) (lucky : Bool) :
    Effect system (system.advance dt lucky).1 (system.advance dt lucky).2 := by
  cases point : system.control with
  | idle =>
    have none_pending : system.pending = none := by simp only [pending, point]
    simp only [advance, point]
    split_ifs
    · refine .silent ⟨?_, ?_, rfl⟩ (Or.inl rfl) ?_ silent_nil
      · simp
      · simp
      · rw [none_pending]
        rfl
    -- without the lock `try_read` returns nothing, and the update goes on
    · exact .sample dt none ⟨rfl, rfl, rfl⟩ rfl (Or.inl rfl) rfl
  | readCommand dt' =>
    simp only [advance, point]
    exact .sample dt' _ ⟨rfl, rfl, rfl⟩ rfl (Or.inr rfl) rfl
  | stepLoop dt' snapshot =>
    have in_progress : system.pending = some (dt', snapshot) := by simp only [pending, point]
    simp only [advance, point]
    exact .update dt' snapshot in_progress rfl rfl rfl
  | lockStatus status =>
    have none_pending : system.pending = none := by simp only [pending, point]
    simp only [advance, point]
    refine .silent ⟨rfl, rfl, rfl⟩ (Or.inl rfl) ?_ silent_nil
    rw [none_pending]
    split_ifs <;> rfl
  | publishStatus status =>
    have none_pending : system.pending = none := by simp only [pending, point]
    simp only [advance, point]
    refine .silent ⟨rfl, rfl, rfl⟩ (Or.inl rfl) ?_ ⟨rfl, rfl, rfl, rfl, rfl⟩
    rw [none_pending]
    rfl

/-- Every step has one of five effects. -/
theorem act_effect (system : AsyncSystem R) (action : Action R) :
    Effect system (system.act action).1 (system.act action).2 := by
  cases action with
  | start =>
    refine .silent ⟨?_, ?_, rfl⟩ (Or.inl ?_) rfl silent_nil
    · exact congrArg LatestValueMailbox.read system.worker.start_commandMailbox
    · exact congrArg LatestValueMailbox.sequence system.worker.start_commandMailbox
    · exact system.worker.heldCommand_start
  | requestStop =>
    refine .silent ⟨rfl, rfl, rfl⟩ (Or.inl ?_) rfl silent_nil
    exact system.worker.heldCommand_requestStop
  | join =>
    refine .silent ⟨?_, ?_, rfl⟩ ?_ rfl silent_nil
    · exact congrArg LatestValueMailbox.read system.worker.join_commandMailbox
    · exact congrArg LatestValueMailbox.sequence system.worker.join_commandMailbox
    · exact system.worker.heldCommand_join
  | work answers => exact work_effect system answers
  | control dt lucky => exact control_effect system dt lucky

omit [Double R] in
theorem updates_update (accepted : Option (Snapshot (PlcCommandData R))) (update : Update R)
    (sample : Option (Snapshot (PlcCommandData R))) (inForce : MotionCommand R) :
    updates ((accepted.map Event.apply).toList ++ [.update update sample inForce]) = [update] := by
  cases accepted <;> rfl

omit [Double R] in
theorem applied_update (accepted : Option (Snapshot (PlcCommandData R))) (update : Update R)
    (sample : Option (Snapshot (PlcCommandData R))) (inForce : MotionCommand R) :
    applied ((accepted.map Event.apply).toList ++ [.update update sample inForce]) =
      accepted.toList := by
  cases accepted <;> rfl

/-- A step completes an update, or leaves the supervisor alone. -/
theorem act_updated (system : AsyncSystem R) (action : Action R) :
    (updates (system.act action).2 = [] ∧
        (system.act action).1.supervisor = system.supervisor) ∨
      ∃ dt snapshot, system.pending = some (dt, snapshot) ∧
        (system.act action).1.supervisor =
          (system.supervisor.update dt snapshot system.worker.connected).1 ∧
        updates (system.act action).2 =
          [(system.supervisor.update dt snapshot system.worker.connected).2] ∧
        .update (system.supervisor.update dt snapshot system.worker.connected).2 snapshot
          (system.act action).1.supervisor.controlLoop.command ∈ (system.act action).2 := by
  have effect := act_effect system action
  generalize (system.act action).1 = next at effect ⊢
  generalize (system.act action).2 = events at effect ⊢
  cases effect with
  | silent keeps _ _ silent => exact Or.inl ⟨silent.updates, keeps.supervisor⟩
  | read _ keeps | sample _ _ keeps => exact Or.inl ⟨rfl, keeps.supervisor⟩
  | publish _ _ _ _ supervisor => exact Or.inl ⟨rfl, supervisor⟩
  | update dt snapshot pending _ supervisor =>
    exact Or.inr ⟨dt, snapshot, pending, supervisor, updates_update _ _ _ _,
      List.mem_append_right _ (List.mem_singleton_self _)⟩

/-- An update in the log is the one that was in progress. -/
theorem mem_update {system : AsyncSystem R} {action : Action R} {update : Update R}
    {sample : Option (Snapshot (PlcCommandData R))} {inForce : MotionCommand R}
    (member : .update update sample inForce ∈ (system.act action).2) :
    ∃ dt, system.pending = some (dt, sample) ∧
      (system.act action).1.supervisor =
        (system.supervisor.update dt sample system.worker.connected).1 ∧
      update = (system.supervisor.update dt sample system.worker.connected).2 ∧
      inForce = (system.act action).1.supervisor.controlLoop.command := by
  have effect := act_effect system action
  generalize (system.act action).1 = next at effect ⊢
  generalize (system.act action).2 = events at effect member
  cases effect with
  | silent _ _ _ silent =>
    have listed : update ∈ updates events := List.mem_filterMap.mpr ⟨_, member, rfl⟩
    rw [silent.updates] at listed
    cases listed
  | read | publish | sample => cases List.mem_singleton.mp member
  | update dt snapshot pending _ supervisor =>
    rcases List.mem_append.mp member with applies | updates
    · obtain ⟨_, _, same⟩ := Option.map_eq_some_iff.mp (Option.mem_toList.mp applies)
      cases same
    · cases List.mem_singleton.mp updates
      exact ⟨dt, pending, supervisor, rfl, rfl⟩

end Effects

/-- A fresh worker next to the demo supervisor. -/
def demo : AsyncSystem (Exact ℚ) :=
  create
    { configuration := .initial
      commandMailbox := .initial
      statusMailbox := .initial
      thread := none
      connected := false
      statistics := ⟨0, 0, 0⟩ }
    AsyncPlcSupervisor.demo

/-- One step of the worker, with a PLC that answers everything and this command. -/
def serve (command : PlcCommandData (Exact ℚ)) : Action (Exact ℚ) :=
  .work ⟨true, some command, true, true⟩

/-- One step of the control thread, at 1 kHz. -/
def tick : Action (Exact ℚ) := .control ControlLoop.millisecond true

/-- Power, enable and start. -/
def startCommand : PlcCommandData (Exact ℚ) :=
  { (PlcCommandData.initial : PlcCommandData (Exact ℚ)) with
    controlWord := PlcControlBit.powerAvailable ||| PlcControlBit.enable ||| PlcControlBit.start
    targetPositionRad := fin 1
    heartbeat := 1 }

end AsyncSystem

end MotionBridge
