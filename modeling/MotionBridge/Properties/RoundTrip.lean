import MotionBridge.Properties.Contention
import MotionBridge.Properties.WorkerSession

/-!
# From a command to the answer

Nobody waits for a mutex here, and what finds one locked is dropped. As long as nothing has
to be dropped and the PLC serves the worker, a command is in force and the PLC is told so
after a bounded number of steps of either thread, in whatever order they take them.
-/
namespace MotionBridge

open Foundation

namespace PlcCommunicationWorker

variable {R : Type}

/-- The PLC asks for this command, and nothing fails. -/
def Answers.served (command : PlcCommandData R) : Answers R := ⟨true, some command, true, true⟩

/-- The next step is no lock attempt that is bound to fail. -/
def unhindered (worker : PlcCommunicationWorker R) : Bool :=
  match worker.point with
  | some (.lockCommand _) => !worker.commandMailbox.locked
  | some .lockStatus => !worker.statusMailbox.locked
  | _ => true

/-- A thread that was not asked to stop, and so is not on its way out. -/
structure Thread.Active (thread : Thread R) : Prop where
  onward : thread.stopRequested = false
  disconnect : thread.point ≠ .disconnect
  finished : thread.point ≠ .finished

/-- From one point to the next if nothing fails. -/
inductive Onward (command : PlcCommandData R) : Point R → Point R → Prop
  | head : Onward command .head .readCommand
  | unconnected : Onward command .head .connect
  | connect : Onward command .connect .readCommand
  | sleepReconnect : Onward command .sleepReconnect .head
  | readCommand : Onward command .readCommand (.lockCommand command)
  | lockCommand (held : PlcCommandData R) : Onward command (.lockCommand held) (.publishCommand held)
  | publishCommand (held : PlcCommandData R) : Onward command (.publishCommand held) .lockStatus
  | lockStatus : Onward command .lockStatus .readStatus
  | readStatus (found : Snapshot (PlcStatusData R)) :
      Onward command .readStatus (.writeStatus found)
  | unread : Onward command .readStatus .sleepCycle
  | writeStatus (held : Snapshot (PlcStatusData R)) :
      Onward command (.writeStatus held) .sleepCycle
  | sleepCycle : Onward command .sleepCycle .head

/-- What the command mailbox holds after a step at this point. -/
def Point.leaves (before : Option (PlcCommandData R)) : Point R → Option (PlcCommandData R)
  | .publishCommand command => some command
  | _ => before

theorem run_onward {worker : PlcCommunicationWorker R} {thread : Thread R}
    (command : PlcCommandData R) (running : worker.thread = some thread) (active : thread.Active)
    (free : worker.unhindered = true) :
    ∃ later, (worker.run thread (.served command)).1.thread = some later ∧
      later.stopRequested = false ∧ Onward command thread.point later.point ∧
      (worker.run thread (.served command)).1.commandMailbox.value =
        thread.point.leaves worker.commandMailbox.value ∧
      ∀ status, .write status false ∉ (worker.run thread (.served command)).2 := by
  have here : worker.point = some thread.point := by simp only [point, running, Option.map_some]
  have onward := active.onward
  rw [unhindered, here] at free
  cases at_point : thread.point with
  | head =>
    simp only [run, at_point, onward, Bool.false_eq_true, if_false]
    split_ifs
    · exact ⟨_, rfl, onward, .head, rfl, by simp⟩
    · exact ⟨_, rfl, onward, .unconnected, rfl, by simp⟩
  | connect =>
    simp only [run, at_point, Answers.served, if_true]
    exact ⟨_, rfl, onward, .connect, rfl, by simp⟩
  | sleepReconnect =>
    simp only [run, at_point]
    exact ⟨_, rfl, onward, .sleepReconnect, rfl, by simp⟩
  | readCommand =>
    simp only [run, at_point, Answers.served]
    exact ⟨_, rfl, onward, .readCommand, rfl, by simp⟩
  | lockCommand held =>
    simp only [at_point, Bool.not_eq_true'] at free
    simp only [run, at_point, Answers.served, LatestValueMailbox.tryLock, free, and_self, if_true]
    exact ⟨_, rfl, onward, .lockCommand held, rfl, by simp⟩
  | publishCommand held =>
    simp only [run, at_point]
    exact ⟨_, rfl, onward, .publishCommand held, rfl, by simp⟩
  | lockStatus =>
    simp only [at_point, Bool.not_eq_true'] at free
    simp only [run, at_point, Answers.served, LatestValueMailbox.tryLock, free, and_self, if_true]
    exact ⟨_, rfl, onward, .lockStatus, rfl, by simp⟩
  | readStatus =>
    simp only [run, at_point]
    cases worker.statusMailbox.read with
    | none => exact ⟨_, rfl, onward, .unread, rfl, by simp⟩
    | some found =>
      by_cases newer : found.sequence ≠ thread.lastStatusSequence
      · exact ⟨_, rfl, onward, if_pos newer ▸ .readStatus found, rfl, by simp⟩
      · exact ⟨_, rfl, onward, if_neg newer ▸ .unread, rfl, by simp⟩
  | writeStatus held =>
    simp only [run, at_point, Answers.served, if_true]
    exact ⟨_, rfl, onward, .writeStatus held, rfl, by simp⟩
  | sleepCycle =>
    simp only [run, at_point]
    exact ⟨_, rfl, onward, .sleepCycle, rfl, by simp⟩
  | disconnect => exact absurd at_point active.disconnect
  | finished => exact absurd at_point active.finished

theorem onward_active {command : PlcCommandData R} {point : Point R} {later : Thread R}
    (onward : later.stopRequested = false) (next : Onward command point later.point) :
    later.Active := by
  refine ⟨onward, ?_, ?_⟩
  · intro leaving
    rw [leaving] at next
    cases next
  · intro left
    rw [left] at next
    cases next

/-- Only a thread that was asked to stop leaves the loop. -/
def Leaving (worker : PlcCommunicationWorker R) : Prop :=
  ∀ thread, worker.thread = some thread → thread.stopRequested = false → thread.Active

theorem run_leaving {worker : PlcCommunicationWorker R} {thread : Thread R} (answers : Answers R)
    (running : worker.thread = some thread) (leaving : worker.Leaving) :
    (worker.run thread answers).1.Leaving := by
  intro later continues onward
  cases stop : thread.stopRequested with
  | true =>
    -- a request to stop is not taken back
    have stopping := worker.run_stopping thread answers running stop later continues
    rw [onward] at stopping
    cases stopping.1
  | false =>
    have active := leaving thread running stop
    cases point : thread.point with
    | head =>
      simp only [run, point, stop, Bool.false_eq_true, if_false] at continues
      split_ifs at continues <;> cases continues <;> exact ⟨stop, by simp, by simp⟩
    | connect | writeStatus =>
      simp only [run, point] at continues
      split_ifs at continues <;> cases continues <;> exact ⟨stop, by simp, by simp⟩
    | readCommand =>
      simp only [run, point] at continues
      split at continues <;> cases continues <;> exact ⟨stop, by simp, by simp⟩
    | lockCommand | lockStatus =>
      simp only [run, point, moveTo, Option.some.injEq] at continues
      subst continues
      refine ⟨stop, ?_, ?_⟩ <;> simp only <;> split_ifs <;> simp
    | readStatus =>
      simp only [run, point] at continues
      split at continues
      · simp only [moveTo, Option.some.injEq] at continues
        subst continues
        refine ⟨stop, ?_, ?_⟩ <;> simp only <;> split_ifs <;> simp
      · cases continues
        exact ⟨stop, by simp, by simp⟩
    | publishCommand | sleepReconnect | sleepCycle =>
      simp only [run, point, moveTo, Option.some.injEq] at continues
      subst continues
      exact ⟨stop, by simp, by simp⟩
    | disconnect => exact absurd point active.disconnect
    | finished => exact absurd point active.finished

/-! ### The way of a command -/

/-- Steps until the thread has read a command from the PLC. -/
def Point.untilRead : Point R → ℕ
  | .readCommand => 1
  | .connect => 2
  | .head => 3
  | .sleepReconnect | .sleepCycle => 4
  | .writeStatus _ => 5
  | .readStatus => 6
  | .lockStatus => 7
  | .publishCommand _ => 8
  | .lockCommand _ => 9
  | .disconnect | .finished => 0

/-- Steps until the thread has written the status that is in the mailbox. -/
def Point.untilTold : Point R → ℕ
  | .writeStatus _ => 1
  | .readStatus => 2
  | .lockStatus => 3
  | .publishCommand _ => 4
  | .lockCommand _ => 5
  | .readCommand => 6
  | .connect => 7
  | .head => 8
  | .sleepReconnect | .sleepCycle => 9
  | .disconnect | .finished => 0

/-- The command is in the mailbox, or will be in so many steps. -/
inductive Brings (command : PlcCommandData R) (steps : ℕ) (stored : Option (PlcCommandData R))
    (point : Point R) : Prop
  | stored : stored = some command → (∀ held, point.command = some held → held = command) →
      Brings command steps stored point
  | publishing : point = .publishCommand command → 1 ≤ steps → Brings command steps stored point
  | locking : point = .lockCommand command → 2 ≤ steps → Brings command steps stored point
  | elsewhere : point.untilRead + 2 ≤ steps → Brings command steps stored point

theorem brings_onward {command : PlcCommandData R} {steps : ℕ} {stored : Option (PlcCommandData R)}
    {point next : Point R} (onward : Onward command point next)
    (brings : Brings command steps stored point) :
    Brings command (steps - 1) (point.leaves stored) next := by
  cases brings with
  | stored stored held =>
    refine .stored ?_ ?_
    · cases onward with
      | publishCommand other => rw [held other rfl]; rfl
      | _ => exact stored
    · cases onward with
      | lockCommand other => exact held
      | readCommand => rintro _ ⟨⟩; rfl
      | _ => rintro _ ⟨⟩
  | publishing here enough =>
    subst here
    cases onward
    exact .stored rfl (by simp [Point.command])
  | locking here enough =>
    subst here
    cases onward
    exact .publishing rfl (by omega)
  | elsewhere enough =>
    cases onward with
    | readCommand => exact .locking rfl (by simp only [Point.untilRead] at enough; omega)
    | _ => exact .elsewhere (by simp only [Point.untilRead] at enough ⊢; omega)

end PlcCommunicationWorker

namespace AsyncSystem

open PlcCommunicationWorker (Onward Brings)

variable {R : Type} [Double R]

/-- The next step of the control thread is no lock attempt that is bound to fail. -/
def unhindered (system : AsyncSystem R) : Bool :=
  match system.control with
  | .idle => !system.worker.commandMailbox.locked
  | .lockStatus _ => !system.worker.statusMailbox.locked
  | _ => true

/-- A step of either thread at which nothing has to be dropped, while the PLC serves the worker
and asks for this command. -/
def Smooth (command : PlcCommandData R) (system : AsyncSystem R) : Action R → Prop
  | .work answers => answers = .served command ∧ system.worker.unhindered = true
  | .control _ lucky => lucky = true ∧ system.unhindered = true
  | _ => False

instance decideSmooth [DecidableEq R] (command : PlcCommandData R) (system : AsyncSystem R) :
    (action : Action R) → Decidable (Smooth command system action)
  | .work _ | .control _ _ => inferInstanceAs (Decidable (_ ∧ _))
  | .start | .requestStop | .join => .isFalse id

def Action.isControl : Action R → Bool
  | .control _ _ => true
  | _ => false

theorem advance_thread (system : AsyncSystem R) (dt : R) (lucky : Bool) :
    (system.advance dt lucky).1.worker.thread = system.worker.thread := by
  cases point : system.control with
  | idle =>
    simp only [advance, point]
    split_ifs <;> rfl
  | readCommand | stepLoop | lockStatus | publishStatus => simp only [advance, point]

theorem advance_commandMailbox (system : AsyncSystem R) (dt : R) (lucky : Bool) :
    (system.advance dt lucky).1.worker.commandMailbox.value =
      system.worker.commandMailbox.value := by
  cases point : system.control with
  | idle =>
    simp only [advance, point]
    split_ifs
    · exact LatestValueMailbox.tryLock_value _ _
    · rfl
  | readCommand =>
    simp only [advance, point]
    rfl
  | stepLoop | lockStatus | publishStatus => simp only [advance, point]

/-- The command is in its mailbox, or will be after so many steps of the worker. -/
def Bringing (command : PlcCommandData R) (steps : ℕ) (system : AsyncSystem R) : Prop :=
  ∃ thread, system.worker.thread = some thread ∧ thread.Active ∧
    Brings command steps system.worker.commandMailbox.value thread.point

theorem act_bringing {command : PlcCommandData R} {steps : ℕ} {system : AsyncSystem R}
    (action : Action R) (smooth : Smooth command system action)
    (bringing : Bringing command steps system) :
    Bringing command (steps - [action].countP Action.isWork) (system.act action).1 := by
  obtain ⟨thread, running, active, brings⟩ := bringing
  cases action with
  | start | requestStop | join => exact smooth.elim
  | work answers =>
    obtain ⟨rfl, free⟩ := smooth
    obtain ⟨later, continues, asked, onward, stored, _⟩ :=
      PlcCommunicationWorker.run_onward command running active free
    simp only [act, PlcCommunicationWorker.work, running]
    refine ⟨later, continues, PlcCommunicationWorker.onward_active asked onward, ?_⟩
    rw [stored]
    exact PlcCommunicationWorker.brings_onward onward brings
  | control dt lucky =>
    refine ⟨thread, (system.advance_thread dt lucky).trans running, active, ?_⟩
    rw [act, advance_commandMailbox]
    exact brings

theorem bringing_stored {command : PlcCommandData R} {system : AsyncSystem R}
    (bringing : Bringing command 0 system) :
    ∃ sample, system.worker.commandMailbox.read = some sample ∧ sample.value = command := by
  obtain ⟨thread, _, _, brings⟩ := bringing
  cases brings with
  | stored stored => exact ⟨_, congrArg (Option.map _) stored, rfl⟩
  | publishing _ enough | locking _ enough | elsewhere enough => omega

/-! ### The way of the answer -/

/-- An update that got the command from its sample has published this status. -/
def Answered (command : PlcCommandData R) (log : List (Event R)) (status : PlcStatusData R) : Prop :=
  ∃ update sample inForce, .update update (some sample) inForce ∈ log ∧ sample.value = command ∧
    update.published = some status

omit [Double R] in
theorem Answered.mono {command : PlcCommandData R} {log : List (Event R)} {status : PlcStatusData R}
    (answered : Answered command log status) (events : List (Event R)) :
    Answered command (log ++ events) status := by
  obtain ⟨update, sample, inForce, member, rest⟩ := answered
  exact ⟨update, sample, inForce, List.mem_append_left _ member, rest⟩

end AsyncSystem

namespace ControlPoint

open AsyncSystem (Event Answered)

variable {R : Type}

/-- What the control thread carries comes of the command. -/
def Answers (command : PlcCommandData R) (log : List (Event R)) : ControlPoint R → Prop
  | .stepLoop _ snapshot => ∃ sample, snapshot = some sample ∧ sample.value = command
  | .lockStatus status | .publishStatus status => Answered command log status
  | _ => True

theorem Answers.mono {command : PlcCommandData R} {log : List (Event R)} {point : ControlPoint R}
    (answers : point.Answers command log) (events : List (Event R)) :
    point.Answers command (log ++ events) := by
  cases point with
  | lockStatus | publishStatus => exact Answered.mono answers events
  | idle | readCommand | stepLoop => exact answers

/-- Steps until the control thread has stored a status. -/
def untilReported : ControlPoint R → ℕ
  | .idle => 5
  | .readCommand _ => 4
  | .stepLoop _ _ => 3
  | .lockStatus _ => 2
  | .publishStatus _ => 1

end ControlPoint

namespace AsyncSystem

open PlcCommunicationWorker (Onward Brings)

variable {R : Type} [Double R]

/-- The mailbox holds an answer, or will do so in so many steps of the control thread. -/
inductive Reports (command : PlcCommandData R) (steps : ℕ) (log : List (Event R))
    (stored : Option (Snapshot (PlcStatusData R))) (point : ControlPoint R) : Prop
  | reported (snapshot : Snapshot (PlcStatusData R)) : stored = some snapshot →
      Answered command log snapshot.value → point.Answers command log →
      Reports command steps log stored point
  | onward : point.Answers command log → point.untilReported ≤ steps →
      Reports command steps log stored point
  -- an update that began before has to end first
  | stale : point.untilReported + 5 ≤ steps → Reports command steps log stored point

omit [Double R] in
theorem reports_grow {command : PlcCommandData R} {steps : ℕ} {log : List (Event R)}
    {stored : Option (Snapshot (PlcStatusData R))} {point : ControlPoint R}
    (reports : Reports command steps log stored point) (events : List (Event R)) :
    Reports command steps (log ++ events) stored point := by
  cases reports with
  | reported snapshot stored answered answers =>
    exact .reported snapshot stored (answered.mono events) (answers.mono events)
  | onward answers enough => exact .onward (answers.mono events) enough
  | stale enough => exact .stale enough

omit [Double R] in
/-- A step to a point that is nearer, and carries an answer if the one before did. -/
theorem reports_nearer {command : PlcCommandData R} {steps : ℕ} {log : List (Event R)}
    {stored : Option (Snapshot (PlcStatusData R))} {point next : ControlPoint R}
    (events : List (Event R)) (reports : Reports command steps log stored point)
    (nearer : next.untilReported + 1 ≤ point.untilReported)
    (carries : point.Answers command log → next.Answers command (log ++ events)) :
    Reports command (steps - 1) (log ++ events) stored next := by
  cases reports with
  | reported snapshot stored answered answers =>
    exact .reported snapshot stored (answered.mono events) (carries answers)
  | onward answers enough => exact .onward (carries answers) (by omega)
  | stale enough => exact .stale (by omega)

theorem advance_reports {command : PlcCommandData R} {steps : ℕ} {system : AsyncSystem R}
    {log : List (Event R)} (dt : R) (free : system.unhindered = true)
    (bringing : Bringing command 0 system)
    (reports : Reports command steps log system.worker.statusMailbox.read system.control) :
    Reports command (steps - 1) (log ++ (system.advance dt true).2)
      (system.advance dt true).1.worker.statusMailbox.read (system.advance dt true).1.control := by
  rw [unhindered] at free
  cases point : system.control with
  | idle =>
    rw [point] at reports free
    simp only [Bool.not_eq_true'] at free
    simp only [advance, point, LatestValueMailbox.tryLock, free, and_self, if_true]
    exact reports_nearer [] reports (by simp [ControlPoint.untilReported]) fun _ => trivial
  | readCommand dt' =>
    rw [point] at reports
    simp only [advance, point]
    apply reports_nearer _ reports (by simp [ControlPoint.untilReported])
    intro _
    exact bringing_stored bringing
  | stepLoop dt' snapshot =>
    rw [point] at reports
    obtain ⟨status, published⟩ : ∃ status,
        (system.supervisor.update dt' snapshot system.worker.connected).2.published = some status :=
      ⟨_, rfl⟩
    simp only [advance, point, published]
    apply reports_nearer _ reports (by simp [ControlPoint.untilReported])
    rintro ⟨sample, rfl, same⟩
    exact ⟨_, sample, _, List.mem_append_right _ (List.mem_append_right _ (List.mem_singleton.mpr rfl)),
      same, published⟩
  | lockStatus status =>
    rw [point] at reports free
    simp only [Bool.not_eq_true'] at free
    simp only [advance, point, LatestValueMailbox.tryLock, free, and_self, if_true]
    apply reports_nearer [] reports (by simp [ControlPoint.untilReported])
    exact fun answers => answers.mono []
  | publishStatus status =>
    rw [point] at reports
    simp only [advance, point]
    rw [LatestValueMailbox.publish_read]
    cases reports with
    | reported _ _ _ answers | onward answers => exact .reported _ rfl (answers.mono _) trivial
    | stale enough => exact .onward trivial (by simp [ControlPoint.untilReported] at enough ⊢; omega)

/-- A step of a running worker leaves the status mailbox as it is to a reader. -/
theorem work_statusMailbox (system : AsyncSystem R) (answers : PlcCommunicationWorker.Answers R) :
    (system.worker.work answers).1.statusMailbox.read = system.worker.statusMailbox.read := by
  cases running : system.worker.thread with
  | none => simp only [PlcCommunicationWorker.work, running]
  | some thread =>
    obtain ⟨_, _, same, _⟩ := StatusChannel.run_effect system.worker thread running answers
    simp only [PlcCommunicationWorker.work, running]
    exact same.read

/-- The command has come into its mailbox, and the answer is on its way. -/
def Reporting (command : PlcCommandData R) (steps : ℕ) (state : AsyncSystem R × List (Event R)) :
    Prop :=
  Bringing command 0 state.1 ∧
    Reports command steps state.2 state.1.worker.statusMailbox.read state.1.control

theorem act_reporting {command : PlcCommandData R} {steps : ℕ}
    {state : AsyncSystem R × List (Event R)} (action : Action R)
    (smooth : Smooth command state.1 action) (reporting : Reporting command steps state) :
    Reporting command (steps - [action].countP Action.isControl) (logged act state action) := by
  obtain ⟨bringing, reports⟩ := reporting
  have stored := act_bringing action smooth bringing
  rw [Nat.zero_sub] at stored
  refine ⟨stored, ?_⟩
  cases action with
  | start | requestStop | join => exact smooth.elim
  | work answers =>
    simp only [logged, act, work_statusMailbox]
    exact reports_grow reports _
  | control dt lucky =>
    obtain ⟨rfl, free⟩ := smooth
    exact advance_reports dt free bringing reports

/-! ### What the PLC was told -/

/-- What a thread remembers of the statuses it has written. -/
structure Remembers (mailbox : LatestValueMailbox (PlcStatusData R))
    (told : Option (PlcStatusData R)) (thread : PlcCommunicationWorker.Thread R) : Prop where
  last : thread.lastStatusSequence.toNat ≤ mailbox.sequence.toNat
  held : ∀ held, thread.point.status = some held →
    thread.lastStatusSequence.toNat < held.sequence.toNat ∧
      held.sequence.toNat ≤ mailbox.sequence.toNat ∧
      (held.sequence = mailbox.sequence → mailbox.read = some held)
  told : ∀ found, mailbox.read = some found → found.sequence = thread.lastStatusSequence →
    told = some found.value

/-- The worker knows whether the PLC has the status in the mailbox. -/
structure Known (system : AsyncSystem R) (log : List (Event R)) : Prop where
  counted : system.worker.statusMailbox.sequence.toNat = (reported log).length
  remembers : ∀ thread, system.worker.thread = some thread →
    Remembers system.worker.statusMailbox (lastTold log) thread

omit [Double R] in
theorem read_sequence {mailbox : LatestValueMailbox (PlcStatusData R)}
    {found : Snapshot (PlcStatusData R)} (read : mailbox.read = some found) :
    found.sequence = mailbox.sequence := by
  obtain ⟨_, _, rfl⟩ := Option.map_eq_some_iff.mp read
  rfl

/-- What the PLC was told last, as the relay of the statuses shows it. -/
def hear (last : Option (PlcStatusData R)) : StatusChannel.Event R → Option (PlcStatusData R)
  | .forward status accepted => if accepted then some status.value else none
  | _ => last

omit [Double R] in
theorem lastTold_worker (worker : PlcCommunicationWorker R) (log : List (Event R))
    (events : List (PlcCommunicationWorker.Event R)) :
    lastTold (log ++ events.map .worker) =
      (StatusChannel.looks worker ++ StatusChannel.writes events).foldl hear (lastTold log) := by
  rw [lastTold, List.foldl_append, List.foldl_append]
  have looking : ∀ last, (StatusChannel.looks worker).foldl hear last = last := by
    intro last
    simp only [StatusChannel.looks]
    split <;> rfl
  rw [looking, ← lastTold]
  generalize lastTold log = last
  induction events generalizing last with
  | nil => rfl
  | cons event events ih =>
    cases event with
    | write status accepted => exact ih _
    | connect | disconnect | sleep | read | publish => exact ih _

omit [Double R] in
theorem remembers_effect {worker next : PlcCommunicationWorker R}
    {thread later : PlcCommunicationWorker.Thread R} {log : List (Event R)}
    {events : List (StatusChannel.Event R)} {told : Option (PlcStatusData R)}
    (same : StatusChannel.SameMailbox worker next)
    (effect : StatusChannel.Effect worker thread later events)
    (tells : told = events.foldl hear (lastTold log))
    (remembers : Remembers worker.statusMailbox (lastTold log) thread) :
    Remembers next.statusMailbox told later := by
  cases effect with
  | silent _ after last =>
    refine ⟨?_, ?_, ?_⟩
    · rw [last, same.sequence]
      exact remembers.last
    · intro held holds
      rw [after] at holds
      cases holds
    · rw [same.read, last, tells]
      exact remembers.told
  | look before found last =>
    refine ⟨?_, ?_, ?_⟩
    · rw [last, same.sequence]
      exact remembers.last
    · intro held holds
      rw [found, Option.filter_eq_some_iff] at holds
      obtain ⟨read, newer⟩ := holds
      have newest := read_sequence read
      rw [last, same.sequence, same.read, newest]
      refine ⟨?_, le_rfl, fun _ => read⟩
      have older := remembers.last
      have other : thread.lastStatusSequence.toNat ≠ worker.statusMailbox.sequence.toNat := by
        intro equal
        rw [newest, UInt64.toNat_inj.mp equal] at newer
        simp at newer
      omega
    · rw [same.read, last, tells]
      exact remembers.told
  | write status accepted before after last =>
    obtain ⟨newer, known, newest⟩ := remembers.held status before
    rw [tells]
    cases accepted with
    | true =>
      rw [if_pos rfl] at last
      refine ⟨?_, ?_, ?_⟩
      · rw [last, same.sequence]
        exact known
      · intro held holds
        rw [after] at holds
        cases holds
      · intro found read equal
        rw [same.read] at read
        rw [last, read_sequence read] at equal
        cases read.symm.trans (newest equal.symm)
        rfl
    | false =>
      rw [if_neg Bool.false_ne_true] at last
      refine ⟨?_, ?_, ?_⟩
      · rw [last, same.sequence]
        exact remembers.last
      · intro held holds
        rw [after] at holds
        cases holds
      · intro found read equal
        -- what could not be written is newer than what was written last
        rw [same.read] at read
        rw [last, read_sequence read] at equal
        rw [equal] at known
        omega

theorem known_work {system : AsyncSystem R} {log : List (Event R)}
    (answers : PlcCommunicationWorker.Answers R) (known : Known system log) :
    Known (system.act (.work answers)).1 (log ++ (system.act (.work answers)).2) := by
  have unreported : ∀ events : List (PlcCommunicationWorker.Event R),
      reported (events.map (Event.worker (R := R))) = [] := by
    intro events
    simp [reported]
  simp only [act]
  cases running : system.worker.thread with
  | none =>
    simp only [PlcCommunicationWorker.work, running, List.map_nil, List.append_nil]
    exact known
  | some thread =>
    obtain ⟨later, continues, same, effect⟩ :=
      StatusChannel.run_effect system.worker thread running answers
    simp only [PlcCommunicationWorker.work, running]
    constructor
    · rw [same.sequence, reported_append, unreported, List.append_nil]
      exact known.counted
    · intro next runs
      cases continues.symm.trans runs
      exact remembers_effect same effect (lastTold_worker system.worker log _)
        (known.remembers thread running)

theorem advance_lastTold (system : AsyncSystem R) (log : List (Event R)) (dt : R) (lucky : Bool) :
    lastTold (log ++ (system.advance dt lucky).2) = lastTold log := by
  rw [lastTold, List.foldl_append]
  cases point : system.control with
  | idle =>
    simp only [advance, point]
    split_ifs <;> rfl
  | stepLoop dt' snapshot =>
    simp only [advance, point]
    cases system.supervisor.acceptedSnapshot snapshot <;> rfl
  | readCommand | lockStatus | publishStatus =>
    simp only [advance, point]
    rfl

/-- Only the last step of an update changes what is in the status mailbox. -/
theorem advance_statusMailbox (system : AsyncSystem R) (dt : R) (lucky : Bool) :
    ((system.advance dt lucky).1.worker.statusMailbox.read = system.worker.statusMailbox.read ∧
      (system.advance dt lucky).1.worker.statusMailbox.sequence =
        system.worker.statusMailbox.sequence ∧ reported (system.advance dt lucky).2 = []) ∨
    ∃ status, (system.advance dt lucky).1.worker.statusMailbox =
        system.worker.statusMailbox.publish status ∧
      reported (system.advance dt lucky).2 = [⟨status, system.worker.statusMailbox.sequence + 1⟩] := by
  cases point : system.control with
  | idle =>
    simp only [advance, point]
    split_ifs
    · exact Or.inl ⟨rfl, rfl, rfl⟩
    · exact Or.inl ⟨rfl, rfl, rfl⟩
  | stepLoop dt' snapshot =>
    simp only [advance, point]
    cases system.supervisor.acceptedSnapshot snapshot with
    | none => exact Or.inl ⟨trivial, trivial, rfl⟩
    | some sample => exact Or.inl ⟨trivial, trivial, rfl⟩
  | readCommand dt' =>
    simp only [advance, point]
    exact Or.inl ⟨trivial, trivial, rfl⟩
  | lockStatus status =>
    simp only [advance, point]
    exact Or.inl ⟨LatestValueMailbox.tryLock_read _ _, LatestValueMailbox.tryLock_sequence _ _, rfl⟩
  | publishStatus status =>
    simp only [advance, point]
    exact Or.inr ⟨status, rfl, rfl⟩

theorem known_advance {system : AsyncSystem R} {log : List (Event R)} (dt : R) (lucky : Bool)
    (known : Known system log)
    (bounded : (reported (log ++ (system.advance dt lucky).2)).length < 2 ^ 64) :
    Known (system.advance dt lucky).1 (log ++ (system.advance dt lucky).2) := by
  rw [reported_append, List.length_append] at bounded
  rcases system.advance_statusMailbox dt lucky with ⟨read, sequence, unreported⟩ |
    ⟨status, published, reports⟩
  · constructor
    · rw [sequence, reported_append, unreported, List.append_nil]
      exact known.counted
    · intro thread running
      have remembers := known.remembers thread ((system.advance_thread dt lucky).symm.trans running)
      rw [advance_lastTold]
      refine ⟨?_, ?_, ?_⟩
      · rw [sequence]
        exact remembers.last
      · rw [sequence, read]
        exact remembers.held
      · rw [read]
        exact remembers.told
  · rw [reports, List.length_singleton] at bounded
    have next : (system.worker.statusMailbox.publish status).sequence.toNat =
        (reported log).length + 1 := count_succ known.counted bounded
    have counted := known.counted
    constructor
    · rw [published, next, reported_append, reports, List.length_append, List.length_singleton]
    · intro thread running
      have remembers := known.remembers thread ((system.advance_thread dt lucky).symm.trans running)
      have older := remembers.last
      rw [published]
      refine ⟨by omega, ?_, ?_⟩
      · intro held holds
        obtain ⟨newer, before, _⟩ := remembers.held held holds
        refine ⟨newer, by omega, ?_⟩
        intro equal
        rw [equal] at before
        omega
      -- this status is newer than all the thread has written
      · intro found read equal
        rw [read_sequence read] at equal
        rw [equal] at next
        omega

theorem known_act {system : AsyncSystem R} {log : List (Event R)} (action : Action R)
    (returned : Returned system log) (known : Known system log)
    (bounded : (reported (log ++ (system.act action).2)).length < 2 ^ 64) :
    Known (system.act action).1 (log ++ (system.act action).2) := by
  cases action with
  | work answers => exact known_work answers known
  | control dt lucky => exact known_advance dt lucky known bounded
  | start =>
    simp only [act, List.append_nil]
    rcases system.worker.start_cases with same | ⟨started, _⟩
    · rw [same]
      exact known
    · rw [started]
      refine ⟨known.counted, ?_⟩
      rintro thread ⟨⟩
      refine ⟨Nat.zero_le _, ?_, ?_⟩
      · rintro held ⟨⟩
      -- the first status has the number one
      · intro found read equal
        have counted := known.counted
        rw [← read_sequence read, equal] at counted
        have none : reported log = [] := List.length_eq_zero_iff.mp counted.symm
        cases read.symm.trans (returned.mailbox.trans (congrArg List.getLast? none))
  | requestStop =>
    simp only [act, List.append_nil]
    refine ⟨known.counted, ?_⟩
    intro thread running
    obtain ⟨before, ran, rfl⟩ := Option.map_eq_some_iff.mp running
    have remembers := known.remembers before ran
    exact ⟨remembers.last, remembers.held, remembers.told⟩
  | join =>
    simp only [act, List.append_nil]
    rcases system.worker.join_cases with same | ⟨joined, _⟩
    · rw [same]
      exact known
    · rw [joined]
      exact ⟨known.counted, by simp⟩

end AsyncSystem

namespace AsyncSystem

open PlcCommunicationWorker (Point Thread Onward)

variable {R : Type}

/-- The PLC was told an answer, or will be after so many steps. -/
inductive Tells (command : PlcCommandData R) (steps : ℕ) (log : List (Event R))
    (last : Option (PlcStatusData R)) (point : Point R) : Prop
  | told (status : PlcStatusData R) : last = some status → Answered command log status →
      (∀ held, point.status = some held → Answered command log held.value) →
      Tells command steps log last point
  | onward : (∀ held, point.status = some held → Answered command log held.value) →
      point.untilTold ≤ steps → Tells command steps log last point
  -- a status found before is written first
  | stale (held : Snapshot (PlcStatusData R)) : point = .writeStatus held → 10 ≤ steps →
      Tells command steps log last point

theorem tells_grow {command : PlcCommandData R} {steps : ℕ} {log : List (Event R)}
    {last : Option (PlcStatusData R)} {point : Point R} (tells : Tells command steps log last point)
    (events : List (Event R)) : Tells command steps (log ++ events) last point := by
  cases tells with
  | told status told answered carries =>
    exact .told status told (answered.mono events) fun held holds => (carries held holds).mono events
  | onward carries enough =>
    exact .onward (fun held holds => (carries held holds).mono events) enough
  | stale held here enough => exact .stale held here enough

theorem tells_onward {command : PlcCommandData R} {steps : ℕ} {log : List (Event R)}
    {worker : PlcCommunicationWorker R} {thread later : Thread R}
    {found : Snapshot (PlcStatusData R)}
    {events : List (StatusChannel.Event R)} {last : Option (PlcStatusData R)}
    (onward : Onward command thread.point later.point)
    (effect : StatusChannel.Effect worker thread later events)
    (looks : thread.point = .readStatus → events ≠ [])
    (accepted : ∀ status, .forward status false ∉ events)
    (read : worker.statusMailbox.read = some found) (answered : Answered command log found.value)
    (remembers : Remembers worker.statusMailbox last thread)
    (tells : Tells command steps log last thread.point) :
    Tells command (steps - 1) log (events.foldl hear last) later.point := by
  cases effect with
  | silent before after _ =>
    have carries : ∀ held, later.point.status = some held → Answered command log held.value := by
      intro held holds
      rw [after] at holds
      cases holds
    cases tells with
    | told status told answered _ => exact .told status told answered carries
    | stale held here _ =>
      rw [here] at before
      cases before
    | onward _ enough =>
      refine .onward carries ?_
      generalize thread.point = point at *
      generalize later.point = next at *
      cases onward with
      | readStatus | unread => exact absurd rfl (looks rfl)
      | writeStatus => cases before
      | _ =>
        simp only [Point.untilTold] at enough ⊢
        omega
  | look before filter _ =>
    rw [read] at filter
    by_cases newer : found.sequence ≠ thread.lastStatusSequence
    · rw [Option.filter_some, if_pos (decide_eq_true newer)] at filter
      have carries : ∀ held, later.point.status = some held → Answered command log held.value := by
        intro held holds
        cases filter.symm.trans holds
        exact answered
      cases tells with
      | told status told answered _ => exact .told status told answered carries
      | stale held here _ =>
        rw [here] at before
        cases before
      | onward _ enough =>
        refine .onward carries ?_
        generalize thread.point = point at *
        generalize later.point = next at *
        cases onward with
        | readStatus =>
          simp only [Point.untilTold] at enough ⊢
          omega
        | _ => cases filter
    -- the PLC has it already
    · rw [Option.filter_some, if_neg (by simpa using newer)] at filter
      refine .told found.value (remembers.told found read (not_not.mp newer)) answered ?_
      intro held holds
      cases filter.symm.trans holds
  | write status taken before after _ =>
    have carries : ∀ held, later.point.status = some held → Answered command log held.value := by
      intro held holds
      rw [after] at holds
      cases holds
    cases taken with
    | false => exact absurd (List.mem_singleton.mpr rfl) (accepted status)
    | true =>
      cases tells with
      | told _ _ _ holds | onward holds _ =>
        exact .told status.value rfl (holds status before) carries
      | stale held here enough =>
        refine .onward carries ?_
        generalize later.point = next at *
        rw [here] at onward
        cases onward
        simp only [Point.untilTold]
        omega

variable [Double R]

/-- The answer is in its mailbox, and on its way to the PLC. `early` is what happened before. -/
def Telling (command : PlcCommandData R) (early : List (Event R)) (steps : ℕ)
    (state : AsyncSystem R × List (Event R)) : Prop :=
  Reporting command 0 state ∧ ∃ thread, state.1.worker.thread = some thread ∧
    Tells command steps state.2 (lastTold (early ++ state.2)) thread.point

theorem reporting_stored {command : PlcCommandData R} {state : AsyncSystem R × List (Event R)}
    (reporting : Reporting command 0 state) :
    ∃ found, state.1.worker.statusMailbox.read = some found ∧
      Answered command state.2 found.value := by
  cases reporting.2 with
  | reported found stored answered _ => exact ⟨found, stored, answered⟩
  | onward _ enough =>
    generalize state.1.control = point at enough
    cases point <;> simp [ControlPoint.untilReported] at enough
  | stale enough => omega

theorem act_telling {command : PlcCommandData R} {early : List (Event R)} {steps : ℕ}
    {state : AsyncSystem R × List (Event R)} (action : Action R)
    (smooth : Smooth command state.1 action) (known : Known state.1 (early ++ state.2))
    (telling : Telling command early steps state) :
    Telling command early (steps - [action].countP Action.isWork) (logged act state action) := by
  obtain ⟨reporting, thread, running, tells⟩ := telling
  have next := act_reporting action smooth reporting
  rw [Nat.zero_sub] at next
  refine ⟨next, ?_⟩
  cases action with
  | start | requestStop | join => exact smooth.elim
  | work answers =>
    obtain ⟨rfl, free⟩ := smooth
    obtain ⟨found, read, answered⟩ := reporting_stored reporting
    obtain ⟨⟨other, ran, active, _⟩, _⟩ := reporting
    cases running.symm.trans ran
    obtain ⟨later, continues, asked, onward, _, accepted⟩ :=
      PlcCommunicationWorker.run_onward command running active free
    obtain ⟨same, goes, _, effect⟩ :=
      StatusChannel.run_effect state.1.worker thread running (.served command)
    cases continues.symm.trans goes
    simp only [logged, act, PlcCommunicationWorker.work, running]
    refine ⟨later, continues, ?_⟩
    rw [← List.append_assoc, lastTold_worker state.1.worker]
    refine tells_grow ?_ _
    refine tells_onward onward effect ?_ ?_ read answered (known.remembers thread running) tells
    · intro reading
      simp [StatusChannel.looks, PlcCommunicationWorker.point, running, reading]
    · intro status member
      rcases List.mem_append.mp member with looked | written
      · simp only [StatusChannel.looks] at looked
        split at looked <;> simp at looked
      · obtain ⟨event, inside, same⟩ := List.mem_filterMap.mp written
        cases event with
        | write held taken =>
          cases same
          exact accepted status inside
        | connect | disconnect | sleep | read | publish => cases same
  | control dt lucky =>
    simp only [logged, act]
    refine ⟨thread, (advance_thread _ dt lucky).trans running, ?_⟩
    rw [← List.append_assoc, advance_lastTold]
    exact tells_grow tells _

theorem telling_told {command : PlcCommandData R} {early : List (Event R)}
    {state : AsyncSystem R × List (Event R)} (telling : Telling command early 0 state) :
    ∃ status, lastTold (early ++ state.2) = some status ∧ Answered command state.2 status := by
  obtain ⟨⟨⟨other, ran, active, _⟩, _⟩, thread, running, tells⟩ := telling
  cases running.symm.trans ran
  cases tells with
  | told status told answered _ => exact ⟨status, told, answered⟩
  | stale _ _ enough => omega
  | onward _ enough =>
    have disconnect := active.disconnect
    have finished := active.finished
    generalize other.point = point at *
    cases point with
    | disconnect => exact absurd rfl disconnect
    | finished => exact absurd rfl finished
    | _ => simp [Point.untilTold] at enough

/-- An update, if this event is one, that got the command from its sample. -/
def Follows (command : PlcCommandData R) : Event R → Prop
  | .update _ sample _ => ∃ found, sample = some found ∧ found.value = command
  | _ => True

theorem act_follows {command : PlcCommandData R} {state : AsyncSystem R × List (Event R)}
    (action : Action R) (reporting : Reporting command 0 state) :
    ∀ event ∈ (act state.1 action).2, Follows command event := by
  cases action with
  | start | requestStop | join => exact fun _ member => absurd member List.not_mem_nil
  | work answers =>
    intro event member
    obtain ⟨_, _, rfl⟩ := List.mem_map.mp member
    trivial
  | control dt lucky =>
    simp only [act]
    cases point : state.1.control with
    | idle =>
      simp only [advance, point]
      split_ifs
      · exact fun _ member => absurd member List.not_mem_nil
      · exact List.forall_mem_singleton.mpr trivial
    | stepLoop dt' snapshot =>
      have carries : ∃ found, snapshot = some found ∧ found.value = command := by
        have reports := reporting.2
        rw [point] at reports
        cases reports with
        | reported _ _ _ answers => exact answers
        | onward answers _ => exact answers
        | stale enough => omega
      simp only [advance, point]
      refine List.forall_mem_append.mpr ⟨?_, List.forall_mem_singleton.mpr carries⟩
      intro event member
      obtain ⟨_, _, rfl⟩ := Option.map_eq_some_iff.mp (Option.mem_toList.mp member)
      trivial
    | lockStatus =>
      simp only [advance, point]
      exact fun _ member => absurd member List.not_mem_nil
    | readCommand | publishStatus =>
      simp only [advance, point]
      exact List.forall_mem_singleton.mpr trivial

/-! ### The round trip -/

theorem observe_append (system : AsyncSystem R) (first rest : List (Action R)) :
    system.observe (first ++ rest) = run (logged act) (system.observe first) rest :=
  run_append _ _ _ _

/-- A run that goes on emits what a run from there emits. -/
theorem observe_from (system : AsyncSystem R) (before rest : List (Action R)) :
    system.observe (before ++ rest) =
      (((system.observe before).1.observe rest).1,
        (system.observe before).2 ++ ((system.observe before).1.observe rest).2) :=
  (observe_append system before rest).trans (run_logged act _ _ rest)

theorem act_leaving {system : AsyncSystem R} (action : Action R) (leaving : system.worker.Leaving) :
    (system.act action).1.worker.Leaving := by
  cases action with
  | start =>
    rcases system.worker.start_cases with same | ⟨started, _⟩
    · simp only [act, same]
      exact leaving
    · simp only [act, started]
      rintro thread ⟨⟩ onward
      exact ⟨onward, by simp, by simp⟩
  | requestStop =>
    intro thread running onward
    obtain ⟨before, ran, rfl⟩ := Option.map_eq_some_iff.mp running
    cases onward
  | join =>
    rcases system.worker.join_cases with same | ⟨joined, _⟩
    · simp only [act, same]
      exact leaving
    · simp only [act, joined]
      rintro thread ⟨⟩
  | work answers =>
    cases running : system.worker.thread with
    | none =>
      simp only [act, PlcCommunicationWorker.work, running]
      exact leaving
    | some thread =>
      simp only [act, PlcCommunicationWorker.work, running]
      exact PlcCommunicationWorker.run_leaving answers running leaving
  | control dt lucky =>
    intro thread running
    exact leaving thread ((advance_thread _ dt lucky).symm.trans running)

theorem leaving_observe (configuration : PlcCommunicationWorker.Configuration)
    (supervisor : AsyncPlcSupervisor R) (actions : List (Action R)) :
    ((fresh configuration supervisor).observe actions).1.worker.Leaving := by
  refine run_always (logged act) (fun state => state.1.worker.Leaving) ?_ _ actions ?_
  · exact fun state action leaving => act_leaving action leaving
  · rintro thread ⟨⟩

theorem known_observe (configuration : PlcCommunicationWorker.Configuration)
    (supervisor : AsyncPlcSupervisor R) (actions : List (Action R))
    (bounded : (reported ((fresh configuration supervisor).observe actions).2).length < 2 ^ 64) :
    Returned ((fresh configuration supervisor).observe actions).1
        ((fresh configuration supervisor).observe actions).2 ∧
      Known ((fresh configuration supervisor).observe actions).1
        ((fresh configuration supervisor).observe actions).2 := by
  induction actions using List.reverseRecOn with
  | nil => exact ⟨fresh_returned configuration supervisor, rfl, by rintro thread ⟨⟩⟩
  | append_singleton actions action ih =>
    rw [observe, run_snoc] at bounded ⊢
    have earlier : (reported ((fresh configuration supervisor).observe actions).2).length < 2 ^ 64 := by
      simp only [logged, reported_append, List.length_append] at bounded
      exact Nat.lt_of_le_of_lt (Nat.le_add_right _ _) bounded
    obtain ⟨returned, known⟩ := ih earlier
    exact ⟨returned_act action returned, known_act action returned known bounded⟩

theorem bringing_run {command : PlcCommandData R} {state : AsyncSystem R × List (Event R)}
    {thread : Thread R} (running : state.1.worker.thread = some thread) (active : thread.Active)
    {actions : List (Action R)} (works : 11 ≤ actions.countP Action.isWork)
    (smooth : Along (logged act) (fun state => Smooth command state.1) state actions) :
    Bringing command 0 (run (logged act) state actions).1 := by
  have begins : Bringing command 11 state.1 := by
    refine ⟨thread, running, active, .elsewhere ?_⟩
    generalize thread.point = point
    cases point <;> simp [Point.untilRead]
  have done := run_deadline (logged act) (fun state => Smooth command state.1) Action.isWork
    (fun steps state => Bringing command steps state.1)
    (fun _ _ action smooth bringing => act_bringing action smooth bringing) 11 state actions smooth
    begins
  rwa [Nat.sub_eq_zero_of_le works] at done

theorem reporting_run {command : PlcCommandData R} {system : AsyncSystem R}
    (bringing : Bringing command 0 system) {actions : List (Action R)}
    (controls : 8 ≤ actions.countP Action.isControl)
    (smooth : Along (logged act) (fun state => Smooth command state.1) (system, []) actions) :
    Reporting command 0 (run (logged act) (system, []) actions) := by
  have begins : Reporting command 8 (system, []) := by
    refine ⟨bringing, ?_⟩
    simp only
    cases system.control with
    | idle | readCommand => exact .onward trivial (by simp [ControlPoint.untilReported])
    | stepLoop | lockStatus | publishStatus => exact .stale (by simp [ControlPoint.untilReported])
  have done := run_deadline (logged act) (fun state => Smooth command state.1) Action.isControl
    (Reporting command) (fun _ _ action smooth reporting => act_reporting action smooth reporting)
    8 (system, []) actions smooth begins
  rwa [Nat.sub_eq_zero_of_le controls] at done

theorem telling_run {command : PlcCommandData R} {early : List (Event R)}
    {state : AsyncSystem R × List (Event R)} (reporting : Reporting command 0 state)
    {actions : List (Action R)} (writes : 10 ≤ actions.countP Action.isWork)
    (smooth : Along (logged act) (fun state => Smooth command state.1) state actions)
    (known : Along (logged act) (fun state _ => Known state.1 (early ++ state.2)) state actions) :
    Telling command early 0 (run (logged act) state actions) := by
  have begins : Telling command early 10 state := by
    obtain ⟨thread, running, _⟩ := reporting.1
    refine ⟨reporting, thread, running, ?_⟩
    generalize thread.point = point
    cases point with
    | writeStatus held => exact .stale held rfl le_rfl
    | _ => exact .onward (by rintro _ ⟨⟩) (by simp [Point.untilTold])
  have done := run_deadline (logged act)
    (fun state action => Smooth command state.1 action ∧ Known state.1 (early ++ state.2))
    Action.isWork (Telling command early)
    (fun _ _ action guarded telling => act_telling action guarded.1 guarded.2 telling)
    10 state actions ((along_and _ _ _ _ _).mpr ⟨smooth, known⟩) begins
  rwa [Nat.sub_eq_zero_of_le writes] at done

theorem follows_run {command : PlcCommandData R} {state : AsyncSystem R × List (Event R)}
    (reporting : Reporting command 0 state) {actions : List (Action R)}
    (smooth : Along (logged act) (fun state => Smooth command state.1) state actions) :
    ∃ final, (run (logged act) state actions).2 = state.2 ++ final ∧
      ∀ event ∈ final, Follows command event := by
  have whole := run_invariant (logged act) (fun state => Smooth command state.1)
    (fun next => Reporting command 0 next ∧
      ∃ final, next.2 = state.2 ++ final ∧ ∀ event ∈ final, Follows command event)
    ?_ state actions smooth ⟨reporting, [], by simp⟩
  · exact whole.2
  · rintro next action smooth ⟨reporting, final, log, follows⟩
    have later := act_reporting action smooth reporting
    rw [Nat.zero_sub] at later
    refine ⟨later, final ++ (act next.1 action).2, ?_, ?_⟩
    · simp only [logged, log, List.append_assoc]
    · exact List.forall_mem_append.mpr ⟨follows, act_follows action reporting⟩

/-- After anything that may have happened, with the worker running and not asked to stop,
the PLC serves it and asks for one command, and nothing has to be dropped. -/
structure Setting (system : AsyncSystem R) (before first second third : List (Action R))
    (command : PlcCommandData R) : Prop where
  running : ∃ thread, (system.observe before).1.worker.thread = some thread ∧
    thread.stopRequested = false
  smooth : Along (fun system action => (act system action).1) (Smooth command)
    (system.observe before).1 (first ++ second ++ third)
  works : 11 ≤ first.countP Action.isWork
  controls : 8 ≤ second.countP Action.isControl
  writes : 10 ≤ third.countP Action.isWork
  -- neither counter of the mailboxes has wrapped
  published : (published (system.observe (before ++ first ++ second ++ third)).2).length < 2 ^ 64
  reported : (reported (system.observe (before ++ first ++ second ++ third)).2).length < 2 ^ 64

/-- In time every update follows the command, and the PLC is told the status of one of them. -/
theorem answered_in_time (configuration : PlcCommunicationWorker.Configuration)
    (supervisor : AsyncPlcSupervisor R) {before first second third : List (Action R)}
    {command : PlcCommandData R}
    (setting : Setting (fresh configuration supervisor) before first second third command) :
    let early := ((fresh configuration supervisor).observe (before ++ first)).2
    let log := ((fresh configuration supervisor).observe (before ++ first ++ second ++ third)).2
    ∃ middle final status,
      ((fresh configuration supervisor).observe (before ++ first ++ second)).2 = early ++ middle ∧
      log = early ++ (middle ++ final) ∧ (∀ event ∈ final, Follows command event) ∧
      Answered command (middle ++ final) status ∧ lastTold log = some status := by
  have leaving := leaving_observe configuration supervisor before
  have known := known_observe configuration supervisor
  revert setting leaving known
  generalize fresh configuration supervisor = system
  intro setting leaving known early log
  obtain ⟨thread, running, unasked⟩ := setting.running
  -- the command comes into its mailbox
  have smooth := setting.smooth
  rw [List.append_assoc] at smooth
  obtain ⟨smoothFirst, smoothRest⟩ := (along_append _ _ _ _ _).mp
    ((along_logged act (Smooth command) _ (system.observe before).2 _).mpr smooth)
  have brought := bringing_run running (leaving thread running unasked) setting.works smoothFirst
  change Bringing command 0 (run (logged act) (system.observe before) first).1 at brought
  change Along _ _ (run (logged act) (system.observe before) first) _ at smoothRest
  rw [← observe_append] at brought smoothRest
  -- the answer comes into its mailbox
  obtain ⟨smoothSecond, smoothThird⟩ := (along_append _ _ _ _ _).mp
    ((along_logged act (Smooth command) _ [] _).mpr ((along_logged act _ _ _ _).mp smoothRest))
  have reporting := reporting_run brought setting.controls smoothSecond
  change Reporting command 0 ((system.observe (before ++ first)).1.observe second) at reporting
  change Along _ _ ((system.observe (before ++ first)).1.observe second) _ at smoothThird
  -- the PLC is told
  -- the log of the whole run, cut where the command has come into its mailbox
  have split : ∀ more, system.observe (before ++ first ++ second ++ more) =
      ((run (logged act) ((system.observe (before ++ first)).1.observe second) more).1,
        early ++ (run (logged act) ((system.observe (before ++ first)).1.observe second) more).2) := by
    intro more
    rw [List.append_assoc (before ++ first), observe_from, observe_append]
  have knows : Along (logged act) (fun state _ => Known state.1 (early ++ state.2))
      ((system.observe (before ++ first)).1.observe second) third := by
    rw [along_iff]
    rintro part action rest rfl
    have here := (known (before ++ first ++ second ++ part) ?_).2
    · rwa [split part] at here
    · have whole := setting.reported
      rw [← List.append_assoc, observe_from, reported_append, List.length_append] at whole
      omega
  obtain ⟨status, told, answered⟩ :=
    telling_told (telling_run reporting setting.writes smoothThird knows)
  obtain ⟨final, grown, follows⟩ := follows_run reporting smoothThird
  have whole := split third
  have middle := split []
  rw [grown] at told answered whole
  rw [List.append_nil, run_nil] at middle
  refine ⟨_, final, status, congrArg Prod.snd middle, congrArg Prod.snd whole, follows, answered, ?_⟩
  rw [← told]
  exact congrArg (fun outcome => lastTold outcome.2) whole

/-- Whatever has happened before, while the worker is not asked to stop: once nothing has to be
dropped and the PLC serves the worker, eleven steps of the worker and eight steps of the control
thread, with any number of others in between, are enough for the command of the PLC to be in
force in every later update; after ten more steps of the worker the PLC was last told the
status of an update under that command, and of one made since. -/
theorem round_trip (configuration : PlcCommunicationWorker.Configuration)
    (worker : PlcCommunicationWorker R)
    (workerCreated : PlcCommunicationWorker.create configuration = .ok worker)
    (timeout : R) (controlLoop : ControlLoop R) (supervisor : AsyncPlcSupervisor R)
    (created : AsyncPlcSupervisor.create timeout controlLoop = .ok supervisor)
    (before first second third : List (Action R)) (command : PlcCommandData R)
    (setting : Setting (create worker supervisor) before first second third command) :
    let outcome := (create worker supervisor).observe (before ++ first ++ second ++ third)
    (∃ final, outcome.2 =
        ((create worker supervisor).observe (before ++ first ++ second)).2 ++ final ∧
      ∀ update sample inForce, .update update sample inForce ∈ final →
        inForce = decodePlcCommand command) ∧
    ∃ late update sample status,
      outcome.2 = ((create worker supervisor).observe (before ++ first)).2 ++ late ∧
      .update update sample (decodePlcCommand command) ∈ late ∧
      update.published = some status ∧ lastTold outcome.2 = some status := by
  intro outcome
  have left := (delivered_run workerCreated created (before ++ first ++ second ++ third)
    setting.published).left
  change ∀ event ∈ outcome.2, LeftInForce event at left
  have same := fresh_of_create workerCreated supervisor
  obtain ⟨middle, final, status, lately, log, follows, answered, told⟩ :=
    answered_in_time configuration supervisor (same ▸ setting)
  rw [← same] at lately log told
  change outcome.2 = _ at log
  constructor
  · refine ⟨final, by rw [log, lately, List.append_assoc], ?_⟩
    intro update sample inForce member
    obtain ⟨found, rfl, value⟩ := follows _ member
    have inside := left _ (log ▸ List.mem_append_right _ (List.mem_append_right _ member))
    rw [← value]
    exact inside
  · obtain ⟨update, sample, inForce, member, value, published⟩ := answered
    refine ⟨_, update, some sample, status, log, ?_, published, told⟩
    have inside := left _ (log ▸ List.mem_append_right _ member)
    change inForce = decodePlcCommand sample.value at inside
    rwa [inside, value] at member

/-- The PLC asks for a start, in the first cycle of the worker. -/
def opening : List (Action (Exact ℚ)) := .start :: List.replicate 8 (serve startCommand)

/-- Two more updates, between steps of a worker whose PLC asks for an emergency stop. -/
def settled : List (Action (Exact ℚ)) :=
  List.replicate 3 (serve emergencyCommand) ++ List.replicate 10 tick ++
    List.replicate 10 (serve emergencyCommand)

/-- The PLC asks for an emergency stop, after a cycle in which it has asked for a start. -/
theorem round_trip_demo :
    let asked := opening ++ List.replicate 13 (serve emergencyCommand)
    let earlier := demo.observe (asked ++ List.replicate 8 tick)
    let outcome := demo.observe (asked ++ List.replicate 8 tick ++ settled)
    (updates outcome.2).length = (updates earlier.2).length + 2 ∧
    (∃ final, outcome.2 = earlier.2 ++ final ∧
      ∀ update sample inForce, .update update sample inForce ∈ final →
        inForce = decodePlcCommand emergencyCommand) ∧
    ∃ late update sample status, outcome.2 = (demo.observe asked).2 ++ late ∧
      .update update sample (decodePlcCommand emergencyCommand) ∈ late ∧
      update.published = some status ∧ lastTold outcome.2 = some status := by
  intro asked earlier outcome
  exact ⟨by decide +kernel, round_trip .initial demo.worker demo_worker_created 0.10
    ControlLoop.demo AsyncPlcSupervisor.demo AsyncPlcSupervisor.demo_created opening
    (List.replicate 13 (serve emergencyCommand)) (List.replicate 8 tick) settled emergencyCommand
    ⟨⟨⟨.head, false, 0⟩, by decide +kernel⟩, by decide +kernel, by decide +kernel,
      by decide +kernel, by decide +kernel, by decide +kernel, by decide +kernel⟩⟩

end AsyncSystem

end MotionBridge
