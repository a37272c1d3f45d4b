import MotionBridge.Foundation.History
import MotionBridge.Properties.EndToEnd

/-! The worker keeps to the order of calls that a PLC expects, and its statistics account
for every one of them. -/
namespace MotionBridge

open Foundation

namespace PlcCommunicationWorker

variable {R : Type}

/-- The PLC is connected after these calls. -/
def linked (log : List (Event R)) : Bool :=
  log.foldl (fun connected event => match event with
    | .connect accepted => accepted
    | .disconnect => false
    | _ => connected) false

/-- Only a connected PLC is read or written, and only one that is not is connected. -/
def Proper (before : List (Event R)) : Event R → Prop
  | .connect _ => linked before = false
  | .read _ | .write _ _ => linked before = true
  | _ => True

def Event.isPublication : Event R → Bool
  | .publish _ => true
  | _ => false

def Event.isAcceptedWrite : Event R → Bool
  | .write _ true => true
  | _ => false

def Event.isError : Event R → Bool
  | .connect false | .read none | .write _ false => true
  | _ => false

/-- What the statistics say of these calls. A command that was read and not published is
not counted. -/
def account (log : List (Event R)) : Statistics where
  successfulReads := UInt64.ofNat (log.countP Event.isPublication)
  successfulWrites := UInt64.ofNat (log.countP Event.isAcceptedWrite)
  communicationErrors := UInt64.ofNat (log.countP Event.isError)

/-- Whether the flag is set at this point, where that is certain. -/
def Point.connected : Point R → Option Bool
  | .head | .disconnect => none
  | .connect | .sleepReconnect | .finished => some false
  | _ => some true

/-- The worker agrees with the calls it has made. -/
structure Session (worker : PlcCommunicationWorker R) (log : List (Event R)) : Prop where
  flag : worker.connected = linked log
  proper : Throughout Proper log
  counted : worker.statistics = account log
  stands : ∀ thread, worker.thread = some thread →
    ∀ connected, thread.point.connected = some connected → worker.connected = connected
  idle : worker.thread = none → worker.connected = false

theorem linked_snoc (log : List (Event R)) (event : Event R) :
    linked (log ++ [event]) = match event with
      | .connect accepted => accepted
      | .disconnect => false
      | _ => linked log := by
  rw [linked, List.foldl_append]
  rfl

/-- One more call in the account. -/
def Statistics.enter (statistics : Statistics) : Event R → Statistics
  | .publish _ => { statistics with successfulReads := statistics.successfulReads + 1 }
  | .write _ true => { statistics with successfulWrites := statistics.successfulWrites + 1 }
  | .connect false | .read none | .write _ false =>
    { statistics with communicationErrors := statistics.communicationErrors + 1 }
  | _ => statistics

theorem account_snoc (log : List (Event R)) (event : Event R) :
    account (log ++ [event]) = (account log).enter event := by
  have next : ∀ n, UInt64.ofNat (n + 1) = UInt64.ofNat n + 1 := fun n => UInt64.ofNat_add n 1
  cases event with
  | connect accepted =>
    cases accepted <;>
      simp [account, Statistics.enter, Event.isPublication, Event.isAcceptedWrite, Event.isError, next]
  | read reply =>
    cases reply <;>
      simp [account, Statistics.enter, Event.isPublication, Event.isAcceptedWrite, Event.isError, next]
  | write status accepted =>
    cases accepted <;>
      simp [account, Statistics.enter, Event.isPublication, Event.isAcceptedWrite, Event.isError, next]
  | disconnect | sleep | publish =>
    simp [account, Statistics.enter, Event.isPublication, Event.isAcceptedWrite, Event.isError, next]

/-- The thread moves on, with these calls in the log. -/
theorem session_moved {next : PlcCommunicationWorker R} {log : List (Event R)}
    {thread : Thread R} (moves : next.thread = some thread) (flag : next.connected = linked log)
    (proper : Throughout Proper log) (counted : next.statistics = account log)
    (stands : ∀ connected, thread.point.connected = some connected → next.connected = connected) :
    Session next log := by
  refine ⟨flag, proper, counted, ?_, ?_⟩
  · intro other running
    rw [moves] at running
    cases running
    exact stands
  · intro ended
    rw [moves] at ended
    cases ended

/-- A step of the thread that makes no call of the PLC. -/
theorem session_quiet {worker next : PlcCommunicationWorker R} {log : List (Event R)}
    {thread : Thread R} (session : Session worker log) (moves : next.thread = some thread)
    (connected : next.connected = worker.connected) (statistics : next.statistics = worker.statistics)
    (stands : ∀ connected, thread.point.connected = some connected → worker.connected = connected) :
    Session next (log ++ []) := by
  rw [List.append_nil]
  rw [← connected] at stands
  exact session_moved moves (connected.trans session.flag) session.proper
    (statistics.trans session.counted) stands

/-- A step that ends with this call. -/
theorem session_call {worker next : PlcCommunicationWorker R} {log : List (Event R)}
    {thread : Thread R} (event : Event R) (session : Session worker log)
    (moves : next.thread = some thread) (flag : next.connected = linked (log ++ [event]))
    (proper : Proper log event) (counted : next.statistics = worker.statistics.enter event)
    (stands : ∀ connected, thread.point.connected = some connected → next.connected = connected) :
    Session next (log ++ [event]) := by
  refine session_moved moves flag ?_ ?_ stands
  · exact (throughout_snoc _ _ _).mpr ⟨session.proper, proper⟩
  · rw [counted, session.counted, account_snoc]

/-- A failed read or write of a connected PLC. -/
theorem session_fail {worker : PlcCommunicationWorker R} {log : List (Event R)} (thread : Thread R)
    {event : Event R} (session : Session worker log) (proper : Proper log event)
    (error : worker.statistics.enter event = { worker.statistics with
      communicationErrors := worker.statistics.communicationErrors + 1 }) :
    Session (worker.fail thread) (log ++ [event, .disconnect]) := by
  have split : log ++ [event, .disconnect] = log ++ [event] ++ [.disconnect] := by simp
  rw [split]
  refine session_moved rfl ?_ ?_ ?_ nofun
  · rw [linked_snoc]
    rfl
  · refine (throughout_snoc _ _ _).mpr ⟨?_, trivial⟩
    exact (throughout_snoc _ _ _).mpr ⟨session.proper, proper⟩
  · rw [account_snoc, account_snoc, ← session.counted, error]
    rfl

theorem session_run {worker : PlcCommunicationWorker R} {log : List (Event R)} {thread : Thread R}
    (answers : Answers R) (session : Session worker log) (running : worker.thread = some thread) :
    Session (worker.run thread answers).1 (log ++ (worker.run thread answers).2) := by
  have here := session.stands thread running
  cases point : thread.point with
  | head =>
    simp only [run, point]
    refine session_quiet session rfl rfl rfl ?_
    -- the flag is looked at here
    intro connected stands
    simp only at stands
    split_ifs at stands with stopped open_
    · cases stands
    · cases stands
      exact open_
    · cases stands
      exact Bool.eq_false_iff.mpr open_
  | connect =>
    rw [point] at here
    have before : linked log = false := session.flag ▸ here false rfl
    simp only [run, point]
    cases answers.connects with
    | true =>
      simp only [if_true]
      refine session_call (.connect true) session rfl ?_ before rfl ?_
      · rw [linked_snoc]
        rfl
      · rintro connected ⟨⟩
        rfl
    | false =>
      simp only [Bool.false_eq_true, if_false]
      refine session_call (.connect false) session rfl ?_ before rfl ?_
      · rw [linked_snoc]
        exact here false rfl
      · rintro connected ⟨⟩
        exact here false rfl
  | sleepReconnect | sleepCycle =>
    simp only [run, point]
    refine session_call .sleep session rfl ?_ trivial rfl ?_
    · rw [linked_snoc]
      exact session.flag
    · rintro connected ⟨⟩
  | readCommand =>
    rw [point] at here
    have before : linked log = true := session.flag ▸ here true rfl
    simp only [run, point]
    cases answers.reply with
    | none => exact session_fail thread session before rfl
    | some command =>
      refine session_call (.read (some command)) session rfl ?_ before rfl here
      rw [linked_snoc]
      exact session.flag
  | lockCommand command | lockStatus =>
    rw [point] at here
    simp only [run, point]
    refine session_quiet session rfl rfl rfl ?_
    intro connected stands
    simp only at stands
    -- the connection is open on either way
    split_ifs at stands
    · exact here connected stands
    · exact here connected stands
  | publishCommand command =>
    rw [point] at here
    simp only [run, point]
    refine session_call (.publish _) session rfl ?_ trivial rfl here
    rw [linked_snoc]
    exact session.flag
  | readStatus =>
    rw [point] at here
    simp only [run, point]
    cases worker.statusMailbox.read with
    | none => exact session_quiet session rfl rfl rfl here
    | some status =>
      refine session_quiet session rfl rfl rfl ?_
      intro connected stands
      simp only at stands
      split_ifs at stands
      · exact here connected stands
      · exact here connected stands
  | writeStatus status =>
    rw [point] at here
    have before : linked log = true := session.flag ▸ here true rfl
    simp only [run, point]
    cases answers.writes with
    | false =>
      simp only [Bool.false_eq_true, if_false]
      exact session_fail thread session before rfl
    | true =>
      simp only [if_true]
      refine session_call (.write status true) session rfl ?_ before rfl here
      rw [linked_snoc]
      exact session.flag
  | disconnect =>
    simp only [run, point]
    refine session_call .disconnect session rfl ?_ trivial rfl ?_
    · rw [linked_snoc]
      rfl
    · rintro connected ⟨⟩
      rfl
  | finished =>
    simp only [run, point, List.append_nil]
    exact session

theorem session_work {worker : PlcCommunicationWorker R} {log : List (Event R)}
    (answers : Answers R) (session : Session worker log) :
    Session (worker.work answers).1 (log ++ (worker.work answers).2) := by
  cases running : worker.thread with
  | none =>
    simp only [work, running, List.append_nil]
    exact session
  | some thread =>
    simp only [work, running]
    exact session_run answers session running

/-- The owner starts no thread that finds the PLC connected. -/
theorem session_start {worker : PlcCommunicationWorker R} {log : List (Event R)}
    (session : Session worker log) : Session worker.start log := by
  rcases worker.start_cases with same | ⟨started, idle⟩
  · rwa [same]
  · rw [started]
    refine ⟨session.flag, session.proper, session.counted, ?_, nofun⟩
    rintro thread ⟨⟩ connected stands
    cases stands

theorem session_requestStop {worker : PlcCommunicationWorker R} {log : List (Event R)}
    (session : Session worker log) : Session worker.requestStop log := by
  refine ⟨session.flag, session.proper, session.counted, ?_, ?_⟩
  · intro thread running connected stands
    obtain ⟨before, ran, rfl⟩ := Option.map_eq_some_iff.mp running
    exact session.stands before ran connected stands
  · intro ended
    exact session.idle (Option.map_eq_none_iff.mp ended)

theorem session_join {worker : PlcCommunicationWorker R} {log : List (Event R)}
    (session : Session worker log) : Session worker.join log := by
  rcases worker.join_cases with same | ⟨joined, finished⟩
  · rwa [same]
  · obtain ⟨thread, running, last⟩ := Option.map_eq_some_iff.mp finished
    rw [joined]
    refine ⟨session.flag, session.proper, session.counted, nofun, ?_⟩
    intro _
    exact session.stands thread running false (by rw [last]; rfl)

end PlcCommunicationWorker

namespace AsyncSystem

open PlcCommunicationWorker (Session account linked Proper)

variable {R : Type} [Double R]

/-- What the worker did. -/
def calls (log : List (Event R)) : List (PlcCommunicationWorker.Event R) :=
  log.filterMap fun
    | .worker event => some event
    | _ => none

omit [Double R] in
theorem calls_worker (events : List (PlcCommunicationWorker.Event R)) :
    calls (events.map Event.worker) = events := by
  induction events with
  | nil => rfl
  | cons event events ih => exact congrArg (event :: ·) ih

omit [Double R] in
theorem calls_append (log events : List (Event R)) :
    calls (log ++ events) = calls log ++ calls events := List.filterMap_append

/-- The control thread leaves the PLC alone. -/
theorem calls_advance (system : AsyncSystem R) (dt : R) (lucky : Bool) :
    calls (system.advance dt lucky).2 = [] := by
  cases point : system.control with
  | idle =>
    simp only [advance, point]
    split_ifs <;> rfl
  | stepLoop dt' snapshot =>
    simp only [advance, point]
    cases system.supervisor.acceptedSnapshot snapshot <;> rfl
  | readCommand | lockStatus | publishStatus =>
    simp only [advance, point]
    rfl

/-- It leaves the connection and the thread of the worker alone too. -/
theorem session_advance {system : AsyncSystem R} {log : List (PlcCommunicationWorker.Event R)}
    (dt : R) (lucky : Bool) (session : Session system.worker log) :
    Session (system.advance dt lucky).1.worker log := by
  cases point : system.control with
  | idle =>
    simp only [advance, point]
    split_ifs
    · exact ⟨session.flag, session.proper, session.counted, session.stands, session.idle⟩
    · exact session
  | stepLoop dt' snapshot =>
    simp only [advance, point]
    exact session
  | readCommand | lockStatus | publishStatus =>
    simp only [advance, point]
    exact ⟨session.flag, session.proper, session.counted, session.stands, session.idle⟩

theorem session_act {system : AsyncSystem R} {log : List (Event R)} (action : Action R)
    (session : Session system.worker (calls log)) :
    Session (system.act action).1.worker (calls (log ++ (system.act action).2)) := by
  rw [calls_append]
  cases action with
  | start | requestStop | join =>
    simp only [act, calls, List.filterMap_nil, List.append_nil]
    first
      | exact PlcCommunicationWorker.session_start session
      | exact PlcCommunicationWorker.session_requestStop session
      | exact PlcCommunicationWorker.session_join session
  | work answers =>
    simp only [act, calls_worker]
    exact PlcCommunicationWorker.session_work answers session
  | control dt lucky =>
    simp only [act, calls_advance, List.append_nil]
    exact session_advance dt lucky session

theorem session_observe (configuration : PlcCommunicationWorker.Configuration)
    (supervisor : AsyncPlcSupervisor R) (actions : List (Action R)) :
    Session ((fresh configuration supervisor).observe actions).1.worker
      (calls ((fresh configuration supervisor).observe actions).2) := by
  induction actions using List.reverseRecOn with
  | nil => exact ⟨rfl, throughout_nil _, rfl, nofun, fun _ => rfl⟩
  | append_singleton actions action ih =>
    rw [observe, run_snoc]
    exact session_act action ih

/-- For every order of the steps and everything the PLC may answer: only a connected PLC is
read or written, and only one that is not is connected; `connected()` says whether the last of
these calls left it so, and `statistics()` is the account of them. Once `stop()` has
returned, the PLC is disconnected. -/
theorem worker_session (configuration : PlcCommunicationWorker.Configuration)
    (supervisor : AsyncPlcSupervisor R) (actions : List (Action R)) :
    let outcome := (fresh configuration supervisor).observe actions
    Throughout Proper (calls outcome.2) ∧
      outcome.1.worker.connected = linked (calls outcome.2) ∧
      outcome.1.worker.statistics = account (calls outcome.2) ∧
      (outcome.1.worker.thread = none → linked (calls outcome.2) = false) := by
  have session := session_observe configuration supervisor actions
  refine ⟨session.proper, session.flag, session.counted, ?_⟩
  intro stopped
  exact session.flag ▸ session.idle stopped

end AsyncSystem

/-! `stop` waits for a thread that has been asked to stop. -/

/-- How many steps a thread asked to stop takes from here at most. -/
def PlcCommunicationWorker.Point.remaining {R : Type} : PlcCommunicationWorker.Point R → ℕ
  | .connect => 10
  | .readCommand => 9
  | .lockCommand _ => 8
  | .publishCommand _ => 7
  | .lockStatus => 6
  | .readStatus => 5
  | .writeStatus _ => 4
  | .sleepCycle | .sleepReconnect => 3
  | .head => 2
  | .disconnect => 1
  | .finished => 0

namespace PlcCommunicationWorker

variable {R : Type}

/-- The thread, if there is one, has been asked to stop and is this close to its end. -/
def Stopping (steps : ℕ) (worker : PlcCommunicationWorker R) : Prop :=
  ∀ thread, worker.thread = some thread →
    thread.stopRequested = true ∧ thread.point.remaining ≤ steps

theorem run_stopping (worker : PlcCommunicationWorker R) (thread : Thread R) (answers : Answers R)
    (running : worker.thread = some thread) (stop : thread.stopRequested = true) :
    (worker.run thread answers).1.Stopping (thread.point.remaining - 1) := by
  intro later continues
  cases point : thread.point with
  | head =>
    simp only [run, point, stop, if_true, moveTo, Option.some.injEq] at continues
    subst continues
    exact ⟨rfl, Nat.le_refl _⟩
  | connect =>
    simp only [run, point] at continues
    split_ifs at continues <;> cases continues <;> exact ⟨stop, by simp [Point.remaining]⟩
  | readCommand =>
    simp only [run, point] at continues
    cases reply : answers.reply with
    | none =>
      rw [reply] at continues
      cases continues
      exact ⟨stop, by simp [Point.remaining]⟩
    | some command =>
      rw [reply] at continues
      cases continues
      exact ⟨stop, by simp [Point.remaining]⟩
  | lockCommand | lockStatus =>
    simp only [run, point, moveTo, Option.some.injEq] at continues
    subst continues
    refine ⟨stop, ?_⟩
    simp only
    split_ifs <;> simp [Point.remaining]
  | readStatus =>
    simp only [run, point] at continues
    cases found : worker.statusMailbox.read with
    | none =>
      rw [found] at continues
      cases continues
      exact ⟨stop, by simp [Point.remaining]⟩
    | some status =>
      simp only [found, moveTo, Option.some.injEq] at continues
      subst continues
      refine ⟨stop, ?_⟩
      simp only
      split_ifs <;> simp [Point.remaining]
  | writeStatus =>
    simp only [run, point] at continues
    split_ifs at continues <;> cases continues <;> exact ⟨stop, by simp [Point.remaining]⟩
  | finished =>
    simp only [run, point, running, Option.some.injEq] at continues
    subst continues
    exact ⟨stop, by simp [point, Point.remaining]⟩
  | publishCommand | sleepReconnect | sleepCycle | disconnect =>
    simp only [run, point, moveTo, Option.some.injEq] at continues
    subst continues
    exact ⟨stop, by simp [Point.remaining]⟩

theorem work_stopping {steps : ℕ} {worker : PlcCommunicationWorker R} (answers : Answers R)
    (stopping : worker.Stopping steps) : (worker.work answers).1.Stopping (steps - 1) := by
  cases running : worker.thread with
  | none =>
    simp only [work, running]
    intro thread runs
    rw [running] at runs
    cases runs
  | some thread =>
    obtain ⟨stop, close⟩ := stopping thread running
    simp only [work, running]
    intro later continues
    have next := worker.run_stopping thread answers running stop later continues
    exact ⟨next.1, by omega⟩

theorem requestStop_stopping (worker : PlcCommunicationWorker R) : worker.requestStop.Stopping 10 := by
  intro thread running
  obtain ⟨before, _, rfl⟩ := Option.map_eq_some_iff.mp running
  refine ⟨rfl, ?_⟩
  cases before.point <;> simp [Point.remaining]

theorem join_stopping {steps : ℕ} {worker : PlcCommunicationWorker R}
    (stopping : worker.Stopping steps) : worker.join.Stopping steps := by
  rcases worker.join_cases with same | ⟨joined, _⟩
  · rwa [same]
  · rw [joined]
    intro thread running
    cases running

/-- A thread at its end is joined. -/
theorem join_ended {worker : PlcCommunicationWorker R} (ended : worker.Stopping 0) :
    worker.join.thread = none := by
  cases running : worker.thread with
  | none => simp only [join, running]
  | some thread =>
    have last := (ended thread running).2
    cases point : thread.point with
    | finished => simp [join, running, point]
    | _ => simp [point, Point.remaining] at last

end PlcCommunicationWorker

namespace AsyncSystem

variable {R : Type} [Double R]

/-- A step of the communication thread. -/
def Action.isWork : Action R → Bool
  | .work _ => true
  | _ => false

theorem act_stopping {steps : ℕ} {system : AsyncSystem R} (action : Action R)
    (unstarted : action ≠ .start) (stopping : system.worker.Stopping steps) :
    (system.act action).1.worker.Stopping (steps - [action].countP Action.isWork) := by
  cases action with
  | start => exact absurd rfl unstarted
  | requestStop =>
    intro thread running
    obtain ⟨before, ran, rfl⟩ := Option.map_eq_some_iff.mp running
    exact ⟨rfl, (stopping before ran).2⟩
  | join => exact PlcCommunicationWorker.join_stopping stopping
  | work answers => exact PlcCommunicationWorker.work_stopping answers stopping
  | control dt lucky =>
    have same : (system.advance dt lucky).1.worker.thread = system.worker.thread := by
      cases point : system.control with
      | idle =>
        simp only [advance, point]
        split_ifs <;> rfl
      | readCommand | stepLoop | lockStatus | publishStatus => simp only [advance, point]
    intro thread running
    exact stopping thread (same.symm.trans running)

theorem observe_stopping (actions : List (Action R)) (steps : ℕ)
    (state : AsyncSystem R × List (Event R)) (unstarted : ∀ action ∈ actions, action ≠ .start)
    (stopping : state.1.worker.Stopping steps) :
    (run (logged act) state actions).1.worker.Stopping (steps - actions.countP Action.isWork) := by
  induction actions generalizing state steps with
  | nil => exact stopping
  | cons action actions ih =>
    have first := act_stopping action (unstarted action (List.mem_cons_self ..)) stopping
    have later := ih _ (logged act state action)
      (fun other member => unstarted other (List.mem_cons_of_mem _ member)) first
    rw [run_cons]
    rwa [Nat.sub_sub, ← List.countP_append, List.singleton_append] at later

/-- `stop()` returns. At most ten steps of the thread after the request it can be joined,
whatever the PLC answers and whatever the control thread does in between, and then the PLC
is disconnected. -/
theorem stop_returns (configuration : PlcCommunicationWorker.Configuration)
    (supervisor : AsyncPlcSupervisor R) (before later : List (Action R))
    (unstarted : ∀ action ∈ later, action ≠ .start)
    (enough : 10 ≤ later.countP Action.isWork) :
    let outcome := (fresh configuration supervisor).observe
      (before ++ .requestStop :: (later ++ [.join]))
    outcome.1.worker.thread = none ∧
      PlcCommunicationWorker.linked (calls outcome.2) = false := by
  intro outcome
  have session := session_observe configuration supervisor
    (before ++ .requestStop :: (later ++ [.join]))
  have joined : outcome.1.worker.thread = none := by
    have requested : ((logged act) ((fresh configuration supervisor).observe before)
        .requestStop).1.worker.Stopping 10 :=
      PlcCommunicationWorker.requestStop_stopping _
    have ended := observe_stopping later 10 _ unstarted requested
    rw [Nat.sub_eq_zero_of_le enough] at ended
    have split : outcome = logged act (run (logged act) (logged act
        ((fresh configuration supervisor).observe before) .requestStop) later) .join := by
      change run _ _ _ = _
      rw [run_append, run_cons, run_snoc]
      rfl
    rw [split]
    exact PlcCommunicationWorker.join_ended ended
  exact ⟨joined, session.flag ▸ session.idle joined⟩

/-- The PLC refuses every connection, and the thread is stopped after its first attempt. -/
theorem stop_returns_refused :
    let refused : Action (Exact ℚ) := .work ⟨false, none, true, false⟩
    (((fresh .initial AsyncPlcSupervisor.demo).observe [.start, refused, refused]).1.worker.thread.map
        (·.point) = some .sleepReconnect) ∧
      ((fresh .initial AsyncPlcSupervisor.demo).observe ([.start, refused, refused] ++ .requestStop ::
        (List.replicate 10 refused ++ [.join]))).1.worker.thread = none := by
  intro refused
  have stopped := stop_returns .initial AsyncPlcSupervisor.demo [.start, refused, refused]
    (List.replicate 10 refused) (by decide +kernel) (by decide +kernel)
  exact ⟨by decide +kernel, stopped.1⟩

end AsyncSystem

end MotionBridge
