import MotionBridge.Communication.PlcCommunicationWorker
import MotionBridge.Foundation.Exact
import MotionBridge.Foundation.History
import MotionBridge.Foundation.Run

/-! How the worker spaces its attempts to connect. A refused connection is followed by a
sleep, a connection given up after a failed read or write is not. -/
namespace MotionBridge

open Foundation

namespace PlcCommunicationWorker

variable {R : Type}

/-- What can happen next to a running thread. An exchange is whatever the control thread
did with the two mailboxes. -/
inductive Turn (R : Type) where
  | work (answers : Answers R)
  | requestStop
  | exchange (commandMailbox : LatestValueMailbox (PlcCommandData R))
      (statusMailbox : LatestValueMailbox (PlcStatusData R))
  deriving DecidableEq, Repr

def turn (worker : PlcCommunicationWorker R) :
    Turn R → PlcCommunicationWorker R × List (Event R)
  | .work answers => worker.work answers
  | .requestStop => (worker.requestStop, [])
  | .exchange commandMailbox statusMailbox =>
    ({ worker with commandMailbox := commandMailbox, statusMailbox := statusMailbox }, [])

@[simp] def Event.IsConnect (event : Event R) : Prop := ∃ accepted, event = .connect accepted

@[simp] def Event.IsSleep (event : Event R) : Prop := event = .sleep

instance : DecidablePred (Event.IsConnect (R := R))
  | .connect accepted => .isTrue ⟨accepted, rfl⟩
  | .disconnect | .sleep | .read _ | .publish _ | .write _ _ => .isFalse (by simp)

def Event.sleeps : Event R → Bool
  | .sleep => true
  | _ => false

theorem Event.sleeps_iff (event : Event R) : event.sleeps = true ↔ event.IsSleep := by
  cases event <;> simp [sleeps]

instance : DecidablePred (Event.IsSleep (R := R)) := fun event => decidable_of_iff _ event.sleeps_iff

/-- Between any two calls of `connect` there is a sleep. -/
def Paced (log : List (Event R)) : Prop := Spaced Event.IsConnect Event.IsSleep log

/-- There was no sleep since the last `connect`. -/
def Unrested (log : List (Event R)) : Prop := Pending Event.IsConnect Event.IsSleep log

/-- The call of the PLC in this step fails, and the connection is given up. -/
def Fails (worker : PlcCommunicationWorker R) (answers : Answers R) : Prop :=
  (worker.point = some .readCommand ∧ answers.reply = none) ∨
    ∃ status, worker.point = some (.writeStatus status) ∧ answers.writes = false

instance (worker : PlcCommunicationWorker R) (answers : Answers R) :
    Decidable (worker.Fails answers) :=
  match at_point : worker.point with
  | some .readCommand => decidable_of_iff (answers.reply = none) (by simp [Fails, at_point])
  | some (.writeStatus _) => decidable_of_iff (answers.writes = false) (by simp [Fails, at_point])
  | some .head | some .connect | some .sleepReconnect | some (.lockCommand _)
  | some (.publishCommand _) | some .lockStatus | some .readStatus | some .sleepCycle
  | some .disconnect | some .finished | none => .isFalse (by simp [Fails, at_point])

/-- A failing read or write comes after a sleep. -/
def Rested (state : PlcCommunicationWorker R × List (Event R)) : Turn R → Prop
  | .work answers => state.1.Fails answers → ¬Unrested state.2
  | _ => True

instance (state : PlcCommunicationWorker R × List (Event R)) :
    (input : Turn R) → Decidable (Rested state input)
  | .work _ => inferInstanceAs (Decidable (_ → ¬Pending _ _ _))
  | .requestStop | .exchange _ _ => .isTrue trivial

/-- Past an attempt to connect, on the way to a sleep. -/
def Point.Busy : Point R → Prop
  | .head | .connect | .disconnect | .finished => False
  | _ => True

def Busy (worker : PlcCommunicationWorker R) : Prop :=
  ∃ point, worker.point = some point ∧ point.Busy

@[simp] theorem busy_moveTo (worker : PlcCommunicationWorker R) (thread : Thread R)
    (point : Point R) : (worker.moveTo thread point).Busy ↔ point.Busy := by
  simp [Busy]

/-- What a step of the thread means for its pace. -/
inductive Pace (worker : PlcCommunicationWorker R) (answers : Answers R)
    (next : PlcCommunicationWorker R) : List (Event R) → Prop
  | connected (accepted : Bool) : ¬worker.Busy → next.Busy →
      Pace worker answers next [.connect accepted]
  | slept : Pace worker answers next [.sleep]
  | failed {events : List (Event R)} : worker.Fails answers →
      (∀ event ∈ events, ¬event.IsConnect ∧ ¬event.IsSleep) → Pace worker answers next events
  | worked {events : List (Event R)} : (worker.Busy → next.Busy) →
      (∀ event ∈ events, ¬event.IsConnect ∧ ¬event.IsSleep) → Pace worker answers next events

theorem work_pace (worker : PlcCommunicationWorker R) (answers : Answers R) :
    Pace worker answers (worker.work answers).1 (worker.work answers).2 := by
  cases running : worker.thread with
  | none =>
    have idle : worker.work answers = (worker, []) := by simp only [work, running]
    rw [idle]
    exact .worked id (by simp)
  | some thread =>
    have step : worker.work answers = worker.run thread answers := by simp only [work, running]
    have here : worker.point = some thread.point := by simp [point, running]
    rw [step]
    cases at_point : thread.point with
    | head | disconnect =>
      -- outside the cycle nothing has to be shown
      have idle : ¬worker.Busy := by simp [Busy, here, at_point, Point.Busy]
      simp only [run, at_point]
      exact .worked (fun busy => absurd busy idle) (by simp)
    | finished =>
      simp only [run, at_point]
      exact .worked id (by simp)
    | connect =>
      have idle : ¬worker.Busy := by simp [Busy, here, at_point, Point.Busy]
      simp only [run, at_point]
      split_ifs
      · exact .connected true idle (by simp [Point.Busy])
      · exact .connected false idle (by simp [Point.Busy])
    | sleepReconnect | sleepCycle =>
      simp only [run, at_point]
      exact .slept
    | readCommand =>
      cases reply : answers.reply with
      | none =>
        simp only [run, at_point, reply]
        exact .failed (.inl ⟨here.trans (congrArg some at_point), reply⟩)
          (by simp)
      | some command =>
        simp only [run, at_point, reply]
        exact .worked (fun _ => by simp [Point.Busy]) (by simp)
    | lockCommand command | lockStatus =>
      simp only [run, at_point]
      exact .worked (fun _ => by simp only [busy_moveTo]; split_ifs <;> trivial) (by simp)
    | publishCommand command =>
      simp only [run, at_point]
      exact .worked (fun _ => by simp [Point.Busy]) (by simp)
    | readStatus =>
      cases status : worker.statusMailbox.read with
      | none =>
        simp only [run, at_point, status]
        exact .worked (fun _ => by simp [Point.Busy]) (by simp)
      | some snapshot =>
        simp only [run, at_point, status]
        exact .worked (fun _ => by simp only [busy_moveTo]; split_ifs <;> trivial) (by simp)
    | writeStatus status =>
      simp only [run, at_point]
      split_ifs with accepted
      · exact .worked (fun _ => by simp [Point.Busy]) (by simp)
      · exact .failed (.inr ⟨status, here.trans (congrArg some at_point), by simpa using accepted⟩)
          (by simp)

/-- What holds between two steps of a paced run. -/
def Steady (state : PlcCommunicationWorker R × List (Event R)) : Prop :=
  Paced state.2 ∧ (Unrested state.2 → state.1.Busy)

theorem turn_steady (state : PlcCommunicationWorker R × List (Event R)) (input : Turn R)
    (rested : Rested state input) (steady : Steady state) : Steady (logged turn state input) := by
  obtain ⟨worker, log⟩ := state
  obtain ⟨paced, busy⟩ := steady
  cases input with
  | requestStop =>
    have same : worker.requestStop.point = worker.point := by
      simp [point, requestStop, Function.comp_def]
    simpa [logged, turn, Steady, Busy, same] using And.intro paced busy
  | exchange commandMailbox statusMailbox =>
    simpa [logged, turn, Steady, Busy, point] using And.intro paced busy
  | work answers =>
    have pace := worker.work_pace answers
    simp only [logged, turn, Steady]
    generalize (worker.work answers).1 = next at pace ⊢
    generalize (worker.work answers).2 = events at pace ⊢
    cases pace with
    | connected accepted idle nextBusy =>
      refine ⟨(spaced_snoc _ _ _ _).mpr ⟨paced, fun _ pending => idle (busy pending)⟩, ?_⟩
      exact fun _ => nextBusy
    | slept =>
      refine ⟨(spaced_snoc _ _ _ _).mpr ⟨paced, fun isConnect => ?_⟩, fun unrested => ?_⟩
      · obtain ⟨accepted, same⟩ := isConnect
        cases same
      · rcases (pending_snoc _ _ _ _).mp unrested with ⟨accepted, same⟩ | ⟨_, awake⟩
        · cases same
        · exact absurd rfl awake
    | failed fails quiet =>
      have unchanged := spaced_append log events quiet
      exact ⟨unchanged.2.mpr paced, fun unrested => absurd (unchanged.1.mp unrested) (rested fails)⟩
    | worked keeps quiet =>
      have unchanged := spaced_append log events quiet
      exact ⟨unchanged.2.mpr paced, fun unrested => keeps (busy (unchanged.1.mp unrested))⟩

/-- The stop token of the running thread. -/
def StopRequested (worker : PlcCommunicationWorker R) : Prop :=
  ∃ thread, worker.thread = some thread ∧ thread.stopRequested = true

theorem work_fails (worker : PlcCommunicationWorker R) (answers : Answers R)
    (fails : worker.Fails answers) : ∃ thread event, worker.thread = some thread ∧
      worker.work answers = (worker.fail thread, [event, .disconnect]) ∧
      ¬event.IsConnect ∧ ¬event.IsSleep := by
  rcases fails with ⟨at_read, silent⟩ | ⟨status, at_write, refused⟩
  · obtain ⟨thread, running, at_point⟩ := Option.map_eq_some_iff.mp at_read
    exact ⟨thread, .read none, running, by simp [work, run, running, at_point, silent],
      by simp, by simp⟩
  · obtain ⟨thread, running, at_point⟩ := Option.map_eq_some_iff.mp at_write
    exact ⟨thread, .write status false, running, by simp [work, run, running, at_point, refused],
      by simp, by simp⟩

/-- A connection that was given up is opened again in the next two steps. -/
theorem fails_reconnect (worker : PlcCommunicationWorker R) (answers first second : Answers R)
    (fails : worker.Fails answers) (unstopped : ¬worker.StopRequested) (log : List (Event R)) :
    ∃ event accepted, ¬Event.IsConnect event ∧ ¬Event.IsSleep event ∧
      (Foundation.run (logged turn) (worker, log)
        [.work answers, .work first, .work second]).2 =
          log ++ [event, .disconnect] ++ [.connect accepted] := by
  obtain ⟨thread, event, running, failed, unconnected, awake⟩ := worker.work_fails answers fails
  have goesOn : thread.stopRequested = false := by
    by_contra stopped
    exact unstopped ⟨thread, running, by simpa using stopped⟩
  -- not connected any more, the head of the loop leads straight to `connect`
  have head : (worker.fail thread).work first =
      ((worker.fail thread).moveTo { thread with point := .head } .connect, []) := by
    simp [work, run, fail, goesOn]
  have connect : ∃ accepted, (((worker.fail thread).moveTo { thread with point := .head }
      .connect).work second).2 = [.connect accepted] := by
    cases accepted : second.connects with
    | true => exact ⟨true, by simp [work, run, moveTo, accepted]⟩
    | false => exact ⟨false, by simp [work, run, moveTo, accepted]⟩
  obtain ⟨accepted, connect⟩ := connect
  refine ⟨event, accepted, unconnected, awake, ?_⟩
  simp [logged, turn, failed, head, connect]

/-- As long as no read or write fails before the first sleep after a `connect`, there is a
sleep between any two of them. A read or write that does fail so early lets the two next
steps connect without a sleep, unless a stop was requested. -/
theorem paced_when_rested (worker : PlcCommunicationWorker R) (turns : List (Turn R)) :
    (Along (logged turn) Rested (worker.start, []) turns →
      Paced (Foundation.run (logged turn) (worker.start, []) turns).2) ∧
    ∀ answers first second,
      let state := Foundation.run (logged turn) (worker.start, []) turns
      ¬Rested state (.work answers) → ¬state.1.StopRequested →
        ¬Paced (Foundation.run (logged turn) state
          [.work answers, .work first, .work second]).2 := by
  constructor
  · intro rested
    have steady : Steady (worker.start, ([] : List (Event R))) :=
      ⟨(spaced_iff _ _ _).mpr (throughout_nil _), fun pending => absurd pending (pending_nil _ _)⟩
    exact (run_invariant (logged turn) Rested Steady turn_steady _ turns rested steady).1
  · intro answers first second state unrested unstopped paced
    obtain ⟨worker, log⟩ := state
    simp only [Rested, Classical.not_imp, not_not] at unrested
    obtain ⟨fails, unrested⟩ := unrested
    obtain ⟨event, accepted, unconnected, awake, trace⟩ :=
      worker.fails_reconnect answers first second fails unstopped log
    rw [trace] at paced
    -- the events of the failure leave the pause open
    have quiet : ∀ other ∈ [event, Event.disconnect], ¬other.IsConnect ∧ ¬other.IsSleep := by
      intro other member
      rcases List.mem_pair.mp member with rfl | rfl
      · exact ⟨unconnected, awake⟩
      · simp
    have pending := (spaced_append log _ quiet).1.mpr unrested
    exact ((spaced_snoc _ _ _ _).mp paced).2 ⟨accepted, rfl⟩ pending

/-- The PLC accepts every connection and answers nothing. -/
def mute : Turn (Exact ℚ) := .work ⟨true, none, true, true⟩

/-- The PLC answers as well. -/
def answering : Turn (Exact ℚ) := .work ⟨true, some .initial, true, true⟩

/-- The PLC cannot be reached. -/
def refusing : Turn (Exact ℚ) := .work ⟨false, none, true, true⟩

/-- A worker with the default periods. -/
def demo : PlcCommunicationWorker (Exact ℚ) :=
  ⟨.initial, .initial, .initial, none, false, ⟨0, 0, 0⟩⟩

/-- A refused connection, a second one with a full cycle, and a third one after the PLC
has fallen silent in the next cycle. -/
def interrupted : List (Turn (Exact ℚ)) :=
  List.replicate 3 refusing ++ List.replicate 8 answering ++ List.replicate 4 mute

theorem paced_when_rested_interrupted :
    let log := (Foundation.run (logged turn) (demo.start, []) interrupted).2
    log.filter (fun event => decide event.IsConnect) =
        [.connect false, .connect true, .connect true] ∧ Paced log :=
  ⟨by decide +kernel, (paced_when_rested demo interrupted).1 (by decide +kernel)⟩

/-- A PLC that accepts connections and answers nothing is connected to without a pause. -/
theorem connects_without_sleep :
    ¬∀ turns : List (Turn (Exact ℚ)),
      Paced (Foundation.run (logged turn) (demo.start, []) turns).2 := by
  intro paced
  obtain ⟨event, member, sleeps⟩ := paced (List.replicate 5 mute) [] (.connect true)
    [.read none, .disconnect] (.connect true) [] (by decide +kernel) ⟨true, rfl⟩ ⟨true, rfl⟩
  rw [sleeps] at member
  simp at member

end PlcCommunicationWorker

end MotionBridge
