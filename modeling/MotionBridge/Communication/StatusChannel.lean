import MotionBridge.Communication.PlcCommunicationWorker
import MotionBridge.Foundation.Relay
import MotionBridge.Foundation.Run

/-!
# The way of a status

The communication thread, its owner and any callers of `try_publish_status` take steps
in any order. For the statuses the thread is a relay: it looks into the mailbox and
writes what it finds there.
-/
namespace MotionBridge

open Foundation

def Snapshot.stamp {Value : Type} (snapshot : Snapshot Value) : ℕ := snapshot.sequence.toNat

/-- `publishing` is the status of the caller who is inside the status mailbox. -/
structure StatusChannel (R : Type) where
  worker : PlcCommunicationWorker R
  publishing : Option (PlcStatusData R)
  deriving DecidableEq, Repr

namespace StatusChannel

variable {R : Type}

abbrev Event (R : Type) := RelayEvent (Snapshot (PlcStatusData R))

/-- `tryPublish` is the lock attempt of a caller, `publish` the body that follows it. -/
inductive Action (R : Type) where
  | start
  | requestStop
  | join
  | work (answers : PlcCommunicationWorker.Answers R)
  | tryPublish (status : PlcStatusData R) (lucky : Bool)
  | publish
  deriving DecidableEq, Repr

def create (worker : PlcCommunicationWorker R) : StatusChannel R := ⟨worker, none⟩

/-- What the next step of the thread gets to see in the status mailbox. -/
def looks (worker : PlcCommunicationWorker R) : List (Event R) :=
  match worker.point with
  | some .readStatus => [.look worker.statusMailbox.read]
  | _ => []

def writes (events : List (PlcCommunicationWorker.Event R)) : List (Event R) :=
  events.filterMap fun
    | .write status accepted => some (.forward status accepted)
    | _ => none

def act (channel : StatusChannel R) : Action R → StatusChannel R × List (Event R)
  | .start =>
    ({ channel with worker := channel.worker.start },
      if channel.worker.thread.isNone then [.begin] else [])
  | .requestStop => ({ channel with worker := channel.worker.requestStop }, [])
  | .join => ({ channel with worker := channel.worker.join }, [])
  | .work answers =>
    let (worker, events) := channel.worker.work answers
    ({ channel with worker := worker }, looks channel.worker ++ writes events)
  | .tryPublish status lucky =>
    let (mailbox, owns) := channel.worker.statusMailbox.tryLock lucky
    ({ worker := { channel.worker with statusMailbox := mailbox }
       publishing := if owns then some status else channel.publishing }, [])
  | .publish =>
    match channel.publishing with
    | some status =>
      ({ worker := { channel.worker with
          statusMailbox := channel.worker.statusMailbox.publish status }
         publishing := none },
        [.publish ⟨status, channel.worker.statusMailbox.sequence + 1⟩])
    | none => (channel, [])

/-- The channel after a run, and everything that happened to a status in it. -/
def observe (channel : StatusChannel R) (actions : List (Action R)) :
    StatusChannel R × List (Event R) :=
  run (logged act) (channel, []) actions

/-- The status mailbox as a reader sees it. -/
structure SameMailbox (worker next : PlcCommunicationWorker R) : Prop where
  read : next.statusMailbox.read = worker.statusMailbox.read
  sequence : next.statusMailbox.sequence = worker.statusMailbox.sequence

/-- What a step of a running thread does to the statuses. -/
inductive Effect (worker : PlcCommunicationWorker R)
    (thread later : PlcCommunicationWorker.Thread R) : List (Event R) → Prop
  | silent : thread.point.status = none → later.point.status = none →
      later.lastStatusSequence = thread.lastStatusSequence → Effect worker thread later []
  | look : thread.point.status = none →
      later.point.status = worker.statusMailbox.read.filter
        (fun status => status.sequence ≠ thread.lastStatusSequence) →
      later.lastStatusSequence = thread.lastStatusSequence →
      Effect worker thread later [.look worker.statusMailbox.read]
  | write (status : Snapshot (PlcStatusData R)) (accepted : Bool) :
      thread.point.status = some status → later.point.status = none →
      later.lastStatusSequence = (if accepted then status.sequence else thread.lastStatusSequence) →
      Effect worker thread later [.forward status accepted]

theorem run_effect (worker : PlcCommunicationWorker R) (thread : PlcCommunicationWorker.Thread R)
    (running : worker.thread = some thread) (answers : PlcCommunicationWorker.Answers R) :
    ∃ later, (worker.run thread answers).1.thread = some later ∧
      SameMailbox worker (worker.run thread answers).1 ∧
      Effect worker thread later (looks worker ++ writes (worker.run thread answers).2) := by
  have here : worker.point = some thread.point := by
    simp only [PlcCommunicationWorker.point, running, Option.map_some]
  have status : ∀ point, thread.point = point → thread.point.status = point.status :=
    fun _ same => congrArg _ same
  cases point : thread.point with
  | head =>
    rw [point] at here
    simp only [looks, here, PlcCommunicationWorker.run, point]
    refine ⟨_, rfl, ⟨rfl, rfl⟩, .silent (status _ point) ?_ rfl⟩
    change PlcCommunicationWorker.Point.status (ite _ _ _) = none
    split_ifs <;> rfl
  | connect =>
    rw [point] at here
    simp only [looks, here, PlcCommunicationWorker.run, point]
    split_ifs
    · exact ⟨_, rfl, ⟨rfl, rfl⟩, .silent (status _ point) rfl rfl⟩
    · exact ⟨_, rfl, ⟨rfl, rfl⟩, .silent (status _ point) rfl rfl⟩
  | sleepReconnect | sleepCycle | disconnect =>
    rw [point] at here
    simp only [looks, here, PlcCommunicationWorker.run, point]
    exact ⟨_, rfl, ⟨rfl, rfl⟩, .silent (status _ point) rfl rfl⟩
  | readCommand =>
    rw [point] at here
    simp only [looks, here, PlcCommunicationWorker.run, point]
    cases answers.reply with
    | none => exact ⟨_, rfl, ⟨rfl, rfl⟩, .silent (status _ point) rfl rfl⟩
    | some command => exact ⟨_, rfl, ⟨rfl, rfl⟩, .silent (status _ point) rfl rfl⟩
  | lockCommand command =>
    rw [point] at here
    simp only [looks, here, PlcCommunicationWorker.run, point]
    refine ⟨_, rfl, ⟨rfl, rfl⟩, .silent (status _ point) ?_ rfl⟩
    change PlcCommunicationWorker.Point.status (ite _ _ _) = none
    split_ifs <;> rfl
  | publishCommand command =>
    rw [point] at here
    simp only [looks, here, PlcCommunicationWorker.run, point]
    exact ⟨_, rfl, ⟨rfl, rfl⟩, .silent (status _ point) rfl rfl⟩
  | lockStatus =>
    rw [point] at here
    simp only [looks, here, PlcCommunicationWorker.run, point]
    refine ⟨_, rfl, ⟨?_, ?_⟩, .silent (status _ point) ?_ rfl⟩
    · exact LatestValueMailbox.tryLock_read worker.statusMailbox answers.lucky
    · exact LatestValueMailbox.tryLock_sequence worker.statusMailbox answers.lucky
    · change PlcCommunicationWorker.Point.status (ite _ _ _) = none
      split_ifs <;> rfl
  | readStatus =>
    rw [point] at here
    have look : looks worker = [.look worker.statusMailbox.read] := by
      simp only [looks, here]
    rw [look]
    simp only [PlcCommunicationWorker.run, point]
    cases shown : worker.statusMailbox.read with
    | none =>
      refine ⟨_, rfl, ⟨rfl, rfl⟩, ?_⟩
      change Effect worker thread _ [.look none]
      rw [← shown]
      refine .look (status _ point) ?_ rfl
      rw [shown]
      rfl
    | some snapshot =>
      refine ⟨_, rfl, ⟨rfl, rfl⟩, ?_⟩
      change Effect worker thread _ [.look (some snapshot)]
      rw [← shown]
      refine .look (status _ point) ?_ rfl
      rw [shown, Option.filter_some]
      -- the status that was written last is left alone
      by_cases fresh : snapshot.sequence ≠ thread.lastStatusSequence
      · simp [fresh, PlcCommunicationWorker.Point.status]
      · simp [fresh, PlcCommunicationWorker.Point.status]
  | writeStatus snapshot =>
    rw [point] at here
    simp only [looks, here, PlcCommunicationWorker.run, point]
    split_ifs with accepted
    · exact ⟨_, rfl, ⟨rfl, rfl⟩, .write snapshot true (status _ point) rfl rfl⟩
    · exact ⟨_, rfl, ⟨rfl, rfl⟩, .write snapshot false (status _ point) rfl rfl⟩
  | finished =>
    rw [point] at here
    simp only [looks, here, PlcCommunicationWorker.run, point]
    exact ⟨_, running, ⟨rfl, rfl⟩, .silent (status _ point) (status _ point) rfl⟩

end StatusChannel

end MotionBridge
