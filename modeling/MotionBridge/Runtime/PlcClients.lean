import MotionBridge.Communication.AsyncSystem
import MotionBridge.Interfaces.PlcInterface
import MotionBridge.Runtime.PlcSupervisor

/-!
# The users of the PLC interface

`PlcSupervisor` and `PlcCommunicationWorker` hold a reference to an `IPlcInterface`. Here
they make its calls themselves; what the PLC answers is no longer an input.
-/
namespace MotionBridge

open Foundation

variable {R : Type}

section Synchronous

variable [Double R]

/-- One `update`, which polls the PLC before the step of the loop and tells it the status
after the step. The result of `write_status` is not looked at. -/
def PlcSupervisor.exchange (supervisor : PlcSupervisor R) (dtSeconds : R) :
    IPlcInterface.Caller R (PlcSupervisor R × List (Update R)) :=
  if supervisor.pollElapsedSeconds + dtSeconds ≥ supervisor.configuration.pollPeriodSeconds then
    .call .readCommand fun reply =>
      let (supervisor, update) := supervisor.update dtSeconds reply
      match update.published with
      | some status => .call (.writeStatus status) fun _ => .done (supervisor, [update])
      | none => .done (supervisor, [update])
  else
    let (supervisor, update) := supervisor.update dtSeconds none
    .done (supervisor, [update])

/-- In front of any PLC an update is one with some reply. -/
theorem PlcSupervisor.exchange_update {P : Type} (answer : IPlcInterface R P)
    (supervisor : PlcSupervisor R) (dt : R) (object : P) :
    ∃ reply, ((supervisor.exchange dt).serve answer object).2 =
      supervisor.next ⟨dt, reply⟩ := by
  by_cases polls :
      supervisor.pollElapsedSeconds + dt ≥ supervisor.configuration.pollPeriodSeconds
  · refine ⟨(answer object .readCommand).2, ?_⟩
    simp only [exchange, if_pos polls, Client.serve_call, next]
    cases (supervisor.update dt (answer object .readCommand).2).2.published with
    | some status => rfl
    | none => rfl
  · refine ⟨none, ?_⟩
    rw [exchange, if_neg polls, next]
    rfl

/-- What the owner of a supervisor and its PLC does. -/
inductive PlcSupervisor.Task (R : Type) where
  | connect
  | disconnect
  | update (dtSeconds : R)
  deriving DecidableEq, Repr

def PlcSupervisor.perform (supervisor : PlcSupervisor R) :
    Task R → IPlcInterface.Caller R (PlcSupervisor R × List (Update R))
  | .connect => .call .connect fun _ => .done (supervisor, [])
  | .disconnect => .call .disconnect fun _ => .done (supervisor, [])
  | .update dtSeconds => supervisor.exchange dtSeconds

end Synchronous

namespace PlcCommunicationWorker

/-- One step of `run`. After a failed read or write the PLC is disconnected. -/
def runExchange (worker : PlcCommunicationWorker R) (thread : Thread R) (lucky : Bool) :
    IPlcInterface.Caller R (PlcCommunicationWorker R × List (Event R)) :=
  let after (connects : Bool) (reply : Option (PlcCommandData R)) (writes : Bool) :=
    worker.run thread ⟨connects, reply, lucky, writes⟩
  match thread.point with
  | .connect => .call .connect fun connects => .done (after connects none false)
  | .readCommand => .call .readCommand fun reply =>
    if reply.isSome then .done (after false reply false)
    else .call .disconnect fun _ => .done (after false none false)
  | .writeStatus status => .call (.writeStatus status.value) fun writes =>
    if writes then .done (after false none true)
    else .call .disconnect fun _ => .done (after false none false)
  | .disconnect => .call .disconnect fun _ => .done (after false none false)
  | _ => .done (after false none false)

def exchange (worker : PlcCommunicationWorker R) (lucky : Bool) :
    IPlcInterface.Caller R (PlcCommunicationWorker R × List (Event R)) :=
  match worker.thread with
  | some thread => worker.runExchange thread lucky
  | none => .done (worker, [])

/-- Whatever the PLC does, the step is one with some answers. -/
theorem exchange_work {P : Type} (answer : IPlcInterface R P) (worker : PlcCommunicationWorker R)
    (lucky : Bool) (object : P) :
    ∃ answers, ((worker.exchange lucky).serve answer object).2 = worker.work answers := by
  cases running : worker.thread with
  | none =>
    refine ⟨⟨false, none, lucky, false⟩, ?_⟩
    simp only [exchange, work, running]
    rfl
  | some thread =>
    simp only [exchange, work, running, runExchange]
    cases point : thread.point with
    | connect =>
      exact ⟨⟨(answer object .connect).2, none, lucky, false⟩, rfl⟩
    | readCommand =>
      refine ⟨⟨false, (answer object .readCommand).2, lucky, false⟩, ?_⟩
      simp only [Client.serve_call]
      cases (answer object .readCommand).2 with
      | none => rfl
      | some command => rfl
    | writeStatus status =>
      refine ⟨⟨false, none, lucky, (answer object (.writeStatus status.value)).2⟩, ?_⟩
      simp only [Client.serve_call]
      cases (answer object (.writeStatus status.value)).2 with
      | false => rfl
      | true => rfl
    | _ => exact ⟨⟨false, none, lucky, false⟩, rfl⟩

end PlcCommunicationWorker

namespace AsyncSystem

/-- A step of the system, with the PLC behind the interface. -/
inductive Task (R : Type) where
  | start
  | requestStop
  | join
  | work (lucky : Bool)
  | control (dtSeconds : R) (lucky : Bool)
  deriving DecidableEq, Repr

variable [Double R]

def exchange (system : AsyncSystem R) :
    Task R → IPlcInterface.Caller R (AsyncSystem R × List (Event R))
  | .start => .done (system.act .start)
  | .requestStop => .done (system.act .requestStop)
  | .join => .done (system.act .join)
  | .work lucky => (system.worker.exchange lucky).bind fun (worker, events) =>
    .done ({ system with worker := worker }, events.map .worker)
  | .control dtSeconds lucky => .done (system.act (.control dtSeconds lucky))

theorem exchange_act {P : Type} (answer : IPlcInterface R P) (system : AsyncSystem R)
    (task : Task R) (object : P) :
    ∃ action, ((system.exchange task).serve answer object).2 = system.act action := by
  cases task with
  | start => exact ⟨.start, rfl⟩
  | requestStop => exact ⟨.requestStop, rfl⟩
  | join => exact ⟨.join, rfl⟩
  | control dt lucky => exact ⟨.control dt lucky, rfl⟩
  | work lucky =>
    obtain ⟨answers, same⟩ := PlcCommunicationWorker.exchange_work answer system.worker lucky object
    refine ⟨.work answers, ?_⟩
    simp only [exchange, Client.serve_bind, same]
    rfl

end AsyncSystem

end MotionBridge
