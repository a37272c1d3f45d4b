import MotionBridge.Interfaces.PlcMapping
import MotionBridge.Runtime.FiniteLoop
import MotionBridge.Runtime.RunFor

/-! What the PLC reads fits together: no two states at once, and a fault code exactly
where a state can carry one. -/
namespace MotionBridge

open Foundation
open Exact (fin)

namespace ControllerStateMachine

variable {R : Type}

/-- A fault comes with its code. -/
def Explained (machine : ControllerStateMachine) : Prop :=
  machine.state = .fault → machine.fault ≠ .none

/-- The `switch` leads into `fault` from nowhere else. -/
theorem transition_fault (state : ControllerState) (command : MotionCommand R)
    (targetReached : Bool) (fault : transition state command targetReached = .fault) :
    state = .fault := by
  cases state with
  | fault => rfl
  | powerOff | emergencyStop => simp [transition] at fault
  | disabled | ready | running | stopping =>
    simp only [transition] at fault
    split_ifs at fault

theorem update_explained (machine : ControllerStateMachine) (command : MotionCommand R)
    (targetReached : Bool) (detectedFault : FaultCode) (explained : machine.Explained) :
    (machine.update command targetReached detectedFault).Explained := by
  intro fault
  have outcome := update_outcome machine command targetReached detectedFault
  generalize machine.update command targetReached detectedFault = next at outcome fault ⊢
  cases outcome with
  | unpowered | stopped | released => simp at fault
  | faulted _ _ detected => exact detected
  | latched => exact explained fault
  | moved _ _ _ free => exact absurd (Or.inl (transition_fault _ _ _ fault)) free

end ControllerStateMachine

namespace ControlLoop

variable {R : Type} [Double R]

theorem reachable_explained {configuration : Configuration R} {controller : PidController R}
    {plant : ServoPlant R} {loop : ControlLoop R}
    (reachable : Reachable (create configuration controller plant) loop) :
    loop.stateMachine.Explained := by
  refine reachable_invariant (fun loop => loop.stateMachine.Explained) ?_ ?_ ?_ reachable ?_
  · intro loop call explained
    cases call with
    | setCommand command => exact explained
    | setExternalFault fault => exact explained
    | step dt =>
      change (loop.step dt).stateMachine.Explained
      rw [step_stateMachine]
      exact ControllerStateMachine.update_explained _ _ _ _ explained
  · intro loop timing explained
    exact explained
  · intro loop _ _
    -- a refusal latches its own code
    simp [refuse, ControllerStateMachine.forceFault]
  · simp [create, ControllerStateMachine.initial, ControllerStateMachine.Explained]

/-- Whatever was done to a loop, inside `run_for` and outside, the status word shows at most
one state, a fault with a fault code, and a fault code only under a fault or an emergency
stop. -/
theorem status_coherent (configuration : Configuration R) (controller : PidController R)
    (plant : ServoPlant R) (loop : ControlLoop R)
    (reachable : Reachable (create configuration controller plant) loop) (heartbeat : UInt32) :
    let status := loop.status
    let data := encodePlcStatus status heartbeat
    let isSet := fun bit => data.statusWord &&& bit ≠ 0
    [PlcStatusBit.ready, PlcStatusBit.running, PlcStatusBit.fault,
        PlcStatusBit.emergencyStop].Pairwise (fun bit other => ¬(isSet bit ∧ isSet other)) ∧
      (isSet PlcStatusBit.fault → data.faultCode ≠ 0) ∧
      (data.faultCode ≠ 0 → isSet PlcStatusBit.fault ∨ isSet PlcStatusBit.emergencyStop) ∧
      (isSet PlcStatusBit.ready ∨ isSet PlcStatusBit.running → data.faultCode = 0) := by
  intro status data isSet
  have measured := reachable_measured reachable
  -- the status shows state and fault of the machine
  have explained : status.state = .fault → status.fault ≠ .none := by
    rw [measured.reports.1, measured.reports.2]
    exact reachable_explained reachable
  have coherent : ¬ControllerStateMachine.Held status.state → status.fault = .none := by
    rw [measured.reports.1, measured.reports.2]
    exact measured.coherent
  have bits := statusWord_bits status.state status.targetReached
  have ready : isSet PlcStatusBit.ready ↔ status.state = .ready := bits.1
  have running : isSet PlcStatusBit.running ↔ status.state = .running := bits.2.1
  have fault : isSet PlcStatusBit.fault ↔ status.state = .fault := bits.2.2.1
  have stopped : isSet PlcStatusBit.emergencyStop ↔ status.state = .emergencyStop := bits.2.2.2.1
  have code : data.faultCode = 0 ↔ status.fault = .none := FaultCode.code_eq_zero status.fault
  refine ⟨?_, ?_, ?_, ?_⟩
  · simp only [List.pairwise_cons, List.mem_cons, List.not_mem_nil, or_false, forall_eq_or_imp,
      forall_eq, ready, running, fault, stopped]
    cases status.state <;> simp
  · rw [fault, ne_eq, code]
    exact explained
  · rw [fault, stopped, ne_eq, code]
    intro carried
    by_contra free
    exact carried (coherent free)
  · rw [ready, running, code]
    rintro (state | state)
    · exact coherent (by simp [state, ControllerStateMachine.Held])
    · exact coherent (by simp [state, ControllerStateMachine.Held])

/-- A refused run of the demo publishes its fault code. -/
theorem status_coherent_refused : (encodePlcStatus demo.refuse.status 1).faultCode ≠ 0 :=
  (status_coherent .initial (demoController.map fin) (ServoPlant.lift .initial) demo.refuse
    (.refused .fresh) 1).2.1 (by decide +kernel)

end ControlLoop

end MotionBridge
