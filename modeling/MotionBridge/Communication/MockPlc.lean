import MotionBridge.Interfaces.PlcInterface

/-! The PLC of the demos and tests. Each call holds the mutex from its start to its end, so
calls come one after the other. -/
namespace MotionBridge

open Foundation

structure MockPlc (R : Type) where
  connected : Bool
  command : PlcCommandData R
  lastStatus : PlcStatusData R
  deriving DecidableEq, Repr

namespace MockPlc

variable {R : Type}

/-- `MockPlc{}`. -/
def initial [Double R] : MockPlc R := ⟨false, .initial, .initial⟩

def connect (plc : MockPlc R) : MockPlc R × Bool := ({ plc with connected := true }, true)

def disconnect (plc : MockPlc R) : MockPlc R := { plc with connected := false }

def readCommand (plc : MockPlc R) : Option (PlcCommandData R) :=
  if !plc.connected then none else some plc.command

def writeStatus (plc : MockPlc R) (status : PlcStatusData R) : MockPlc R × Bool :=
  if !plc.connected then (plc, false) else ({ plc with lastStatus := status }, true)

def setCommand (plc : MockPlc R) (command : PlcCommandData R) : MockPlc R :=
  { plc with command := command }

def answer : IPlcInterface R (MockPlc R)
  | plc, .connect => plc.connect
  | plc, .disconnect => (plc.disconnect, ())
  | plc, .readCommand => (plc, plc.readCommand)
  | plc, .writeStatus status => plc.writeStatus status

section Link

open IPlcInterface (Network)

variable {N M : Type}

/-- The mock is the PLC at the other end of a link whose network lets every call through.
`first` is the status it begins with. -/
structure Ends (first : PlcStatusData R) (serving : N → Prop) (plc : MockPlc R)
    (link : PlcLink R N) : Prop where
  connected : link.connected = plc.connected
  command : link.command = some plc.command
  status : plc.lastStatus = link.status.getD first
  serving : serving link.network

variable {first : PlcStatusData R} {deliver : Network R N} {moves : N → M → N} {serving : N → Prop}

theorem ends_program (serves : deliver.Serves moves serving) (asks : M → PlcCommandData R)
    {plc : MockPlc R} {link : PlcLink R N} (ends : Ends first serving plc link) (move : M) :
    Ends first serving (plc.setCommand (asks move))
      (link.program (fun move => some (asks move)) moves move) :=
  ⟨ends.connected, rfl, ends.status, serves.move _ _ ends.serving⟩

theorem simulates_link (first : PlcStatusData R) (serves : deliver.Serves moves serving) :
    Simulates (answer (R := R)) (PlcLink.answer deliver) (Ends first serving) := by
  intro plc link request ends
  have served (request : IPlcInterface.Call R) : link.served deliver request = true :=
    (serves.call _ request ends.serving).1
  have healthy := link.serves_answer serves request ends.serving
  cases request with
  | connect => exact ⟨(served _).symm, served _, ends.command, ends.status, healthy⟩
  | disconnect => exact ⟨rfl, rfl, ends.command, ends.status, healthy⟩
  | readCommand =>
    cases connected : plc.connected with
    | true =>
      have held : (if link.served deliver .readCommand then link.command else none) =
          some plc.command := by
        rw [served, if_pos rfl, ends.command]
      rw [link.answer_read (ends.connected.trans connected) held] at healthy ⊢
      refine ⟨?_, ends.connected, ends.command, ends.status, healthy⟩
      simp [answer, readCommand, connected]
    | false =>
      rw [link.answer_read_closed (ends.connected.trans connected)]
      refine ⟨?_, ends.connected, ends.command, ends.status, ends.serving⟩
      simp [answer, readCommand, connected]
  | writeStatus status =>
    cases connected : plc.connected with
    | true =>
      have written : plc.answer (.writeStatus status) = ({ plc with lastStatus := status }, true) := by
        simp [answer, writeStatus, connected]
      rw [link.answer_write status (ends.connected.trans connected) (served _)] at healthy ⊢
      rw [written]
      exact ⟨rfl, ends.connected, ends.command, rfl, healthy⟩
    | false =>
      have refused : plc.answer (.writeStatus status) = (plc, false) := by
        simp [answer, writeStatus, connected]
      rw [link.answer_write_closed status (ends.connected.trans connected), refused]
      exact ⟨rfl, ends.connected, ends.command, ends.status, ends.serving⟩

end Link

end MockPlc

end MotionBridge
