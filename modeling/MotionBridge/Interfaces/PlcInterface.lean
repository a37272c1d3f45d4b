import MotionBridge.Foundation.Interface
import MotionBridge.Interfaces.PlcMapping

/-!
# The PLC interface

`IPlcInterface` has four calls. What they are for is said by `PlcLink`: a connection to a
PLC that asks for one command and is told one status, over a network that lets some of
the calls through and fails the others.
-/
namespace MotionBridge

open Foundation

namespace IPlcInterface

inductive Call (R : Type) where
  | connect
  | disconnect
  | readCommand
  | writeStatus (status : PlcStatusData R)
  deriving DecidableEq, Repr

abbrev Reply {R : Type} : Call R → Type
  | .connect => Bool
  | .disconnect => Unit
  | .readCommand => Option (PlcCommandData R)
  | .writeStatus _ => Bool

/-- What lies between an adapter and its PLC. For each call it tells whether the call gets
through, and what the network becomes. -/
abbrev Network (R N : Type) := N → Call R → N × Bool

/-- Wherever this holds the network lets every call through, now and later. `moves` are
those of the PLC program. -/
structure Network.Serves {R N M : Type} (deliver : Network R N) (moves : N → M → N)
    (serving : N → Prop) : Prop where
  call : ∀ network request, serving network →
    (deliver network request).2 = true ∧ serving (deliver network request).1
  move : ∀ network move, serving network → serving (moves network move)

end IPlcInterface

/-- An adapter with everything behind it is an object with these calls. -/
abbrev IPlcInterface (R P : Type) := Implementation (@IPlcInterface.Reply R) P

/-- What holds a reference to an `IPlcInterface` makes such calls. -/
abbrev IPlcInterface.Caller (R V : Type) := Client (@IPlcInterface.Reply R) V

/-- `command` is what the PLC asks for, unless its variables make up no command. `status` is
what it was told last, unless the last attempt to tell it something failed. `failed` says
that the last call has reported a failure. -/
structure PlcLink (R N : Type) where
  connected : Bool
  command : Option (PlcCommandData R)
  status : Option (PlcStatusData R)
  failed : Bool
  network : N
  deriving DecidableEq, Repr

namespace PlcLink

open IPlcInterface (Network)

variable {R N M : Type}

/-- The PLC program asks for something else. -/
def program (asks : M → Option (PlcCommandData R)) (moves : N → M → N) (link : PlcLink R N)
    (move : M) : PlcLink R N :=
  { link with command := asks move, network := moves link.network move }

variable (deliver : Network R N)

/-- The network lets this call through. -/
def served (link : PlcLink R N) (request : IPlcInterface.Call R) : Bool :=
  (deliver link.network request).2

def answer : IPlcInterface R (PlcLink R N)
  | link, .connect =>
    ({ link with
        connected := link.served deliver .connect
        failed := !link.served deliver .connect
        network := (deliver link.network .connect).1 }, link.served deliver .connect)
  | link, .disconnect =>
    ({ link with
        connected := false
        network := if link.connected then (deliver link.network .disconnect).1 else link.network }, ())
  | link, .readCommand =>
    if link.connected then
      let reply := if link.served deliver .readCommand then link.command else none
      ({ link with
          failed := reply.isNone
          network := (deliver link.network .readCommand).1 }, reply)
    -- nothing goes over a closed connection
    else ({ link with failed := true }, none)
  | link, .writeStatus status =>
    if link.connected then
      ({ link with
          status := if link.served deliver (.writeStatus status) then some status else none
          failed := !link.served deliver (.writeStatus status)
          network := (deliver link.network (.writeStatus status)).1 },
        link.served deliver (.writeStatus status))
    else ({ link with failed := true }, false)

variable {deliver}

theorem answer_read (link : PlcLink R N) (opened : link.connected = true)
    {reply : Option (PlcCommandData R)}
    (given : (if link.served deliver .readCommand then link.command else none) = reply) :
    answer deliver link .readCommand =
      ({ link with
          failed := reply.isNone
          network := (deliver link.network .readCommand).1 }, reply) := by
  rw [← given]
  exact if_pos opened

theorem answer_read_closed (link : PlcLink R N) (closed : link.connected = false) :
    answer deliver link .readCommand = ({ link with failed := true }, none) :=
  if_neg (by rw [closed]; exact Bool.false_ne_true)

theorem answer_write (link : PlcLink R N) (status : PlcStatusData R) (opened : link.connected = true)
    {served : Bool} (given : link.served deliver (.writeStatus status) = served) :
    answer deliver link (.writeStatus status) =
      ({ link with
          status := if served then some status else none
          failed := !served
          network := (deliver link.network (.writeStatus status)).1 }, served) := by
  rw [← given]
  exact if_pos opened

theorem answer_write_closed (link : PlcLink R N) (status : PlcStatusData R)
    (closed : link.connected = false) :
    answer deliver link (.writeStatus status) = ({ link with failed := true }, false) :=
  if_neg (by rw [closed]; exact Bool.false_ne_true)

/-- No call changes what the PLC asks for. -/
theorem answer_command (link : PlcLink R N) (request : IPlcInterface.Call R) :
    (answer deliver link request).1.command = link.command := by
  cases request with
  | connect | disconnect => rfl
  | readCommand =>
    simp only [answer]
    split_ifs <;> rfl
  | writeStatus status =>
    simp only [answer]
    split_ifs <;> rfl

theorem answer_read_some (link : PlcLink R N) {command : PlcCommandData R}
    (reply : (answer deliver link .readCommand).2 = some command) : link.command = some command := by
  simp only [answer] at reply
  split_ifs at reply
  exact reply

theorem answer_read_status (link : PlcLink R N) :
    (answer deliver link .readCommand).1.status = link.status := by
  simp only [answer]
  split_ifs <;> rfl

theorem answer_write_true (link : PlcLink R N) (status : PlcStatusData R)
    (reply : (answer deliver link (.writeStatus status)).2 = true) :
    (answer deliver link (.writeStatus status)).1.status = some status := by
  cases opened : link.connected with
  | true =>
    rw [link.answer_write status opened rfl] at reply ⊢
    exact if_pos reply
  | false =>
    rw [link.answer_write_closed status opened] at reply
    cases reply

/-- A call reaches the network, or it does not. -/
theorem answer_network (link : PlcLink R N) (request : IPlcInterface.Call R) :
    (answer deliver link request).1.network = (deliver link.network request).1 ∨
      (answer deliver link request).1.network = link.network := by
  cases request with
  | connect => exact Or.inl rfl
  | disconnect =>
    simp only [answer]
    exact ite_eq_or_eq _ _ _
  | readCommand | writeStatus =>
    cases opened : link.connected with
    | true => exact Or.inl (by simp [answer, opened])
    | false => exact Or.inr (by simp [answer, opened])

/-- A network that lets every call through goes on to do so. -/
theorem serves_answer {moves : N → M → N} {serving : N → Prop}
    (serves : deliver.Serves moves serving) (link : PlcLink R N) (request : IPlcInterface.Call R)
    (healthy : serving link.network) : serving (answer deliver link request).1.network := by
  have network : (answer deliver link request).1.network = (deliver link.network request).1 ∨
      (answer deliver link request).1.network = link.network := link.answer_network request
  rcases network with reached | kept
  · rw [reached]
    exact (serves.call link.network request healthy).2
  · rw [kept]
    exact healthy

end PlcLink

end MotionBridge
