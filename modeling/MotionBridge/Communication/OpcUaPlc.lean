import MotionBridge.Communication.OpcUaConfig
import MotionBridge.Foundation.CommitMark
import MotionBridge.Foundation.Run
import MotionBridge.Interfaces.PlcMapping

/-!
# The OPC UA adapter

The client library and the server behind it are no part of the program. What they answer
is an input of every call, with one answer for each request the call may make.
-/
namespace MotionBridge

open Foundation

namespace OpcUaPlc

/-- `UA_StatusCode`. -/
abbrev StatusCode := UInt32

/-- `UA_STATUSCODE_GOOD`, the only code that counts as a success. -/
def good : StatusCode := 0

structure NodeId where
  namespaceIndex : UInt16
  identifier : Text
  deriving DecidableEq, Repr

/-- `UA_NODEID_STRING_ALLOC` of a `c_str()`, which ends at the first null character. -/
def nodeIdString (namespaceIndex : UInt16) (identifier : Text) : NodeId :=
  ⟨namespaceIndex, identifier.before (Char.ofNat 0)⟩

/-- A value with its `UA_TYPES`. -/
inductive Scalar (R : Type) where
  | uint16 (value : UInt16)
  | uint32 (value : UInt32)
  | double (value : R)
  deriving DecidableEq, Repr

structure ConnectAnswer where
  created : Bool
  result : Text → StatusCode
  name : StatusCode → String

/-- The value is `none` if it is empty or no scalar of one of these types. -/
structure ReadAnswer (R : Type) where
  result : StatusCode
  value : Option (Scalar R)
  deriving DecidableEq, Repr

/-- The results of the copy and of the write. Whether the server stored the value is known
of a good write only; of any other it may or may not have. -/
structure WriteAnswer where
  copied : StatusCode
  written : StatusCode
  stored : Bool
  honest : written = good → stored = true
  deriving DecidableEq, Repr

/-- A value the server has stored in one of its nodes. -/
structure Store (R : Type) where
  node : NodeId
  value : Scalar R
  deriving DecidableEq, Repr

end OpcUaPlc

/-- `client` tells whether there is a `UA_Client`. -/
structure OpcUaPlc where
  configuration : OpcUaConfiguration
  client : Bool
  error : String
  deriving DecidableEq, Repr

namespace OpcUaPlc

variable {R : Type}

def Scalar.uint16? : Scalar R → Option UInt16
  | .uint16 value => some value
  | _ => none

def Scalar.uint32? : Scalar R → Option UInt32
  | .uint32 value => some value
  | _ => none

def Scalar.double? : Scalar R → Option R
  | .double value => some value
  | _ => none

/-- `type` stands for the comparison with the expected `UA_TYPES`. -/
def readScalar {Value : Type} (answer : NodeId → ReadAnswer R) (namespaceIndex : UInt16)
    (identifier : Text) (type : Scalar R → Option Value) : Option Value :=
  let node := nodeIdString namespaceIndex identifier
  if (answer node).result = good then (answer node).value.bind type else none

def writeScalar (answer : NodeId → WriteAnswer) (namespaceIndex : UInt16) (identifier : Text)
    (input : Scalar R) : Attempt (Store R) :=
  let node := nodeIdString namespaceIndex identifier
  let copyResult := (answer node).copied
  let writeResult := if copyResult = good then (answer node).written else copyResult
  { succeeded := writeResult = good
    effects := if copyResult = good ∧ (answer node).stored then [⟨node, input⟩] else [] }

def create (configuration : OpcUaConfiguration) : OpcUaPlc := ⟨configuration, false, ""⟩

def close (plc : OpcUaPlc) : OpcUaPlc := { plc with client := false }

def connect (plc : OpcUaPlc) (answer : ConnectAnswer) : OpcUaPlc × Bool :=
  if answer.created then
    let result := answer.result (plc.configuration.endpoint.before (Char.ofNat 0))
    if result ≠ good then ({ plc.close with error := answer.name result }, false)
    else ({ plc with client := true, error := "" }, true)
  else ({ plc.close with error := "UA_Client_new failed" }, false)

def disconnect (plc : OpcUaPlc) : OpcUaPlc := plc.close

/-- The conjunction in `read_command`. -/
def readNodes (nodes : OpcUaNodeMap) (answers : ℕ → NodeId → ReadAnswer R) :
    Option (PlcCommandData R) := do
  let controlWord ← readScalar (answers 0) nodes.namespaceIndex nodes.controlWord Scalar.uint16?
  let targetPosition ← readScalar (answers 1) nodes.namespaceIndex nodes.targetPosition Scalar.double?
  let maxVelocity ← readScalar (answers 2) nodes.namespaceIndex nodes.maxVelocity Scalar.double?
  let maxAcceleration ← readScalar (answers 3) nodes.namespaceIndex nodes.maxAcceleration Scalar.double?
  let heartbeat ← readScalar (answers 4) nodes.namespaceIndex nodes.plcHeartbeat Scalar.uint32?
  return ⟨controlWord, targetPosition, maxVelocity, maxAcceleration, heartbeat⟩

def readCommand (plc : OpcUaPlc) (answers : ℕ → NodeId → ReadAnswer R) :
    OpcUaPlc × Option (PlcCommandData R) :=
  if plc.client then
    match readNodes plc.configuration.nodes answers with
    | some command => ({ plc with error := "" }, some command)
    | none => ({ plc with
        error := "Failed to read one or more command nodes; verify NodeIds and PLC types" }, none)
  else ({ plc with error := "OPC UA client is not connected" }, none)

/-- The conjunction in `write_status`. -/
def writeNodes (nodes : OpcUaNodeMap) (status : PlcStatusData R)
    (answers : ℕ → NodeId → WriteAnswer) : Attempt (Store R) :=
  let write (request : ℕ) (identifier : Text) (input : Scalar R) :=
    writeScalar (answers request) nodes.namespaceIndex identifier input
  (write 0 nodes.statusWord (.uint16 status.statusWord))
    |>.andThen (write 1 nodes.actualPosition (.double status.actualPositionRad))
    |>.andThen (write 2 nodes.actualVelocity (.double status.actualVelocityRadS))
    |>.andThen (write 3 nodes.followingError (.double status.followingErrorRad))
    |>.andThen (write 4 nodes.faultCode (.uint16 status.faultCode))
    |>.andThen (write 5 nodes.controllerHeartbeat (.uint32 status.controllerHeartbeat))

/-- Returns whether the attempt succeeded. -/
def writeStatus (plc : OpcUaPlc) (status : PlcStatusData R) (answers : ℕ → NodeId → WriteAnswer) :
    OpcUaPlc × Attempt (Store R) :=
  if plc.client then
    let attempt := writeNodes plc.configuration.nodes status answers
    if attempt.succeeded then ({ plc with error := "" }, attempt)
    else ({ plc with
      error := "Failed to write one or more status nodes; verify NodeIds and access rights" }, attempt)
  else ({ plc with error := "OPC UA client is not connected" }, ⟨false, []⟩)

inductive Operation (R : Type) where
  | connect (answer : ConnectAnswer)
  | disconnect
  | readCommand (answers : ℕ → NodeId → ReadAnswer R)
  | writeStatus (status : PlcStatusData R) (answers : ℕ → NodeId → WriteAnswer)

/-- `calls` counts the calls of `write_status`. -/
structure Session where
  plc : OpcUaPlc
  calls : ℕ
  deriving DecidableEq, Repr

/-- Every store is shown with the number of the call that made it. -/
def perform (session : Session) : Operation R → Session × List (ℕ × Store R)
  | .connect answer => ({ session with plc := (session.plc.connect answer).1 }, [])
  | .disconnect => ({ session with plc := session.plc.disconnect }, [])
  | .readCommand answers => ({ session with plc := (session.plc.readCommand answers).1 }, [])
  | .writeStatus status answers =>
    let (plc, attempt) := session.plc.writeStatus status answers
    (⟨plc, session.calls + 1⟩, attempt.effects.map fun store => (session.calls, store))

/-- The session after some operations and all the server stored in it. The server stores
in the order of the requests, a failed one before its call returns or after. -/
def observe (plc : OpcUaPlc) (operations : List (Operation R)) : Session × List (ℕ × Store R) :=
  run (logged perform) (⟨plc, 0⟩, []) operations

end OpcUaPlc

end MotionBridge
