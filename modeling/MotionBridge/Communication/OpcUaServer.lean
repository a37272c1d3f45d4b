import MotionBridge.Communication.OpcUaPlc
import MotionBridge.Interfaces.PlcInterface

/-!
# The OPC UA library in front of a server

What the library does is a parameter, with what it documents as a hypothesis. What becomes of
the requests of a call is decided before the call. `Server` is one library of which that holds.
-/
namespace MotionBridge

open Foundation

namespace OpcUaPlc

variable {R : Type}

/-- The nodes `read_command` reads, in its order. -/
def commandNodes (nodes : OpcUaNodeMap) : List NodeId :=
  [nodes.controlWord, nodes.targetPosition, nodes.maxVelocity, nodes.maxAcceleration,
    nodes.plcHeartbeat].map (nodeIdString nodes.namespaceIndex)

/-- The nodes `write_status` writes, in its order. -/
def statusNodes (nodes : OpcUaNodeMap) : List NodeId :=
  [nodes.statusWord, nodes.actualPosition, nodes.actualVelocity, nodes.followingError,
    nodes.faultCode, nodes.controllerHeartbeat].map (nodeIdString nodes.namespaceIndex)

/-- What the adapter uses of open62541. `Net` is all that the library, the network and the
server keep. The answers are those to the requests of the coming call, and what follows is the
net after a call; a write leaves what has been stored. -/
structure Library (R Net : Type) where
  connects : Net → ConnectAnswer
  reads : Net → ℕ → NodeId → ReadAnswer R
  writes : Net → ℕ → NodeId → WriteAnswer
  connect : Net → Net
  disconnect : Net → Net
  read : Net → Net
  write : Net → List (Store R) → Net

/-- Stored values replace those before them. -/
def overwrite (values : NodeId → Option (Scalar R)) (stores : List (Store R)) :
    NodeId → Option (Scalar R) :=
  fun node => (assign (stores.map fun store => (store.node, store.value)) node).or (values node)

/-- What the library documents of its calls, as far as the nodes go. `values` is `none` where a
node does not exist or holds no scalar of the types in use. During one `read_command` no value
changes. -/
structure Library.Documented {Net : Type} (library : Library R Net)
    (values : Net → NodeId → Option (Scalar R)) : Prop where
  connect : ∀ net, values (library.connect net) = values net
  disconnect : ∀ net, values (library.disconnect net) = values net
  read : ∀ net, values (library.read net) = values net
  reads_good : ∀ net request node, (library.reads net request node).result = good →
    (library.reads net request node).value = values net node
  write : ∀ net stores, values (library.write net stores) = overwrite (values net) stores
  named : ∀ net code, code ≠ good → (library.connects net).name code ≠ ""

section Adapter

variable {Net : Type} (library : Library R Net)

def answer : IPlcInterface R (OpcUaPlc × Net)
  | (plc, net), .connect =>
    let (plc, accepted) := plc.connect (library.connects net)
    ((plc, library.connect net), accepted)
  | (plc, net), .disconnect =>
    ((plc.disconnect, if plc.client then library.disconnect net else net), ())
  | (plc, net), .readCommand =>
    let (next, reply) := plc.readCommand (library.reads net)
    ((next, if plc.client then library.read net else net), reply)
  | (plc, net), .writeStatus status =>
    let (next, attempt) := plc.writeStatus status (library.writes net)
    ((next, if plc.client then library.write net attempt.effects else net), attempt.succeeded)

end Adapter

/-- The PLC program sets all nodes as it likes, but for those it is told the status in. -/
def Programs {Net : Type} (program : Net → (NodeId → Option (Scalar R)) → Net)
    (values : Net → NodeId → Option (Scalar R)) (nodes : OpcUaNodeMap) : Prop :=
  ∀ net set, values (program net set) =
    fun node => if node ∈ statusNodes nodes then values net node else set node

/-- The nodes as a PLC program sets them for this command. -/
def commandValues (nodes : OpcUaNodeMap) (command : PlcCommandData R) :
    NodeId → Option (Scalar R) :=
  assign (List.zip (commandNodes nodes)
    [.uint16 command.controlWord, .double command.targetPositionRad,
      .double command.maxVelocityRadS, .double command.maxAccelerationRadS2,
      .uint32 command.heartbeat])

/-- A server whose requests are answered by their numbers: `exchanges` counts the calls that
reach it. Every code but the good one has a name. -/
structure Server (R : Type) where
  values : NodeId → Option (Scalar R)
  connects : ℕ → ConnectAnswer
  reads : ℕ → ℕ → StatusCode
  writes : ℕ → ℕ → NodeId → WriteAnswer
  named : ∀ exchange code, code ≠ good → (connects exchange).name code ≠ ""
  exchanges : ℕ

namespace Server

/-- A server that serves every request. -/
def quiet (values : NodeId → Option (Scalar R)) : Server R where
  values := values
  connects := fun _ => ⟨true, fun _ => good, fun _ => "BadUnexpectedError"⟩
  reads := fun _ _ => good
  writes := fun _ _ _ => ⟨good, good, true, fun _ => rfl⟩
  named := by simp
  exchanges := 0

def next (server : Server R) : Server R := { server with exchanges := server.exchanges + 1 }

def library : Library R (Server R) where
  connects server := server.connects server.exchanges
  reads server request node := ⟨server.reads server.exchanges request, server.values node⟩
  writes server := server.writes server.exchanges
  connect := next
  disconnect server := server
  read := next
  write server stores := { server.next with values := overwrite server.values stores }

def program (server : Server R) (nodes : OpcUaNodeMap) (values : NodeId → Option (Scalar R)) :
    Server R :=
  { server with
    values := fun node => if node ∈ statusNodes nodes then server.values node else values node }

theorem programs (nodes : OpcUaNodeMap) :
    Programs (R := R) (program · nodes) Server.values nodes :=
  fun _ _ => rfl

theorem documented : (library (R := R)).Documented Server.values where
  connect _ := rfl
  disconnect _ := rfl
  read _ := rfl
  reads_good _ _ _ _ := rfl
  write _ _ := rfl
  named server code bad := server.named server.exchanges code bad

end Server

end OpcUaPlc

end MotionBridge
