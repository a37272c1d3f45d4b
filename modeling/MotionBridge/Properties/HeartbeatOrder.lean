import MotionBridge.Communication.OpcUaPlc

/-! The controller heartbeat is the last node a status is written to. Whatever fails on the
way, it never runs ahead of the status it vouches for. -/
namespace MotionBridge

open Foundation

namespace OpcUaPlc

variable {R : Type}

/-- Where a status goes besides its heartbeat, in the order of the writes. -/
def fieldNodes (nodes : OpcUaNodeMap) : List NodeId :=
  [nodes.statusWord, nodes.actualPosition, nodes.actualVelocity, nodes.followingError,
    nodes.faultCode].map (nodeIdString nodes.namespaceIndex)

def heartbeatNode (nodes : OpcUaNodeMap) : NodeId :=
  nodeIdString nodes.namespaceIndex nodes.controllerHeartbeat

/-- All that the server stores of a status if nothing fails. -/
def statusStores (nodes : OpcUaNodeMap) (status : PlcStatusData R) : List (Store R) :=
  let store (identifier : Text) (value : Scalar R) : Store R :=
    ⟨nodeIdString nodes.namespaceIndex identifier, value⟩
  [store nodes.statusWord (.uint16 status.statusWord),
    store nodes.actualPosition (.double status.actualPositionRad),
    store nodes.actualVelocity (.double status.actualVelocityRadS),
    store nodes.followingError (.double status.followingErrorRad),
    store nodes.faultCode (.uint16 status.faultCode),
    store nodes.controllerHeartbeat (.uint32 status.controllerHeartbeat)]

theorem statusStores_nodes (nodes : OpcUaNodeMap) (status : PlcStatusData R) :
    (statusStores nodes status).map Store.node = fieldNodes nodes ++ [heartbeatNode nodes] := rfl

/-- A write stores its value or nothing, and its value if it succeeds. -/
theorem writeScalar_pursues (answer : NodeId → WriteAnswer) (namespaceIndex : UInt16)
    (identifier : Text) (input : Scalar R) :
    (writeScalar answer namespaceIndex identifier input).Pursues
      [⟨nodeIdString namespaceIndex identifier, input⟩] := by
  simp only [writeScalar]
  generalize answer (nodeIdString namespaceIndex identifier) = answer
  by_cases copied : answer.copied = good
  · constructor
    · by_cases stored : answer.stored = true <;> simp [copied, stored]
    · intro succeeded
      have written : answer.written = good := by simpa [copied] using succeeded
      simp [copied, answer.honest written]
  · constructor <;> simp [copied]

theorem writeNodes_pursues (nodes : OpcUaNodeMap) (status : PlcStatusData R)
    (answers : ℕ → NodeId → WriteAnswer) :
    (writeNodes nodes status answers).Pursues (statusStores nodes status) := by
  unfold writeNodes
  exact (writeScalar_pursues _ _ _ _).andThen (writeScalar_pursues _ _ _ _)
    |>.andThen (writeScalar_pursues _ _ _ _)
    |>.andThen (writeScalar_pursues _ _ _ _)
    |>.andThen (writeScalar_pursues _ _ _ _)
    |>.andThen (writeScalar_pursues _ _ _ _)

/-- A call without a client fails before its first write. -/
theorem writeStatus_pursues (plc : OpcUaPlc) (status : PlcStatusData R)
    (answers : ℕ → NodeId → WriteAnswer) :
    (plc.writeStatus status answers).2.Pursues (statusStores plc.configuration.nodes status) := by
  unfold writeStatus
  by_cases connected : plc.client = true
  · rw [if_pos connected]
    have pursues := writeNodes_pursues plc.configuration.nodes status answers
    by_cases succeeded : (writeNodes plc.configuration.nodes status answers).succeeded = true
    · simpa [succeeded] using pursues
    · simpa [succeeded] using pursues
  · rw [if_neg connected]
    constructor <;> simp

theorem perform_configuration (session : Session) (operation : Operation R) :
    (perform session operation).1.plc.configuration = session.plc.configuration := by
  cases operation with
  | connect answer =>
    simp only [perform, connect, close]
    split_ifs <;> rfl
  | disconnect => rfl
  | readCommand answers =>
    simp only [perform, readCommand]
    split_ifs
    · cases readNodes session.plc.configuration.nodes answers <;> rfl
    · rfl
  | writeStatus status answers =>
    simp only [perform, writeStatus]
    split_ifs <;> rfl

/-- The statuses of the calls of `write_status`, in their order. -/
def statuses (operations : List (Operation R)) : List (PlcStatusData R) :=
  operations.filterMap fun
    | .writeStatus status _ => some status
    | _ => none

/-- What a run of the adapter is to the server. -/
theorem observe_attempted (plc : OpcUaPlc) (operations : List (Operation R)) :
    let session := (observe plc operations).1
    session.plc.configuration = plc.configuration ∧
      session.calls = (statuses operations).length ∧
        Attempted ((statuses operations).map (statusStores plc.configuration.nodes))
          (observe plc operations).2 := by
  induction operations using List.reverseRecOn with
  | nil => exact ⟨rfl, rfl, .start⟩
  | append_singleton operations operation ih =>
    obtain ⟨configuration, calls, attempted⟩ := ih
    have step : observe plc (operations ++ [operation]) =
        logged perform (observe plc operations) operation := run_snoc _ _ _ _
    simp only [step, logged]
    generalize observe plc operations = before at *
    refine ⟨(perform_configuration before.1 operation).trans configuration, ?_⟩
    cases operation with
    | writeStatus status answers =>
      have pursues := (before.1.plc.writeStatus_pursues status answers).inOrder
      rw [configuration] at pursues
      have call := attempted.attempt pursues
      have one_more : statuses (operations ++ [.writeStatus status answers]) =
          statuses operations ++ [status] := by
        simp [statuses]
      rw [List.length_map, ← calls] at call
      rw [one_more, List.length_append, List.map_append, ← calls]
      exact ⟨rfl, call⟩
    -- no other operation writes
    | connect answer => simpa [statuses, perform] using ⟨calls, attempted⟩
    | disconnect => simpa [statuses, perform] using ⟨calls, attempted⟩
    | readCommand answers => simpa [statuses, perform] using ⟨calls, attempted⟩

/-- The node was stored last by this call. -/
def LastStoredBy (moment : List (ℕ × Store R)) (node : NodeId) (call : ℕ) : Prop :=
  LastBinds (writers Store.node moment) node call

/-- At any moment, each field was stored by the call the heartbeat is from or by a later one. -/
theorem heartbeat_vouches (plc : OpcUaPlc) (operations : List (Operation R))
    (distinct : (fieldNodes plc.configuration.nodes ++ [heartbeatNode plc.configuration.nodes]).Nodup)
    (moment : List (ℕ × Store R)) (reached : moment <+: (observe plc operations).2) (call : ℕ)
    (beat : LastStoredBy moment (heartbeatNode plc.configuration.nodes) call) :
    ∀ node ∈ fieldNodes plc.configuration.nodes, ∃ later, call ≤ later ∧
      LastStoredBy moment node later := by
  have apart : heartbeatNode plc.configuration.nodes ∉ fieldNodes plc.configuration.nodes := by
    intro member
    exact (List.nodup_append.mp distinct).2.2 _ member _ (by simp) rfl
  obtain ⟨attempts, within, attempted⟩ := (observe_attempted plc operations).2.2.at_moment reached
  have order : ∀ intended ∈ attempts, intended.map Store.node =
      fieldNodes plc.configuration.nodes ++ [heartbeatNode plc.configuration.nodes] := by
    intro intended member
    obtain ⟨status, _, rfl⟩ := List.mem_map.mp (within.subset member)
    exact statusStores_nodes _ status
  have vouched := (attempted.vouches Store.node apart order ((assign_eq_some _ _ _).mpr beat)).2
  intro node member
  obtain ⟨later, after, stored⟩ := vouched node member
  exact ⟨later, after, (assign_eq_some _ _ _).mp stored⟩

/-- The library reports this code for each request from number `failing` on; `stored` tells
of those writes whether the server stored their values all the same. -/
def failsFrom (failing : ℕ) (stored : Bool) (request : ℕ) (_ : NodeId) : WriteAnswer :=
  if request < failing then ⟨good, good, true, fun _ => rfl⟩
  else ⟨good, 2147483648, stored, fun written => absurd written (by decide)⟩

def connects : ConnectAnswer := ⟨true, fun _ => good, fun _ => ""⟩

def database : OpcUaConfiguration where
  endpoint := "opc.tcp://plc:4840".toList
  nodes :=
    { namespaceIndex := 3
      controlWord := "db.control".toList
      targetPosition := "db.target".toList
      maxVelocity := "db.velocity".toList
      maxAcceleration := "db.acceleration".toList
      plcHeartbeat := "db.plcHeartbeat".toList
      statusWord := "db.status".toList
      actualPosition := "db.position".toList
      actualVelocity := "db.actualVelocity".toList
      followingError := "db.error".toList
      faultCode := "db.fault".toList
      controllerHeartbeat := "db.controllerHeartbeat".toList }

/-- Four calls: the first one comes before any connection, the third one times out. -/
def interrupted : List (Operation ℚ) :=
  [.writeStatus ⟨0, 0, 0, 0, 0, 0⟩ (failsFrom 6 true), .connect connects,
    .writeStatus ⟨1, 1, 0, 0, 0, 1⟩ (failsFrom 6 true),
    .writeStatus ⟨3, 2, 0, 0, 0, 2⟩ (failsFrom 2 true), .disconnect, .connect connects,
    .writeStatus ⟨2, 3, 0, 0, 0, 3⟩ (failsFrom 6 true)]

/-- In the middle of the last call the heartbeat is still that of the second one, and the
following error, which the third one did not reach, is no older. -/
theorem heartbeat_vouches_interrupted :
    ∃ later, 1 ≤ later ∧ LastStoredBy ((observe (create database) interrupted).2.take 11)
      (nodeIdString 3 database.nodes.followingError) later :=
  heartbeat_vouches (create database) interrupted (by decide +kernel) _ (List.take_prefix 11 _) 1
    ((assign_eq_some _ _ _).mp (by decide +kernel)) _ (by decide +kernel)

end OpcUaPlc

end MotionBridge
