import MotionBridge.Communication.OpcUaServer
import MotionBridge.Properties.HeartbeatOrder

/-! The OPC UA adapter is a PLC link, though it reads and writes node by node: a call counts
as served when all of its requests are. -/
namespace MotionBridge

open Foundation
open IPlcInterface (Network)

namespace OpcUaPlc

variable {R Net : Type}

/-- The command in the nodes, if they hold values of the right types. -/
def commandIn (nodes : OpcUaNodeMap) (values : NodeId → Option (Scalar R)) :
    Option (PlcCommandData R) :=
  let value (identifier : Text) := values (nodeIdString nodes.namespaceIndex identifier)
  match value nodes.controlWord, value nodes.targetPosition, value nodes.maxVelocity,
    value nodes.maxAcceleration, value nodes.plcHeartbeat with
  | some (.uint16 word), some (.double target), some (.double velocity),
    some (.double acceleration), some (.uint32 heartbeat) =>
    some {
      controlWord := word
      targetPositionRad := target
      maxVelocityRadS := velocity
      maxAccelerationRadS2 := acceleration
      heartbeat := heartbeat }
  | _, _, _, _, _ => none

/-- Every request of a `read_command` has a good code. -/
def allRead (nodes : OpcUaNodeMap) (answers : ℕ → NodeId → ReadAnswer R) : Bool :=
  (commandNodes nodes).zipIdx.all fun (node, request) => (answers request node).result = good

def WriteAnswer.accepted (answer : WriteAnswer) : Bool :=
  answer.copied = good ∧ answer.written = good

/-- Both codes of every request of a `write_status` are good. -/
def allWritten (nodes : OpcUaNodeMap) (answers : ℕ → NodeId → WriteAnswer) : Bool :=
  (statusNodes nodes).zipIdx.all fun (node, request) => (answers request node).accepted

/-- What arrives of these stores, of which the first is the request with this number. The
first one that is not accepted is the last one sent, and may have arrived all the same. -/
def arrived (answers : ℕ → NodeId → WriteAnswer) (request : ℕ) : List (Store R) → List (Store R)
  | [] => []
  | store :: stores =>
    let answer := answers request store.node
    let here := if answer.copied = good ∧ answer.stored = true then [store] else []
    here ++ if answer.accepted then arrived answers (request + 1) stores else []

/-- A call gets through if all of its requests do. -/
def network (library : Library R Net) (configuration : OpcUaConfiguration) : Network R Net
  | net, .connect =>
    let answer := library.connects net
    (library.connect net,
      answer.created ∧ answer.result (configuration.endpoint.before (Char.ofNat 0)) = good)
  | net, .disconnect => (library.disconnect net, true)
  | net, .readCommand =>
    (library.read net, allRead configuration.nodes (library.reads net))
  | net, .writeStatus status =>
    (library.write net (arrived (library.writes net) 0 (statusStores configuration.nodes status)),
      allWritten configuration.nodes (library.writes net))

/-- What the PLC has been told, node by node. -/
def Tells (nodes : OpcUaNodeMap) (values : NodeId → Option (Scalar R)) (status : PlcStatusData R) :
    Prop :=
  ∀ store ∈ statusStores nodes status, values store.node = some store.value

/-- The adapter and its server, seen as a link. -/
structure Mirrors (values : Net → NodeId → Option (Scalar R)) (configuration : OpcUaConfiguration)
    (object : OpcUaPlc × Net) (link : PlcLink R Net) : Prop where
  configured : object.1.configuration = configuration
  connected : link.connected = object.1.client
  error : object.1.error = "" ↔ link.failed = false
  command : link.command = commandIn configuration.nodes (values object.2)
  status : ∀ status, link.status = some status →
    Tells configuration.nodes (values object.2) status
  network : link.network = object.2

/-- What the PLC behind this network asks for, before anybody has called. -/
def link (values : Net → NodeId → Option (Scalar R)) (configuration : OpcUaConfiguration)
    (net : Net) : PlcLink R Net :=
  ⟨false, commandIn configuration.nodes (values net), none, false, net⟩

/-! ### Reading -/

theorem readScalar_good {Value : Type} {answer : NodeId → ReadAnswer R}
    {values : NodeId → Option (Scalar R)}
    (shows : ∀ node, (answer node).result = good → (answer node).value = values node)
    (namespaceIndex : UInt16) (identifier : Text) (type : Scalar R → Option Value) :
    readScalar answer namespaceIndex identifier type =
      if (answer (nodeIdString namespaceIndex identifier)).result = good then
        (values (nodeIdString namespaceIndex identifier)).bind type
      else none := by
  unfold readScalar
  dsimp only
  split_ifs with served
  · rw [shows _ served]
  · rfl

/-- With good codes `read_command` asks each node for its type. -/
theorem commandIn_eq (nodes : OpcUaNodeMap) (values : NodeId → Option (Scalar R)) :
    commandIn nodes values = (do
      let value (identifier : Text) := values (nodeIdString nodes.namespaceIndex identifier)
      let controlWord ← (value nodes.controlWord).bind Scalar.uint16?
      let targetPosition ← (value nodes.targetPosition).bind Scalar.double?
      let maxVelocity ← (value nodes.maxVelocity).bind Scalar.double?
      let maxAcceleration ← (value nodes.maxAcceleration).bind Scalar.double?
      let heartbeat ← (value nodes.plcHeartbeat).bind Scalar.uint32?
      return ⟨controlWord, targetPosition, maxVelocity, maxAcceleration, heartbeat⟩) := by
  simp only [commandIn]
  generalize values (nodeIdString nodes.namespaceIndex nodes.controlWord) = word
  generalize values (nodeIdString nodes.namespaceIndex nodes.targetPosition) = target
  generalize values (nodeIdString nodes.namespaceIndex nodes.maxVelocity) = velocity
  generalize values (nodeIdString nodes.namespaceIndex nodes.maxAcceleration) = acceleration
  generalize values (nodeIdString nodes.namespaceIndex nodes.plcHeartbeat) = heartbeat
  -- a missing value, or one of another type, ends both sides at the same node
  rcases word with _ | word | word | word <;> try rfl
  rcases target with _ | target | target | target <;> try rfl
  rcases velocity with _ | velocity | velocity | velocity <;> try rfl
  rcases acceleration with _ | acceleration | acceleration | acceleration <;> try rfl
  rcases heartbeat with _ | heartbeat | heartbeat | heartbeat <;> rfl

/-- One bad code is enough for `read_command` to fail. -/
theorem readNodes_served (nodes : OpcUaNodeMap) {answers : ℕ → NodeId → ReadAnswer R}
    {values : NodeId → Option (Scalar R)}
    (shows : ∀ request node, (answers request node).result = good →
      (answers request node).value = values node) :
    readNodes nodes answers =
      if allRead nodes answers then commandIn nodes values else none := by
  simp only [readNodes, readScalar_good (shows _), commandIn_eq, allRead, commandNodes,
    List.map_cons, List.map_nil, List.zipIdx_cons, List.zipIdx_nil, List.all_cons, List.all_nil,
    Bool.and_true, Bool.and_eq_true, decide_eq_true_iff, zero_add]
  generalize answers 0 _ = word
  generalize answers 1 _ = target
  generalize answers (1 + 1) _ = velocity
  generalize answers (1 + 1 + 1) _ = acceleration
  generalize answers (1 + 1 + 1 + 1) _ = heartbeat
  by_cases first : word.result = good; swap
  · simp [first]
  by_cases second : target.result = good; swap
  · simp [second]
  by_cases third : velocity.result = good; swap
  · simp [third]
  by_cases fourth : acceleration.result = good; swap
  · simp [fourth]
  by_cases fifth : heartbeat.result = good; swap
  · simp [fifth]
  simp [first, second, third, fourth, fifth]

/-- The value of each command node, in the order of the nodes. -/
theorem commandValues_nodes (nodes : OpcUaNodeMap) (distinct : (commandNodes nodes).Nodup)
    (command : PlcCommandData R) :
    ∀ entry ∈ List.zip (commandNodes nodes)
      [Scalar.uint16 command.controlWord, .double command.targetPositionRad,
        .double command.maxVelocityRadS, .double command.maxAccelerationRadS2,
        .uint32 command.heartbeat],
      commandValues nodes command entry.1 = some entry.2 := by
  intro entry member
  have keys : ((List.zip (commandNodes nodes)
      [Scalar.uint16 command.controlWord, .double command.targetPositionRad,
        .double command.maxVelocityRadS, .double command.maxAccelerationRadS2,
        .uint32 command.heartbeat]).map Prod.fst).Nodup := distinct
  exact assign_of_mem keys member

/-- What has been set can be read. -/
theorem commandIn_values (nodes : OpcUaNodeMap) (distinct : (commandNodes nodes).Nodup)
    (command : PlcCommandData R) : commandIn nodes (commandValues nodes command) = some command := by
  have set := commandValues_nodes nodes distinct command
  simp only [commandNodes, List.map_cons, List.map_nil, List.zip_cons_cons, List.zip_nil_right,
    List.forall_mem_cons] at set
  obtain ⟨word, target, velocity, acceleration, heartbeat, _⟩ := set
  simp only [commandIn, word, target, velocity, acceleration, heartbeat]

/-- The command is made of the command nodes alone. -/
theorem commandIn_congr (nodes : OpcUaNodeMap) {values others : NodeId → Option (Scalar R)}
    (same : ∀ node ∈ commandNodes nodes, values node = others node) :
    commandIn nodes values = commandIn nodes others := by
  simp only [commandNodes, List.map_cons, List.map_nil, List.forall_mem_cons] at same
  obtain ⟨word, target, velocity, acceleration, heartbeat, _⟩ := same
  simp only [commandIn, word, target, velocity, acceleration, heartbeat]

/-! ### Writing -/

/-- The attempt to write the stores one after the other. -/
def attempt (answers : ℕ → NodeId → WriteAnswer) (request : ℕ) :
    List (Store R) → Attempt (Store R)
  | [] => ⟨true, []⟩
  | store :: stores =>
    let answer := answers request store.node
    let here := if answer.copied = good ∧ answer.stored = true then [store] else []
    (⟨answer.accepted, here⟩ : Attempt (Store R)).andThen (attempt answers (request + 1) stores)

theorem attempt_eq (answers : ℕ → NodeId → WriteAnswer) (request : ℕ) (stores : List (Store R)) :
    attempt answers request stores =
      ⟨(stores.zipIdx request).all fun (store, request) => (answers request store.node).accepted,
        arrived answers request stores⟩ := by
  induction stores generalizing request with
  | nil => rfl
  | cons store stores ih =>
    rw [attempt, ih, Attempt.andThen, arrived]
    cases accepted : (answers request store.node).accepted with
    | true => simp [accepted]
    | false => simp [accepted]

theorem writeScalar_eq (answer : NodeId → WriteAnswer) (namespaceIndex : UInt16) (identifier : Text)
    (input : Scalar R) :
    writeScalar answer namespaceIndex identifier input =
      let node := nodeIdString namespaceIndex identifier
      ⟨(answer node).accepted,
        if (answer node).copied = good ∧ (answer node).stored = true then [⟨node, input⟩] else []⟩ := by
  simp only [writeScalar, WriteAnswer.accepted]
  by_cases copied : (answer (nodeIdString namespaceIndex identifier)).copied = good
  · simp [copied]
  · simp [copied]

/-- `write_status` is such an attempt, with the six stores of the status. -/
theorem writeNodes_eq (nodes : OpcUaNodeMap) (status : PlcStatusData R)
    (answers : ℕ → NodeId → WriteAnswer) :
    writeNodes nodes status answers =
      ⟨allWritten nodes answers, arrived answers 0 (statusStores nodes status)⟩ := by
  have all : writeNodes nodes status answers = attempt answers 0 (statusStores nodes status) := by
    simp only [writeNodes, writeScalar_eq, Attempt.andThen_assoc, statusStores, attempt,
      Attempt.andThen_done]
  rw [all, attempt_eq]
  rfl

theorem overwrite_other (values : NodeId → Option (Scalar R)) (stores : List (Store R)) (node : NodeId)
    (other : node ∉ stores.map Store.node) : overwrite values stores node = values node := by
  have unassigned : assign (stores.map fun store => (store.node, store.value)) node = none := by
    by_contra assigned
    obtain ⟨binding, member, same⟩ :=
      (assign_isSome _ node).mp (Option.ne_none_iff_exists'.mp assigned)
    obtain ⟨store, inside, rfl⟩ := List.mem_map.mp member
    exact other (List.mem_map.mpr ⟨store, inside, same⟩)
  simp [overwrite, unassigned]

theorem overwrite_tells (values : NodeId → Option (Scalar R)) (nodes : OpcUaNodeMap)
    (status : PlcStatusData R) (distinct : (statusNodes nodes).Nodup) :
    Tells nodes (overwrite values (statusStores nodes status)) status := by
  intro store member
  have assigned : assign ((statusStores nodes status).map fun store => (store.node, store.value))
      store.node = some store.value := by
    apply assign_of_mem
    · rw [List.map_map]
      exact distinct
    · exact List.mem_map_of_mem member
  simp [overwrite, assigned]

/-- What of a status arrives lies in the status nodes, and is all of it if every request is
accepted. -/
theorem arrived_status (nodes : OpcUaNodeMap) (status : PlcStatusData R)
    (answers : ℕ → NodeId → WriteAnswer) :
    (∀ node ∈ (arrived answers 0 (statusStores nodes status)).map Store.node,
      node ∈ statusNodes nodes) ∧
    (allWritten nodes answers = true →
      arrived answers 0 (statusStores nodes status) = statusStores nodes status) := by
  have pursues := writeNodes_pursues nodes status answers
  rw [writeNodes_eq] at pursues
  exact ⟨fun node member => (pursues.inOrder.map Store.node).subset member, pursues.complete⟩

/-- Whatever of a write arrives, the command stays. -/
theorem overwrite_commandIn (values : NodeId → Option (Scalar R)) (nodes : OpcUaNodeMap)
    (stores : List (Store R)) (apart : ∀ node ∈ commandNodes nodes, node ∉ statusNodes nodes)
    (inside : ∀ node ∈ stores.map Store.node, node ∈ statusNodes nodes) :
    commandIn nodes (overwrite values stores) = commandIn nodes values := by
  apply commandIn_congr
  intro node member
  exact overwrite_other values stores node fun stored => apart node member (inside node stored)

/-! ### The link -/

variable {library : Library R Net} {values : Net → NodeId → Option (Scalar R)}
  {program : Net → (NodeId → Option (Scalar R)) → Net} {configuration : OpcUaConfiguration}

/-- A call after which the values are as before, and nobody has been told a status. -/
theorem Mirrors.unwritten {plc plc' : OpcUaPlc} {net net' : Net} {link link' : PlcLink R Net}
    (mirrors : Mirrors values configuration (plc, net) link) (kept : values net' = values net)
    (configured : plc'.configuration = plc.configuration)
    (connected : link'.connected = plc'.client) (error : plc'.error = "" ↔ link'.failed = false)
    (command : link'.command = link.command) (status : link'.status = link.status)
    (network : link'.network = net') : Mirrors values configuration (plc', net') link' := by
  refine ⟨configured.trans mirrors.configured, connected, error, ?_, ?_, network⟩
  · rw [command, kept]
    exact mirrors.command
  · rw [status, kept]
    exact mirrors.status

theorem simulates_link (documented : library.Documented values)
    (distinct : (statusNodes configuration.nodes).Nodup)
    (apart : ∀ node ∈ commandNodes configuration.nodes, node ∉ statusNodes configuration.nodes) :
    Simulates (answer library) (PlcLink.answer (network library configuration))
      (Mirrors values configuration) := by
  rintro ⟨plc, net⟩ link request mirrors
  obtain rfl : plc.configuration = configuration := mirrors.configured
  have here : link.network = net := mirrors.network
  cases request with
  | connect =>
    have kept := documented.connect net
    have named := documented.named net
    simp only [answer, connect, PlcLink.answer, PlcLink.served, network, here]
    generalize library.connects net = answer at named ⊢
    -- without a client there is no code to look at
    cases created : answer.created with
    | false =>
      simp only [Bool.false_eq_true, if_false, false_and, decide_false, true_and]
      exact mirrors.unwritten kept rfl rfl (by simp) rfl rfl rfl
    | true =>
      by_cases result : answer.result (plc.configuration.endpoint.before (Char.ofNat 0)) = good
      · simp only [result, ne_eq, not_true_eq_false, if_true, if_false, and_self, decide_true, true_and]
        exact mirrors.unwritten kept rfl rfl (by simp) rfl rfl rfl
      · simp only [result, ne_eq, not_false_eq_true, if_true, and_false, decide_false, true_and]
        exact mirrors.unwritten kept rfl rfl (by simp [named _ result]) rfl rfl rfl
  | disconnect =>
    refine ⟨rfl, ?_⟩
    cases opened : plc.client with
    | true =>
      have opened' := mirrors.connected.trans opened
      simp only [answer, disconnect, PlcLink.answer, network, opened, opened', here, if_true]
      exact mirrors.unwritten (documented.disconnect net) rfl rfl mirrors.error rfl rfl rfl
    | false =>
      have closed := mirrors.connected.trans opened
      simp only [answer, disconnect, PlcLink.answer, opened, closed, Bool.false_eq_true, if_false]
      exact mirrors.unwritten rfl rfl rfl mirrors.error rfl rfl here
  | readCommand =>
    cases opened : plc.client with
    | false =>
      have failed : answer library (plc, net) .readCommand =
          (({ plc with error := "OPC UA client is not connected" }, net), none) := by
        simp [answer, readCommand, opened]
      rw [link.answer_read_closed (mirrors.connected.trans opened), failed]
      exact ⟨rfl, mirrors.unwritten rfl rfl mirrors.connected (by simp) rfl rfl here⟩
    | true =>
      have read : (if link.served (network library plc.configuration) .readCommand then link.command
          else none) = readNodes plc.configuration.nodes (library.reads net) := by
        rw [readNodes_served _ (documented.reads_good net), mirrors.command]
        simp only [PlcLink.served, network, here]
      rw [link.answer_read (mirrors.connected.trans opened) read]
      simp only [answer, readCommand, opened, if_true, network, here]
      cases readNodes plc.configuration.nodes (library.reads net) with
      | none =>
        refine ⟨rfl, mirrors.unwritten (documented.read net) rfl ?_ ?_ rfl rfl rfl⟩
        · exact mirrors.connected.trans opened
        · simp
      | some command =>
        refine ⟨rfl, mirrors.unwritten (documented.read net) rfl ?_ ?_ rfl rfl rfl⟩
        · exact mirrors.connected.trans opened
        · simp
  | writeStatus status =>
    cases opened : plc.client with
    | false =>
      have failed : answer library (plc, net) (.writeStatus status) =
          (({ plc with error := "OPC UA client is not connected" }, net), false) := by
        simp [answer, writeStatus, opened]
      rw [link.answer_write_closed status (mirrors.connected.trans opened), failed]
      exact ⟨rfl, mirrors.unwritten rfl rfl mirrors.connected (by simp) rfl rfl here⟩
    | true =>
      obtain ⟨inside, complete⟩ :=
        arrived_status plc.configuration.nodes status (library.writes net)
      have stores := documented.write net
        (arrived (library.writes net) 0 (statusStores plc.configuration.nodes status))
      -- whatever arrived, the command nodes are not among the status nodes
      have command : link.command = commandIn plc.configuration.nodes (values (library.write net
          (arrived (library.writes net) 0 (statusStores plc.configuration.nodes status)))) := by
        rw [stores, overwrite_commandIn _ _ _ apart inside]
        exact mirrors.command
      rw [link.answer_write status (mirrors.connected.trans opened) rfl]
      simp only [answer, writeStatus, opened, if_true, writeNodes_eq, PlcLink.served, network, here]
      cases success : allWritten plc.configuration.nodes (library.writes net) with
      | true =>
        simp only [if_true, true_and]
        refine ⟨rfl, mirrors.connected.trans opened, by simp, command, ?_, rfl⟩
        intro told same
        cases same
        rw [stores, complete success]
        exact overwrite_tells _ _ _ distinct
      -- a part of the status may have arrived
      | false =>
        simp only [Bool.false_eq_true, if_false, true_and]
        refine ⟨rfl, mirrors.connected.trans opened, by simp, command, ?_, rfl⟩
        intro told unknown
        cases unknown

theorem create_mirrors (net : Net) :
    Mirrors values configuration (create configuration, net) (link values configuration net) := by
  refine ⟨rfl, rfl, by simp [create, link], rfl, ?_, rfl⟩
  intro status told
  cases told

/-- The PLC program keeps away from the status nodes. -/
theorem program_mirrors (programs : Programs program values configuration.nodes)
    (apart : ∀ node ∈ commandNodes configuration.nodes, node ∉ statusNodes configuration.nodes)
    {plc : OpcUaPlc} {net : Net} {link : PlcLink R Net}
    (mirrors : Mirrors values configuration (plc, net) link) (set : NodeId → Option (Scalar R)) :
    Mirrors values configuration (plc, program net set)
      (link.program (commandIn configuration.nodes) program set) := by
  have written := programs net set
  refine ⟨mirrors.configured, mirrors.connected, mirrors.error, ?_, ?_, ?_⟩
  · rw [written]
    apply commandIn_congr
    intro node member
    exact (if_neg (apart node member)).symm
  · intro status told store member
    have inside : store.node ∈ statusNodes configuration.nodes := by
      exact List.mem_map_of_mem (f := Store.node) member
    rw [written]
    exact (if_pos inside).trans (mirrors.status status told store member)
  · exact congrArg (program · set) mirrors.network

variable {I S E : Type}

/-- Whoever uses the adapter, while the PLC program sets its nodes between the calls and any
request may fail, it is a link to that PLC: same replies, an error text after each failure and
none otherwise, and after a successful `write_status` all six nodes hold that status. -/
theorem nodes_behave_as_link (documented : library.Documented values)
    (configuration : OpcUaConfiguration) (programs : Programs program values configuration.nodes)
    (net : Net) (distinct : (statusNodes configuration.nodes).Nodup)
    (apart : ∀ node ∈ commandNodes configuration.nodes, node ∉ statusNodes configuration.nodes)
    (step : S → I → IPlcInterface.Caller R (S × List E)) (user : S)
    (turns : List (Turn I (NodeId → Option (Scalar R)))) :
    let adapter := run (logged (together (answer library)
      (fun object set => (object.1, program object.2 set)) step))
      ((user, create configuration, net), []) turns
    let ideal := run (logged (together (PlcLink.answer (network library configuration))
      (PlcLink.program (commandIn configuration.nodes) program) step))
      ((user, link values configuration net), []) turns
    adapter.1.1 = ideal.1.1 ∧ adapter.2 = ideal.2 ∧
      Mirrors values configuration adapter.1.2 ideal.1.2 :=
  (simulates_link documented distinct apart).turns
    (fun _ _ set mirrors => program_mirrors programs apart mirrors set) step user _ _
    (create_mirrors net) turns

/-- A server that does not accept the fifth node of the fourth call. -/
def flakyServer : Server ℚ :=
  { Server.quiet fun _ => none with
    writes := fun exchange => if exchange = 3 then failsFrom 4 true else failsFrom 6 true }

/-- A PLC that changes its command between two reads, and is told a status twice, once in vain. -/
def sampleCalls : List (Turn (IPlcInterface.Call ℚ) (NodeId → Option (Scalar ℚ))) :=
  [.step .connect, .step .readCommand, .move (commandValues database.nodes ⟨0x23, 1, 2, 3, 4⟩),
    .step .readCommand, .step (.writeStatus ⟨2, 7, 8, 9, 0, 1⟩), .step (.writeStatus ⟨2, 7, 8, 9, 0, 2⟩)]

theorem nodes_behave_as_link_sample :
    let adapter := run (logged (together (answer Server.library)
      (fun object set => (object.1, object.2.program database.nodes set)) Client.relay))
      (((), create database, flakyServer), []) sampleCalls
    adapter.1.2.1.error = "" ∧ Tells database.nodes adapter.1.2.2.values ⟨2, 7, 8, 9, 0, 2⟩ := by
  obtain ⟨_, _, mirrors⟩ := nodes_behave_as_link Server.documented database
    (Server.programs database.nodes) flakyServer (by decide +kernel) (by decide +kernel)
    Client.relay () sampleCalls
  exact ⟨mirrors.error.mpr (by decide +kernel), mirrors.status _ (by decide +kernel)⟩

end OpcUaPlc

end MotionBridge
