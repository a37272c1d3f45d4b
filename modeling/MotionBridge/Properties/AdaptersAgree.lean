import MotionBridge.Communication.MockPlc
import MotionBridge.Properties.OpcUaLink
import MotionBridge.Properties.S7Link
import MotionBridge.Runtime.PlcClients

/-! As long as the network lets every call through, nobody behind `IPlcInterface` can tell the
real adapters from the mock. -/
namespace MotionBridge

open Foundation

open S7DbLayout (CommandBuffer decodeCommand encodeStatus)
open S7Plc (Blocks)
open OpcUaPlc (NodeId Scalar Library commandNodes statusNodes commandIn commandValues)

variable {R Net Net' : Type}

variable {I S E : Type} (step : S → I → IPlcInterface.Caller R (S × List E)) (user : S)

/-- A user of the mock, whose program asks for the commands in these bytes. -/
def withMock (bits : R ≃ UInt64) (plc : MockPlc R) (turns : List (Turn I CommandBuffer)) :
    (S × MockPlc R) × List E :=
  run (logged (together MockPlc.answer
    (fun plc bytes => plc.setCommand (decodeCommand bits.symm bytes)) step)) ((user, plc), []) turns

/-- A user of the Siemens adapter, whose PLC program writes these bytes. -/
def withS7 (bits : R ≃ UInt64) (snap7 : Snap7 Net) (program : Net → CommandBuffer → Net)
    (configuration : S7Plc.Configuration) (net : Net) (turns : List (Turn I CommandBuffer)) :
    (S × S7Plc × Net) × List E :=
  run (logged (together (S7Plc.answer snap7 bits)
    (fun object bytes => (object.1, program object.2 bytes)) step))
    ((user, S7Plc.create configuration, net), []) turns

/-- To its user the Siemens adapter is a link, and stays one. -/
theorem withS7_mirrors (bits : R ≃ UInt64) {snap7 : Snap7 Net} {program : Net → CommandBuffer → Net}
    {blocks : Net → Blocks} (documented : snap7.Documented blocks)
    (configuration : S7Plc.Configuration)
    (programs : S7Plc.Programs program blocks configuration.dbNumber) (net : Net)
    (turns : List (Turn I CommandBuffer)) :
    let real := withS7 step user bits snap7 program configuration net turns
    let ideal := run (logged (together (PlcLink.answer (S7Plc.network bits snap7 configuration))
      (PlcLink.program (fun bytes => some (decodeCommand bits.symm bytes)) program) step))
      ((user, S7Plc.link bits blocks configuration net), []) turns
    real.1.1 = ideal.1.1 ∧ real.2 = ideal.2 ∧
      S7Plc.Mirrors bits blocks configuration (blocks net) real.1.2 ideal.1.2 :=
  (S7Plc.simulates_link bits documented configuration (blocks net)).turns
    (fun _ _ bytes mirrors => S7Plc.program_mirrors programs mirrors bytes) step user _ _
    (S7Plc.create_mirrors bits blocks configuration net) turns

/-- A user of the OPC UA adapter, whose PLC program sets the nodes to the same commands. -/
def withOpcUa (bits : R ≃ UInt64) (library : Library R Net)
    (program : Net → (NodeId → Option (Scalar R)) → Net) (configuration : OpcUaConfiguration)
    (net : Net) (turns : List (Turn I CommandBuffer)) : (S × OpcUaPlc × Net) × List E :=
  run (logged (together (OpcUaPlc.answer library)
    (fun object bytes => (object.1, program object.2
      (commandValues configuration.nodes (decodeCommand bits.symm bytes)))) step))
    ((user, OpcUaPlc.create configuration, net), []) turns

/-- The mock as a PLC that asks for a command, before anybody uses it. -/
def mockAsking (command : PlcCommandData R) (first : PlcStatusData R) : MockPlc R :=
  ⟨false, command, first⟩

theorem s7_agrees (bits : R ≃ UInt64) {snap7 : Snap7 Net} {program : Net → CommandBuffer → Net}
    {blocks : Net → Blocks} (documented : snap7.Documented blocks)
    (configuration : S7Plc.Configuration)
    (programs : S7Plc.Programs program blocks configuration.dbNumber) {serving : Net → Prop}
    (serves : (S7Plc.network bits snap7 configuration).Serves program serving) (net : Net)
    (healthy : serving net) (first : PlcStatusData R) (turns : List (Turn I CommandBuffer)) :
    let real := withS7 step user bits snap7 program configuration net turns
    let mock := withMock step user bits
      (mockAsking (decodeCommand bits.symm ((blocks net).commandBytes configuration.dbNumber)) first)
      turns
    real.1.1 = mock.1.1 ∧ real.2 = mock.2 ∧
      ∃ link, S7Plc.Mirrors bits blocks configuration (blocks net) real.1.2 link ∧
        MockPlc.Ends first serving mock.1.2 link := by
  have simulates := (S7Plc.simulates_link bits documented configuration (blocks net)).trans
    (MockPlc.simulates_link first serves).symm
  refine simulates.turns ?_ step user _ _ ?_ turns
  · rintro object plc bytes ⟨link, mirrors, ends⟩
    exact ⟨_, S7Plc.program_mirrors programs mirrors bytes,
      MockPlc.ends_program serves (decodeCommand bits.symm) ends bytes⟩
  · exact ⟨_, S7Plc.create_mirrors bits blocks configuration net, rfl, rfl, rfl, healthy⟩

theorem opcua_agrees (bits : R ≃ UInt64) {library : Library R Net}
    {program : Net → (NodeId → Option (Scalar R)) → Net}
    {values : Net → NodeId → Option (Scalar R)} (documented : library.Documented values)
    (configuration : OpcUaConfiguration)
    (programs : OpcUaPlc.Programs program values configuration.nodes) {serving : Net → Prop}
    (serves : (OpcUaPlc.network library configuration).Serves program serving)
    (distinct : (commandNodes configuration.nodes ++ statusNodes configuration.nodes).Nodup)
    (net : Net) (healthy : serving net) (command : PlcCommandData R)
    (asked : commandIn configuration.nodes (values net) = some command)
    (first : PlcStatusData R) (turns : List (Turn I CommandBuffer)) :
    let real := withOpcUa step user bits library program configuration net turns
    let mock := withMock step user bits (mockAsking command first) turns
    real.1.1 = mock.1.1 ∧ real.2 = mock.2 ∧
      ∃ link, OpcUaPlc.Mirrors values configuration real.1.2 link ∧
        MockPlc.Ends first serving mock.1.2 link := by
  obtain ⟨commands, statuses, disjoint⟩ := List.nodup_append.mp distinct
  have apart : ∀ node ∈ commandNodes configuration.nodes, node ∉ statusNodes configuration.nodes :=
    fun node left right => disjoint node left node right rfl
  have simulates := (OpcUaPlc.simulates_link documented statuses apart).trans
    (MockPlc.simulates_link first serves).symm
  refine simulates.turns ?_ step user _ _ ?_ turns
  · rintro object plc bytes ⟨link, mirrors, ends⟩
    have next := OpcUaPlc.program_mirrors programs apart mirrors
      (commandValues configuration.nodes (decodeCommand bits.symm bytes))
    have asks : commandIn configuration.nodes
        (commandValues configuration.nodes (decodeCommand bits.symm bytes)) =
          some (decodeCommand bits.symm bytes) := OpcUaPlc.commandIn_values _ commands _
    exact ⟨_, next, ends.connected, asks, ends.status, serves.move _ _ ends.serving⟩
  · exact ⟨_, OpcUaPlc.create_mirrors net, rfl, asked, rfl, healthy⟩

/-- Whoever uses the interface, over networks that let every call through it gets the same
replies from both adapters as from the mock, if their PLC programs ask for the same commands;
and as soon as a status has been written, both PLCs hold the one the mock holds. -/
theorem adapters_agree (bits : R ≃ UInt64)
    -- a data block behind snap7
    {snap7 : Snap7 Net} {program : Net → CommandBuffer → Net} {blocks : Net → Blocks}
    (documented : snap7.Documented blocks) (s7 : S7Plc.Configuration)
    (programs : S7Plc.Programs program blocks s7.dbNumber) {serving : Net → Prop}
    (serves : (S7Plc.network bits snap7 s7).Serves program serving)
    (net : Net) (healthy : serving net)
    -- the nodes of an OPC UA server
    {library : Library R Net'} {program' : Net' → (NodeId → Option (Scalar R)) → Net'}
    {values : Net' → NodeId → Option (Scalar R)} (documented' : library.Documented values)
    (opcua : OpcUaConfiguration) (programs' : OpcUaPlc.Programs program' values opcua.nodes)
    {serving' : Net' → Prop}
    (serves' : (OpcUaPlc.network library opcua).Serves program' serving')
    (net' : Net') (healthy' : serving' net')
    (distinct : (commandNodes opcua.nodes ++ statusNodes opcua.nodes).Nodup)
    (asked : commandIn opcua.nodes (values net') =
      some (decodeCommand bits.symm ((blocks net).commandBytes s7.dbNumber)))
    (first : PlcStatusData R) (turns : List (Turn I CommandBuffer)) :
    let siemens := withS7 step user bits snap7 program s7 net turns
    let unified := withOpcUa step user bits library program' opcua net' turns
    let mock := withMock step user bits
      (mockAsking (decodeCommand bits.symm ((blocks net).commandBytes s7.dbNumber)) first) turns
    (siemens.1.1 = mock.1.1 ∧ siemens.2 = mock.2) ∧ (unified.1.1 = mock.1.1 ∧ unified.2 = mock.2) ∧
      (mock.1.2.lastStatus = first ∨
        (blocks siemens.1.2.2).statusBytes s7.dbNumber = encodeStatus bits mock.1.2.lastStatus ∧
          OpcUaPlc.Tells opcua.nodes (values unified.1.2.2) mock.1.2.lastStatus) := by
  intro siemens unified mock
  obtain ⟨users, events, link, mirrors, ends⟩ :=
    s7_agrees step user bits documented s7 programs serves net healthy first turns
  obtain ⟨users', events', link', mirrors', ends'⟩ := opcua_agrees step user bits documented' opcua
    programs' serves' distinct net' healthy' _ asked first turns
  refine ⟨⟨users, events⟩, ⟨users', events'⟩, ?_⟩
  cases told : link.status with
  | none => exact Or.inl (ends.status.trans (by rw [told]; rfl))
  | some status =>
    cases told' : link'.status with
    | none => exact Or.inl (ends'.status.trans (by rw [told']; rfl))
    | some status' =>
      -- both adapters have told their PLC what the mock was told
      have same : mock.1.2.lastStatus = status := ends.status.trans (by rw [told]; rfl)
      have same' : mock.1.2.lastStatus = status' := ends'.status.trans (by rw [told']; rfl)
      refine Or.inr ⟨?_, ?_⟩
      · exact (mirrors.status status told).trans (congrArg _ same.symm)
      · rw [same']
        exact mirrors'.status status' told'

/-- A data block full of zeros, behind a network that serves everything. -/
def quietStation : S7Plc.Station := ⟨fun _ => Vector.replicate _ 0, fun _ => 0, fun _ => false, 0⟩

/-- The server with the same command in its nodes. -/
def quietServer : OpcUaPlc.Server UInt64 :=
  .quiet (commandValues OpcUaPlc.database.nodes ⟨0, 0, 0, 0, 0⟩)

/-- A station that serves every request to come goes on to do so. -/
theorem station_serves (bits : R ≃ UInt64) (errorText : Int → String)
    (configuration : S7Plc.Configuration) :
    (S7Plc.network bits (S7Plc.Station.snap7 errorText) configuration).Serves
      (·.program configuration.dbNumber)
      fun station => ∀ request, station.requests ≤ request → station.results request = 0 := by
  have next : ∀ station : S7Plc.Station,
      (∀ request, station.requests ≤ request → station.results request = 0) →
        ∀ request, station.requests + 1 ≤ request → station.results request = 0 :=
    fun station healthy request later => healthy request (by omega)
  constructor
  · intro station request healthy
    have good := healthy station.requests le_rfl
    cases request with
    | connect => exact ⟨decide_eq_true good, next station healthy⟩
    | disconnect => exact ⟨rfl, healthy⟩
    | readCommand => exact ⟨decide_eq_true good, next station healthy⟩
    | writeStatus status =>
      refine ⟨decide_eq_true good, ?_⟩
      simpa [S7Plc.network, S7Plc.Station.snap7, S7Plc.Station.request, good] using next station healthy
  · exact fun station bytes healthy => healthy

/-- A server that answers like a quiet one goes on to do so. -/
theorem server_serves (opcua : OpcUaConfiguration) :
    (OpcUaPlc.network (R := R) OpcUaPlc.Server.library opcua).Serves (·.program opcua.nodes)
      fun server => ∃ values, server.connects = (OpcUaPlc.Server.quiet (R := R) values).connects ∧
        server.reads = (OpcUaPlc.Server.quiet (R := R) values).reads ∧
        server.writes = (OpcUaPlc.Server.quiet (R := R) values).writes := by
  constructor
  · rintro server request ⟨values, connects, reads, writes⟩
    refine ⟨?_, values, ?_⟩
    · cases request with
      | connect => simp [OpcUaPlc.network, OpcUaPlc.Server.library, connects, OpcUaPlc.Server.quiet]
      | disconnect => rfl
      | readCommand =>
        simp [OpcUaPlc.network, OpcUaPlc.allRead, OpcUaPlc.Server.library, reads,
          OpcUaPlc.Server.quiet]
      | writeStatus status =>
        simp [OpcUaPlc.network, OpcUaPlc.allWritten, OpcUaPlc.WriteAnswer.accepted,
          OpcUaPlc.Server.library, writes, OpcUaPlc.Server.quiet]
    · cases request <;> exact ⟨connects, reads, writes⟩
  · rintro server set ⟨values, answers⟩
    exact ⟨values, answers⟩

/-- A PLC asks for power, enable and start after the first read, and is told a status. -/
def exchangedCalls : List (Turn (IPlcInterface.Call UInt64) CommandBuffer) :=
  [.step .readCommand, .step .connect, .step .readCommand,
    .move ((Vector.replicate 30 0).set! 1 0x23), .step .readCommand,
    .step (.writeStatus ⟨2, 7, 8, 9, 0, 1⟩), .step .disconnect]

theorem adapters_agree_exchanged :
    (withS7 Client.relay () (Equiv.refl UInt64) (S7Plc.Station.snap7 toString) (·.program 2)
        .initial quietStation exchangedCalls).2 =
      (withOpcUa Client.relay () (Equiv.refl UInt64) OpcUaPlc.Server.library
        (·.program OpcUaPlc.database.nodes) OpcUaPlc.database quietServer exchangedCalls).2 := by
  obtain ⟨⟨_, siemens⟩, ⟨_, unified⟩, _⟩ := adapters_agree Client.relay () (Equiv.refl UInt64)
    (S7Plc.Station.documented toString) .initial (S7Plc.Station.programs 2)
    (station_serves _ toString .initial) quietStation (fun _ _ => rfl)
    OpcUaPlc.Server.documented OpcUaPlc.database (OpcUaPlc.Server.programs OpcUaPlc.database.nodes)
    (server_serves OpcUaPlc.database) quietServer ⟨_, rfl, rfl, rfl⟩ (by decide +kernel)
    (OpcUaPlc.commandIn_values _ (by decide +kernel) _) ⟨0, 0, 0, 0, 0, 0⟩ exchangedCalls
  exact siemens.trans unified.symm

end MotionBridge
