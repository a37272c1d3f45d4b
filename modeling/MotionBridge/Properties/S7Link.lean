import MotionBridge.Communication.S7Plc
import MotionBridge.Properties.DbCodec

/-! The Siemens adapter is a PLC link, whatever requests fail on the way to the PLC. -/
namespace MotionBridge

open Foundation
open IPlcInterface (Network)

namespace S7Plc

open S7DbLayout (CommandBuffer decodeCommand encodeStatus commandOffset commandSize statusOffset)

variable {R Net : Type} (bits : R ≃ UInt64) (snap7 : Snap7 Net) (blocks : Net → Blocks)
  (program : Net → CommandBuffer → Net) (configuration : Configuration)

/-- A call gets through if the result of its request is zero. -/
def network : Network R Net
  | net, .connect =>
    let outcome := snap7.connectTo net (configuration.address.before (Char.ofNat 0))
      configuration.rack configuration.slot
    (outcome.1, outcome.2 = 0)
  | net, .disconnect => (snap7.disconnect net, true)
  | net, .readCommand =>
    let outcome := snap7.dbRead net configuration.dbNumber commandOffset commandSize
    (outcome.1, outcome.2.1 = 0)
  | net, .writeStatus status =>
    let outcome := snap7.dbWrite net configuration.dbNumber statusOffset (encodeStatus bits status)
    (outcome.1, outcome.2 = 0)

/-- The adapter and its PLC, seen as a link. `first` is what the data blocks once held; of
these, only the one of the configuration has changed. -/
structure Mirrors (first : Blocks) (object : S7Plc × Net) (link : PlcLink R Net) : Prop where
  configured : object.1.configuration = configuration
  connected : link.connected = object.1.connected
  error : object.1.lastError = "" ↔ link.failed = false
  command : link.command =
    some (decodeCommand bits.symm ((blocks object.2).commandBytes configuration.dbNumber))
  status : ∀ status, link.status = some status →
    (blocks object.2).statusBytes configuration.dbNumber = encodeStatus bits status
  elsewhere : ∀ dbNumber, dbNumber ≠ configuration.dbNumber →
    blocks object.2 dbNumber = first dbNumber
  network : link.network = object.2

/-- What the PLC behind this network asks for, before anybody has called. -/
def link (net : Net) : PlcLink R Net :=
  ⟨false, some (decodeCommand bits.symm ((blocks net).commandBytes configuration.dbNumber)), none,
    false, net⟩

theorem create_mirrors (net : Net) :
    Mirrors bits blocks configuration (blocks net) (create configuration, net)
      (link bits blocks configuration net) := by
  constructor
  · rfl
  · rfl
  · simp [create, link, lastError]
  · rfl
  · intro status told
    cases told
  · exact fun _ _ => rfl
  · rfl

variable {bits snap7 blocks program configuration} {first : Blocks}

/-- Writing the command area leaves the status area alone. -/
theorem program_mirrors (programs : Programs program blocks configuration.dbNumber) {plc : S7Plc}
    {net : Net} {link : PlcLink R Net}
    (mirrors : Mirrors bits blocks configuration first (plc, net) link) (bytes : CommandBuffer) :
    Mirrors bits blocks configuration first (plc, program net bytes)
      (link.program (fun bytes => some (decodeCommand bits.symm bytes)) program bytes) := by
  have written := programs net bytes
  refine ⟨mirrors.configured, mirrors.connected, mirrors.error, ?_, ?_, ?_, ?_⟩
  · rw [written, Blocks.command_commandBytes]
    rfl
  · intro status told
    rw [written, Blocks.command_statusBytes]
    exact mirrors.status status told
  · intro dbNumber other
    rw [written, Blocks.put_elsewhere _ _ _ _ other]
    exact mirrors.elsewhere dbNumber other
  · exact congrArg (program · bytes) mirrors.network

/-- The error text of a request is empty if its result is zero. -/
theorem empty_iff {result : Int} {operation : String} (nonempty : operation ≠ "") (text : String) :
    (if result = 0 then "" else operation ++ text) = "" ↔ (!decide (result = 0)) = false := by
  by_cases good : result = 0
  · simp [good]
  · simp [good, nonempty]

/-! What a request does over an open connection is decided by its result. -/

theorem connect_eq (snap7 : Snap7 Net) (plc : S7Plc) (net : Net) :
    plc.connect snap7 net =
      let outcome := snap7.connectTo net (plc.configuration.address.before (Char.ofNat 0))
        plc.configuration.rack plc.configuration.slot
      (({ plc with
          connected := outcome.2 = 0
          error := if outcome.2 = 0 then "" else
            "S7 connection failed: " ++ snap7.errorText outcome.2 }, outcome.1),
        decide (outcome.2 = 0)) := by
  unfold connect
  generalize snap7.connectTo net _ _ _ = outcome
  by_cases good : outcome.2 = 0 <;> simp [good]

theorem readCommand_eq (snap7 : Snap7 Net) (bitCast : UInt64 → R) (plc : S7Plc) (net : Net)
    (opened : plc.connected = true) :
    plc.readCommand snap7 bitCast net =
      let outcome := snap7.dbRead net plc.configuration.dbNumber commandOffset commandSize
      (({ plc with
          error := if outcome.2.1 = 0 then "" else
            "DB read failed: " ++ snap7.errorText outcome.2.1 }, outcome.1),
        if outcome.2.1 = 0 then some (decodeCommand bitCast outcome.2.2) else none) := by
  unfold readCommand
  generalize snap7.dbRead net plc.configuration.dbNumber commandOffset commandSize = outcome
  by_cases good : outcome.2.1 = 0 <;> simp [opened, good]

theorem writeStatus_eq (snap7 : Snap7 Net) (bitCast : R → UInt64) (plc : S7Plc) (net : Net)
    (status : PlcStatusData R) (opened : plc.connected = true) :
    plc.writeStatus snap7 bitCast net status =
      let outcome := snap7.dbWrite net plc.configuration.dbNumber statusOffset
        (encodeStatus bitCast status)
      (({ plc with
          error := if outcome.2 = 0 then "" else
            "DB write failed: " ++ snap7.errorText outcome.2 }, outcome.1),
        decide (outcome.2 = 0)) := by
  have written : plc.writeStatus snap7 bitCast net status =
      let outcome := snap7.dbWrite net plc.configuration.dbNumber statusOffset
        (encodeStatus bitCast status)
      if outcome.2 ≠ 0 then
        (({ plc with error := "DB write failed: " ++ snap7.errorText outcome.2 }, outcome.1), false)
      else (({ plc with error := "" }, outcome.1), true) := if_neg (by simp [opened])
  rw [written]
  generalize snap7.dbWrite net plc.configuration.dbNumber statusOffset _ = outcome
  by_cases good : outcome.2 = 0 <;> simp [good]

/-- A call after which the data blocks are as before, and nobody has been told a status. -/
theorem Mirrors.unwritten {plc plc' : S7Plc} {net net' : Net} {link link' : PlcLink R Net}
    (mirrors : Mirrors bits blocks configuration first (plc, net) link)
    (kept : blocks net' = blocks net) (configured : plc'.configuration = plc.configuration)
    (connected : link'.connected = plc'.connected)
    (error : plc'.lastError = "" ↔ link'.failed = false) (command : link'.command = link.command)
    (status : link'.status = link.status) (network : link'.network = net') :
    Mirrors bits blocks configuration first (plc', net') link' := by
  refine ⟨configured.trans mirrors.configured, connected, error, ?_, ?_, ?_, network⟩
  · rw [command, kept]
    exact mirrors.command
  · rw [status, kept]
    exact mirrors.status
  · rw [kept]
    exact mirrors.elsewhere

/-- A write puts something into the status area, which is the status if it was accepted. -/
theorem Mirrors.written {plc plc' : S7Plc} {net net' : Net} {link link' : PlcLink R Net}
    (mirrors : Mirrors bits blocks configuration first (plc, net) link)
    {left : S7DbLayout.StatusBuffer}
    (put : blocks net' = (blocks net).put configuration.dbNumber statusOffset left)
    (configured : plc'.configuration = plc.configuration)
    (connected : link'.connected = plc'.connected)
    (error : plc'.lastError = "" ↔ link'.failed = false) (command : link'.command = link.command)
    (status : ∀ status, link'.status = some status → left = encodeStatus bits status)
    (network : link'.network = net') :
    Mirrors bits blocks configuration first (plc', net') link' := by
  refine ⟨configured.trans mirrors.configured, connected, error, ?_, ?_, ?_, network⟩
  · rw [command, put, Blocks.status_commandBytes]
    exact mirrors.command
  · intro told same
    rw [put, Blocks.status_statusBytes]
    exact status told same
  · intro dbNumber other
    rw [put, Blocks.put_elsewhere _ _ _ _ other]
    exact mirrors.elsewhere dbNumber other

theorem simulates_link (bits : R ≃ UInt64) (documented : snap7.Documented blocks)
    (configuration : Configuration) (first : Blocks) :
    Simulates (answer snap7 bits) (PlcLink.answer (network bits snap7 configuration))
      (Mirrors bits blocks configuration first) := by
  rintro ⟨plc, net⟩ link request mirrors
  obtain rfl : plc.configuration = configuration := mirrors.configured
  have here : link.network = net := mirrors.network
  cases request with
  | connect =>
    have kept := documented.connectTo net (plc.configuration.address.before (Char.ofNat 0))
      plc.configuration.rack plc.configuration.slot
    simp only [answer, connect_eq, PlcLink.answer, PlcLink.served, network, here, true_and]
    exact mirrors.unwritten kept rfl rfl (empty_iff (by decide) _) rfl rfl rfl
  | disconnect =>
    -- the error text survives, on either side
    refine ⟨rfl, ?_⟩
    cases opened : plc.connected with
    | true =>
      have opened' := mirrors.connected.trans opened
      simp only [answer, disconnect, PlcLink.answer, network, opened, opened', here, if_true]
      exact mirrors.unwritten (documented.disconnect net) rfl rfl mirrors.error rfl rfl rfl
    | false =>
      have closed := mirrors.connected.trans opened
      simp only [answer, disconnect, PlcLink.answer, opened, closed, Bool.false_eq_true, if_false]
      exact mirrors.unwritten rfl rfl opened.symm mirrors.error rfl rfl here
  | readCommand =>
    cases opened : plc.connected with
    | false =>
      have failed : answer snap7 bits (plc, net) .readCommand =
          (({ plc with error := "S7 client is not connected" }, net), none) := by
        simp [answer, readCommand, opened]
      rw [link.answer_read_closed (mirrors.connected.trans opened), failed]
      exact ⟨rfl, mirrors.unwritten rfl rfl mirrors.connected (by simp [lastError]) rfl rfl here⟩
    | true =>
      -- the reply comes first, and the text of the error after it
      have kept := documented.dbRead net plc.configuration.dbNumber commandOffset commandSize
      have reply : (if link.served (network bits snap7 plc.configuration) .readCommand then
          link.command else none) = ((plc.readCommand snap7 bits.symm net).2) := by
        simp only [PlcLink.served, network, here, readCommand_eq _ _ _ _ opened, decide_eq_true_iff,
          mirrors.command]
        split_ifs with good
        -- a good read has returned the command area
        · rw [documented.dbRead_good _ _ _ _ (by decide) good]
          rfl
        · rfl
      rw [link.answer_read (mirrors.connected.trans opened) reply]
      simp only [answer, readCommand_eq _ _ _ _ opened, network, here, true_and]
      refine mirrors.unwritten kept rfl mirrors.connected ?_ rfl rfl rfl
      simp only [lastError]
      split_ifs with good
      · simp
      · simp
  | writeStatus status =>
    cases opened : plc.connected with
    | false =>
      have failed : answer snap7 bits (plc, net) (.writeStatus status) =
          (({ plc with error := "S7 client is not connected" }, net), false) := by
        simp [answer, writeStatus, opened]
      rw [link.answer_write_closed status (mirrors.connected.trans opened), failed]
      exact ⟨rfl, mirrors.unwritten rfl rfl mirrors.connected (by simp [lastError]) rfl rfl here⟩
    | true =>
      obtain ⟨left, good, put⟩ := documented.dbWrite net plc.configuration.dbNumber statusOffset
        (encodeStatus bits status) (by decide)
      rw [link.answer_write status (mirrors.connected.trans opened) rfl]
      simp only [answer, writeStatus_eq _ _ _ _ _ opened, PlcLink.served, network, here, true_and]
      refine mirrors.written put rfl mirrors.connected (empty_iff (by decide) _) rfl ?_ rfl
      -- of a status that was not accepted nothing is known
      intro told same
      split_ifs at same with result
      · cases same
        exact good (of_decide_eq_true result)

variable {I S E : Type}

/-- Whoever uses the adapter, while the PLC program writes its half of the data block and any
request may fail, it is a link to that PLC: same replies, an error text after each failure
and none otherwise, and what a successful `write_status` has written can be read there. -/
theorem block_behaves_as_link (bits : R ≃ UInt64) (documented : snap7.Documented blocks)
    (configuration : Configuration) (programs : Programs program blocks configuration.dbNumber)
    (net : Net) (step : S → I → IPlcInterface.Caller R (S × List E)) (user : S)
    (turns : List (Turn I CommandBuffer)) :
    let adapter := run (logged (together (answer snap7 bits)
      (fun object bytes => (object.1, program object.2 bytes)) step))
      ((user, create configuration, net), []) turns
    let ideal := run (logged (together (PlcLink.answer (network bits snap7 configuration))
      (PlcLink.program (fun bytes => some (decodeCommand bits.symm bytes)) program) step))
      ((user, link bits blocks configuration net), []) turns
    adapter.1.1 = ideal.1.1 ∧ adapter.2 = ideal.2 ∧
      Mirrors bits blocks configuration (blocks net) adapter.1.2 ideal.1.2 :=
  (simulates_link bits documented configuration (blocks net)).turns
    (fun _ _ bytes mirrors => program_mirrors programs mirrors bytes) step user _ _
    (create_mirrors bits blocks configuration net) turns

/-- A network that fails the fourth request, a write that the PLC stores all the same. -/
def flakyStation : Station :=
  ⟨fun _ => Vector.replicate _ 0, fun request => if request = 3 then 1 else 0, fun _ => true, 0⟩

def flakyCalls : List (Turn (IPlcInterface.Call UInt64) CommandBuffer) :=
  [.step .connect, .step .readCommand, .move ((Vector.replicate 30 0).set! 1 0x23),
    .step .readCommand, .step (.writeStatus ⟨2, 7, 8, 9, 0, 1⟩)]

/-- The failed write leaves an error text, and the next one its status. -/
theorem block_behaves_as_link_flaky :
    let adapter := fun calls => run (logged (together
      (answer (Station.snap7 toString) (Equiv.refl UInt64))
      (fun object bytes => (object.1, object.2.program 2 bytes)) Client.relay))
      (((), create .initial, flakyStation), []) calls
    let again := flakyCalls ++ [.step (.writeStatus ⟨2, 7, 8, 9, 0, 2⟩)]
    (adapter flakyCalls).1.2.1.lastError ≠ "" ∧ (adapter again).1.2.1.lastError = "" ∧
      (adapter again).1.2.2.blocks.statusBytes 2 =
        encodeStatus (Equiv.refl UInt64) ⟨2, 7, 8, 9, 0, 2⟩ := by
  intro adapter again
  have link := block_behaves_as_link (Equiv.refl UInt64) (Station.documented toString) .initial
    (Station.programs 2) flakyStation Client.relay ()
  obtain ⟨_, _, refused⟩ := link flakyCalls
  obtain ⟨_, _, written⟩ := link again
  refine ⟨fun empty => absurd (refused.error.mp empty) (by decide +kernel),
    written.error.mpr (by decide +kernel), written.status _ (by decide +kernel)⟩

end S7Plc

end MotionBridge
