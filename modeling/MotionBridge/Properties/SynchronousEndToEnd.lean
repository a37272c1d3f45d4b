import MotionBridge.Properties.EndToEnd
import MotionBridge.Properties.PollRate

/-!
# The synchronous way from the data block to the axis and back

One thread polls the PLC, steps the loop and tells the PLC, all in one call. What it takes over
is in force at once, and what it tells is numbered without a gap.
-/
namespace MotionBridge

open Foundation

theorem PlcLink.answer_write_failed {R N : Type} {deliver : IPlcInterface.Network R N}
    (link : PlcLink R N) (status : PlcStatusData R)
    (fine : (answer deliver link (.writeStatus status)).1.failed = false) :
    (answer deliver link (.writeStatus status)).1.status = some status := by
  cases opened : link.connected with
  | true =>
    rw [link.answer_write status opened rfl] at fine ⊢
    exact if_pos (by simpa using fine)
  | false =>
    rw [link.answer_write_closed status opened] at fine
    cases fine

namespace PlcSupervisor

open AsyncSystem (asked asked_step asked_move asked_retraces)

variable {R N : Type} [Double R] (deliver : IPlcInterface.Network R N)

/-- The commands taken over from the PLC. -/
def heard (log : List (Update R)) : List (PlcCommandData R) := log.filterMap Update.command

omit [Double R] in
@[simp] theorem heard_append (log events : List (Update R)) :
    heard (log ++ events) = heard log ++ heard events := List.filterMap_append

/-- What became of the task of a supervisor in front of a link. -/
structure Served (supervisor : PlcSupervisor R) (link next : PlcLink R N)
    (outcome : PlcSupervisor R × List (Update R)) : Prop where
  update : outcome = (supervisor, []) ∨ ∃ input, outcome = supervisor.next input
  command : next.command = link.command
  heard : heard outcome.2 = [] ∨
    ∃ command, heard outcome.2 = [command] ∧ link.command = some command
  -- the last call of an update that sends a status is that of `write_status`
  told : ∀ update, outcome.2 = [update] → ∀ status, update.published = some status →
    next.failed = false → next.status = some status

/-- Only a command that was read is taken over. -/
theorem update_takes (supervisor : PlcSupervisor R) (dt : R) (reply : Option (PlcCommandData R)) :
    heard [(supervisor.update dt reply).2] = [] ∨
      ∃ command, heard [(supervisor.update dt reply).2] = [command] ∧ reply = some command := by
  by_cases due : supervisor.Due dt
  · have taken := (supervisor.update_polled dt reply due).2
    cases reply with
    | none => exact Or.inl (by simp [heard, taken])
    | some command => exact Or.inr ⟨command, by simp [heard, taken], rfl⟩
  · have silent := (supervisor.update_waited dt reply due).2
    exact Or.inl (by simp [heard, silent])

theorem exchange_served (supervisor : PlcSupervisor R) (dt : R) (link : PlcLink R N) :
    let outcome := (supervisor.exchange dt).serve (PlcLink.answer deliver) link
    Served supervisor link outcome.1 outcome.2 := by
  intro outcome
  by_cases due : supervisor.Due dt
  · have polls : supervisor.pollElapsedSeconds + dt ≥ supervisor.configuration.pollPeriodSeconds := due
    have command : (PlcLink.answer deliver link .readCommand).1.command = link.command :=
      link.answer_command _
    obtain ⟨status, published⟩ : ∃ status,
        (supervisor.update dt (PlcLink.answer deliver link .readCommand).2).2.published = some status :=
      ⟨_, (supervisor.update_sent dt (PlcLink.answer deliver link .readCommand).2 due).1⟩
    have served : outcome =
        ((PlcLink.answer deliver (PlcLink.answer deliver link .readCommand).1
          (.writeStatus status)).1,
        supervisor.next ⟨dt, (PlcLink.answer deliver link .readCommand).2⟩) := by
      simp only [outcome, exchange, if_pos polls, Client.serve_call, published, Client.serve_done]
      rfl
    rw [served]
    refine ⟨Or.inr ⟨_, rfl⟩, ?_, ?_, ?_⟩
    · exact (PlcLink.answer_command _ _).trans command
    · rcases supervisor.update_takes dt (PlcLink.answer deliver link .readCommand).2 with
        none | ⟨read, taken, reply⟩
      · exact Or.inl none
      · exact Or.inr ⟨read, taken, link.answer_read_some reply⟩
    · rintro update same status sends fine
      cases same
      cases published.symm.trans sends
      exact PlcLink.answer_write_failed _ _ fine
  · have early : ¬supervisor.pollElapsedSeconds + dt ≥
        supervisor.configuration.pollPeriodSeconds := due
    have unpublished := (supervisor.update_unsent dt none due).1
    have served : outcome = (link, supervisor.next ⟨dt, none⟩) := by
      simp only [outcome, exchange, if_neg early]
      rfl
    rw [served]
    refine ⟨Or.inr ⟨_, rfl⟩, rfl, ?_, ?_⟩
    · rcases supervisor.update_takes dt none with none | ⟨_, _, reply⟩
      · exact Or.inl none
      · cases reply
    · rintro update same status sends
      cases same
      cases unpublished.symm.trans sends

theorem perform_served (supervisor : PlcSupervisor R) (task : Task R) (link : PlcLink R N) :
    let outcome := (supervisor.perform task).serve (PlcLink.answer deliver) link
    Served supervisor link outcome.1 outcome.2 := by
  cases task with
  | connect | disconnect => exact ⟨Or.inl rfl, rfl, Or.inl rfl, fun _ same => by cases same⟩
  | update dt => exact supervisor.exchange_served deliver dt link

/-- What is in force after an update. -/
theorem update_inForce (supervisor : PlcSupervisor R) (dt : R) (reply : Option (PlcCommandData R)) :
    (supervisor.update dt reply).1.controlLoop.command =
      (heard [(supervisor.update dt reply).2]).getLast?.elim supervisor.controlLoop.command
        decodePlcCommand := by
  by_cases due : supervisor.Due dt
  · have taken := (supervisor.update_polled dt reply due).2
    simp only [update, decide_due due, if_true, ControlLoop.step_command, heard]
    cases reply with
    | none => rfl
    | some command => rfl
  · simp only [update, decide_early due, Bool.false_eq_true, if_false, ControlLoop.step_command, heard]
    rfl

/-- The supervisor, the link it uses and the history of what the PLC asked for, since the
supervisor was `first`. -/
structure Tracked (first : PlcSupervisor R) (history : List (Option (PlcCommandData R)))
    (supervisor : PlcSupervisor R) (link : PlcLink R N) (log : List (Update R)) : Prop where
  numbered : Numbered first.controllerHeartbeat (supervisor, log)
  inForce : supervisor.controlLoop.command =
    (heard log).getLast?.elim first.controlLoop.command decodePlcCommand
  asking : history.getLast? = some link.command
  heard : Retraces history ((heard log).map some)

theorem tracked_step {first supervisor : PlcSupervisor R}
    {history : List (Option (PlcCommandData R))} {link next : PlcLink R N}
    {outcome : PlcSupervisor R × List (Update R)} {log : List (Update R)}
    (served : Served supervisor link next outcome)
    (tracked : Tracked first history supervisor link log) :
    Tracked first history outcome.1 next (log ++ outcome.2) := by
  refine ⟨?_, ?_, ?_, ?_⟩
  -- `connect` and `disconnect` emit nothing, and an update emits itself
  · rcases served.update with rfl | ⟨input, rfl⟩
    · rw [List.append_nil]
      exact tracked.numbered
    · exact numbered_next input tracked.numbered
  · rcases served.update with rfl | ⟨input, rfl⟩
    · rw [List.append_nil]
      exact tracked.inForce
    · rw [heard_append, List.getLast?_append]
      have taken := supervisor.update_inForce input.dtSeconds input.reply
      rw [tracked.inForce] at taken
      change (supervisor.update input.dtSeconds input.reply).1.controlLoop.command = _
      rw [taken]
      change _ = ((PlcSupervisor.heard [(supervisor.update input.dtSeconds input.reply).2]).getLast?.or
        _).elim first.controlLoop.command decodePlcCommand
      cases (PlcSupervisor.heard [(supervisor.update input.dtSeconds input.reply).2]).getLast? <;> rfl
  · rw [served.command]
    exact tracked.asking
  · rw [heard_append, List.map_append]
    -- a command taken over is what the PLC asks for now, the last of the history
    rcases served.heard with nothing | ⟨command, heard, asks⟩
    · simpa [nothing] using tracked.heard
    · rw [heard]
      exact tracked.heard.look (asks ▸ tracked.asking)

theorem tracked_run {M : Type} (asks : M → Option (PlcCommandData R)) (moves : N → M → N)
    (supervisor : PlcSupervisor R) (link : PlcLink R N) (turns : List (Turn (Task R) M)) :
    let both := run (logged (together (PlcLink.answer deliver) (PlcLink.program asks moves) perform))
      ((supervisor, link), []) turns
    Tracked supervisor (asked link.command asks turns) both.1.1 both.1.2
      both.2 := by
  induction turns using List.reverseRecOn with
  | nil => exact ⟨supervisor.fresh_numbered, rfl, rfl, .done _⟩
  | append_singleton turns turn ih =>
    simp only [run_snoc]
    generalize run (logged (together (PlcLink.answer deliver) (PlcLink.program asks moves) perform))
      ((supervisor, link), []) turns = both at ih ⊢
    cases turn with
    | step task =>
      rw [asked_step]
      exact tracked_step (both.1.1.perform_served deliver task both.1.2) ih
    | move move =>
      rw [asked_move]
      simp only [logged, together, List.append_nil]
      exact ⟨ih.numbered, ih.inForce, List.getLast?_concat, ih.heard.grow _⟩

/-- After an update that has sent a status, and without a failure. -/
theorem last_told {M : Type} (asks : M → Option (PlcCommandData R)) (moves : N → M → N)
    (supervisor : PlcSupervisor R) (link : PlcLink R N) (turns : List (Turn (Task R) M)) (dt : R) :
    let both := run (logged (together (PlcLink.answer deliver) (PlcLink.program asks moves) perform))
      ((supervisor, link), []) (turns ++ [.step (.update dt)])
    both.1.2.failed = false → ∀ update, both.2.getLast? = some update →
      ∀ status, update.published = some status → both.1.2.status = some status := by
  simp only [run_snoc]
  generalize run (logged (together (PlcLink.answer deliver) (PlcLink.program asks moves) perform))
    ((supervisor, link), []) turns = both
  have served := both.1.1.exchange_served deliver dt both.1.2
  obtain ⟨reply, next⟩ := both.1.1.exchange_update (PlcLink.answer deliver) dt both.1.2
  have alone : ((both.1.1.exchange dt).serve (PlcLink.answer deliver) both.1.2).2.2 =
      [(both.1.1.update dt reply).2] := by
    rw [next]
    rfl
  simp only [logged, together, perform]
  intro fine update last status sends
  rw [alone, List.getLast?_concat] at last
  cases last
  exact served.told _ alone status sends fine

/-- An update in the course of a run sends a status if it polls, and only then. -/
theorem sent_when_due (bits : R ≃ UInt64) {Net : Type} (snap7 : Snap7 Net)
    (program : Net → S7DbLayout.CommandBuffer → Net) (s7 : S7Plc.Configuration) (net : Net)
    (supervisor : PlcSupervisor R) (before after : List (Turn (Task R) S7DbLayout.CommandBuffer))
    (dt : R) :
    let earlier := withS7 perform supervisor bits snap7 program s7 net before
    ∃ update rest, (withS7 perform supervisor bits snap7 program s7 net
        (before ++ .step (.update dt) :: after)).2 = earlier.2 ++ update :: rest ∧
      (update.published ≠ none ↔ earlier.1.1.Due dt) := by
  intro earlier
  obtain ⟨reply, next⟩ := earlier.1.1.exchange_update (S7Plc.answer snap7 bits) dt earlier.1.2
  let step := together (S7Plc.answer snap7 bits)
    (fun object bytes => (object.1, program object.2 bytes)) perform
  have polled : (step earlier.1 (.step (.update dt))).2 = [(earlier.1.1.update dt reply).2] := by
    simp only [step, together, perform, next]
    rfl
  obtain ⟨rest, whole⟩ := run_logged_split step (supervisor, S7Plc.create s7, net) before
    (.step (.update dt)) after
  change _ = earlier.2 ++ (step earlier.1 (.step (.update dt))).2 ++ rest at whole
  rw [polled, List.append_assoc] at whole
  exact ⟨(earlier.1.1.update dt reply).2, rest, whole, update_published _ _ _⟩

/-- For every sequence of updates, connections and rewrites of the data block, over any network:
the commands taken over were in the data block, in the order in which they were there, and the
last of them is in force. The statuses sent are those of the updates that poll, each of its own
update, numbered without a gap. If `last_error` is empty after an update that has sent one, it
can be read in the data block. -/
theorem s7_synchronous (bits : R ≃ UInt64) {Net : Type} {snap7 : Snap7 Net}
    {program : Net → S7DbLayout.CommandBuffer → Net} {blocks : Net → S7Plc.Blocks}
    (documented : snap7.Documented blocks) (s7 : S7Plc.Configuration)
    (programs : S7Plc.Programs program blocks s7.dbNumber) (net : Net)
    (supervisor : PlcSupervisor R) (turns : List (Turn (Task R) S7DbLayout.CommandBuffer)) :
    let both := withS7 perform supervisor bits snap7 program s7 net turns
    let log := both.2
    let contents := asked ((blocks net).commandBytes s7.dbNumber) id turns
    Retraces (contents.map (S7DbLayout.decodeCommand bits.symm)) (heard log) ∧
      both.1.1.controlLoop.command =
        (heard log).getLast?.elim supervisor.controlLoop.command decodePlcCommand ∧
      (sent log).map PlcStatusData.controllerHeartbeat = (List.range (sent log).length).map
        (fun k => supervisor.controllerHeartbeat + UInt32.ofNat (k + 1)) ∧
      (∀ update ∈ log, ∀ status, update.published = some status →
        ∃ heartbeat, status = encodePlcStatus update.status heartbeat) ∧
      (∀ before dt after, turns = before ++ .step (.update dt) :: after →
        let earlier := withS7 perform supervisor bits snap7 program s7 net before
        ∃ update rest, log = earlier.2 ++ update :: rest ∧
          (update.published ≠ none ↔ earlier.1.1.Due dt)) ∧
      ∀ before dt, turns = before ++ [.step (.update dt)] → both.1.2.1.lastError = "" →
        ∀ update, log.getLast? = some update → ∀ status, update.published = some status →
          (blocks both.1.2.2).statusBytes s7.dbNumber = S7DbLayout.encodeStatus bits status := by
  intro both log contents
  obtain ⟨users, events, mirrors⟩ :=
    withS7_mirrors perform supervisor bits documented s7 programs net turns
  have tracked := tracked_run (S7Plc.network bits snap7 s7)
    (fun bytes => some (S7DbLayout.decodeCommand bits.symm bytes)) program supervisor
    (S7Plc.link bits blocks s7 net) turns
  have last := last_told (S7Plc.network bits snap7 s7)
    (fun bytes => some (S7DbLayout.decodeCommand bits.symm bytes)) program supervisor
    (S7Plc.link bits blocks s7 net)
  generalize linked : run (logged (together (PlcLink.answer (S7Plc.network bits snap7 s7))
    (PlcLink.program (fun bytes => some (S7DbLayout.decodeCommand bits.symm bytes)) program) perform))
      ((supervisor, S7Plc.link bits blocks s7 net), []) turns = ideal at users events mirrors tracked
  change both.1.1 = ideal.1.1 at users
  change log = ideal.2 at events
  change Tracked supervisor (asked (S7Plc.link bits blocks s7 net).command
    (fun bytes => some (S7DbLayout.decodeCommand bits.symm bytes)) turns) ideal.1.1 ideal.1.2
      ideal.2 at tracked
  rw [← users, ← events] at tracked
  refine ⟨asked_retraces tracked.heard, tracked.inForce, tracked.numbered.numbered,
    tracked.numbered.encoded, ?_, ?_⟩
  · rintro before dt after rfl
    exact sent_when_due bits snap7 program s7 net supervisor before after dt
  -- the link has failed if and only if there is an error text
  · rintro before dt rfl fine update member status sends
    have told := last before dt
    simp only at told
    rw [linked, ← events] at told
    exact mirrors.status status (told (mirrors.error.mp fine) update member status sends)

/-- The default periods. -/
def fixedPlcSupervisor : PlcSupervisor FixedPoint where
  watchdog := AsyncSystem.fixedSupervisor.watchdog
  lastPlcHeartbeat := none
  configuration := .initial
  accepted := by decide +kernel
  controlLoop := AsyncSystem.fixedLoop
  pollElapsedSeconds := 0.02
  controllerHeartbeat := 0
  communicationHealthy := false

/-- The PLC asks for an emergency stop between two polls, and the next update does not poll yet. -/
def polledTwice : List (Turn (Task FixedPoint) S7DbLayout.CommandBuffer) :=
  [.step .connect, .step (.update 0.001), .move AsyncSystem.emergencyBytes, .step (.update 0.001),
    .step (.update 0.019)]

theorem s7_synchronous_polledTwice :
    let both := withS7 perform fixedPlcSupervisor FixedPoint.equivBits (S7Plc.Station.snap7 toString)
      (·.program 2) .initial quietStation polledTwice
    (sent both.2).length = 2 ∧ both.1.1.controlLoop.command.emergencyStop = true ∧
      both.1.2.2.blocks.statusBytes 2 =
        S7DbLayout.encodeStatus FixedPoint.equivBits ⟨24, ⟨0⟩, ⟨0⟩, ⟨0⟩, 0, 2⟩ := by
  intro both
  obtain ⟨_, _, _, _, _, holds⟩ := s7_synchronous FixedPoint.equivBits
    (S7Plc.Station.documented toString) .initial (S7Plc.Station.programs 2) quietStation
    fixedPlcSupervisor polledTwice
  have here : withS7 perform fixedPlcSupervisor FixedPoint.equivBits (S7Plc.Station.snap7 toString)
    (·.program 2) .initial quietStation polledTwice = both := rfl
  simp only [here] at holds
  have last : ∃ update ∈ both.2.getLast?, update.published = some ⟨24, ⟨0⟩, ⟨0⟩, ⟨0⟩, 0, 2⟩ := by
    decide +kernel
  obtain ⟨update, member, published⟩ := last
  exact ⟨by decide +kernel, by decide +kernel,
    holds (polledTwice.take 4) 0.019 rfl (by decide +kernel) update member _ published⟩

end PlcSupervisor

end MotionBridge
