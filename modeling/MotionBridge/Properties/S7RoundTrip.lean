import MotionBridge.Properties.EmergencyResponse

/-!
# The round trip over a data block

The worker knows whether the PLC is connected, so over a network that has come to serve every
request it gets the answers of a PLC that asks for one command. From the bytes of the command
to those of the status, the axis follows in time.
-/
namespace MotionBridge

open Foundation

namespace PlcLink

variable {R N : Type} {deliver : IPlcInterface.Network R N}

theorem answer_connected (link : PlcLink R N) (request : IPlcInterface.Call R)
    (exchanges : request ≠ .connect ∧ request ≠ .disconnect) :
    (answer deliver link request).1.connected = link.connected := by
  cases request with
  | connect => exact absurd rfl exchanges.1
  | disconnect => exact absurd rfl exchanges.2
  | readCommand | writeStatus =>
    simp only [answer]
    split_ifs <;> rfl

/-- The PLC asks for this command, over a network that lets every call to come through. -/
structure Serving (serving : N → Prop) (command : PlcCommandData R) (link : PlcLink R N) : Prop where
  command : link.command = some command
  healthy : serving link.network

theorem Serving.answer {M : Type} {moves : N → M → N} {serving : N → Prop}
    (serves : deliver.Serves moves serving) {command : PlcCommandData R} (link : PlcLink R N)
    (request : IPlcInterface.Call R) (asks : link.Serving serving command) :
    (PlcLink.answer deliver link request).1.Serving serving command :=
  ⟨(link.answer_command request).trans asks.command, link.serves_answer serves request asks.healthy⟩

end PlcLink

namespace PlcCommunicationWorker

variable {R N : Type} (deliver : IPlcInterface.Network R N)

/-- A link in front of the worker is connected as its calls say. -/
theorem exchange_linked (worker : PlcCommunicationWorker R) (lucky : Bool) (link : PlcLink R N)
    (log : List (Event R)) (same : link.connected = linked log) :
    let outcome := (worker.exchange lucky).serve (PlcLink.answer deliver) link
    outcome.1.connected = linked (log ++ outcome.2.2) := by
  cases running : worker.thread with
  | none =>
    simp only [exchange, running, Client.serve_done, List.append_nil]
    exact same
  | some thread =>
    simp only [exchange, running, runExchange]
    cases point : thread.point with
    | connect =>
      simp only [Client.serve_call, Client.serve_done, run, point]
      cases served : link.served deliver .connect with
      | true => simp [PlcLink.answer, served, linked_snoc]
      | false => simp [PlcLink.answer, served, linked_snoc]
    | readCommand =>
      have kept : (PlcLink.answer deliver link .readCommand).1.connected = link.connected :=
        link.answer_connected .readCommand ⟨by simp, by simp⟩
      simp only [Client.serve_call]
      cases reply : (PlcLink.answer deliver link .readCommand).2 with
      | none =>
        simp only [Option.isSome_none, Bool.false_eq_true, if_false, Client.serve_call,
          Client.serve_done, run, point]
        rw [← List.singleton_append, ← List.append_assoc, linked_snoc]
        rfl
      | some read =>
        simp only [Option.isSome_some, if_true, Client.serve_done, run, point]
        rw [linked_snoc]
        exact kept.trans same
    | writeStatus snapshot =>
      have kept : (PlcLink.answer deliver link (.writeStatus snapshot.value)).1.connected =
        link.connected := link.answer_connected _ ⟨by simp, by simp⟩
      simp only [Client.serve_call]
      cases reply : (PlcLink.answer deliver link (.writeStatus snapshot.value)).2 with
      | false =>
        simp only [Bool.false_eq_true, if_false, Client.serve_call, Client.serve_done, run, point]
        rw [← List.singleton_append, ← List.append_assoc, linked_snoc]
        rfl
      | true =>
        simp only [if_true, Client.serve_done, run, point]
        rw [linked_snoc]
        exact kept.trans same
    | disconnect =>
      simp only [Client.serve_call, Client.serve_done, run, point]
      rw [linked_snoc]
      rfl
    | readStatus =>
      simp only [Client.serve_done, run, point]
      cases worker.statusMailbox.read <;> simpa using same
    | head | lockCommand | lockStatus | finished =>
      simpa [run, point] using same
    | sleepReconnect | publishCommand | sleepCycle =>
      simpa [run, point, linked_snoc] using same

variable {deliver}

/-- A network that serves the worker gives it the answers of a PLC that nothing can happen to. -/
theorem exchange_serving {M : Type} {moves : N → M → N} {serving : N → Prop}
    (serves : deliver.Serves moves serving) {worker : PlcCommunicationWorker R} {log : List (Event R)}
    {command : PlcCommandData R} {link : PlcLink R N} (session : Session worker log)
    (same : link.connected = linked log) (asks : link.Serving serving command) :
    ((worker.exchange true).serve (PlcLink.answer deliver) link).2 = worker.work (.served command) := by
  have served (request : IPlcInterface.Call R) : link.served deliver request = true :=
    (serves.call _ request asks.healthy).1
  cases running : worker.thread with
  | none => simp only [exchange, work, running, Client.serve_done]
  | some thread =>
    simp only [exchange, work, running, runExchange]
    have stands := session.stands thread running
    rw [session.flag, ← same] at stands
    cases point : thread.point with
    | connect =>
      simp only [Client.serve_call, Client.serve_done, PlcLink.answer, served, run, point,
        Answers.served]
    | readCommand =>
      have opened := stands true (by rw [point]; rfl)
      have reply := link.answer_read opened (if_pos (served .readCommand))
      rw [asks.command] at reply
      simp only [Client.serve_call, reply, Option.isSome_some, if_true, Client.serve_done, run, point,
        Answers.served]
    | writeStatus snapshot =>
      have opened := stands true (by rw [point]; rfl)
      have reply := link.answer_write snapshot.value opened (served _)
      simp only [Client.serve_call, reply, if_true, Client.serve_done, run, point, Answers.served]
    | disconnect => simp only [Client.serve_call, Client.serve_done, run, point]
    | lockCommand | lockStatus =>
      simp only [Client.serve_done, run, point, Answers.served]
      rfl
    | _ => simp only [Client.serve_done, run, point]

end PlcCommunicationWorker

namespace AsyncSystem

open PlcCommunicationWorker (Session linked)

variable {R N M : Type} [Double R] (deliver : IPlcInterface.Network R N)

/-- With a link in front of the worker. -/
def withLink (asks : M → Option (PlcCommandData R)) (moves : N → M → N) :
    (AsyncSystem R × PlcLink R N) × List (Event R) → Turn (Task R) M →
      (AsyncSystem R × PlcLink R N) × List (Event R) :=
  logged (together (PlcLink.answer deliver) (PlcLink.program asks moves) exchange)

theorem exchange_linked (system : AsyncSystem R) (task : Task R) (link : PlcLink R N)
    (log : List (Event R)) (same : link.connected = linked (calls log)) :
    let outcome := (system.exchange task).serve (PlcLink.answer deliver) link
    outcome.1.connected = linked (calls (log ++ outcome.2.2)) := by
  simp only [calls_append]
  cases task with
  | start | requestStop | join => simpa [exchange, act, calls] using same
  | work lucky =>
    rw [exchange, Client.serve_bind]
    simp only [Client.serve_done, calls_worker]
    exact system.worker.exchange_linked deliver lucky link (calls log) same
  | control dt lucky =>
    simp only [exchange, Client.serve_done, act, calls_advance, List.append_nil]
    exact same

/-- What the worker has made of the connection, after any run. -/
structure Underway (both : (AsyncSystem R × PlcLink R N) × List (Event R)) : Prop where
  session : Session both.1.1.worker (calls both.2)
  linked : both.1.2.connected = linked (calls both.2)

theorem underway_turn (asks : M → Option (PlcCommandData R)) (moves : N → M → N)
    {both : (AsyncSystem R × PlcLink R N) × List (Event R)} (turn : Turn (Task R) M)
    (underway : Underway both) : Underway (withLink deliver asks moves both turn) := by
  cases turn with
  | step task =>
    obtain ⟨action, user⟩ := exchange_act (PlcLink.answer deliver) both.1.1 task both.1.2
    refine ⟨?_, exchange_linked deliver both.1.1 task both.1.2 both.2 underway.linked⟩
    simp only [withLink, logged, together, user]
    exact session_act action underway.session
  | move move =>
    simp only [withLink, logged, together, List.append_nil]
    exact ⟨underway.session, underway.linked⟩

theorem underway_run (asks : M → Option (PlcCommandData R)) (moves : N → M → N)
    (configuration : PlcCommunicationWorker.Configuration) (supervisor : AsyncPlcSupervisor R)
    (link : PlcLink R N) (closed : link.connected = false) (turns : List (Turn (Task R) M)) :
    Underway (run (withLink deliver asks moves) ((fresh configuration supervisor, link), []) turns) :=
  run_always (withLink deliver asks moves) Underway
    (fun _ turn underway => underway_turn deliver asks moves turn underway) _
    turns ⟨session_observe configuration supervisor [], closed⟩

/-- The same step in front of a PLC that nothing can happen to. -/
def Task.served (command : PlcCommandData R) : Task R → Action R
  | .start => .start
  | .requestStop => .requestStop
  | .join => .join
  | .work lucky => .work ⟨true, some command, lucky, true⟩
  | .control dtSeconds lucky => .control dtSeconds lucky

variable {deliver} {moves : N → M → N} {serving : N → Prop}

theorem exchange_serving (serves : deliver.Serves moves serving) {command : PlcCommandData R}
    {both : (AsyncSystem R × PlcLink R N) × List (Event R)} (task : Task R)
    (underway : Underway both) (asking : both.1.2.Serving serving command)
    (smooth : Smooth command both.1.1 (task.served command)) :
    ((both.1.1.exchange task).serve (PlcLink.answer deliver) both.1.2).2 =
      both.1.1.act (task.served command) := by
  cases task with
  | start | requestStop | join => rfl
  | work lucky =>
    obtain ⟨answers, _⟩ := smooth
    have lucky : lucky = true := congrArg PlcCommunicationWorker.Answers.lucky answers
    subst lucky
    have worker :=
      PlcCommunicationWorker.exchange_serving serves underway.session underway.linked asking
    simp only [exchange, Client.serve_bind, worker]
    rfl
  | control dt lucky => rfl

/-- While nothing has to be dropped, the run is one in front of such a PLC. -/
theorem serving_run (serves : deliver.Serves moves serving) (asks : M → Option (PlcCommandData R))
    {command : PlcCommandData R} {both : (AsyncSystem R × PlcLink R N) × List (Event R)}
    (underway : Underway both) (asking : both.1.2.Serving serving command) (tasks : List (Task R))
    (smooth : Along (fun system action => (act system action).1) (Smooth command) both.1.1
      (tasks.map (Task.served command))) :
    let later := run (withLink deliver asks moves) both (tasks.map .step)
    (later.1.1, later.2) = run (logged act) (both.1.1, both.2) (tasks.map (Task.served command)) := by
  induction tasks generalizing both with
  | nil => rfl
  | cons task tasks ih =>
    have user := exchange_serving serves task underway asking smooth.1
    have next : ((withLink deliver asks moves both (.step task)).1.1,
        (withLink deliver asks moves both (.step task)).2) =
          logged act (both.1.1, both.2) (task.served command) := by
      simp only [withLink, logged, together, user]
    have still : (withLink deliver asks moves both (.step task)).1.2.Serving serving command :=
      Client.serve_invariant (PlcLink.answer deliver) (PlcLink.Serving serving command)
        (fun link request asking => asking.answer serves link request) _ _ asking
    rw [List.map_cons, List.map_cons, run_cons, run_cons, ← next]
    refine ih (underway_turn deliver asks moves (.step task) underway) still ?_
    have moved := congrArg Prod.fst next
    simp only at moved
    rw [moved]
    exact smooth.2

/-- Once the network lets every call through and the PLC asks for this command, the run goes on
as in front of a PLC that nothing can happen to, whatever became of the connection before. -/
theorem run_served (serves : deliver.Serves moves serving) (asks : M → Option (PlcCommandData R))
    (configuration : PlcCommunicationWorker.Configuration) (supervisor : AsyncPlcSupervisor R)
    (link : PlcLink R N) (closed : link.connected = false) (before : List (Turn (Task R) M))
    (move : M) {command : PlcCommandData R} (asking : asks move = some command) :
    let start := run (withLink deliver asks moves) ((fresh configuration supervisor, link), []) before
    serving start.1.2.network →
    ∃ actions, (start.1.1, start.2) = (fresh configuration supervisor).observe actions ∧
      ∀ tasks : List (Task R),
        Along (fun system action => (act system action).1) (Smooth command) start.1.1
          (tasks.map (Task.served command)) →
        let later := run (withLink deliver asks moves) ((fresh configuration supervisor, link), [])
          (before ++ .move move :: tasks.map .step)
        (later.1.1, later.2) = (fresh configuration supervisor).observe
          (actions ++ tasks.map (Task.served command)) := by
  intro start healthy
  obtain ⟨actions, same⟩ : ∃ actions,
      (start.1.1, start.2) = (fresh configuration supervisor).observe actions :=
    together_open (fun system task link => exchange_act (PlcLink.answer deliver) system task link)
      _ link before
  refine ⟨actions, same, ?_⟩
  intro tasks smooth later
  have underway := underway_run deliver asks moves configuration supervisor link closed before
  change Underway start at underway
  have moved : later = run (withLink deliver asks moves)
      (withLink deliver asks moves start (.move move)) (tasks.map .step) := run_append _ _ _ _
  have asked : (withLink deliver asks moves start (.move move)).1.2.Serving serving command :=
    ⟨asking, serves.move _ _ healthy⟩
  have served := serving_run serves asks (underway_turn deliver asks moves (.move move) underway)
    asked tasks smooth
  rw [moved, observe_append, ← same]
  simpa [withLink, logged, together] using served

/-- The worker runs and is not asked to stop, and from here on the two threads take these
steps, at which nothing would have to be dropped if the PLC served this command. -/
structure Prompt (system : AsyncSystem R) (first second third : List (Task R))
    (command : PlcCommandData R) : Prop where
  running : ∃ thread, system.worker.thread = some thread ∧ thread.stopRequested = false
  smooth : Along (fun system action => (act system action).1) (Smooth command) system
    ((first ++ second ++ third).map (Task.served command))
  works : 11 ≤ (first.map (Task.served command)).countP Action.isWork
  controls : 8 ≤ (second.map (Task.served command)).countP Action.isControl
  writes : 10 ≤ (third.map (Task.served command)).countP Action.isWork

/-! ### With the data block in front of the worker -/

section Block

variable {bits : R ≃ UInt64} {Net : Type} {snap7 : Snap7 Net}
  {program : Net → S7DbLayout.CommandBuffer → Net} {blocks : Net → S7Plc.Blocks}
  {s7 : S7Plc.Configuration} {serving : Net → Prop}

/-- Once the network lets every call through. -/
theorem s7_served (documented : snap7.Documented blocks)
    (programs : S7Plc.Programs program blocks s7.dbNumber)
    (serves : (S7Plc.network bits snap7 s7).Serves program serving) (net : Net)
    (configuration : PlcCommunicationWorker.Configuration)
    (supervisor : AsyncPlcSupervisor R) (before : List (Turn (Task R) S7DbLayout.CommandBuffer))
    (bytes : S7DbLayout.CommandBuffer) {started : (AsyncSystem R × S7Plc × Net) × List (Event R)}
    (begins : withS7 exchange (fresh configuration supervisor) bits snap7 program s7 net before =
      started)
    (healthy : serving started.1.2.2) :
    ∃ actions, (started.1.1, started.2) = (fresh configuration supervisor).observe actions ∧
      ∀ tasks : List (Task R),
        Along (fun system action => (act system action).1)
          (Smooth (S7DbLayout.decodeCommand bits.symm bytes)) started.1.1
          (tasks.map (Task.served (S7DbLayout.decodeCommand bits.symm bytes))) →
        let later := withS7 exchange (fresh configuration supervisor) bits snap7 program s7 net
          (before ++ .move bytes :: tasks.map .step)
        (later.1.1, later.2) = (fresh configuration supervisor).observe
          (actions ++ tasks.map (Task.served (S7DbLayout.decodeCommand bits.symm bytes))) := by
  have view := withS7_mirrors exchange (fresh configuration supervisor) bits documented s7 programs net
  obtain ⟨users, log, mirrors⟩ := view before
  rw [begins] at users log mirrors
  obtain ⟨actions, history, goes⟩ := run_served serves
    (fun bytes => some (S7DbLayout.decodeCommand bits.symm bytes)) configuration supervisor
    (S7Plc.link bits blocks s7 net) rfl before bytes rfl (mirrors.network.symm ▸ healthy)
  rw [withLink, ← users, ← log] at history
  rw [withLink, ← users] at goes
  refine ⟨actions, history, ?_⟩
  intro tasks smooth later
  obtain ⟨laterUsers, laterLog, _⟩ := view (before ++ .move bytes :: tasks.map .step)
  have same := goes tasks smooth
  rw [← same]
  exact Prod.ext laterUsers laterLog

theorem s7_told (documented : snap7.Documented blocks)
    (programs : S7Plc.Programs program blocks s7.dbNumber) (net : Net)
    (configuration : PlcCommunicationWorker.Configuration)
    (supervisor : AsyncPlcSupervisor R) (turns : List (Turn (Task R) S7DbLayout.CommandBuffer))
    {status : PlcStatusData R} :
    let real := withS7 exchange (fresh configuration supervisor) bits snap7 program s7 net turns
    lastTold real.2 = some status →
      (blocks real.1.2.2).statusBytes s7.dbNumber = S7DbLayout.encodeStatus bits status := by
  intro real told
  obtain ⟨_, log, mirrors⟩ :=
    withS7_mirrors exchange (fresh configuration supervisor) bits documented s7 programs net turns
  have tracked := tracked_run (S7Plc.network bits snap7 s7)
    (fun bytes => some (S7DbLayout.decodeCommand bits.symm bytes)) program configuration supervisor
    (S7Plc.link bits blocks s7 net) turns
  exact mirrors.status status (tracked.told status (log.symm ▸ told))

end Block

/-- Whatever has happened before, over any network: once the network lets every call through and
the PLC program has written the bytes of a command, eleven steps of the worker and eight of the
control thread are enough for every later update to have that command in force, and ten more
steps of the worker for the data block to hold the bytes of the status of such an update. If
it is an emergency stop, the axis reports it, and so does the data block. -/
theorem s7_round_trip (bits : R ≃ UInt64) {Net : Type} {snap7 : Snap7 Net}
    {program : Net → S7DbLayout.CommandBuffer → Net} {blocks : Net → S7Plc.Blocks}
    (documented : snap7.Documented blocks) (s7 : S7Plc.Configuration)
    (programs : S7Plc.Programs program blocks s7.dbNumber) {serving : Net → Prop}
    (serves : (S7Plc.network bits snap7 s7).Serves program serving) (net : Net)
    (configuration : PlcCommunicationWorker.Configuration)
    (worker : PlcCommunicationWorker R)
    (workerCreated : PlcCommunicationWorker.create configuration = .ok worker)
    (timeout : R) (controlLoop : ControlLoop R) (supervisor : AsyncPlcSupervisor R)
    (created : AsyncPlcSupervisor.create timeout controlLoop = .ok supervisor)
    (before : List (Turn (Task R) S7DbLayout.CommandBuffer)) (bytes : S7DbLayout.CommandBuffer)
    (first second third : List (Task R))
    (started outcome : (AsyncSystem R × S7Plc × Net) × List (Event R))
    (begins : withS7 exchange (create worker supervisor) bits snap7 program s7 net before = started)
    (ends : withS7 exchange (create worker supervisor) bits snap7 program s7 net
      (before ++ .move bytes :: (first ++ second ++ third).map .step) = outcome)
    (healthy : serving started.1.2.2)
    (prompt : Prompt started.1.1 first second third (S7DbLayout.decodeCommand bits.symm bytes))
    (published : (published outcome.2).length < 2 ^ 64)
    (reported : (reported outcome.2).length < 2 ^ 64) :
    let command := decodePlcCommand (S7DbLayout.decodeCommand bits.symm bytes)
    let stops := command.powerAvailable = true ∧ command.emergencyStop = true
    (∃ final, outcome.2 = (withS7 exchange (create worker supervisor) bits snap7 program s7 net
          (before ++ .move bytes :: (first ++ second).map .step)).2 ++ final ∧
      ∀ update sample inForce, .update update sample inForce ∈ final →
        inForce = command ∧ (stops → update.status.state = .emergencyStop)) ∧
    ∃ late update sample status, outcome.2 = started.2 ++ late ∧
      .update update sample command ∈ late ∧ update.published = some status ∧
      (blocks outcome.1.2.2).statusBytes s7.dbNumber = S7DbLayout.encodeStatus bits status ∧
      (stops → status.statusWord &&& PlcStatusBit.emergencyStop ≠ 0) := by
  have same := fresh_of_create workerCreated supervisor
  have left := delivered_run workerCreated created
  rw [same] at begins ends left ⊢
  obtain ⟨actions, history, goes⟩ := s7_served documented programs serves net configuration
    supervisor before bytes begins healthy
  generalize S7DbLayout.decodeCommand bits.symm bytes = asked at goes prompt ⊢
  intro command stops
  -- the run is one in front of a PLC that nothing can happen to
  have whole : outcome.2 = ((fresh configuration supervisor).observe
      (actions ++ first.map (Task.served asked) ++ second.map (Task.served asked) ++
        third.map (Task.served asked))).2 := by
    have here := congrArg Prod.snd (goes (first ++ second ++ third) prompt.smooth)
    simp only [ends] at here
    simpa only [List.map_append, List.append_assoc] using here
  have sampled : (withS7 exchange (fresh configuration supervisor) bits snap7 program s7 net
      (before ++ .move bytes :: (first ++ second).map .step)).2 =
        ((fresh configuration supervisor).observe (actions ++ first.map (Task.served asked) ++
          second.map (Task.served asked))).2 := by
    have smooth := prompt.smooth
    rw [List.map_append] at smooth
    have here := congrArg Prod.snd (goes (first ++ second) ((along_append _ _ _ _ _).mp smooth).1)
    simpa only [List.map_append, List.append_assoc] using here
  have setting : Setting (fresh configuration supervisor) actions (first.map (Task.served asked))
      (second.map (Task.served asked)) (third.map (Task.served asked))
      asked := by
    refine ⟨?_, ?_, prompt.works, prompt.controls, prompt.writes, whole ▸ published, whole ▸ reported⟩
    · rw [← history]
      exact prompt.running
    · rw [← history]
      simpa only [List.map_append] using prompt.smooth
  obtain ⟨middle, final, status, lately, log, follows, answered, told⟩ :=
    answered_in_time configuration supervisor setting
  have halts := halts_observe (fresh configuration supervisor) (actions ++
    first.map (Task.served asked) ++ second.map (Task.served asked) ++ third.map (Task.served asked))
  have inForce := (left _ setting.published).left
  rw [← whole] at log halts inForce told
  change ∀ event ∈ outcome.2, LeftInForce event at inForce
  constructor
  · refine ⟨final, by rw [sampled, log, lately, List.append_assoc], ?_⟩
    intro update sample force member
    obtain ⟨found, rfl, rfl⟩ := follows _ member
    have inside : .update update (some found) force ∈ outcome.2 :=
      log ▸ List.mem_append_right _ (List.mem_append_right _ member)
    refine ⟨inForce _ inside, ?_⟩
    rintro ⟨power, emergency⟩
    exact (halted_sample inForce halts inside power emergency).1
  · obtain ⟨early, grown⟩ : ∃ early, ((fresh configuration supervisor).observe
        (actions ++ first.map (Task.served asked))).2 = started.2 ++ early := by
      rw [observe_from, ← history]
      exact ⟨_, rfl⟩
    obtain ⟨update, sample, force, member, rfl, published⟩ := answered
    have inside : .update update (some sample) force ∈ outcome.2 :=
      log ▸ List.mem_append_right _ member
    have taken : force = decodePlcCommand sample.value := inForce _ inside
    subst taken
    refine ⟨early ++ (middle ++ final), update, some sample, status, ?_,
      List.mem_append_right _ member, published, ?_, ?_⟩
    · rw [log, grown, List.append_assoc]
    -- what the PLC was told last is what the block holds
    · rw [← ends] at told ⊢
      exact s7_told documented programs net configuration supervisor _ told
    · rintro ⟨power, emergency⟩
      exact (halted_sample inForce halts inside power emergency).2 status published

/-! ### An example -/

def fixedWorker : PlcCommunicationWorker FixedPoint :=
  ⟨.initial, .initial, .initial, none, false, ⟨0, 0, 0⟩⟩

theorem fixedSupervisor_created :
    AsyncPlcSupervisor.create 0.10 fixedLoop = .ok fixedSupervisor := by
  have timeout : 0 < (0.10 : FixedPoint) ∧ Double.isfinite (0.10 : FixedPoint) = true :=
    fixedSupervisor.watchdog.accepted
  simp only [AsyncPlcSupervisor.create, Watchdog.create, dif_pos timeout, bind, Except.bind]
  rfl

/-- The first request fails. -/
def busyStation : S7Plc.Station :=
  ⟨fun _ => Vector.replicate _ 0, fun request => if request = 0 then 1 else 0, fun _ => false, 0⟩

def refusedOnce : List (Turn (Task FixedPoint) S7DbLayout.CommandBuffer) :=
  .step .start :: List.replicate 3 (.step (.work true))

/-- After a connection that is refused, the PLC asks for an emergency stop. -/
theorem s7_round_trip_emergency :
    let outcome := withS7 exchange (create fixedWorker fixedSupervisor) FixedPoint.equivBits
      (S7Plc.Station.snap7 toString) (·.program 2) .initial busyStation
      (refusedOnce ++ .move emergencyBytes :: (works 12 ++ ticks 8 ++ works 10).map .step)
    ∃ status, outcome.1.2.2.blocks.statusBytes 2 =
        S7DbLayout.encodeStatus FixedPoint.equivBits status ∧
      status.statusWord &&& PlcStatusBit.emergencyStop ≠ 0 := by
  have healthy : ∀ request, 1 ≤ request → busyStation.results request = 0 :=
    fun request later => if_neg (by omega)
  obtain ⟨_, _, _, _, status, _, _, _, bytes, stopped⟩ :=
    s7_round_trip FixedPoint.equivBits (S7Plc.Station.documented toString) .initial
      (S7Plc.Station.programs 2) (station_serves _ toString .initial) busyStation .initial fixedWorker
      rfl 0.10 fixedLoop fixedSupervisor fixedSupervisor_created refusedOnce emergencyBytes (works 12)
      (ticks 8) (works 10) _ _ rfl rfl healthy
      ⟨⟨⟨.head, false, 0⟩, by decide +kernel⟩, by decide +kernel, by decide +kernel,
        by decide +kernel, by decide +kernel⟩ (by decide +kernel) (by decide +kernel)
  exact ⟨status, bytes, stopped (by decide +kernel)⟩

end AsyncSystem

end MotionBridge
