import MotionBridge.Properties.Polling

/-!
# Recovery

A latched axis whose cause has gone comes back on a single command. It carries power,
enable and the reset bit, and with it in force every step leads one state further, from
the latch through `disabled` to `ready`.
-/
namespace MotionBridge

open Foundation
open Exact (fin)
open ControllerStateMachine (Held Operational)

/-- A well-formed command that resets every latch and enables the axis. -/
structure Restoring {R : Type} [Double R] (command : MotionCommand R) : Prop where
  power : command.powerAvailable = true
  enable : command.enable = true
  reset : command.resetFault = true
  unstopped : command.stop = false
  released : command.emergencyStop = false
  wellFormed : ¬ControlLoop.Malformed command

instance {R : Type} [Double R] (command : MotionCommand R) : Decidable (Restoring command) :=
  decidable_of_iff
    (command.powerAvailable = true ∧ command.enable = true ∧ command.resetFault = true ∧
      command.stop = false ∧ command.emergencyStop = false ∧ ¬ControlLoop.Malformed command)
    ⟨fun ⟨power, enable, reset, unstopped, released, wellFormed⟩ =>
      ⟨power, enable, reset, unstopped, released, wellFormed⟩,
      fun restoring => ⟨restoring.power, restoring.enable, restoring.reset, restoring.unstopped,
        restoring.released, restoring.wellFormed⟩⟩

theorem ControllerStateMachine.free_of_operational {state : ControllerState}
    (operational : Operational state) : ¬Held state := by
  cases state with
  | fault | emergencyStop => simp [Operational] at operational
  | _ => simp [Held]

/-- An enabled axis is ready one transition after it has left the states at rest. -/
theorem ControllerStateMachine.transition_enabled {R : Type} (state : ControllerState)
    (command : MotionCommand R) (targetReached : Bool) (enable : command.enable = true)
    (unstopped : command.stop = false) :
    (¬Held state → Operational (transition state command targetReached)) ∧
      (Operational state → transition state command targetReached = .ready ∨
        transition state command targetReached = .running) := by
  cases state with
  | fault | emergencyStop => simp [Held, Operational]
  | powerOff | disabled | stopping => simp [transition, Operational, enable]
  | ready | running =>
    simp only [transition, enable, unstopped, Bool.not_true, Bool.false_eq_true, if_false]
    split_ifs <;> simp [Operational]

namespace ControlLoop

variable {R : Type} [Double R]

/-- How far a loop has come after this many steps of its recovery. -/
structure Recovering (steps : ℕ) (loop : ControlLoop R) : Prop where
  coherent : loop.stateMachine.Coherent
  operational : 1 ≤ steps → Operational loop.stateMachine.state
  served : 2 ≤ steps → loop.stateMachine.state = .ready ∨ loop.stateMachine.state = .running

/-- Under a restoring command a step leaves the latch, or follows the transitions. -/
theorem restored_machine (loop : ControlLoop R) (restoring : Restoring loop.command)
    (clear : loop.externalFault = .none) :
    (Held loop.stateMachine.state ∧ loop.nextMachine.state = .disabled) ∨
      (¬Held loop.stateMachine.state ∧ loop.nextMachine.state =
        ControllerStateMachine.transition loop.stateMachine.state loop.command
          loop.status.targetReached) := by
  have undetected : loop.detectedFault = .none :=
    (detectedFault_none loop).mpr ⟨clear, restoring.wellFormed⟩
  have outcome := nextMachine_outcome loop
  generalize loop.nextMachine = next at outcome ⊢
  cases outcome with
  | unpowered unpowered => simp [restoring.power] at unpowered
  | stopped _ emergency => simp [restoring.released] at emergency
  | faulted _ _ detected => exact absurd undetected detected
  | released _ _ _ held => exact Or.inl ⟨held, rfl⟩
  | latched _ _ _ _ unreset => simp [restoring.reset] at unreset
  | moved _ _ _ free => exact Or.inr ⟨free, rfl⟩

theorem recovering_step {steps : ℕ} {loop : ControlLoop R} (dt : R)
    (recovering : Recovering steps loop) (restoring : Restoring loop.command)
    (clear : loop.externalFault = .none) : Recovering (steps + 1) (loop.step dt) := by
  obtain ⟨leaves, serves⟩ := ControllerStateMachine.transition_enabled loop.stateMachine.state
    loop.command loop.status.targetReached restoring.enable restoring.unstopped
  have machine := restored_machine loop restoring clear
  refine ⟨apply_coherent loop (.step dt) recovering.coherent, ?_, ?_⟩
  · intro _
    rw [step_stateMachine]
    rcases machine with ⟨_, disabled⟩ | ⟨free, moved⟩
    · exact Or.inl disabled
    · exact moved ▸ leaves free
  · intro further
    rw [step_stateMachine]
    -- after one step nothing holds the axis any more
    have operational := recovering.operational (by omega)
    rcases machine with ⟨held, _⟩ | ⟨_, moved⟩
    · exact absurd held (ControllerStateMachine.free_of_operational operational)
    · exact moved ▸ serves operational

/-- With the start bit a ready axis runs in the next step. -/
theorem started_step (loop : ControlLoop R) (dt : R) (restoring : Restoring loop.command)
    (start : loop.command.start = true) (clear : loop.externalFault = .none)
    (ready : loop.stateMachine.state = .ready) : (loop.step dt).stateMachine.state = .running := by
  rw [step_stateMachine]
  exact (nextMachine_running_iff loop).mpr ⟨restoring.power, restoring.released,
    ⟨clear, restoring.wellFormed⟩, restoring.enable, Or.inr ⟨ready, start⟩⟩

end ControlLoop

/-- What a supervisor hears while it recovers: nothing, or a restoring command. -/
def Restores {R : Type} [Double R] (command : Option (PlcCommandData R)) : Prop :=
  ∀ data ∈ command, Restoring (decodePlcCommand data)

instance {R : Type} [Double R] (command : Option (PlcCommandData R)) : Decidable (Restores command) :=
  inferInstanceAs (Decidable (∀ data ∈ command, _))

namespace CommunicationMonitor

variable {K : Type} [Field K] [LinearOrder K] [SquareRoot K]

/-- The watchdog has been kicked, at most `spent` ago. -/
structure Kicked (spent : K) (monitor : CommunicationMonitor (Exact K)) : Prop where
  armed : monitor.watchdog.armed = true
  heard : monitor.lastPlcHeartbeat ≠ none
  elapsed : ∃ x, monitor.watchdog.elapsedSeconds = fin x ∧ x ≤ spent

theorem kicked_changed (monitor : CommunicationMonitor (Exact K)) (data : PlcCommandData (Exact K))
    (changed : monitor.lastPlcHeartbeat ≠ some data.heartbeat) :
    Kicked 0 (monitor.hearCommand (some data)) := by
  rw [hearCommand_changed monitor data changed]
  exact ⟨rfl, nofun, 0, rfl, le_rfl⟩

/-- Within the timeout the watchdog is alive. -/
theorem kicked_alive {spent : K} {monitor : CommunicationMonitor (Exact K)}
    (kicked : Kicked spent monitor) (timely : fin spent < monitor.watchdog.timeoutSeconds) :
    monitor.watchdog.expired = false := by
  obtain ⟨limit, isLimit, _⟩ := (Exact.validStep_iff _).mp monitor.watchdog.accepted
  obtain ⟨x, elapsed, small⟩ := kicked.elapsed
  rw [isLimit] at timely
  have below : x < limit := lt_of_le_of_lt small timely
  rw [Watchdog.expired, kicked.armed, elapsed, isLimit, Bool.true_and]
  exact decide_eq_false (not_le.mpr below)

/-- A command can only kick it again. -/
theorem kicked_hear {spent : K} {monitor : CommunicationMonitor (Exact K)} (nonneg : 0 ≤ spent)
    (command : Option (PlcCommandData (Exact K))) (kicked : Kicked spent monitor) :
    Kicked spent (monitor.hearCommand command) := by
  cases command with
  | none => exact kicked
  | some data =>
    by_cases changed : monitor.lastPlcHeartbeat ≠ some data.heartbeat
    · have again := kicked_changed monitor data changed
      obtain ⟨x, elapsed, small⟩ := again.elapsed
      exact ⟨again.armed, again.heard, x, elapsed, small.trans nonneg⟩
    · rw [hearCommand, hear, if_neg changed]
      exact kicked

variable [IsStrictOrderedRing K]

theorem kicked_advance {spent x : K} {monitor : CommunicationMonitor (Exact K)} (positive : 0 < x)
    (kicked : Kicked spent monitor) : Kicked (spent + x) (monitor.advance (fin x)) := by
  have valid : Double.ValidStep (fin x) := (Exact.validStep_iff _).mpr ⟨x, rfl, positive⟩
  obtain ⟨y, elapsed, small⟩ := kicked.elapsed
  have counted := Watchdog.advance_elapsed monitor.watchdog (fin x) kicked.armed valid
  refine ⟨(Watchdog.advance_armed _ _).trans kicked.armed, kicked.heard, y + x, ?_, by linarith⟩
  change (monitor.watchdog.advance (fin x)).elapsedSeconds = _
  rw [counted, elapsed]
  rfl

end CommunicationMonitor

/-- What an update reports in a recovery. From the second one on the axis is ready or
running, and with the start bit it is not ready twice. -/
def Recovers {R : Type} (starting : Prop) (past : List (Update R)) (update : Update R) : Prop :=
  update.status.fault = .none ∧ Operational update.status.state ∧
    (past ≠ [] → update.status.state = .ready ∨ update.status.state = .running) ∧
    (starting → ∀ last ∈ past.getLast?, last.status.state = .ready → update.status.state = .running)

section Recovered

variable {K : Type} [Field K] [LinearOrder K] [SquareRoot K]

/-- A supervisor after some updates of its recovery, with a new command heard or not. -/
structure Recovered (starting : Prop) (timeout : Exact K) (spent : K)
    (monitor : CommunicationMonitor (Exact K)) (loop : ControlLoop (Exact K))
    (updates : List (Update (Exact K))) : Prop where
  timeout_eq : monitor.watchdog.timeoutSeconds = timeout
  kicked : monitor.Kicked spent
  restoring : Restoring loop.command
  start : starting → loop.command.start = true
  recovering : loop.Recovering updates.length
  last : ∀ update ∈ updates.getLast?, update.status.state = loop.stateMachine.state
  reported : Throughout (Recovers starting) updates

/-- It begins with a new heartbeat on a restoring command. -/
theorem recovered_begin {starting : Prop} {timeout : Exact K}
    {monitor : CommunicationMonitor (Exact K)} {loop : ControlLoop (Exact K)}
    {data : PlcCommandData (Exact K)} (isTimeout : monitor.watchdog.timeoutSeconds = timeout)
    (changed : monitor.lastPlcHeartbeat ≠ some data.heartbeat)
    (coherent : loop.stateMachine.Coherent) (restoring : Restoring (decodePlcCommand data))
    (start : starting → (decodePlcCommand data).start = true) :
    Recovered starting timeout 0 (monitor.hearCommand (some data)) (loop.setPlcCommand (some data))
      [] := by
  refine ⟨?_, CommunicationMonitor.kicked_changed monitor data changed, restoring, start, ?_, ?_,
    throughout_nil _⟩
  · rw [CommunicationMonitor.hearCommand_timeout, isTimeout]
  · refine ⟨coherent, ?_, ?_⟩
    · intro none
      simp at none
    · intro none
      simp at none
  · intro update member
    simp at member

theorem recovered_hear {starting : Prop} {timeout : Exact K} {spent : K}
    {monitor : CommunicationMonitor (Exact K)} {loop : ControlLoop (Exact K)}
    {updates : List (Update (Exact K))} (command : Option (PlcCommandData (Exact K)))
    (restores : Restores command)
    (starts : starting → ∀ data ∈ command, (decodePlcCommand data).start = true)
    (nonneg : 0 ≤ spent) (recovered : Recovered starting timeout spent monitor loop updates) :
    Recovered starting timeout spent (monitor.hearCommand command) (loop.setPlcCommand command)
      updates := by
  have kicked := CommunicationMonitor.kicked_hear nonneg command recovered.kicked
  cases command with
  | none => exact recovered
  | some data =>
    refine ⟨?_, kicked, restores data rfl, fun starting => starts starting data rfl, ?_,
      recovered.last, recovered.reported⟩
    · rw [CommunicationMonitor.hearCommand_timeout, recovered.timeout_eq]
    · exact ⟨recovered.recovering.coherent, recovered.recovering.operational,
        recovered.recovering.served⟩

variable [IsStrictOrderedRing K]

theorem recovered_alive {starting : Prop} {timeout : Exact K} {spent x : K}
    {monitor : CommunicationMonitor (Exact K)} {loop : ControlLoop (Exact K)}
    {updates : List (Update (Exact K))} (positive : 0 < x) (timely : fin (spent + x) < timeout)
    (recovered : Recovered starting timeout spent monitor loop updates) :
    (monitor.advance (fin x)).watchdog.expired = false := by
  have isTimeout : (monitor.advance (fin x)).watchdog.timeoutSeconds = timeout :=
    (Watchdog.advance_timeout _ _).trans recovered.timeout_eq
  have kicked := CommunicationMonitor.kicked_advance positive recovered.kicked
  exact CommunicationMonitor.kicked_alive kicked (isTimeout ▸ timely)

/-- One update, with the watchdog alive. -/
theorem recovered_elapse {starting : Prop} {timeout : Exact K} {spent x : K}
    {monitor : CommunicationMonitor (Exact K)} {loop : ControlLoop (Exact K)}
    {updates : List (Update (Exact K))} (update : Update (Exact K)) (positive : 0 < x)
    (recovered : Recovered starting timeout spent monitor loop updates)
    (reported : update.status = ((loop.setExternalFault .none).step (fin x)).status) :
    Recovered starting timeout (spent + x) (monitor.advance (fin x))
      ((loop.setExternalFault .none).step (fin x)) (updates ++ [update]) := by
  have isTimeout : (monitor.advance (fin x)).watchdog.timeoutSeconds = timeout :=
    (Watchdog.advance_timeout _ _).trans recovered.timeout_eq
  have kicked := CommunicationMonitor.kicked_advance positive recovered.kicked
  have before : (loop.setExternalFault .none).Recovering updates.length :=
    ⟨recovered.recovering.coherent, recovered.recovering.operational, recovered.recovering.served⟩
  have after := ControlLoop.recovering_step (fin x) before recovered.restoring rfl
  have state : update.status.state =
      ((loop.setExternalFault .none).step (fin x)).stateMachine.state := by
    rw [reported, ControlLoop.step_state, ControlLoop.step_stateMachine]
  have operational := after.operational (Nat.le_add_left _ _)
  refine ⟨isTimeout, kicked, ?_, ?_, ?_, ?_, ?_⟩
  · rw [ControlLoop.step_command]
    exact recovered.restoring
  · rw [ControlLoop.step_command]
    exact recovered.start
  · rw [List.length_append]
    exact after
  · rintro last member
    rw [List.getLast?_concat] at member
    cases member
    exact state
  · refine (throughout_snoc _ _ _).mpr ⟨recovered.reported, ?_, ?_, ?_, ?_⟩
    · rw [reported, ControlLoop.step_fault, ← ControlLoop.step_stateMachine _ (fin x)]
      exact after.coherent (ControllerStateMachine.free_of_operational operational)
    · exact state ▸ operational
    · intro later
      rw [state]
      have more := List.length_pos_of_ne_nil later
      exact after.served (by omega)
    · intro starting last member ready
      rw [state]
      exact ControlLoop.started_step (loop.setExternalFault .none) (fin x) recovered.restoring
        (recovered.start starting) rfl ((recovered.last last member).symm.trans ready)

end Recovered

namespace PlcSupervisor

section Update

variable {R : Type} [Double R]

/-- With the watchdog alive and a heartbeat heard, the loop is told of no fault. -/
theorem update_alive (supervisor : PlcSupervisor R) (dt : R) (reply : Option (PlcCommandData R))
    (alive : (supervisor.update dt reply).1.watchdog.expired = false)
    (heard : (supervisor.update dt reply).1.lastPlcHeartbeat ≠ none) :
    (supervisor.update dt reply).1.controlLoop =
      ((supervisor.controlLoop.setPlcCommand (supervisor.update dt reply).2.command).setExternalFault
        .none).step dt := by
  have healthy : (!(supervisor.update dt reply).1.watchdog.expired &&
      (supervisor.update dt reply).1.lastPlcHeartbeat.isSome) = true := by
    rw [alive, Option.isSome_iff_ne_none.mpr heard]
    rfl
  change ((supervisor.controlLoop.setPlcCommand
    (supervisor.update dt reply).2.command).setExternalFault (if (!(supervisor.update dt
      reply).1.watchdog.expired && (supervisor.update dt reply).1.lastPlcHeartbeat.isSome) = true
    then .none else .communicationTimeout)).step dt = _
  rw [if_pos healthy]

/-- What is heard is a reply of the PLC. -/
theorem update_heard (supervisor : PlcSupervisor R) (dt : R) (reply : Option (PlcCommandData R)) :
    ∀ data ∈ (supervisor.update dt reply).2.command, data ∈ reply := by
  by_cases due : supervisor.Due dt
  · rw [(supervisor.update_polled dt reply due).2]
    exact fun data member => member
  · rw [(supervisor.update_waited dt reply due).2]
    intro data member
    cases member

theorem after_coherent (supervisor : PlcSupervisor R) (inputs : List (Input R))
    (coherent : supervisor.controlLoop.stateMachine.Coherent) :
    (supervisor.after inputs).controlLoop.stateMachine.Coherent := by
  refine run_always _ (fun supervisor : PlcSupervisor R =>
    supervisor.controlLoop.stateMachine.Coherent) ?_ supervisor inputs coherent
  intro supervisor input coherent
  apply ControlLoop.apply_coherent _ (.step input.dtSeconds)
  change (supervisor.controlLoop.setPlcCommand _).stateMachine.Coherent
  rw [ControlLoop.setPlcCommand_stateMachine]
  exact coherent

theorem after_timeout (supervisor : PlcSupervisor R) (inputs : List (Input R)) :
    (supervisor.after inputs).watchdog.timeoutSeconds = supervisor.watchdog.timeoutSeconds := by
  refine run_always _ (fun after : PlcSupervisor R =>
    after.watchdog.timeoutSeconds = supervisor.watchdog.timeoutSeconds) ?_ supervisor inputs rfl
  intro after input same
  change (after.update input.dtSeconds input.reply).1.watchdog.timeoutSeconds = _
  rw [update_monitor]
  simp [CommunicationMonitor.advance, same]

end Update

variable {K : Type} [Field K] [LinearOrder K] [SquareRoot K] [IsStrictOrderedRing K]

/-- An update in a recovery, with what it hears taken over already. -/
theorem recovered_update {starting : Prop} {timeout : Exact K} {spent x : K}
    {supervisor : PlcSupervisor (Exact K)} {updates : List (Update (Exact K))}
    (input : Input (Exact K)) (step : input.dtSeconds = fin x) (positive : 0 < x)
    (timely : fin (spent + x) < timeout)
    (recovered : Recovered starting timeout spent
      (supervisor.hearCommand (supervisor.update input.dtSeconds input.reply).2.command)
      (supervisor.controlLoop.setPlcCommand
        (supervisor.update input.dtSeconds input.reply).2.command) updates) :
    Recovered starting timeout (spent + x) (supervisor.next input).1.toCommunicationMonitor
      (supervisor.next input).1.controlLoop (updates ++ (supervisor.next input).2) := by
  have monitor := supervisor.update_monitor input.dtSeconds input.reply
  have alive := recovered_alive positive timely recovered
  rw [← step, ← monitor] at alive
  have heard : (supervisor.update input.dtSeconds input.reply).1.lastPlcHeartbeat ≠ none := by
    rw [monitor]
    exact recovered.kicked.heard
  have loop := supervisor.update_alive input.dtSeconds input.reply alive heard
  have elapsed := recovered_elapse (supervisor.update input.dtSeconds input.reply).2 positive
    recovered (by rw [← step, ← loop]; rfl)
  rw [← step, ← monitor, ← loop] at elapsed
  exact elapsed

theorem recovered_later {starting : Prop} {timeout : Exact K} {spent : K} (nonneg : 0 ≤ spent)
    (supervisor : PlcSupervisor (Exact K)) (updates : List (Update (Exact K)))
    (inputs : List (Input (Exact K))) (restores : ∀ input ∈ inputs, Restores input.reply)
    (starts : starting → ∀ input ∈ inputs, ∀ data ∈ input.reply,
      (decodePlcCommand data).start = true)
    (valid : ∀ input ∈ inputs, Double.ValidStep input.dtSeconds)
    (timely : fin spent + (inputs.map Input.dtSeconds).sum < timeout)
    (recovered : Recovered starting timeout spent supervisor.toCommunicationMonitor
      supervisor.controlLoop updates) :
    Throughout (Recovers starting) (run (logged next) (supervisor, updates) inputs).2 := by
  induction inputs generalizing supervisor updates spent with
  | nil => exact recovered.reported
  | cons input inputs ih =>
    obtain ⟨x, step, positive⟩ := (Exact.validStep_iff _).mp (valid input (List.mem_cons_self ..))
    have later : ∀ {p : Input (Exact K) → Prop}, (∀ other ∈ input :: inputs, p other) →
        ∀ other ∈ inputs, p other :=
      fun each other member => each other (List.mem_cons_of_mem _ member)
    obtain ⟨rest, sum, more⟩ := Exact.sum_nonneg (inputs.map Input.dtSeconds) (by
      simpa using later valid)
    rw [List.map_cons, List.sum_cons, step, sum] at timely
    -- this update is in time, since the whole run is
    have early : fin (spent + x) < timeout := by
      obtain ⟨limit, isLimit, _⟩ := (Exact.validStep_iff _).mp supervisor.watchdog.accepted
      rw [← recovered.timeout_eq, isLimit] at timely ⊢
      have timely : spent + (x + rest) < limit := timely
      exact (Exact.fin_lt_fin _ _).mpr (by linarith)
    have heard := recovered_hear (supervisor.update input.dtSeconds input.reply).2.command
      (fun data member => restores input (List.mem_cons_self ..) data
        (supervisor.update_heard _ _ data member))
      (fun starting data member => starts starting input (List.mem_cons_self ..) data
        (supervisor.update_heard _ _ data member)) nonneg recovered
    refine ih (by linarith) (supervisor.next input).1 (updates ++ (supervisor.next input).2)
      (later restores) (fun starting => later (starts starting)) (later valid) ?_
      (recovered_update input step positive early heard)
    rw [sum, Exact.fin_add, add_assoc]
    exact timely

/-- Every command the PLC answers with has the start bit. -/
def Starting {R : Type} (inputs : List (Input R)) : Prop :=
  ∀ input ∈ inputs, ∀ data ∈ input.reply, (decodePlcCommand data).start = true

/-- Whatever the updates so far were, and whatever is latched: from the first poll on that
brings a restoring command with a new heartbeat, and as long as the watchdog leaves time, no
update reports a fault, and every update after the first reports `ready` or `running`. If
the commands also start, `ready` is not reported twice. -/
theorem recovers (configuration : Configuration (Exact K))
    (loopConfiguration : ControlLoop.Configuration (Exact K)) (controller : PidController (Exact K))
    (plant : ServoPlant (Exact K)) (supervisor : PlcSupervisor (Exact K))
    (created : create configuration (ControlLoop.create loopConfiguration controller plant) =
      .ok supervisor)
    (before : List (Input (Exact K))) (poll : Input (Exact K)) (later : List (Input (Exact K)))
    (data : PlcCommandData (Exact K)) (answered : poll.reply = some data)
    (due : (supervisor.after before).Due poll.dtSeconds)
    (changed : (supervisor.after before).lastPlcHeartbeat ≠ some data.heartbeat)
    (restores : ∀ input ∈ poll :: later, Restores input.reply)
    (valid : ∀ input ∈ poll :: later, Double.ValidStep input.dtSeconds)
    (timely : ((poll :: later).map Input.dtSeconds).sum < configuration.watchdogTimeoutSeconds) :
    Throughout (Recovers (Starting (poll :: later)))
      (history (supervisor.after before) (poll :: later)) := by
  obtain ⟨_, timeout, loop, _⟩ := create_monitor created
  have coherent := supervisor.after_coherent before (by
    rw [loop]
    exact ControllerStateMachine.initial_coherent)
  have isTimeout := (supervisor.after_timeout before).trans timeout
  generalize supervisor.after before = latched at due changed coherent isTimeout ⊢
  obtain ⟨x, step, positive⟩ := (Exact.validStep_iff _).mp (valid poll (List.mem_cons_self ..))
  have taken := (latched.update_polled poll.dtSeconds poll.reply due).2
  obtain ⟨rest, sum, more⟩ := Exact.sum_nonneg (later.map Input.dtSeconds) (by
    simpa using fun input member => valid input (List.mem_cons_of_mem _ member))
  rw [List.map_cons, List.sum_cons, step, sum] at timely
  have early : fin (0 + x) < configuration.watchdogTimeoutSeconds := by
    obtain ⟨limit, isLimit, _⟩ := (Exact.validStep_iff _).mp latched.watchdog.accepted
    rw [← isTimeout, isLimit] at timely ⊢
    have timely : x + rest < limit := timely
    exact (Exact.fin_lt_fin _ _).mpr (by linarith)
  have begun : Recovered (Starting (poll :: later)) configuration.watchdogTimeoutSeconds 0 _ _ [] :=
    recovered_begin isTimeout changed coherent (restores poll (List.mem_cons_self ..) data answered)
      (fun starts => starts poll (List.mem_cons_self ..) data answered)
  have first := recovered_update poll step positive early (by
    rw [taken, answered]
    exact begun)
  refine recovered_later (by linarith) _ _ later
    (fun input member => restores input (List.mem_cons_of_mem _ member))
    (fun starts input member => starts input (List.mem_cons_of_mem _ member))
    (fun input member => valid input (List.mem_cons_of_mem _ member)) ?_ first
  rw [sum, zero_add]
  exact timely

/-- Power, enable, start and the reset bit, with a heartbeat. -/
def restart (heartbeat : UInt32) : PlcCommandData (Exact ℚ) :=
  { (PlcCommandData.initial : PlcCommandData (Exact ℚ)) with
    controlWord := PlcControlBit.powerAvailable ||| PlcControlBit.enable |||
      PlcControlBit.start ||| PlcControlBit.resetFault
    targetPositionRad := fin 1
    heartbeat := heartbeat }

/-- The demo has heard nothing for longer than its watchdog waits, and is latched. -/
theorem recovers_demo :
    Throughout (Recovers (Starting
        [⟨fin 0.02, some (restart 1)⟩, ⟨fin 0.02, none⟩, ⟨fin 0.02, some (restart 2)⟩]))
      (history (demo.after [⟨fin 0.02, some .initial⟩, ⟨fin 0.2, none⟩])
        [⟨fin 0.02, some (restart 1)⟩, ⟨fin 0.02, none⟩, ⟨fin 0.02, some (restart 2)⟩]) :=
  recovers .initial .initial (ControlLoop.demoController.map fin) (ServoPlant.lift .initial) demo
    demo_created [⟨fin 0.02, some .initial⟩, ⟨fin 0.2, none⟩] ⟨fin 0.02, some (restart 1)⟩
    [⟨fin 0.02, none⟩, ⟨fin 0.02, some (restart 2)⟩] (restart 1) rfl (by decide +kernel)
    (by decide +kernel) (by decide +kernel) (by decide +kernel) (by decide +kernel)

end PlcSupervisor

end MotionBridge
