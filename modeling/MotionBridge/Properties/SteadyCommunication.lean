import MotionBridge.Properties.Polling

/-! A PLC whose every answer brings a new heartbeat never looks lost, as long as the
watchdog waits one time step longer than the poll timer. -/
namespace MotionBridge

open Foundation
open Exact (fin)

namespace PlcSupervisor

section Statements

variable {R : Type} [Double R]

/-- If this update polls, it hears a heartbeat other than the one before. -/
def HearsAnew (state : PlcSupervisor R × List (Update R)) (input : Input R) : Prop :=
  let update := (state.1.update input.dtSeconds input.reply).2
  update.published ≠ none → Renews state.2 update

instance decideHearsAnew (state : PlcSupervisor R × List (Update R)) (input : Input R) :
    Decidable (HearsAnew state input) :=
  inferInstanceAs (Decidable (_ → Renews _ _))

/-- This update leaves the communication healthy, and reports it so. -/
def StaysHealthy (state : PlcSupervisor R × List (Update R)) (input : Input R) : Prop :=
  (state.1.update input.dtSeconds input.reply).1.communicationHealthy = true ∧
    (state.1.update input.dtSeconds input.reply).2.status.fault ≠ .communicationTimeout

/-- A healthy update tells the loop of no external fault, so that none can be latched. -/
theorem update_unlatched (supervisor : PlcSupervisor R) (dt : R)
    (reply : Option (PlcCommandData R))
    (healthy : (supervisor.update dt reply).1.communicationHealthy = true)
    (unlatched : supervisor.controlLoop.stateMachine.fault ≠ .communicationTimeout) :
    (supervisor.update dt reply).1.controlLoop.stateMachine.fault ≠ .communicationTimeout := by
  -- the loop as this update hands it to `step`
  obtain ⟨loop, stepped, machine, external⟩ : ∃ loop : ControlLoop R,
      (supervisor.update dt reply).1.controlLoop = loop.step dt ∧
        loop.stateMachine = supervisor.controlLoop.stateMachine ∧
        loop.externalFault = (if (supervisor.update dt reply).1.communicationHealthy then .none
          else .communicationTimeout) := by
    exact ⟨_, rfl, ControlLoop.setPlcCommand_stateMachine _ _, rfl⟩
  have detected : loop.detectedFault ≠ .communicationTimeout := by
    rw [if_pos healthy] at external
    simp only [ControlLoop.detectedFault, external, ne_eq, not_true_eq_false, if_false,
      ControlLoop.validateCommand]
    split_ifs <;> simp
  have fault := ControllerStateMachine.update_fault loop.stateMachine loop.command
    loop.status.targetReached loop.detectedFault
  rw [stepped, ControlLoop.step_stateMachine]
  intro latched
  change loop.nextMachine.fault ∈ _ at fault
  rw [latched, machine] at fault
  simp [unlatched.symm, detected.symm] at fault

end Statements

variable {K : Type} [Field K] [LinearOrder K] [SquareRoot K]

/-- The two timers of a supervisor whose PLC answers. The watchdog is ahead of the poll
timer by the time step of the last poll, which is at most `bound`. -/
structure Timers (period bound waited elapsed : K) (supervisor : PlcSupervisor (Exact K)) :
    Prop where
  timer_eq : supervisor.pollElapsedSeconds = fin waited
  elapsed_eq : supervisor.watchdog.elapsedSeconds = fin elapsed
  armed : supervisor.watchdog.armed = true
  heard : supervisor.lastPlcHeartbeat ≠ none
  waiting : waited < period
  ahead : elapsed ≤ waited + bound

/-- What holds between two updates. Before the first one the poll timer is full. -/
structure Fed (period timeout bound : K) (supervisor : PlcSupervisor (Exact K))
    (history : List (Update (Exact K))) : Prop where
  period_eq : supervisor.configuration.pollPeriodSeconds = fin period
  timeout_eq : supervisor.watchdog.timeoutSeconds = fin timeout
  heartbeat_eq : supervisor.lastPlcHeartbeat = lastHeartbeat history
  unlatched : supervisor.controlLoop.stateMachine.fault ≠ .communicationTimeout
  timers : supervisor.pollElapsedSeconds = fin period ∨
    ∃ waited elapsed, Timers period bound waited elapsed supervisor

variable [IsStrictOrderedRing K]

theorem timers_update {period timeout bound : K} {supervisor : PlcSupervisor (Exact K)}
    {history : List (Update (Exact K))} (input : Input (Exact K)) {x : K}
    (step : input.dtSeconds = fin x) (positive : 0 < x) (short : x ≤ bound)
    (anew : HearsAnew (supervisor, history) input)
    (fed : Fed period timeout bound supervisor history) :
    ∃ waited elapsed, Timers period bound waited elapsed
      (supervisor.update input.dtSeconds input.reply).1 := by
  have valid : Double.ValidStep input.dtSeconds := (Exact.validStep_iff _).mpr ⟨x, step, positive⟩
  have monitor := supervisor.update_monitor input.dtSeconds input.reply
  by_cases due : supervisor.Due input.dtSeconds
  -- the poll clears one timer and kicks the other, which then counts this step
  · have cleared := (supervisor.update_polled input.dtSeconds input.reply due).1
    obtain ⟨command, taken, changed⟩ := anew ((update_published _ _ _).mpr due)
    change (supervisor.update input.dtSeconds input.reply).2.command = _ at taken
    change lastHeartbeat history ≠ _ at changed
    rw [taken, CommunicationMonitor.hearCommand_changed _ _ (fed.heartbeat_eq ▸ changed)] at monitor
    have counted := Watchdog.advance_elapsed supervisor.watchdog.kick input.dtSeconds rfl valid
    have periodPositive : 0 < period := by
      have accepted := supervisor.accepted.1
      rwa [fed.period_eq] at accepted
    refine ⟨0, x, cleared, ?_, ?_, ?_, periodPositive, by linarith⟩
    · rw [monitor, CommunicationMonitor.advance, counted, step]
      exact congrArg fin (zero_add x)
    · rw [monitor]
      exact Watchdog.advance_armed _ _
    · rw [monitor]
      simp [CommunicationMonitor.advance]
  -- both timers count this step, so the first update cannot come here
  · obtain ⟨counted, silent⟩ := supervisor.update_waited input.dtSeconds input.reply due
    rw [silent] at monitor
    rcases fed.timers with full | ⟨waited, elapsed, timers⟩
    · refine absurd ?_ due
      rw [Due, full, fed.period_eq, step]
      exact (Exact.fin_le_fin _ _).mpr (by linarith)
    · have early : waited + x < period := by
        rw [Due, timers.timer_eq, fed.period_eq, step] at due
        exact not_le.mp due
      have watchdog := Watchdog.advance_elapsed supervisor.watchdog _ timers.armed valid
      refine ⟨waited + x, elapsed + x, ?_, ?_, ?_, ?_, early, by linarith [timers.ahead]⟩
      · rw [counted, timers.timer_eq, step]
        rfl
      · rw [monitor, CommunicationMonitor.hearCommand, CommunicationMonitor.advance, watchdog,
          timers.elapsed_eq, step]
        rfl
      · rw [monitor]
        exact (Watchdog.advance_armed _ _).trans timers.armed
      · rw [monitor]
        exact timers.heard

theorem fed_update {period timeout bound : K} (slack : period + bound ≤ timeout)
    {supervisor : PlcSupervisor (Exact K)} {history : List (Update (Exact K))}
    (input : Input (Exact K)) {x : K} (step : input.dtSeconds = fin x) (positive : 0 < x)
    (short : x ≤ bound) (anew : HearsAnew (supervisor, history) input)
    (fed : Fed period timeout bound supervisor history) :
    StaysHealthy (supervisor, history) input ∧
      Fed period timeout bound (supervisor.next input).1
        (history ++ (supervisor.next input).2) := by
  obtain ⟨waited, elapsed, timers⟩ := timers_update input step positive short anew fed
  have timeout_eq : (supervisor.update input.dtSeconds input.reply).1.watchdog.timeoutSeconds =
      fin timeout := by
    rw [update_monitor]
    simp [CommunicationMonitor.advance, fed.timeout_eq]
  have alive : (supervisor.update input.dtSeconds input.reply).1.watchdog.expired = false := by
    have below : elapsed < timeout := by linarith [timers.ahead, timers.waiting]
    rw [Watchdog.expired, timers.armed, timers.elapsed_eq, timeout_eq, Bool.true_and]
    exact decide_eq_false (not_le.mpr below)
  have healthy : (supervisor.update input.dtSeconds input.reply).1.communicationHealthy = true := by
    change (!(supervisor.update input.dtSeconds input.reply).1.watchdog.expired &&
      (supervisor.update input.dtSeconds input.reply).1.lastPlcHeartbeat.isSome) = true
    rw [alive, Option.isSome_iff_ne_none.mpr timers.heard]
    rfl
  have unlatched := supervisor.update_unlatched input.dtSeconds input.reply healthy fed.unlatched
  have heartbeat_eq : (supervisor.update input.dtSeconds input.reply).1.lastPlcHeartbeat =
      lastHeartbeat (history ++ [(supervisor.update input.dtSeconds input.reply).2]) := by
    rw [lastHeartbeat_snoc, ← fed.heartbeat_eq]
    exact CommunicationMonitor.hearCommand_heartbeat _ _
  refine ⟨⟨healthy, ?_⟩, fed.period_eq, timeout_eq, heartbeat_eq, unlatched,
    .inr ⟨waited, elapsed, timers⟩⟩
  have reported : (supervisor.update input.dtSeconds input.reply).2.status.fault =
      (supervisor.update input.dtSeconds input.reply).1.controlLoop.stateMachine.fault :=
    (ControlLoop.step_fault _ _).trans (congrArg _ (ControlLoop.step_stateMachine _ _).symm)
  change (supervisor.update input.dtSeconds input.reply).2.status.fault ≠ _
  rw [reported]
  exact unlatched

/-- A supervisor with a PLC whose heartbeat moves on from poll to poll reports no
communication fault, if the watchdog waits for a poll period and one time step more. -/
theorem no_nuisance_fault (configuration : Configuration (Exact K))
    (loopConfiguration : ControlLoop.Configuration (Exact K)) (controller : PidController (Exact K))
    (plant : ServoPlant (Exact K)) (supervisor : PlcSupervisor (Exact K))
    (created : create configuration (ControlLoop.create loopConfiguration controller plant) =
      .ok supervisor)
    (bound : Exact K)
    (slack : configuration.pollPeriodSeconds + bound ≤ configuration.watchdogTimeoutSeconds)
    (inputs : List (Input (Exact K)))
    (steps : ∀ input ∈ inputs, 0 < input.dtSeconds ∧ input.dtSeconds ≤ bound)
    (anew : Along (logged next) HearsAnew (supervisor, []) inputs) :
    Along (logged next) StaysHealthy (supervisor, []) inputs := by
  obtain ⟨unheard, timeout, loop, same, full, _⟩ := create_monitor created
  obtain ⟨period, isPeriod, _⟩ := (Exact.validStep_iff _).mp supervisor.accepted
  obtain ⟨limit, isLimit, _⟩ := (Exact.validStep_iff _).mp supervisor.watchdog.accepted
  rw [← timeout, ← same, isPeriod, isLimit] at slack
  rcases Exact.fin_of_fits slack with rfl | ⟨bound, rfl, slack⟩
  -- no positive time step is below the negative infinity
  · cases inputs with
    | nil => trivial
    | cons input inputs =>
      obtain ⟨positive, short⟩ := steps input (List.mem_cons_self ..)
      exact absurd short (Exact.not_le_negInf positive)
  have fed : Fed period limit bound supervisor [] := by
    refine ⟨isPeriod, isLimit, unheard, ?_, .inl ?_⟩
    · rw [loop]
      simp [ControlLoop.create, ControllerStateMachine.initial]
    · rw [full, ← same, isPeriod]
  refine along_of_invariant (logged next)
    (fun state input => HearsAnew state input ∧
      0 < input.dtSeconds ∧ input.dtSeconds ≤ fin bound) _
    (fun state => Fed period limit bound state.1 state.2) ?_ ?_ (supervisor, []) inputs
    ((along_and _ _ _ _ _).mpr ⟨anew, along_inputs _ _ _ inputs steps⟩) fed
  · rintro ⟨supervisor, history⟩ input ⟨anew, positive, short⟩ fed
    obtain ⟨x, step, positive, short⟩ := Exact.fin_of_bounded positive short
    exact (fed_update slack input step positive short anew fed).2
  · rintro ⟨supervisor, history⟩ input ⟨anew, positive, short⟩ fed
    obtain ⟨x, step, positive, short⟩ := Exact.fin_of_bounded positive short
    exact (fed_update slack input step positive short anew fed).1

/-- Polls with heartbeats that wrap, one of the updates between them without a poll. -/
def wrappingHeartbeats : List (Input (Exact ℚ)) :=
  [⟨fin 0.015, some { (PlcCommandData.initial : PlcCommandData (Exact ℚ)) with
      heartbeat := 4294967295 }⟩,
    ⟨fin 0.015, none⟩, ⟨fin 0.015, some .initial⟩]

theorem no_nuisance_fault_wrapping :
    Along (logged next) StaysHealthy (demo, []) wrappingHeartbeats :=
  no_nuisance_fault .initial .initial (ControlLoop.demoController.map fin) (ServoPlant.lift .initial)
    demo demo_created (fin 0.08) (by decide +kernel) wrappingHeartbeats (by decide +kernel)
    (by decide +kernel)

end PlcSupervisor

end MotionBridge
