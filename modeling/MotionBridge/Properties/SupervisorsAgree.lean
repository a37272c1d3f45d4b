import MotionBridge.Runtime.AsyncPlcSupervisor
import MotionBridge.Runtime.PlcSupervisor

/-! The two supervisors, fed the same commands, drive their loops alike. The synchronous
one is the older and simpler; the asynchronous one refines it once a command has come. -/
namespace MotionBridge

open Foundation

/-- What the PLC has to say at one update, and how the mailbox delivers it. -/
structure Exchange (R : Type) where
  dtSeconds : R
  element : Option (PlcCommandData R)
  snapshot : Option (Snapshot (PlcCommandData R))
  connected : Bool
  deriving DecidableEq, Repr

namespace Exchange

variable {R : Type}

def toSync (exchange : Exchange R) : PlcSupervisor.Input R :=
  ⟨exchange.dtSeconds, exchange.element⟩

def toAsync (exchange : Exchange R) : AsyncPlcSupervisor.Input R :=
  ⟨exchange.dtSeconds, exchange.snapshot, exchange.connected⟩

/-- The snapshot that brought the last command. -/
def lastDelivered (before : List (Exchange R)) : Option (Snapshot (PlcCommandData R)) :=
  (before.filterMap fun exchange => exchange.element.bind fun _ => exchange.snapshot).getLast?

/-- A command comes under a new sequence number; without one the mailbox is empty, locked
or still holds the last snapshot. -/
def Delivers (before : List (Exchange R)) (exchange : Exchange R) : Prop :=
  match exchange.element with
  | some command => ∃ sequence, exchange.snapshot = some ⟨command, sequence⟩ ∧
      (lastDelivered before).map Snapshot.sequence ≠ some sequence
  | none => exchange.snapshot = none ∨ exchange.snapshot = lastDelivered before

theorem lastDelivered_snoc (before : List (Exchange R)) (exchange : Exchange R) :
    lastDelivered (before ++ [exchange]) =
      (exchange.element.bind fun _ => exchange.snapshot).or (lastDelivered before) := by
  cases brought : exchange.element.bind fun _ => exchange.snapshot with
  | none => simp [lastDelivered, List.filterMap_append, brought]
  | some snapshot => simp [lastDelivered, List.filterMap_append, brought]

end Exchange

open Exchange (Delivers lastDelivered lastDelivered_snoc)

variable {R : Type} [Double R]

/-- The states of the two supervisors after the same exchanges. -/
structure Agree (sync : PlcSupervisor R) (async : AsyncPlcSupervisor R)
    (exchanges : List (Exchange R)) : Prop where
  controlLoop : async.controlLoop = sync.controlLoop
  heartbeat : async.lastPlcHeartbeat = sync.lastPlcHeartbeat
  timeout : async.watchdog.timeoutSeconds = sync.watchdog.timeoutSeconds
  watchdog : sync.lastPlcHeartbeat ≠ none → async.watchdog = sync.watchdog
  counter : async.controllerHeartbeat = sync.controllerHeartbeat
  sequence : async.lastCommandSequence = (lastDelivered exchanges).map Snapshot.sequence
  polls : ∀ dt, Double.ValidStep dt → sync.configuration.pollPeriodSeconds ≤ dt →
    sync.configuration.pollPeriodSeconds ≤ sync.pollElapsedSeconds + dt

/-- The filter on sequence numbers hands over exactly the command of the exchange. -/
theorem accepted_element {sync : PlcSupervisor R} {async : AsyncPlcSupervisor R}
    {exchanges : List (Exchange R)} (agree : Agree sync async exchanges) (exchange : Exchange R)
    (delivers : Delivers exchanges exchange) :
    async.acceptedSnapshot exchange.snapshot =
      exchange.element.bind fun _ => exchange.snapshot := by
  have last := agree.sequence
  cases element : exchange.element with
  | some command =>
    simp only [Delivers, element] at delivers
    obtain ⟨sequence, snapshot, fresh⟩ := delivers
    rw [← last] at fresh
    simp only [snapshot, AsyncPlcSupervisor.acceptedSnapshot, Option.bind_some, if_pos fresh]
  | none =>
    simp only [Delivers, element] at delivers
    rcases delivers with missing | again
    · simp only [missing, AsyncPlcSupervisor.acceptedSnapshot, Option.bind_none]
    · -- the mailbox still holds the snapshot applied last
      rw [again]
      cases held : lastDelivered exchanges with
      | none => rfl
      | some snapshot =>
        rw [held] at last
        simp [AsyncPlcSupervisor.acceptedSnapshot, last]

/-- Both monitors are the same once one of them has heard a heartbeat. -/
theorem hear_alike {sync : PlcSupervisor R} {async : AsyncPlcSupervisor R}
    {exchanges : List (Exchange R)} (agree : Agree sync async exchanges)
    (element : Option (PlcCommandData R)) (heard : sync.lastPlcHeartbeat ≠ none ∨ element ≠ none) :
    async.hearCommand element = sync.hearCommand element := by
  have kicked : async.watchdog.kick = sync.watchdog.kick := Watchdog.kick_congr agree.timeout
  by_cases first : sync.lastPlcHeartbeat = none
  · -- the first command kicks both watchdogs, and a kick forgets the past
    obtain ⟨command, rfl⟩ := Option.ne_none_iff_exists'.mp (heard.resolve_left (absurd first))
    simp [CommunicationMonitor.hearCommand, CommunicationMonitor.hear, agree.heartbeat, first,
      kicked]
  · have same : async.toCommunicationMonitor = sync.toCommunicationMonitor :=
      congrArg₂ CommunicationMonitor.mk (agree.watchdog first) agree.heartbeat
    rw [same]

theorem accepted_value {sync : PlcSupervisor R} {async : AsyncPlcSupervisor R}
    {exchanges : List (Exchange R)} (agree : Agree sync async exchanges) (exchange : Exchange R)
    (delivers : Delivers exchanges exchange) :
    (async.acceptedSnapshot exchange.snapshot).map Snapshot.value = exchange.element := by
  rw [accepted_element agree exchange delivers]
  cases element : exchange.element with
  | none => rfl
  | some command =>
    simp only [Delivers, element] at delivers
    obtain ⟨sequence, snapshot, _⟩ := delivers
    rw [snapshot]
    rfl

/-- With a heartbeat known, both health rules ask the watchdog alone. -/
theorem health_alike {monitor : CommunicationMonitor R} (known : monitor.lastPlcHeartbeat ≠ none) :
    (if !monitor.watchdog.expired && monitor.lastPlcHeartbeat.isSome then FaultCode.none
      else .communicationTimeout) =
        if monitor.watchdog.expired then .communicationTimeout else .none := by
  rw [Option.isSome_iff_ne_none.mpr known, Bool.and_true]
  cases monitor.watchdog.expired with
  | false => rfl
  | true => rfl

/-- One exchange: the same update on both sides, and the relation holds again. -/
theorem agree_update {sync : PlcSupervisor R} {async : AsyncPlcSupervisor R}
    {exchanges : List (Exchange R)} [Double.Lawful R] (agree : Agree sync async exchanges)
    (exchange : Exchange R) (valid : Double.ValidStep exchange.dtSeconds)
    (fast : sync.configuration.pollPeriodSeconds ≤ exchange.dtSeconds)
    (delivers : Delivers exchanges exchange)
    (heard : sync.lastPlcHeartbeat ≠ none ∨ exchange.element ≠ none) :
    let synchronous := sync.update exchange.dtSeconds exchange.element
    let asynchronous := async.update exchange.dtSeconds exchange.snapshot exchange.connected
    synchronous.2 = asynchronous.2 ∧
      Agree synchronous.1 asynchronous.1 (exchanges ++ [exchange]) ∧
      synchronous.1.lastPlcHeartbeat ≠ none := by
  intro synchronous asynchronous
  have polled : decide (sync.pollElapsedSeconds + exchange.dtSeconds ≥
      sync.configuration.pollPeriodSeconds) = true := decide_eq_true (agree.polls _ valid fast)
  have accepted := accepted_element agree exchange delivers
  have command := accepted_value agree exchange delivers
  have monitor := hear_alike agree exchange.element heard
  have known : ((sync.hearCommand exchange.element).advance
      exchange.dtSeconds).lastPlcHeartbeat ≠ none := by
    change (sync.hearCommand exchange.element).lastPlcHeartbeat ≠ none
    rw [CommunicationMonitor.hearCommand_heartbeat]
    rcases heard with before | now
    · exact fun unheard => before (Option.or_eq_none_iff.mp unheard).2
    · exact fun unheard => now (Option.map_eq_none_iff.mp (Option.or_eq_none_iff.mp unheard).1)
  have fault := health_alike known
  have updates : synchronous.2 = asynchronous.2 := by
    simp only [synchronous, asynchronous, PlcSupervisor.update, AsyncPlcSupervisor.update, polled,
      if_true, command, monitor, fault, agree.controlLoop, agree.counter]
  refine ⟨updates, ⟨?_, ?_, ?_, ?_, ?_, ?_, ?_⟩, ?_⟩
  · simp only [synchronous, asynchronous, PlcSupervisor.update, AsyncPlcSupervisor.update, polled,
      if_true, command, monitor, fault, agree.controlLoop]
  · simp only [synchronous, asynchronous, PlcSupervisor.update, AsyncPlcSupervisor.update, polled,
      if_true, command, monitor]
  · simp only [synchronous, asynchronous, PlcSupervisor.update, AsyncPlcSupervisor.update, polled,
      if_true, command, monitor]
  · intro _
    simp only [synchronous, asynchronous, PlcSupervisor.update, AsyncPlcSupervisor.update, polled,
      if_true, command, monitor]
  · simp only [synchronous, asynchronous, PlcSupervisor.update, AsyncPlcSupervisor.update, polled,
      if_true, agree.counter]
  · rw [lastDelivered_snoc]
    change ((async.acceptedSnapshot exchange.snapshot).map Snapshot.sequence).or
      async.lastCommandSequence = _
    rw [accepted, agree.sequence]
    cases exchange.element.bind fun _ => exchange.snapshot with
    | none => rfl
    | some snapshot => rfl
  · intro dt valid fast
    change sync.configuration.pollPeriodSeconds ≤ (if _ then 0 else _) + dt
    rw [if_pos polled, Double.Lawful.zero_add_valid dt valid]
    exact fast
  · simp only [synchronous, PlcSupervisor.update, polled, if_true]
    exact known

theorem agree_created {configuration : PlcSupervisor.Configuration R} {controlLoop : ControlLoop R}
    {sync : PlcSupervisor R} {async : AsyncPlcSupervisor R} [Double.Lawful R]
    (createdSync : PlcSupervisor.create configuration controlLoop = .ok sync)
    (createdAsync :
      AsyncPlcSupervisor.create configuration.watchdogTimeoutSeconds controlLoop = .ok async) :
    Agree sync async [] ∧ sync.configuration = configuration := by
  obtain ⟨unheard, timeout, fresh, unset, counter⟩ := AsyncPlcSupervisor.create_monitor createdAsync
  obtain ⟨unheardSync, timeoutSync, loop, settings, elapsed, counterSync⟩ :=
    PlcSupervisor.create_monitor createdSync
  refine ⟨⟨fresh.trans loop.symm, unheard.trans unheardSync.symm, timeout.trans timeoutSync.symm,
    fun heard => absurd unheardSync heard, counter.trans counterSync.symm, unset, ?_⟩, settings⟩
  -- the first update polls, since a whole period counts as elapsed
  intro dt valid _
  rw [elapsed, ← settings]
  exact Double.Lawful.le_add_valid _ dt sync.accepted valid

/-- The states of both supervisors after a run, and that the updates were the same. -/
theorem agree_run [Double.Lawful R] {configuration : PlcSupervisor.Configuration R}
    {controlLoop : ControlLoop R} {sync : PlcSupervisor R} {async : AsyncPlcSupervisor R}
    (createdSync : PlcSupervisor.create configuration controlLoop = .ok sync)
    (createdAsync :
      AsyncPlcSupervisor.create configuration.watchdogTimeoutSeconds controlLoop = .ok async)
    (exchanges : List (Exchange R))
    (valid : ∀ exchange ∈ exchanges, Double.ValidStep exchange.dtSeconds ∧
      configuration.pollPeriodSeconds ≤ exchange.dtSeconds)
    (first : ∀ exchange, exchanges.head? = some exchange → exchange.element ≠ none)
    (delivers : Throughout Delivers exchanges) :
    let synchronous := run (logged PlcSupervisor.next) (sync, [])
      (exchanges.map Exchange.toSync)
    let asynchronous := run (logged AsyncPlcSupervisor.next) (async, [])
      (exchanges.map Exchange.toAsync)
    synchronous.2 = asynchronous.2 ∧ Agree synchronous.1 asynchronous.1 exchanges ∧
      synchronous.1.configuration = configuration ∧
      (exchanges ≠ [] → synchronous.1.lastPlcHeartbeat ≠ none) := by
  induction exchanges using List.reverseRecOn with
  | nil =>
    obtain ⟨agree, settings⟩ := agree_created createdSync createdAsync
    exact ⟨rfl, agree, settings, fun nonempty => absurd rfl nonempty⟩
  | append_singleton exchanges exchange ih =>
    obtain ⟨validEarlier, validLast⟩ := List.forall_mem_append.mp valid
    obtain ⟨earlier, last⟩ := (throughout_snoc _ exchanges exchange).mp delivers
    have firstEarlier : ∀ exchange, exchanges.head? = some exchange → exchange.element ≠ none := by
      intro other head
      apply first other
      cases exchanges with
      | nil => cases head
      | cons _ _ => exact head
    obtain ⟨same, agree, settings, known⟩ := ih validEarlier firstEarlier earlier
    have ⟨validStep, fast⟩ := validLast exchange (List.mem_singleton_self _)
    rw [List.map_append, List.map_append, List.map_singleton, List.map_singleton, run_snoc,
      run_snoc]
    generalize run (logged PlcSupervisor.next) (sync, []) (exchanges.map Exchange.toSync) =
      synchronous at same agree settings known ⊢
    generalize run (logged AsyncPlcSupervisor.next) (async, []) (exchanges.map Exchange.toAsync) =
      asynchronous at same agree settings known ⊢
    have heard : synchronous.1.lastPlcHeartbeat ≠ none ∨ exchange.element ≠ none := by
      cases exchanges with
      | nil => exact Or.inr (first exchange rfl)
      | cons _ _ => exact Or.inl (known (List.cons_ne_nil _ _))
    obtain ⟨updates, agrees, knows⟩ := agree_update agree exchange validStep
      (by rw [settings]; exact fast) last heard
    refine ⟨?_, agrees, settings, fun _ => knows⟩
    change synchronous.2 ++ [_] = asynchronous.2 ++ [_]
    rw [same]
    exact congrArg (fun update => asynchronous.2 ++ [update]) updates

/-- Fed the same commands, with updates no faster than the poll period, the two
supervisors make the same updates: status and published status are equal throughout. -/
theorem supervisors_agree [Double.Lawful R] (configuration : PlcSupervisor.Configuration R)
    (controlLoop : ControlLoop R) (sync : PlcSupervisor R) (async : AsyncPlcSupervisor R)
    (createdSync : PlcSupervisor.create configuration controlLoop = .ok sync)
    (createdAsync :
      AsyncPlcSupervisor.create configuration.watchdogTimeoutSeconds controlLoop = .ok async)
    (exchanges : List (Exchange R))
    (valid : ∀ exchange ∈ exchanges, Double.ValidStep exchange.dtSeconds ∧
      configuration.pollPeriodSeconds ≤ exchange.dtSeconds)
    (first : ∀ exchange, exchanges.head? = some exchange → exchange.element ≠ none)
    (delivers : Throughout Delivers exchanges) :
    sync.history (exchanges.map Exchange.toSync) =
      async.history (exchanges.map Exchange.toAsync) :=
  (agree_run createdSync createdAsync exchanges valid first delivers).1

/-- One command, then a silent PLC: both supervisors report the timeout from the second
update on. -/
theorem supervisors_agree_timeout :
    let period : Exact ℚ := .fin (1 / 20)
    let command : PlcCommandData (Exact ℚ) := .initial
    let exchanges : List (Exchange (Exact ℚ)) := [⟨period, some command, some ⟨command, 7⟩, true⟩,
      ⟨period, none, some ⟨command, 7⟩, true⟩, ⟨period, none, none, false⟩]
    (PlcSupervisor.demo.history (exchanges.map Exchange.toSync)).map (fun u => u.status.fault) =
        [.none, .communicationTimeout, .communicationTimeout] ∧
      PlcSupervisor.demo.history (exchanges.map Exchange.toSync) =
        AsyncPlcSupervisor.demo.history (exchanges.map Exchange.toAsync) := by
  intro period command exchanges
  refine ⟨by decide +kernel, ?_⟩
  apply supervisors_agree .initial ControlLoop.demo PlcSupervisor.demo AsyncPlcSupervisor.demo
    PlcSupervisor.demo_created AsyncPlcSupervisor.demo_created exchanges (by decide +kernel)
  · intro exchange head
    cases head
    exact Option.some_ne_none command
  · have one : Throughout Delivers [exchanges[0]] :=
      (throughout_snoc _ [] _).mpr ⟨throughout_nil _, 7, rfl, nofun⟩
    have two : Throughout Delivers [exchanges[0], exchanges[1]] :=
      (throughout_snoc _ [_] _).mpr ⟨one, Or.inr rfl⟩
    exact (throughout_snoc _ [_, _] _).mpr ⟨two, Or.inl rfl⟩

end MotionBridge
