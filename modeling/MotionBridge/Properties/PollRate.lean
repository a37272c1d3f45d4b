import Mathlib.Data.List.DropRight
import MotionBridge.Properties.Polling

/-! How often a synchronous supervisor turns to the PLC, so that the PLC can watch it in turn. -/
namespace MotionBridge

open Foundation
open Exact (fin)

namespace PlcSupervisor

section Statements

variable {R : Type}

/-- The statuses sent towards the PLC. -/
def sent (history : List (Update R)) : List (PlcStatusData R) := history.filterMap Update.published

/-- The updates since the last one that polled. -/
def sincePoll (history : List (Update R)) : List (Update R) :=
  history.rtakeWhile fun update => update.published.isNone

theorem sent_snoc (history : List (Update R)) (update : Update R) :
    sent (history ++ [update]) = sent history ++ update.published.toList := by
  rw [sent, List.filterMap_append]
  cases published : update.published <;> simp [sent, published]

theorem sincePoll_snoc (history : List (Update R)) (update : Update R) :
    sincePoll (history ++ [update]) =
      if update.published = none then sincePoll history ++ [update] else [] := by
  simp only [sincePoll, List.rtakeWhile_concat, Option.isNone_iff_eq_none]

variable [Double R]

theorem update_sent (supervisor : PlcSupervisor R) (dt : R) (reply : Option (PlcCommandData R))
    (due : supervisor.Due dt) :
    (supervisor.update dt reply).2.published = some (encodePlcStatus
        (supervisor.update dt reply).2.status (supervisor.controllerHeartbeat + 1)) ∧
      (supervisor.update dt reply).1.controllerHeartbeat = supervisor.controllerHeartbeat + 1 := by
  simp [update, decide_due due]

theorem update_unsent (supervisor : PlcSupervisor R) (dt : R) (reply : Option (PlcCommandData R))
    (early : ¬supervisor.Due dt) :
    (supervisor.update dt reply).2.published = none ∧
      (supervisor.update dt reply).1.controllerHeartbeat = supervisor.controllerHeartbeat := by
  simp [update, decide_early early]

/-- The statuses sent are those of the updates, numbered on from `first`. -/
structure Numbered (first : UInt32) (state : PlcSupervisor R × List (Update R)) : Prop where
  heartbeat : state.1.controllerHeartbeat = first + UInt32.ofNat (sent state.2).length
  numbered : (sent state.2).map PlcStatusData.controllerHeartbeat =
    (List.range (sent state.2).length).map fun k => first + UInt32.ofNat (k + 1)
  encoded : ∀ update ∈ state.2, ∀ status, update.published = some status →
    ∃ heartbeat, status = encodePlcStatus update.status heartbeat

theorem numbered_next {first : UInt32} {state : PlcSupervisor R × List (Update R)} (input : Input R)
    (numbered : Numbered first state) : Numbered first (logged next state input) := by
  obtain ⟨supervisor, history⟩ := state
  change Numbered first ((supervisor.update input.dtSeconds input.reply).1,
    history ++ [(supervisor.update input.dtSeconds input.reply).2])
  by_cases due : supervisor.Due input.dtSeconds
  · obtain ⟨published, heartbeat⟩ := supervisor.update_sent input.dtSeconds input.reply due
    generalize (supervisor.update input.dtSeconds input.reply).1 = later at *
    generalize (supervisor.update input.dtSeconds input.reply).2 = update at *
    have more : sent (history ++ [update]) = sent history ++ [encodePlcStatus update.status
        (supervisor.controllerHeartbeat + 1)] := by
      rw [sent_snoc, published]
      rfl
    have counted : later.controllerHeartbeat = first + UInt32.ofNat ((sent history).length + 1) := by
      rw [heartbeat, numbered.heartbeat, UInt32.ofNat_add, UInt32.add_assoc]
      rfl
    refine ⟨?_, ?_, List.forall_mem_append.mpr ⟨numbered.encoded, List.forall_mem_singleton.mpr ?_⟩⟩
    · rw [more, List.length_append]
      exact counted
    · rw [more, List.map_append, List.length_append, List.length_singleton, List.range_succ,
        List.map_append, numbered.numbered, List.map_singleton, List.map_singleton, ← counted, heartbeat]
      rfl
    · intro status same
      cases published.symm.trans same
      exact ⟨_, rfl⟩
  · obtain ⟨unpublished, heartbeat⟩ := supervisor.update_unsent input.dtSeconds input.reply due
    generalize (supervisor.update input.dtSeconds input.reply).1 = later at *
    generalize (supervisor.update input.dtSeconds input.reply).2 = update at *
    have same : sent (history ++ [update]) = sent history := by
      rw [sent_snoc, unpublished]
      exact List.append_nil _
    refine ⟨?_, ?_, List.forall_mem_append.mpr ⟨numbered.encoded, List.forall_mem_singleton.mpr ?_⟩⟩
    · rw [same]
      exact heartbeat.trans numbered.heartbeat
    · rw [same]
      exact numbered.numbered
    · intro status published
      cases unpublished.symm.trans published

theorem fresh_numbered (supervisor : PlcSupervisor R) :
    Numbered supervisor.controllerHeartbeat (supervisor, []) :=
  ⟨(UInt32.add_zero _).symm, rfl, by simp⟩

end Statements

variable {K : Type} [Field K] [LinearOrder K] [SquareRoot K]

/-- The first update polls, and later each one that ends a period since the last poll. -/
def PollsInTime (period : Exact K) (before : List (Update (Exact K))) (update : Update (Exact K)) :
    Prop :=
  update.published ≠ none ↔
    before = [] ∨ period ≤ ((sincePoll before ++ [update]).map Update.dtSeconds).sum

/-- After the poll with the number `last`, counted from zero: the time waited since, and the
time of all updates. -/
structure Cadence (period bound waited total : K) (last : ℕ) (supervisor : PlcSupervisor (Exact K))
    (history : List (Update (Exact K))) : Prop where
  timer_eq : supervisor.pollElapsedSeconds = fin waited
  since_eq : ((sincePoll history).map Update.dtSeconds).sum = fin waited
  total_eq : (history.map Update.dtSeconds).sum = fin total
  polls : (sent history).length = last + 1
  nonneg : 0 ≤ waited
  waiting : waited < period
  least : last * period + waited ≤ total
  most : total ≤ waited + last * (period + bound) + bound

/-- What holds between two updates. -/
structure Rated (period bound : K) (state : PlcSupervisor (Exact K) × List (Update (Exact K))) :
    Prop where
  period_eq : state.1.configuration.pollPeriodSeconds = fin period
  inTime : Throughout (PollsInTime (fin period)) state.2
  cadence : (state.2 = [] ∧ state.1.pollElapsedSeconds = fin period) ∨
    ∃ waited total last, Cadence period bound waited total last state.1 state.2

variable [IsStrictOrderedRing K]

/-- A poll starts a new period. -/
theorem cadence_polled {period bound waited total x : K} {last : ℕ}
    {supervisor next : PlcSupervisor (Exact K)} {history : List (Update (Exact K))}
    {update : Update (Exact K)} (status : PlcStatusData (Exact K))
    (cadence : Cadence period bound waited total last supervisor history)
    (step : update.dtSeconds = fin x) (short : x ≤ bound) (published : update.published = some status)
    (timer : next.pollElapsedSeconds = 0) (positive : 0 < period) (due : period ≤ waited + x) :
    Cadence period bound 0 (total + x) (last + 1) next (history ++ [update]) := by
  have least := cadence.least
  have most := cadence.most
  have waiting := cadence.waiting
  refine ⟨timer, ?_, ?_, ?_, le_rfl, positive, ?_, ?_⟩
  · rw [sincePoll_snoc, published, if_neg (by simp)]
    rfl
  · rw [List.map_append, List.sum_append, cadence.total_eq, List.map_singleton, List.sum_singleton,
      step]
    rfl
  · rw [sent_snoc, published, List.length_append, cadence.polls]
    rfl
  · push_cast
    linarith
  · push_cast
    linarith

theorem cadence_waited {period bound waited total x : K} {last : ℕ}
    {supervisor next : PlcSupervisor (Exact K)} {history : List (Update (Exact K))}
    {update : Update (Exact K)} (cadence : Cadence period bound waited total last supervisor history)
    (step : update.dtSeconds = fin x) (forward : 0 < x) (unpublished : update.published = none)
    (timer : next.pollElapsedSeconds = fin (waited + x)) (early : waited + x < period) :
    Cadence period bound (waited + x) (total + x) last next (history ++ [update]) := by
  have least := cadence.least
  have most := cadence.most
  have nonneg := cadence.nonneg
  refine ⟨timer, ?_, ?_, ?_, by linarith, early, by linarith, by linarith⟩
  · rw [sincePoll_snoc, if_pos unpublished, List.map_append, List.sum_append, cadence.since_eq,
      List.map_singleton, List.sum_singleton, step]
    rfl
  · rw [List.map_append, List.sum_append, cadence.total_eq, List.map_singleton, List.sum_singleton,
      step]
    rfl
  · rw [sent_snoc, unpublished, Option.toList_none, List.append_nil]
    exact cadence.polls

theorem update_inTime {period bound x : K} {supervisor : PlcSupervisor (Exact K)}
    {history : List (Update (Exact K))} (input : Input (Exact K))
    (step : input.dtSeconds = fin x) (forward : 0 < x)
    (rated : Rated period bound (supervisor, history)) :
    PollsInTime (fin period) history (supervisor.update input.dtSeconds input.reply).2 := by
  have time : (supervisor.update input.dtSeconds input.reply).2.dtSeconds = fin x := step
  have full : supervisor.configuration.pollPeriodSeconds = fin period := rated.period_eq
  rw [PollsInTime, update_published, Due, full, List.map_append, List.sum_append, List.map_singleton,
    List.sum_singleton, time, step]
  rcases rated.cadence with ⟨fresh, timer⟩ | ⟨waited, total, last, cadence⟩
  · change supervisor.pollElapsedSeconds = fin period at timer
    rw [timer]
    exact ⟨fun _ => Or.inl fresh, fun _ => (Exact.fin_le_fin _ _).mpr (by linarith)⟩
  · have timer : supervisor.pollElapsedSeconds = fin waited := cadence.timer_eq
    have since : ((sincePoll history).map Update.dtSeconds).sum = fin waited := cadence.since_eq
    rw [timer, since]
    constructor
    · exact Or.inr
    · rintro (fresh | due)
      · have polls : (sent history).length = last + 1 := cadence.polls
        rw [fresh] at polls
        cases polls
      · exact due

theorem rated_polled {period bound x : K} (supervisor : PlcSupervisor (Exact K))
    {later : PlcSupervisor (Exact K)} {history : List (Update (Exact K))}
    {update : Update (Exact K)} {status : PlcStatusData (Exact K)} (positive : 0 < period)
    (time : update.dtSeconds = fin x) (forward : 0 < x) (below : x ≤ bound)
    (due : supervisor.Due (fin x)) (configuration : later.configuration = supervisor.configuration)
    (timer : later.pollElapsedSeconds = 0) (published : update.published = some status)
    (inTime : PollsInTime (fin period) history update)
    (rated : Rated period bound (supervisor, history)) :
    Rated period bound (later, history ++ [update]) := by
  refine ⟨?_, (throughout_snoc _ _ _).mpr ⟨rated.inTime, inTime⟩, Or.inr ?_⟩
  · rw [configuration]
    exact rated.period_eq
  rcases rated.cadence with ⟨fresh, _⟩ | ⟨waited, total, last, cadence⟩
  -- the first poll has no period before it
  · change history = [] at fresh
    subst fresh
    refine ⟨0, x, 0, timer, ?_, ?_, ?_, le_rfl, positive, by simpa using forward.le,
      by simpa using below⟩
    · rw [sincePoll_snoc, published, if_neg (by simp)]
      rfl
    · rw [List.nil_append, List.map_singleton, List.sum_singleton, time]
    · rw [sent_snoc, published]
      rfl
  · rw [Due, cadence.timer_eq, rated.period_eq] at due
    exact ⟨0, total + x, last + 1, cadence_polled _ cadence time below published timer positive
      ((Exact.fin_le_fin _ _).mp due)⟩

theorem rated_waited {period bound x : K} (supervisor : PlcSupervisor (Exact K))
    {later : PlcSupervisor (Exact K)} {history : List (Update (Exact K))}
    {update : Update (Exact K)} (time : update.dtSeconds = fin x) (forward : 0 < x)
    (early : ¬supervisor.Due (fin x)) (configuration : later.configuration = supervisor.configuration)
    (timer : later.pollElapsedSeconds = supervisor.pollElapsedSeconds + fin x)
    (unpublished : update.published = none) (inTime : PollsInTime (fin period) history update)
    (rated : Rated period bound (supervisor, history)) :
    Rated period bound (later, history ++ [update]) := by
  refine ⟨?_, (throughout_snoc _ _ _).mpr ⟨rated.inTime, inTime⟩, Or.inr ?_⟩
  · rw [configuration]
    exact rated.period_eq
  rcases rated.cadence with ⟨_, full⟩ | ⟨waited, total, last, cadence⟩
  · refine absurd ?_ early
    rw [Due, full, rated.period_eq]
    exact (Exact.fin_le_fin _ _).mpr (by linarith)
  · rw [Due, cadence.timer_eq, rated.period_eq] at early
    rw [cadence.timer_eq] at timer
    exact ⟨waited + x, total + x, last, cadence_waited cadence time forward unpublished timer
      (not_le.mp early)⟩

theorem rated_next {period bound : K} {state : PlcSupervisor (Exact K) × List (Update (Exact K))}
    (input : Input (Exact K)) (positive : 0 < period)
    (short : ∃ x, input.dtSeconds = fin x ∧ 0 < x ∧ x ≤ bound)
    (rated : Rated period bound state) : Rated period bound (logged next state input) := by
  obtain ⟨x, step, forward, below⟩ := short
  obtain ⟨supervisor, history⟩ := state
  have inTime := update_inTime input step forward rated
  have time : (supervisor.update input.dtSeconds input.reply).2.dtSeconds = fin x := step
  change Rated period bound ((supervisor.update input.dtSeconds input.reply).1,
    history ++ [(supervisor.update input.dtSeconds input.reply).2])
  by_cases due : supervisor.Due input.dtSeconds
  · have published := (supervisor.update_sent input.dtSeconds input.reply due).1
    have timer := (supervisor.update_polled input.dtSeconds input.reply due).1
    exact rated_polled supervisor positive time forward below (step ▸ due) rfl timer published
      inTime rated
  · have unpublished := (supervisor.update_unsent input.dtSeconds input.reply due).1
    have timer := (supervisor.update_waited input.dtSeconds input.reply due).1
    exact rated_waited supervisor time forward (step ▸ due) rfl (timer.trans (by rw [step]))
      unpublished inTime rated

/-- With time steps of at most `bound`, and whatever the PLC answers: the first update polls,
and later each one that ends a period since the last poll. The statuses sent are those of the
polling updates, numbered from one, and after `n` of them at least `n - 1` periods and less
than `n` periods and time steps have gone by. -/
theorem poll_rate (configuration : Configuration (Exact K)) (controlLoop : ControlLoop (Exact K))
    (supervisor : PlcSupervisor (Exact K))
    (created : create configuration controlLoop = .ok supervisor) (bound : K)
    (inputs : List (Input (Exact K)))
    (short : ∀ input ∈ inputs, Double.ValidStep input.dtSeconds ∧ input.dtSeconds ≤ fin bound) :
    let history := supervisor.history inputs
    let polls := (sent history).length
    Throughout (PollsInTime configuration.pollPeriodSeconds) history ∧
      (sent history).map PlcStatusData.controllerHeartbeat =
        (List.range polls).map (fun k => UInt32.ofNat (k + 1)) ∧
      (∀ update ∈ history, ∀ status, update.published = some status →
        ∃ heartbeat, status = encodePlcStatus update.status heartbeat) ∧
      (inputs ≠ [] → ∃ period total, configuration.pollPeriodSeconds = fin period ∧
        (history.map Update.dtSeconds).sum = fin total ∧
        (polls - 1) * period ≤ total ∧ total < polls * (period + bound)) := by
  obtain ⟨_, _, _, configured, full, zero⟩ := create_monitor created
  have numbered : Numbered supervisor.controllerHeartbeat (run (logged next) (supervisor, []) inputs) :=
    run_always (logged next) (Numbered supervisor.controllerHeartbeat)
      (fun _ input numbered => numbered_next input numbered) _ inputs supervisor.fresh_numbered
  obtain ⟨period, isPeriod, positive⟩ := (Exact.validStep_iff _).mp supervisor.accepted
  have begins : Rated period bound (supervisor, []) := by
    refine ⟨isPeriod, throughout_nil _, Or.inl ⟨rfl, ?_⟩⟩
    rw [← isPeriod, configured]
    exact full
  have rated : Rated period bound (run (logged next) (supervisor, []) inputs) := by
    refine run_invariant (logged next) (fun _ input => Double.ValidStep input.dtSeconds ∧
      input.dtSeconds ≤ fin bound) _ ?_ _ inputs (along_inputs _ _ _ inputs short) begins
    rintro state input ⟨valid, fits⟩ rated
    obtain ⟨x, step, forward, below⟩ := Exact.fin_of_bounded valid.1 fits
    exact rated_next input positive ⟨x, step, forward, below⟩ rated
  rw [configured] at isPeriod
  have counted := numbered.numbered
  simp only [zero, UInt32.zero_add] at counted
  refine ⟨isPeriod ▸ rated.inTime, counted, numbered.encoded, ?_⟩
  intro nonempty
  rcases rated.cadence with ⟨fresh, _⟩ | ⟨waited, total, last, cadence⟩
  · obtain ⟨before, input, rfl⟩ := (List.eq_nil_or_concat inputs).resolve_left nonempty
    rw [List.concat_eq_append, run_snoc] at fresh
    simp [logged, next] at fresh
  · have polls : (sent (supervisor.history inputs)).length = last + 1 := cadence.polls
    have waiting := cadence.waiting
    have nonneg := cadence.nonneg
    have least := cadence.least
    have most := cadence.most
    refine ⟨period, total, isPeriod, cadence.total_eq, ?_, ?_⟩
    · rw [polls]
      push_cast
      linarith
    · rw [polls]
      push_cast
      linarith

/-- A silent PLC is told three statuses in five updates of half a period. -/
theorem poll_rate_silent :
    let history := demo.history (List.replicate 5 ⟨fin 0.01, none⟩)
    ∃ period total : ℚ,
      (Configuration.initial : Configuration (Exact ℚ)).pollPeriodSeconds = fin period ∧
      (history.map Update.dtSeconds).sum = fin total ∧
      ((sent history).length - 1) * period ≤ total ∧
      total < (sent history).length * (period + 0.01) :=
  (poll_rate .initial ControlLoop.demo demo demo_created 0.01 (List.replicate 5 ⟨fin 0.01, none⟩)
    (by decide +kernel)).2.2.2 (by decide)

end PlcSupervisor

end MotionBridge
