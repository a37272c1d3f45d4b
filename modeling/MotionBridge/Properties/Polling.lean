import MotionBridge.Runtime.PlcSupervisor

/-!
# Polling

The poll timer adds up every time step it is given, good or bad, and starts again at
zero when it polls. The watchdog runs beside it and rejects the bad ones.
-/
namespace MotionBridge

open Foundation
open Exact (fin)

namespace PlcSupervisor

section Timer

variable {R : Type} [Double R]

/-- The poll timer reaches its period with this time step. -/
def Due (supervisor : PlcSupervisor R) (dtSeconds : R) : Prop :=
  supervisor.pollElapsedSeconds + dtSeconds ≥ supervisor.configuration.pollPeriodSeconds

instance (supervisor : PlcSupervisor R) (dtSeconds : R) : Decidable (supervisor.Due dtSeconds) :=
  inferInstanceAs (Decidable (_ ≤ _))

theorem decide_due {supervisor : PlcSupervisor R} {dt : R} (due : supervisor.Due dt) :
    decide (supervisor.pollElapsedSeconds + dt ≥
      supervisor.configuration.pollPeriodSeconds) = true :=
  decide_eq_true due

theorem decide_early {supervisor : PlcSupervisor R} {dt : R} (early : ¬supervisor.Due dt) :
    decide (supervisor.pollElapsedSeconds + dt ≥
      supervisor.configuration.pollPeriodSeconds) = false :=
  decide_eq_false early

theorem update_published (supervisor : PlcSupervisor R) (dt : R)
    (reply : Option (PlcCommandData R)) :
    (supervisor.update dt reply).2.published ≠ none ↔ supervisor.Due dt := by
  by_cases due : supervisor.Due dt
  · simp [update, decide_due due, due]
  · simp [update, decide_early due, due]

/-- A poll clears the timer. -/
theorem update_polled (supervisor : PlcSupervisor R) (dt : R) (reply : Option (PlcCommandData R))
    (due : supervisor.Due dt) :
    (supervisor.update dt reply).1.pollElapsedSeconds = 0 ∧
      (supervisor.update dt reply).2.command = reply := by
  simp [update, decide_due due]

theorem update_waited (supervisor : PlcSupervisor R) (dt : R) (reply : Option (PlcCommandData R))
    (early : ¬supervisor.Due dt) :
    (supervisor.update dt reply).1.pollElapsedSeconds = supervisor.pollElapsedSeconds + dt ∧
      (supervisor.update dt reply).2.command = none := by
  simp [update, decide_early early]

/-- The supervisor after some updates. -/
def after (supervisor : PlcSupervisor R) (inputs : List (Input R)) : PlcSupervisor R :=
  run (fun supervisor input => (supervisor.next input).1) supervisor inputs

/-- None of these updates polls. -/
def Quiet (supervisor : PlcSupervisor R) (inputs : List (Input R)) : Prop :=
  Along (fun supervisor input => (supervisor.next input).1)
    (fun supervisor input => ¬supervisor.Due input.dtSeconds) supervisor inputs

instance (supervisor : PlcSupervisor R) (inputs : List (Input R)) :
    Decidable (supervisor.Quiet inputs) :=
  inferInstanceAs (Decidable (Along _ _ _ _))

theorem quiet_snoc (supervisor : PlcSupervisor R) (inputs : List (Input R)) (input : Input R) :
    supervisor.Quiet (inputs ++ [input]) ↔
      supervisor.Quiet inputs ∧ ¬(supervisor.after inputs).Due input.dtSeconds := by
  simp only [Quiet, along_append, along_cons, along_nil, and_true, after]

end Timer

variable {K : Type} [Field K] [LinearOrder K] [SquareRoot K]

/-- The timer adds up the time steps since the last poll, or, before the first one, all
of them on top of what it began with. -/
theorem timer_since (supervisor : PlcSupervisor (Exact K)) (before : List (Input (Exact K))) :
    (supervisor.Quiet before ∧ (supervisor.after before).pollElapsedSeconds =
      supervisor.pollElapsedSeconds + (before.map Input.dtSeconds).sum) ∨
    ∃ first poll since, before = first ++ poll :: since ∧
      (supervisor.after first).Due poll.dtSeconds ∧
      (supervisor.after (first ++ [poll])).Quiet since ∧
      (supervisor.after before).pollElapsedSeconds = (since.map Input.dtSeconds).sum := by
  induction before using List.reverseRecOn with
  | nil => exact Or.inl ⟨trivial, (add_zero _).symm⟩
  | append_singleton before input ih =>
    have last : supervisor.after (before ++ [input]) =
        ((supervisor.after before).next input).1 := run_snoc ..
    by_cases due : (supervisor.after before).Due input.dtSeconds
    -- the last update polls, and the count begins again
    · refine Or.inr ⟨before, input, [], rfl, due, trivial, ?_⟩
      rw [last]
      exact ((supervisor.after before).update_polled input.dtSeconds input.reply due).1
    · have timer : (supervisor.after (before ++ [input])).pollElapsedSeconds =
          (supervisor.after before).pollElapsedSeconds + input.dtSeconds := by
        rw [last]
        exact ((supervisor.after before).update_waited input.dtSeconds input.reply due).1
      rcases ih with ⟨quiet, waited⟩ | ⟨first, poll, since, rfl, polled, quiet, waited⟩
      · refine Or.inl ⟨(quiet_snoc _ _ _).mpr ⟨quiet, due⟩, ?_⟩
        rw [timer, waited, List.map_append, List.sum_append, ← add_assoc, List.map_singleton,
          List.sum_singleton]
      · refine Or.inr ⟨first, poll, since ++ [input], by simp, polled, ?_, ?_⟩
        · refine (quiet_snoc _ _ _).mpr ⟨quiet, ?_⟩
          have here : (supervisor.after (first ++ [poll])).after since =
              supervisor.after (first ++ poll :: since) := by
            simp only [after, ← run_append, List.append_assoc, List.singleton_append]
          rwa [here]
        · rw [timer, waited, List.map_append, List.sum_append, List.map_singleton,
            List.sum_singleton]

/-- Time steps that fill what the timer lacks make it poll. -/
theorem due_of_sum (supervisor : PlcSupervisor (Exact K)) (later : List (Input (Exact K)))
    (nonempty : later ≠ [])
    (enough : supervisor.configuration.pollPeriodSeconds ≤
      supervisor.pollElapsedSeconds + (later.map Input.dtSeconds).sum) :
    ∃ first input rest, later = first ++ input :: rest ∧
      (supervisor.after first).Due input.dtSeconds := by
  induction later generalizing supervisor with
  | nil => exact absurd rfl nonempty
  | cons input later ih =>
    by_cases due : supervisor.Due input.dtSeconds
    · exact ⟨[], input, later, rfl, due⟩
    -- the timer has taken this step over, and the others still fill it
    · have timer := (supervisor.update_waited input.dtSeconds input.reply due).1
      rw [List.map_cons, List.sum_cons, ← add_assoc] at enough
      have more : later ≠ [] := by
        rintro rfl
        rw [List.map_nil, List.sum_nil, add_zero] at enough
        exact due enough
      obtain ⟨first, poll, rest, rfl, reached⟩ :=
        ih (supervisor.next input).1 more (timer ▸ enough)
      exact ⟨input :: first, poll, rest, rfl, reached⟩

/-- Good time steps that add up to the poll period contain an update that polls. -/
def PollsAgain (supervisor : PlcSupervisor (Exact K)) : Prop :=
  ∀ later : List (Input (Exact K)), later ≠ [] →
    (∀ input ∈ later, Double.ValidStep input.dtSeconds) →
    supervisor.configuration.pollPeriodSeconds ≤ (later.map Input.dtSeconds).sum →
    ∃ first input rest, later = first ++ input :: rest ∧
      ((supervisor.after first).update input.dtSeconds input.reply).2.published ≠ none

variable [IsStrictOrderedRing K]

theorem due_of_nonneg (supervisor : PlcSupervisor (Exact K)) (dt : Exact K)
    (nonneg : 0 ≤ supervisor.pollElapsedSeconds)
    (enough : supervisor.configuration.pollPeriodSeconds ≤ dt) (finite : ∃ t, dt = fin t) :
    supervisor.configuration.pollPeriodSeconds ≤ supervisor.pollElapsedSeconds + dt := by
  obtain ⟨period, isPeriod, _⟩ := (Exact.validStep_iff _).mp supervisor.accepted
  obtain ⟨t, rfl⟩ := finite
  rw [isPeriod] at enough ⊢
  cases timer : supervisor.pollElapsedSeconds with
  | fin e =>
    rw [timer] at nonneg
    have nonneg : 0 ≤ e := nonneg
    have enough : period ≤ t := enough
    exact (Exact.fin_le_fin _ _).mpr (by linarith)
  | posInf => trivial
  | negInf | nan =>
    rw [timer] at nonneg
    cases nonneg

/-- A step of one poll period is enough only for a timer that is not behind. -/
theorem timer_of_pollsAgain (supervisor : PlcSupervisor (Exact K))
    (again : supervisor.PollsAgain) : 0 ≤ supervisor.pollElapsedSeconds := by
  obtain ⟨period, isPeriod, _⟩ := (Exact.validStep_iff _).mp supervisor.accepted
  obtain ⟨first, input, rest, split, published⟩ :=
    again [⟨supervisor.configuration.pollPeriodSeconds, none⟩] (by simp)
      (List.forall_mem_singleton.mpr supervisor.accepted) (by simp [isPeriod])
  obtain ⟨rfl, rfl, rfl⟩ : first = [] ∧ input = ⟨_, none⟩ ∧ rest = [] := by
    simpa [eq_comm] using List.cons_eq_append_iff.mp split
  have due := (update_published _ _ _).mp published
  change supervisor.configuration.pollPeriodSeconds ≤
    supervisor.pollElapsedSeconds + supervisor.configuration.pollPeriodSeconds at due
  rw [isPeriod] at due
  cases timer : supervisor.pollElapsedSeconds with
  | fin e =>
    rw [timer, Exact.fin_add, Exact.fin_le_fin] at due
    exact (Exact.fin_le_fin _ _).mpr (by linarith)
  | posInf => trivial
  | negInf | nan =>
    rw [timer] at due
    cases due

theorem pollsAgain_of_timer (supervisor : PlcSupervisor (Exact K))
    (nonneg : 0 ≤ supervisor.pollElapsedSeconds) : supervisor.PollsAgain := by
  intro later nonempty valid enough
  have finite := Exact.sum_finite (later.map Input.dtSeconds) (by simpa using valid)
  obtain ⟨first, input, rest, split, due⟩ := supervisor.due_of_sum later nonempty
    (supervisor.due_of_nonneg _ nonneg enough finite)
  exact ⟨first, input, rest, split, (update_published _ _ _).mpr due⟩

/-- Time steps that are not negative, infinite ones included, do no harm. -/
theorem timer_forward (supervisor : PlcSupervisor (Exact K)) (before : List (Input (Exact K)))
    (fresh : 0 ≤ supervisor.pollElapsedSeconds) (forward : ∀ input ∈ before, 0 ≤ input.dtSeconds) :
    0 ≤ (supervisor.after before).pollElapsedSeconds := by
  refine run_invariant _ (fun _ input => 0 ≤ input.dtSeconds)
    (fun supervisor : PlcSupervisor (Exact K) => 0 ≤ supervisor.pollElapsedSeconds) ?_
    supervisor before (along_inputs _ _ _ before forward) fresh
  intro supervisor input nonneg timer
  change 0 ≤ (supervisor.update input.dtSeconds input.reply).1.pollElapsedSeconds
  by_cases due : supervisor.Due input.dtSeconds
  · rw [(supervisor.update_polled input.dtSeconds input.reply due).1]
    exact (Exact.fin_le_fin _ _).mpr le_rfl
  · rw [(supervisor.update_waited input.dtSeconds input.reply due).1]
    exact Exact.nonneg_add timer nonneg

/-- Whatever the updates so far were, the PLC is polled again if and only if they left
the timer at a number, and not below zero. That depends on the time steps since the last
poll only, or, before the first one, on all of them and what the timer began with; steps
that are not negative never leave it behind. -/
theorem polls_again_iff (supervisor : PlcSupervisor (Exact K)) (before : List (Input (Exact K))) :
    ((supervisor.after before).PollsAgain ↔ 0 ≤ (supervisor.after before).pollElapsedSeconds) ∧
    ((supervisor.Quiet before ∧ ((supervisor.after before).PollsAgain ↔
        0 ≤ supervisor.pollElapsedSeconds + (before.map Input.dtSeconds).sum)) ∨
      ∃ first poll since, before = first ++ poll :: since ∧
        (supervisor.after first).Due poll.dtSeconds ∧
        (supervisor.after (first ++ [poll])).Quiet since ∧
        ((supervisor.after before).PollsAgain ↔ 0 ≤ (since.map Input.dtSeconds).sum)) ∧
    (0 ≤ supervisor.pollElapsedSeconds → (∀ input ∈ before, 0 ≤ input.dtSeconds) →
      (supervisor.after before).PollsAgain) := by
  have left : (supervisor.after before).PollsAgain ↔
      0 ≤ (supervisor.after before).pollElapsedSeconds :=
    ⟨timer_of_pollsAgain _, pollsAgain_of_timer _⟩
  refine ⟨left, ?_, fun fresh forward => left.mpr (timer_forward supervisor before fresh forward)⟩
  rcases supervisor.timer_since before with
    ⟨quiet, timer⟩ | ⟨first, poll, since, split, due, quiet, timer⟩
  · rw [timer] at left
    exact Or.inl ⟨quiet, left⟩
  · rw [timer] at left
    exact Or.inr ⟨first, poll, since, split, due, quiet, left⟩

/-- A step back after the first poll, made good by a later one, and an infinite step and
one of zero: the demo polls again after either. -/
theorem polls_again_iff_demo :
    (demo.after [⟨0.001, none⟩, ⟨-0.01, none⟩, ⟨0.015, none⟩]).PollsAgain ∧
      (demo.after [⟨Exact.posInf, none⟩, ⟨0, none⟩]).PollsAgain :=
  ⟨(polls_again_iff demo [⟨0.001, none⟩, ⟨-0.01, none⟩, ⟨0.015, none⟩]).1.mpr (by decide +kernel),
    (polls_again_iff demo [⟨Exact.posInf, none⟩, ⟨0, none⟩]).2.2 (by decide +kernel)
      (by decide +kernel)⟩

/-- One time step that is not a number, and the demo never polls again. -/
theorem polling_lost : ¬(demo.after [⟨Exact.nan, none⟩]).PollsAgain := by
  intro again
  exact absurd (timer_of_pollsAgain _ again) (by decide +kernel)

/-- A fresh supervisor is one period ahead: one step back does not put it behind. -/
example : (demo.after [⟨-0.01, none⟩]).pollElapsedSeconds = 0.01 := by decide +kernel

end PlcSupervisor

end MotionBridge
