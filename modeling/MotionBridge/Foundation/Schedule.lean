import Mathlib.Data.Nat.Init

/-!
# Work on a grid

A task works once in every period. When it is done early it sleeps until the next period begins;
when it is late it goes on at once, and the grid stays where it is. Times are counted in ticks
from the beginning of the first period.
-/
namespace Foundation

/-- How long the parts of one cycle take. The first `lag` is over before the clock is read, the
`rest` comes after the work, and `oversleep` tells how late the task wakes up. -/
structure CycleTime where
  lag : ℕ
  work : ℕ
  rest : ℕ
  oversleep : ℕ
  deriving DecidableEq, Repr

/-- A task that does not sleep takes one cycle right after the other. -/
structure Schedule where
  period : ℕ
  sleeps : Bool
  elapsed : ℕ → CycleTime

namespace Schedule

variable (schedule : Schedule)

/-- When a cycle is entered. -/
def entered : ℕ → ℕ
  | 0 => 0
  | cycle + 1 =>
    let elapsed := schedule.elapsed cycle
    let done := entered cycle + elapsed.lag + elapsed.work + elapsed.rest
    if schedule.sleeps then max done ((cycle + 1) * schedule.period) + elapsed.oversleep else done

def started (cycle : ℕ) : ℕ := schedule.entered cycle + (schedule.elapsed cycle).lag

def completed (cycle : ℕ) : ℕ := schedule.started cycle + (schedule.elapsed cycle).work

/-- Still at work when the next period begins. -/
def Missed (cycle : ℕ) : Prop := (cycle + 1) * schedule.period < schedule.completed cycle

instance (cycle : ℕ) : Decidable (schedule.Missed cycle) := Nat.decLt _ _

/-- How long after the beginning of its period a cycle starts. -/
def lateness (cycle : ℕ) : ℕ := schedule.started cycle - cycle * schedule.period

variable {schedule}

/-- Nobody who sleeps is early. -/
theorem entered_onGrid (sleeps : schedule.sleeps = true) (cycle : ℕ) :
    cycle * schedule.period ≤ schedule.entered cycle := by
  cases cycle with
  | zero => exact Nat.le_of_eq (Nat.zero_mul _)
  | succ cycle =>
    rw [entered, if_pos sleeps]
    exact Nat.le_trans (Nat.le_max_right _ _) (Nat.le_add_right _ _)

theorem started_onGrid (sleeps : schedule.sleeps = true) (cycle : ℕ) :
    schedule.started cycle = cycle * schedule.period + schedule.lateness cycle := by
  have onGrid := Nat.le_trans (entered_onGrid sleeps cycle)
    (Nat.le_add_right _ (schedule.elapsed cycle).lag)
  exact (Nat.add_sub_of_le onGrid).symm

theorem missed_iff (sleeps : schedule.sleeps = true) (cycle : ℕ) :
    schedule.Missed cycle ↔
      schedule.period < schedule.lateness cycle + (schedule.elapsed cycle).work := by
  rw [Missed, completed, started_onGrid sleeps, Nat.succ_mul]
  omega

/-- What is left of the lateness, and of the work beyond the period, is carried over. -/
theorem lateness_succ (sleeps : schedule.sleeps = true) (cycle : ℕ) :
    schedule.lateness (cycle + 1) =
      (schedule.lateness cycle + (schedule.elapsed cycle).work + (schedule.elapsed cycle).rest -
          schedule.period) +
        (schedule.elapsed cycle).oversleep + (schedule.elapsed (cycle + 1)).lag := by
  have here := started_onGrid sleeps cycle
  have there := started_onGrid sleeps (cycle + 1)
  rw [started, Nat.succ_mul] at there
  rw [started] at here
  simp only [entered, if_pos sleeps, Nat.succ_mul] at there
  omega

/-- A cycle that leaves `slack` of its period to the delay with which the next one starts. -/
structure Fits (schedule : Schedule) (delay slack cycle : ℕ) : Prop where
  delayed : (schedule.elapsed cycle).oversleep + (schedule.elapsed (cycle + 1)).lag ≤ delay
  short : (schedule.elapsed cycle).work + (schedule.elapsed cycle).rest + delay + slack ≤
    schedule.period

variable {delay slack first : ℕ}

/-- Cycles that fit make up for a late one, each for its slack. -/
theorem lateness_shrinks (sleeps : schedule.sleeps = true) (more : ℕ)
    (fits : ∀ cycle, first ≤ cycle → cycle < first + more → schedule.Fits delay slack cycle) :
    schedule.lateness (first + more) ≤ max delay (schedule.lateness first - more * slack) := by
  induction more with
  | zero =>
    rw [Nat.zero_mul]
    exact Nat.le_max_right _ _
  | succ more ih =>
    have before := ih fun cycle after before => fits cycle after (by omega)
    obtain ⟨delayed, short⟩ := fits (first + more) (by omega) (by omega)
    have next := lateness_succ sleeps (first + more)
    rw [Nat.add_assoc first more 1] at next delayed
    rw [Nat.succ_mul]
    omega

/-- Once all cycles fit, they are in time as soon as the lateness is made up for. -/
theorem missed_early (sleeps : schedule.sleeps = true) (more : ℕ)
    (fits : ∀ cycle, first ≤ cycle → cycle ≤ first + more → schedule.Fits delay slack cycle)
    (missed : schedule.Missed (first + more)) : more * slack < schedule.lateness first := by
  have late := lateness_shrinks sleeps more fun cycle after before => fits cycle after (by omega)
  obtain ⟨_, short⟩ := fits (first + more) (by omega) (by omega)
  rw [missed_iff sleeps] at missed
  omega

end Schedule

end Foundation
