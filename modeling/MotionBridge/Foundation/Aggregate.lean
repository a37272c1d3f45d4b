import Mathlib.Algebra.BigOperators.Group.List.Basic
import Mathlib.Algebra.Order.BigOperators.Group.List
import Mathlib.Algebra.Order.Field.Basic
import Mathlib.Data.List.Induction
import Mathlib.Order.Bounds.Basic
import Mathlib.Tactic.FieldSimp
import Mathlib.Tactic.Ring

/-!
# Aggregates

The mean and the largest of some numbers, and what one more number makes of them. Both
are zero as long as there is none.
-/
namespace Foundation

variable {K : Type} [Field K]

def mean (values : List K) : K := values.sum / values.length

/-- One more value moves the mean by its part of the difference. -/
theorem mean_snoc [CharZero K] (values : List K) (x : K) :
    mean (values ++ [x]) = mean values + (x - mean values) / (values.length + 1 : ℕ) := by
  have counted : ((values.length + 1 : ℕ) : K) ≠ 0 := Nat.cast_ne_zero.mpr (Nat.succ_ne_zero _)
  have total : mean values * values.length = values.sum := by
    cases values with
    | nil => simp [mean]
    | cons y values =>
      apply div_mul_cancel₀
      exact Nat.cast_ne_zero.mpr (by simp)
  rw [mean, List.sum_append, List.sum_singleton, List.length_append, List.length_singleton, ← total]
  field_simp
  push_cast
  ring

variable [LinearOrder K]

def largest (values : List K) : K := values.foldl max 0

theorem largest_snoc (values : List K) (x : K) :
    largest (values ++ [x]) = max (largest values) x := by
  simp [largest, List.foldl_append]

theorem le_largest (values : List K) : ∀ x ∈ values, x ≤ largest values := by
  induction values using List.reverseRecOn with
  | nil => simp
  | append_singleton values y ih =>
    intro x member
    rw [largest_snoc]
    rcases List.mem_append.mp member with earlier | last
    · exact (ih x earlier).trans (le_max_left _ _)
    · rw [List.mem_singleton.mp last]
      exact le_max_right _ _

/-- Where no value is negative, the largest is one of them. -/
theorem largest_mem {values : List K} (nonempty : values ≠ []) (nonneg : ∀ x ∈ values, 0 ≤ x) :
    largest values ∈ values := by
  induction values using List.reverseRecOn with
  | nil => exact absurd rfl nonempty
  | append_singleton values x ih =>
    rw [largest_snoc]
    by_cases first : values = []
    · subst first
      simpa [largest] using nonneg x (by simp)
    · have earlier := ih first fun y member => nonneg y (by simp [member])
      rcases max_choice (largest values) x with old | new
      · rw [old]
        simp [earlier]
      · rw [new]
        simp

theorem largest_isGreatest {values : List K} (nonempty : values ≠ [])
    (nonneg : ∀ x ∈ values, 0 ≤ x) : IsGreatest {x | x ∈ values} (largest values) :=
  ⟨largest_mem nonempty nonneg, le_largest values⟩

variable [IsStrictOrderedRing K]

theorem mean_nonneg {values : List K} (nonneg : ∀ x ∈ values, 0 ≤ x) : 0 ≤ mean values :=
  div_nonneg (List.sum_nonneg nonneg) (Nat.cast_nonneg _)

theorem mean_le_largest (values : List K) : mean values ≤ largest values := by
  cases values with
  | nil => simp [mean, largest]
  | cons y rest =>
    have counted : (0 : K) < (y :: rest).length := Nat.cast_pos.mpr (by simp)
    have bounded := List.sum_le_card_nsmul (y :: rest) (largest (y :: rest)) (le_largest _)
    rw [nsmul_eq_mul, mul_comm] at bounded
    exact (div_le_iff₀ counted).mpr bounded

end Foundation
