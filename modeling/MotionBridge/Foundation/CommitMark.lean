import MotionBridge.Foundation.LastBinding

/-!
# Commit marks

An attempt has its effects in a fixed order and breaks off at the first failure. If the
last one writes a mark, then whatever fails, the mark never runs ahead of the rest.
-/
namespace Foundation

variable {E C : Type}

/-- What came of an attempt, and the effects it had. -/
structure Attempt (E : Type) where
  succeeded : Bool
  effects : List E
  deriving DecidableEq, Repr

namespace Attempt

/-- The second attempt is made only if the first one succeeded. -/
def andThen (first second : Attempt E) : Attempt E :=
  if first.succeeded then ⟨second.succeeded, first.effects ++ second.effects⟩ else first

theorem andThen_assoc (first second third : Attempt E) :
    (first.andThen second).andThen third = first.andThen (second.andThen third) := by
  unfold andThen
  by_cases one : first.succeeded = true
  · by_cases two : second.succeeded = true
    · simp [one, two]
    · simp [one, two]
  · simp [one]

/-- An attempt with nothing left to do. -/
theorem andThen_done (attempt : Attempt E) : attempt.andThen ⟨true, []⟩ = attempt := by
  obtain ⟨succeeded, effects⟩ := attempt
  cases succeeded with
  | true => simp [andThen]
  | false => simp [andThen]

/-- The effects are the intended ones, in their order and as far as the attempt got. -/
structure Pursues (attempt : Attempt E) (intended : List E) : Prop where
  inOrder : attempt.effects <+: intended
  complete : attempt.succeeded = true → attempt.effects = intended

theorem Pursues.andThen {first second : Attempt E} {former latter : List E}
    (one : first.Pursues former) (two : second.Pursues latter) :
    (first.andThen second).Pursues (former ++ latter) := by
  unfold Attempt.andThen
  by_cases succeeded : first.succeeded = true
  · have done := one.complete succeeded
    rw [if_pos succeeded]
    constructor
    · rw [done]
      exact (List.prefix_append_right_inj former).mpr two.inOrder
    · intro both
      exact congrArg₂ _ done (two.complete both)
  · rw [if_neg succeeded]
    exact ⟨one.inOrder.trans (List.prefix_append former latter), fun success => absurd success succeeded⟩

end Attempt

/-- A log of what successive attempts did, each with its intended effects. An entry has
the number of its attempt. -/
inductive Attempted : List (List E) → List (ℕ × E) → Prop
  | start : Attempted [] []
  | attempt {attempts : List (List E)} {log : List (ℕ × E)} {intended effects : List E} :
      Attempted attempts log → effects <+: intended →
        Attempted (attempts ++ [intended]) (log ++ effects.map fun effect => (attempts.length, effect))

/-- A prefix of a log is the log of the attempts made so far, the last one broken off. -/
theorem Attempted.at_moment {attempts : List (List E)} {log moment : List (ℕ × E)}
    (attempted : Attempted attempts log) (reached : moment <+: log) :
    ∃ earlier, earlier <+: attempts ∧ Attempted earlier moment := by
  induction attempted with
  | start =>
    rw [List.prefix_nil.mp reached]
    exact ⟨[], List.prefix_rfl, .start⟩
  | @attempt attempts log intended effects before inOrder ih =>
    by_cases short : moment.length ≤ log.length
    · have inside := List.prefix_of_prefix_length_le reached (List.prefix_append log _) short
      obtain ⟨earlier, shorter, attempted⟩ := ih inside
      exact ⟨earlier, shorter.trans (List.prefix_append attempts _), attempted⟩
    -- the moment lies within the last attempt
    · have longer := List.prefix_of_prefix_length_le (List.prefix_append log _) reached
        (Nat.le_of_not_le short)
      obtain ⟨rest, rfl⟩ := longer
      have started := (List.prefix_append_right_inj log).mp reached
      obtain ⟨part, partly, rfl⟩ := List.prefix_map_iff.mp started
      exact ⟨_, List.prefix_rfl, .attempt before (partly.trans inOrder)⟩

variable (cell : E → C)

/-- Which attempt wrote which cell. -/
def writers (log : List (ℕ × E)) : List (C × ℕ) := log.map fun entry => (cell entry.2, entry.1)

variable [DecidableEq C]

/-- The cells an attempt wrote are its own, the others stay with whom they were. -/
theorem assign_writers (log : List (ℕ × E)) (effects : List E) (number : ℕ) (key : C) :
    assign (writers cell (log ++ effects.map fun effect => (number, effect))) key =
      if key ∈ effects.map cell then some number else assign (writers cell log) key := by
  induction effects using List.reverseRecOn with
  | nil => simp
  | append_singleton effects effect ih =>
    have snoc : writers cell (log ++ (effects ++ [effect]).map fun effect => (number, effect)) =
        writers cell (log ++ effects.map fun effect => (number, effect)) ++ [(cell effect, number)] := by
      simp [writers]
    rw [snoc, assign_snoc]
    by_cases same : key = cell effect
    · simp [same]
    · rw [Function.update_of_ne same, ih]
      simp [same]

/-- Where the mark was written by an attempt, every field was written by it or a later one. -/
theorem Attempted.vouches {attempts : List (List E)} {log : List (ℕ × E)} {fields : List C} {mark : C}
    (attempted : Attempted attempts log) (apart : mark ∉ fields)
    (order : ∀ intended ∈ attempts, intended.map cell = fields ++ [mark]) {number : ℕ}
    (marked : assign (writers cell log) mark = some number) :
    number < attempts.length ∧
      ∀ field ∈ fields, ∃ later, number ≤ later ∧ assign (writers cell log) field = some later := by
  induction attempted with
  | start => simp [writers] at marked
  | @attempt attempts log intended effects _ inOrder ih =>
    have written := inOrder.map cell
    rw [order intended (by simp), List.prefix_concat_iff] at written
    simp only [assign_writers, List.length_append, List.length_singleton] at marked ⊢
    rcases written with all | fewer
    · rw [all] at marked ⊢
      simp only [List.mem_append, List.mem_singleton, or_true, if_true, Option.some.injEq] at marked
      subst marked
      refine ⟨by omega, ?_⟩
      intro field member
      exact ⟨attempts.length, Nat.le_refl _, by simp [member]⟩
    -- the attempt broke off before the mark, which an earlier one wrote
    · rw [if_neg fun member => apart (fewer.subset member)] at marked
      obtain ⟨bounded, fields'⟩ := ih (fun other member => order other (by simp [member])) marked
      refine ⟨by omega, ?_⟩
      intro field member
      by_cases rewritten : field ∈ effects.map cell
      · exact ⟨attempts.length, by omega, if_pos rewritten⟩
      · rw [if_neg rewritten]
        exact fields' field member

end Foundation
