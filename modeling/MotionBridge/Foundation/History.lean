import Mathlib.Algebra.BigOperators.Group.List.Basic
import Mathlib.Data.List.Induction

/-!
# Histories

A history is a list of events, the latest last. What is said of an event may
depend on what happened before it.
-/
namespace Foundation

variable {E T : Type}

/-- Every event of the history satisfies `p`, which sees its past. -/
def Throughout (p : List E → E → Prop) (history : List E) : Prop :=
  ∀ before event after, history = before ++ event :: after → p before event

theorem throughout_nil (p : List E → E → Prop) : Throughout p [] := by
  intro before event after split
  cases before <;> cases split

theorem throughout_left {p : List E → E → Prop} {history later : List E}
    (throughout : Throughout p (history ++ later)) : Throughout p history := by
  intro before event after split
  exact throughout before event (after ++ later) (by rw [split, List.append_assoc]; rfl)

theorem throughout_snoc (p : List E → E → Prop) (history : List E) (event : E) :
    Throughout p (history ++ [event]) ↔ Throughout p history ∧ p history event := by
  constructor
  · intro throughout
    exact ⟨throughout_left throughout, throughout history event [] rfl⟩
  · rintro ⟨throughout, last⟩ before event' after split
    -- the event split off is the last one, or an event of the shorter history
    rcases List.eq_nil_or_concat after with rfl | ⟨rest, final, rfl⟩
    · obtain ⟨rfl, same⟩ := List.append_inj' split rfl
      cases same
      exact last
    · have shifted : history ++ [event] = (before ++ event' :: rest) ++ [final] := by
        rw [split, List.concat_eq_append, List.append_assoc]
        rfl
      exact throughout before event' rest (List.append_inj' shifted rfl).1

/-- Events that satisfy `p` after any past extend a history freely. -/
theorem throughout_append (p : List E → E → Prop) (history events : List E)
    (throughout : Throughout p history) (free : ∀ event ∈ events, ∀ before, p before event) :
    Throughout p (history ++ events) := by
  induction events using List.reverseRecOn with
  | nil => rwa [List.append_nil]
  | append_singleton events event ih =>
    rw [← List.append_assoc, throughout_snoc]
    have earlier := ih fun other member => free other (List.mem_append_left _ member)
    exact ⟨earlier, free event (List.mem_append_right _ (List.mem_singleton_self event)) _⟩

/-! A lease is renewed by some events and every event takes time. A timer that is
cleared by every renewal and advanced by every event shows the time since the last
renewal. -/

/-- The time since the last renewal, counted from the renewing event on. -/
inductive Elapsed [Add T] (renews : List E → E → Prop) (duration : E → T) : List E → T → Prop
  | renewed {before : List E} {event : E} :
      renews before event → Elapsed renews duration (before ++ [event]) (duration event)
  | waited {before : List E} {event : E} {t : T} :
      ¬renews before event → Elapsed renews duration before t →
        Elapsed renews duration (before ++ [event]) (t + duration event)

/-- None of the events `later`, which follow `history`, is a renewal. -/
def Unrenewed (renews : List E → E → Prop) (history later : List E) : Prop :=
  Throughout (fun first event => ¬renews (history ++ first) event) later

/-- The timer reads the sum over the events from the last renewal on. -/
theorem elapsed_split [AddMonoid T] {renews : List E → E → Prop} {duration : E → T}
    {history : List E} {t : T} (elapsed : Elapsed renews duration history t) :
    ∃ before renewal later, history = before ++ renewal :: later ∧ renews before renewal ∧
      Unrenewed renews (before ++ [renewal]) later ∧
      ((renewal :: later).map duration).sum = t := by
  induction elapsed with
  | @renewed before event renews =>
    exact ⟨before, event, [], rfl, renews, throughout_nil _, by simp⟩
  | @waited history event t unrenewing _ ih =>
    -- the renewal found so far stays the last one, and the event joins the sum
    obtain ⟨before, renewal, later, rfl, renews, unrenewed, rfl⟩ := ih
    refine ⟨before, renewal, later ++ [event], by simp, renews, ?_, ?_⟩
    · refine (throughout_snoc _ later event).mpr ⟨unrenewed, ?_⟩
      rwa [List.append_assoc, List.singleton_append]
    · rw [← List.cons_append, List.map_append, List.sum_append]
      simp

/-! Some events open a period that others close. A history is well spaced if no period
is opened before the one opened last is closed. -/

/-- The period opened last is still open. -/
def Pending (opens closes : E → Prop) (history : List E) : Prop :=
  ∃ before opening later, history = before ++ opening :: later ∧ opens opening ∧
    ∀ event ∈ later, ¬closes event

/-- Between any two events that open a period one closes it. -/
def Spaced (opens closes : E → Prop) (history : List E) : Prop :=
  ∀ before first between second after,
    history = before ++ first :: (between ++ second :: after) → opens first → opens second →
      ∃ event ∈ between, closes event

theorem pending_nil (opens closes : E → Prop) : ¬Pending opens closes [] := by
  rintro ⟨before, opening, later, split, _⟩
  simp at split

theorem pending_cons (opens closes : E → Prop) (event : E) (history : List E) :
    Pending opens closes (event :: history) ↔
      (opens event ∧ ∀ later ∈ history, ¬closes later) ∨ Pending opens closes history := by
  constructor
  · rintro ⟨before, opening, later, split, opened, unclosed⟩
    rcases List.cons_eq_append_iff.mp split with ⟨rfl, same⟩ | ⟨rest, rfl, same⟩
    · cases same
      exact .inl ⟨opened, unclosed⟩
    · exact .inr ⟨rest, opening, later, same, opened, unclosed⟩
  · rintro (⟨opened, unclosed⟩ | ⟨before, opening, later, rfl, opened, unclosed⟩)
    · exact ⟨[], event, history, rfl, opened, unclosed⟩
    · exact ⟨event :: before, opening, later, rfl, opened, unclosed⟩

instance decidePending (opens closes : E → Prop) [DecidablePred opens] [DecidablePred closes] :
    (history : List E) → Decidable (Pending opens closes history)
  | [] => .isFalse (pending_nil opens closes)
  | event :: history =>
    have := decidePending opens closes history
    decidable_of_iff _ (pending_cons opens closes event history).symm

theorem pending_snoc (opens closes : E → Prop) (history : List E) (event : E) :
    Pending opens closes (history ++ [event]) ↔
      opens event ∨ (Pending opens closes history ∧ ¬closes event) := by
  constructor
  · rintro ⟨before, opening, later, split, opened, unclosed⟩
    rcases List.eq_nil_or_concat later with rfl | ⟨rest, last, rfl⟩
    · obtain ⟨rfl, same⟩ := List.append_inj' split rfl
      cases same
      exact .inl opened
    -- the period is one of the shorter history, and the last event leaves it open
    · have shifted : history ++ [event] = (before ++ opening :: rest) ++ [last] := by
        simp [split]
      obtain ⟨rfl, same⟩ := List.append_inj' shifted rfl
      cases same
      refine .inr ⟨⟨before, opening, rest, rfl, opened, ?_⟩, unclosed event (by simp)⟩
      intro other member
      exact unclosed other (by simp [member])
  · rintro (opened | ⟨⟨before, opening, later, rfl, opened, unclosed⟩, open_⟩)
    · exact ⟨history, event, [], rfl, opened, by simp⟩
    · refine ⟨before, opening, later ++ [event], by simp, opened, ?_⟩
      intro other member
      rcases List.mem_append.mp member with earlier | last
      · exact unclosed other earlier
      · rwa [List.mem_singleton.mp last]

/-- A period may only be opened while none is pending. -/
theorem spaced_iff (opens closes : E → Prop) (history : List E) :
    Spaced opens closes history ↔
      Throughout (fun before event => opens event → ¬Pending opens closes before) history := by
  constructor
  · rintro spaced before event after rfl opened ⟨first, opening, later, rfl, opened', unclosed⟩
    obtain ⟨closing, member, closes⟩ := spaced first opening later event after (by simp) opened' opened
    exact unclosed closing member closes
  · intro throughout before first between second after split opened opened'
    by_contra unclosed
    refine throughout (before ++ first :: between) second after (by simp [split]) opened'
      ⟨before, first, between, rfl, opened, ?_⟩
    intro event member closes
    exact unclosed ⟨event, member, closes⟩

theorem spaced_snoc (opens closes : E → Prop) (history : List E) (event : E) :
    Spaced opens closes (history ++ [event]) ↔
      Spaced opens closes history ∧ (opens event → ¬Pending opens closes history) := by
  rw [spaced_iff, throughout_snoc, ← spaced_iff]

/-- Events that neither open nor close a period change nothing. -/
theorem spaced_append {opens closes : E → Prop} (history events : List E)
    (quiet : ∀ event ∈ events, ¬opens event ∧ ¬closes event) :
    (Pending opens closes (history ++ events) ↔ Pending opens closes history) ∧
      (Spaced opens closes (history ++ events) ↔ Spaced opens closes history) := by
  induction events using List.reverseRecOn with
  | nil => simp
  | append_singleton events event ih =>
    obtain ⟨pending, spaced⟩ := ih fun other member => quiet other (by simp [member])
    obtain ⟨unopened, unclosed⟩ := quiet event (by simp)
    rw [← List.append_assoc, pending_snoc, spaced_snoc, pending, spaced]
    simp [unopened, unclosed]

end Foundation
