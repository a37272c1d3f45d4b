import Mathlib.Data.List.Induction
import MotionBridge.Foundation.Run

/-!
# Objects behind an interface

An interface is a type of calls, with a type of replies for each call. An implementation
answers calls from its state. A client goes by the replies alone, so it cannot tell
two implementations apart that simulate each other.
-/
namespace Foundation

/-- A program that makes calls and returns a value. -/
inductive Client {C : Type} (A : C → Type) (V : Type) where
  | done (value : V)
  | call (request : C) (resume : A request → Client A V)

/-- How objects with states `P` answer. -/
abbrev Implementation {C : Type} (A : C → Type) (P : Type) := P → (request : C) → P × A request

variable {C P Q O S I M V W : Type} {A : C → Type} {E : Type}

namespace Client

/-- The client runs against an object. -/
def serve (answer : Implementation A P) : Client A V → P → P × V
  | .done value, object => (object, value)
  | .call request resume, object =>
    (resume (answer object request).2).serve answer (answer object request).1

def bind : Client A V → (V → Client A W) → Client A W
  | .done value, next => next value
  | .call request resume, next => .call request fun reply => (resume reply).bind next

@[simp] theorem serve_done (answer : Implementation A P) (value : V) (object : P) :
    (Client.done value : Client A V).serve answer object = (object, value) := rfl

@[simp] theorem serve_call (answer : Implementation A P) (request : C)
    (resume : A request → Client A V) (object : P) :
    (Client.call request resume).serve answer object =
      (resume (answer object request).2).serve answer (answer object request).1 := rfl

theorem serve_bind (answer : Implementation A P) (client : Client A V) (next : V → Client A W)
    (object : P) :
    (client.bind next).serve answer object =
      (next (client.serve answer object).2).serve answer (client.serve answer object).1 := by
  induction client generalizing object with
  | done value => rfl
  | call request resume ih => exact ih _ _

/-- What every answer preserves, every client preserves. -/
theorem serve_invariant (answer : Implementation A P) (holds : P → Prop)
    (preserved : ∀ object request, holds object → holds (answer object request).1)
    (client : Client A V) (object : P) (initial : holds object) :
    holds (client.serve answer object).1 := by
  induction client generalizing object with
  | done value => exact initial
  | call request resume ih => exact ih _ _ (preserved object request initial)

/-- The user who makes the calls it is given, and shows every reply. -/
def relay (user : Unit) (request : C) : Client A (Unit × List (Sigma A)) :=
  .call request fun reply => .done (user, [⟨request, reply⟩])

end Client

/-- Related objects give the same replies, and stay related. -/
def Simulates (concrete : Implementation A P) (abstract : Implementation A Q)
    (related : P → Q → Prop) : Prop :=
  ∀ p q request, related p q → (concrete p request).2 = (abstract q request).2 ∧
    related (concrete p request).1 (abstract q request).1

namespace Simulates

variable {concrete : Implementation A P} {abstract : Implementation A Q}
  {other : Implementation A O} {related : P → Q → Prop} {linked : Q → O → Prop}

theorem symm (simulates : Simulates concrete abstract related) :
    Simulates abstract concrete fun q p => related p q := by
  intro q p request relation
  obtain ⟨replies, relates⟩ := simulates p q request relation
  exact ⟨replies.symm, relates⟩

theorem trans (first : Simulates concrete abstract related)
    (second : Simulates abstract other linked) :
    Simulates concrete other fun p o => ∃ q, related p q ∧ linked q o := by
  rintro p o request ⟨q, left, right⟩
  obtain ⟨replies, relates⟩ := first p q request left
  obtain ⟨replies', relates'⟩ := second q o request right
  exact ⟨replies.trans replies', _, relates, relates'⟩

/-- No client can tell related objects apart. -/
theorem serve (simulates : Simulates concrete abstract related) (client : Client A V)
    (p : P) (q : Q) (relation : related p q) :
    (client.serve concrete p).2 = (client.serve abstract q).2 ∧
      related (client.serve concrete p).1 (client.serve abstract q).1 := by
  induction client generalizing p q with
  | done value => exact ⟨rfl, relation⟩
  | call request resume ih =>
    obtain ⟨replies, relates⟩ := simulates p q request relation
    rw [Client.serve_call, Client.serve_call, replies]
    exact ih _ _ _ relates

end Simulates

/-! A user of the object takes step after step, each of them a client, and between the
steps the surroundings act on the object. -/

/-- A step of the user, or a move of the surroundings. -/
inductive Turn (I M : Type) where
  | step (input : I)
  | move (move : M)
  deriving DecidableEq, Repr

/-- The user and the object, after one turn; the user's step emits events. -/
def together (answer : Implementation A P) (disturb : P → M → P)
    (step : S → I → Client A (S × List E)) (pair : S × P) : Turn I M → (S × P) × List E
  | .step input =>
    let (object, user, events) := (step pair.1 input).serve answer pair.2
    ((user, object), events)
  | .move move => ((pair.1, disturb pair.2 move), [])

/-- Where the user's steps are those of a machine with inputs, so is the run of both. -/
theorem together_open {J : Type} {answer : Implementation A P} {disturb : P → M → P}
    {step : S → I → Client A (S × List E)} {alone : S → J → S × List E}
    (explained : ∀ user input object, ∃ j, ((step user input).serve answer object).2 = alone user j)
    (user : S) (object : P) (turns : List (Turn I M)) :
    ∃ inputs, let both := run (logged (together answer disturb step)) ((user, object), []) turns
      (both.1.1, both.2) = run (logged alone) (user, []) inputs := by
  induction turns using List.reverseRecOn with
  | nil => exact ⟨[], rfl⟩
  | append_singleton turns turn ih =>
    obtain ⟨inputs, same⟩ := ih
    simp only [run_snoc] at same ⊢
    generalize run (logged (together answer disturb step)) ((user, object), []) turns = both at same ⊢
    cases turn with
    | step input =>
      obtain ⟨j, here⟩ := explained both.1.1 input both.1.2
      refine ⟨inputs ++ [j], ?_⟩
      rw [run_snoc, ← same]
      simp only [logged, together, here]
    | move move => exact ⟨inputs, by simpa [logged, together] using same⟩

/-- Against related objects, whose surroundings make corresponding moves, the user takes
the same steps and emits the same events. -/
theorem Simulates.turns {concrete : Implementation A P} {abstract : Implementation A Q}
    {related : P → Q → Prop} {disturb : P → M → P} {disturb' : Q → M → Q}
    (simulates : Simulates concrete abstract related)
    (moves : ∀ p q move, related p q → related (disturb p move) (disturb' q move))
    (step : S → I → Client A (S × List E)) (user : S) (p : P) (q : Q) (relation : related p q)
    (turns : List (Turn I M)) :
    let left := run (logged (together concrete disturb step)) ((user, p), []) turns
    let right := run (logged (together abstract disturb' step)) ((user, q), []) turns
    left.1.1 = right.1.1 ∧ left.2 = right.2 ∧ related left.1.2 right.1.2 := by
  induction turns using List.reverseRecOn with
  | nil => exact ⟨rfl, rfl, relation⟩
  | append_singleton turns turn ih =>
    obtain ⟨users, events, objects⟩ := ih
    simp only [run_snoc, logged]
    generalize run (logged (together concrete disturb step)) ((user, p), []) turns = left at *
    generalize run (logged (together abstract disturb' step)) ((user, q), []) turns = right at *
    cases turn with
    | step input =>
      obtain ⟨same, related⟩ := simulates.serve (step left.1.1 input) _ _ objects
      rw [users] at same related
      simp only [together, users, same, events, true_and]
      exact related
    | move move => exact ⟨users, by simp [together, events], moves _ _ move objects⟩

end Foundation
