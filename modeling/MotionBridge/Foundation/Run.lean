import Mathlib.Data.List.Basic

/-!
# Runs of a deterministic machine

A machine is a function from a state and an input to the next state. A run is
the fold of that function, and `Along` says something of every step of a run.
-/
namespace Foundation

variable {S I : Type}

def run (next : S → I → S) (s : S) (inputs : List I) : S := inputs.foldl next s

@[simp] theorem run_nil (next : S → I → S) (s : S) : run next s [] = s := rfl

@[simp] theorem run_cons (next : S → I → S) (s : S) (i : I) (inputs : List I) :
    run next s (i :: inputs) = run next (next s i) inputs := rfl

theorem run_append (next : S → I → S) (s : S) (first rest : List I) :
    run next s (first ++ rest) = run next (run next s first) rest :=
  List.foldl_append

theorem run_snoc (next : S → I → S) (s : S) (inputs : List I) (i : I) :
    run next s (inputs ++ [i]) = next (run next s inputs) i := by
  rw [run_append]
  rfl

/-- Every step of the run from `s` satisfies `p`, which sees the state before
the step and the input. -/
def Along (next : S → I → S) (p : S → I → Prop) : S → List I → Prop
  | _, [] => True
  | s, i :: inputs => p s i ∧ Along next p (next s i) inputs

@[simp] theorem along_nil (next : S → I → S) (p : S → I → Prop) (s : S) : Along next p s [] :=
  trivial

@[simp] theorem along_cons (next : S → I → S) (p : S → I → Prop) (s : S) (i : I)
    (inputs : List I) :
    Along next p s (i :: inputs) ↔ p s i ∧ Along next p (next s i) inputs := Iff.rfl

theorem along_append (next : S → I → S) (p : S → I → Prop) (s : S) (first rest : List I) :
    Along next p s (first ++ rest) ↔ Along next p s first ∧ Along next p (run next s first) rest := by
  induction first generalizing s with
  | nil => simp
  | cons i first ih =>
    -- both sides start with the same first step
    simp only [List.cons_append, along_cons, ih, run_cons]
    exact and_assoc.symm

instance decideAlong (next : S → I → S) (p : S → I → Prop) [∀ s i, Decidable (p s i)] :
    (s : S) → (inputs : List I) → Decidable (Along next p s inputs)
  | _, [] => .isTrue trivial
  | s, i :: inputs =>
    have := decideAlong next p (next s i) inputs
    inferInstanceAs (Decidable (_ ∧ _))

/-- `Along` speaks of exactly the steps a run splits at. -/
theorem along_iff (next : S → I → S) (p : S → I → Prop) (s : S) (inputs : List I) :
    Along next p s inputs ↔
      ∀ before i after, inputs = before ++ i :: after → p (run next s before) i := by
  constructor
  · rintro along before i after rfl
    exact ((along_append next p s before _).mp along).2.1
  · intro steps
    induction inputs generalizing s with
    | nil => trivial
    | cons i inputs ih =>
      refine ⟨steps [] i inputs rfl, ih (next s i) ?_⟩
      rintro before j after rfl
      exact steps (i :: before) j after rfl

theorem along_and (next : S → I → S) (p q : S → I → Prop) (s : S) (inputs : List I) :
    Along next (fun s i => p s i ∧ q s i) s inputs ↔
      Along next p s inputs ∧ Along next q s inputs := by
  simp only [along_iff]
  constructor
  · intro both
    exact ⟨fun before i after split => (both before i after split).1,
      fun before i after split => (both before i after split).2⟩
  · intro each before i after split
    exact ⟨each.1 before i after split, each.2 before i after split⟩

/-- A property of the inputs alone. -/
theorem along_inputs (next : S → I → S) (p : I → Prop) (s : S) (inputs : List I)
    (each : ∀ i ∈ inputs, p i) : Along next (fun _ i => p i) s inputs := by
  induction inputs generalizing s with
  | nil => trivial
  | cons i inputs ih =>
    exact ⟨each i (List.mem_cons_self ..), ih _ fun j hj => each j (List.mem_cons_of_mem _ hj)⟩

/-- The induction rule for runs: what each guarded step preserves holds at the end. -/
theorem run_invariant (next : S → I → S) (guard : S → I → Prop) (P : S → Prop)
    (preserved : ∀ s i, guard s i → P s → P (next s i)) (s : S) (inputs : List I)
    (guarded : Along next guard s inputs) (initial : P s) : P (run next s inputs) := by
  induction inputs generalizing s with
  | nil => exact initial
  | cons i inputs ih => exact ih _ guarded.2 (preserved s i guarded.1 initial)

/-- The rule with a deadline: the counted inputs bring it closer, the others keep it. -/
theorem run_deadline (next : S → I → S) (guard : S → I → Prop) (counts : I → Bool)
    (P : ℕ → S → Prop)
    (nearer : ∀ n s i, guard s i → P n s → P (n - [i].countP counts) (next s i))
    (n : ℕ) (s : S) (inputs : List I) (guarded : Along next guard s inputs) (initial : P n s) :
    P (n - inputs.countP counts) (run next s inputs) := by
  induction inputs generalizing n s with
  | nil => exact initial
  | cons i inputs ih =>
    have later := ih _ _ guarded.2 (nearer n s i guarded.1 initial)
    rwa [Nat.sub_sub, ← List.countP_append, List.singleton_append] at later

/-- The rule without a guard. -/
theorem run_always (next : S → I → S) (P : S → Prop) (preserved : ∀ s i, P s → P (next s i))
    (s : S) (inputs : List I) (initial : P s) : P (run next s inputs) := by
  induction inputs generalizing s with
  | nil => exact initial
  | cons i inputs ih => exact ih _ (preserved s i initial)

/-- What an invariant implies of each guarded step holds along the run. -/
theorem along_of_invariant (next : S → I → S) (guard p : S → I → Prop) (P : S → Prop)
    (preserved : ∀ s i, guard s i → P s → P (next s i)) (implied : ∀ s i, guard s i → P s → p s i)
    (s : S) (inputs : List I) (guarded : Along next guard s inputs) (initial : P s) :
    Along next p s inputs := by
  induction inputs generalizing s with
  | nil => trivial
  | cons i inputs ih =>
    exact ⟨implied s i guarded.1 initial, ih _ guarded.2 (preserved s i guarded.1 initial)⟩

/-- Two statements about steps agree along a run as long as they agree wherever
`P` holds, and a step that satisfies them leads back to `P`. -/
theorem along_congr (next : S → I → S) (guard p q : S → I → Prop) (P : S → Prop)
    (agree : ∀ s i, guard s i → P s → (p s i ↔ q s i))
    (preserved : ∀ s i, guard s i → P s → p s i → P (next s i))
    (s : S) (inputs : List I) (guarded : Along next guard s inputs) (initial : P s) :
    Along next p s inputs ↔ Along next q s inputs := by
  induction inputs generalizing s with
  | nil => exact Iff.rfl
  | cons i inputs ih =>
    have here := agree s i guarded.1 initial
    -- either statement about this step leads back to `P`, and so to the rest of the run
    constructor
    · rintro ⟨holds, rest⟩
      exact ⟨here.mp holds, (ih _ guarded.2 (preserved s i guarded.1 initial holds)).mp rest⟩
    · rintro ⟨holds, rest⟩
      have holds := here.mpr holds
      exact ⟨holds, (ih _ guarded.2 (preserved s i guarded.1 initial holds)).mpr rest⟩

/-- The run makes steps satisfying `events`, in this order and at distinct steps. -/
def Visits (next : S → I → S) : List (S → I → Prop) → S → List I → Prop
  | [], _, _ => True
  | event :: events, s, inputs =>
    ∃ before i after, inputs = before ++ i :: after ∧ event (run next s before) i ∧
      Visits next events (run next s (before ++ [i])) after

/-- A longer run still makes the visits of a shorter one. -/
theorem visits_append (next : S → I → S) (events : List (S → I → Prop)) (s : S)
    (inputs more : List I) (visits : Visits next events s inputs) :
    Visits next events s (inputs ++ more) := by
  induction events generalizing s inputs with
  | nil => trivial
  | cons event events ih =>
    obtain ⟨before, i, after, rfl, here, rest⟩ := visits
    exact ⟨before, i, after ++ more, by simp, here, ih _ _ rest⟩

/-- One more step adds one more visit at the end. -/
theorem visits_snoc (next : S → I → S) (events : List (S → I → Prop)) (event : S → I → Prop)
    (s : S) (inputs : List I) (i : I) (visits : Visits next events s inputs)
    (last : event (run next s inputs) i) :
    Visits next (events ++ [event]) s (inputs ++ [i]) := by
  induction events generalizing s inputs with
  | nil => exact ⟨inputs, i, [], rfl, last, trivial⟩
  | cons first events ih =>
    -- the first visit stays where it is, the new one comes after the others
    obtain ⟨before, j, after, rfl, here, rest⟩ := visits
    refine ⟨before, j, after ++ [i], by simp, here, ih _ _ rest ?_⟩
    rwa [← run_append, List.append_assoc, List.singleton_append]

/-- A step that emits events, with everything emitted so far kept beside the state. -/
def logged {E : Type} (step : S → I → S × List E) (before : S × List E) (i : I) : S × List E :=
  ((step before.1 i).1, before.2 ++ (step before.1 i).2)

theorem run_logged {E : Type} (step : S → I → S × List E) (s : S) (log : List E) (inputs : List I) :
    run (logged step) (s, log) inputs =
      ((run (logged step) (s, []) inputs).1, log ++ (run (logged step) (s, []) inputs).2) := by
  induction inputs generalizing s log with
  | nil => simp
  | cons i inputs ih =>
    rw [run_cons, run_cons, logged, ih, logged, ih (step s i).1 ([] ++ _)]
    simp

/-- What one of its steps emits is a part of what the run emits. -/
theorem run_logged_split {E : Type} (step : S → I → S × List E) (s : S) (part : List I) (i : I)
    (rest : List I) :
    ∃ more, (run (logged step) (s, []) (part ++ i :: rest)).2 =
      (run (logged step) (s, []) part).2 ++ (step (run (logged step) (s, []) part).1 i).2 ++ more := by
  rw [run_append, run_cons]
  exact ⟨_, congrArg Prod.snd (run_logged step _ _ rest)⟩

/-- What is emitted has no say in a step. -/
theorem along_logged {E : Type} (step : S → I → S × List E) (p : S → I → Prop) (s : S)
    (log : List E) (inputs : List I) :
    Along (logged step) (fun state i => p state.1 i) (s, log) inputs ↔
      Along (fun s i => (step s i).1) p s inputs := by
  induction inputs generalizing s log with
  | nil => exact Iff.rfl
  | cons i inputs ih => exact and_congr_right fun _ => ih _ _

/-- A 64-bit counter of what happened in a run does not wrap as long as it has room. -/
theorem count_succ {counter : UInt64} {n : ℕ} (count : counter.toNat = n)
    (room : n + 1 < UInt64.size) : (counter + 1).toNat = n + 1 := by
  rw [UInt64.toNat_add, count]
  exact Nat.mod_eq_of_lt room

end Foundation
