import Mathlib.Data.List.Induction
import Mathlib.Logic.Function.Basic

/-!
# Last bindings

A map filled by one assignment after the other holds, for each key, what was assigned
to it last.
-/
namespace Foundation

variable {K V : Type} [DecidableEq K]

/-- The map after some assignments, `none` where nothing was assigned. -/
def assign (bindings : List (K × V)) : K → Option V :=
  bindings.foldl (fun map binding => Function.update map binding.1 (some binding.2)) fun _ => none

omit [DecidableEq K] in
/-- The last binding of the key has this value. -/
def LastBinds (bindings : List (K × V)) (key : K) (value : V) : Prop :=
  ∃ earlier later, bindings = earlier ++ (key, value) :: later ∧ ∀ binding ∈ later, binding.1 ≠ key

@[simp] theorem assign_nil (key : K) : assign ([] : List (K × V)) key = none := rfl

theorem assign_snoc (bindings : List (K × V)) (key : K) (value : V) :
    assign (bindings ++ [(key, value)]) = Function.update (assign bindings) key (some value) := by
  simp [assign, List.foldl_append]

/-- Bindings of other keys leave the value of a key alone. -/
theorem assign_append (bindings later : List (K × V)) (key : K)
    (others : ∀ binding ∈ later, binding.1 ≠ key) :
    assign (bindings ++ later) key = assign bindings key := by
  induction later using List.reverseRecOn with
  | nil => rw [List.append_nil]
  | append_singleton later binding ih =>
    have different := others binding (by simp)
    rw [← List.append_assoc, assign_snoc, Function.update_of_ne different.symm]
    exact ih fun other member => others other (by simp [member])

theorem assign_eq_some (bindings : List (K × V)) (key : K) (value : V) :
    assign bindings key = some value ↔ LastBinds bindings key value := by
  constructor
  · intro assigned
    induction bindings using List.reverseRecOn with
    | nil => simp at assigned
    | append_singleton bindings binding ih =>
      obtain ⟨key', value'⟩ := binding
      rw [assign_snoc] at assigned
      by_cases same : key = key'
      · subst same
        rw [Function.update_self] at assigned
        cases assigned
        exact ⟨bindings, [], rfl, by simp⟩
      -- the last binding is one of the earlier ones
      · rw [Function.update_of_ne same] at assigned
        obtain ⟨earlier, later, rfl, others⟩ := ih assigned
        refine ⟨earlier, later ++ [(key', value')], by simp, ?_⟩
        intro other member
        rcases List.mem_append.mp member with before | last
        · exact others other before
        · rw [List.mem_singleton.mp last]
          exact Ne.symm same
  · rintro ⟨earlier, later, rfl, others⟩
    have split : earlier ++ (key, value) :: later = (earlier ++ [(key, value)]) ++ later := by simp
    rw [split, assign_append _ _ _ others, assign_snoc, Function.update_self]

theorem assign_isSome (bindings : List (K × V)) (key : K) :
    (∃ value, assign bindings key = some value) ↔ ∃ binding ∈ bindings, binding.1 = key := by
  constructor
  · rintro ⟨value, assigned⟩
    obtain ⟨earlier, later, rfl, _⟩ := (assign_eq_some _ _ _).mp assigned
    exact ⟨(key, value), by simp, rfl⟩
  · rintro ⟨binding, member, rfl⟩
    by_contra unassigned
    rw [← Option.ne_none_iff_exists', not_not] at unassigned
    induction bindings using List.reverseRecOn with
    | nil => simp at member
    | append_singleton bindings last ih =>
      obtain ⟨key, value⟩ := last
      rw [assign_snoc] at unassigned
      by_cases same : binding.1 = key
      · simp [same] at unassigned
      · rw [Function.update_of_ne same] at unassigned
        rcases List.mem_append.mp member with before | here
        · exact ih before unassigned
        · exact same (congrArg Prod.fst (List.mem_singleton.mp here))

/-- Where no key is bound twice, the order of the bindings does not matter. -/
theorem assign_of_mem {bindings : List (K × V)} (distinct : (bindings.map Prod.fst).Nodup)
    {key : K} {value : V} (member : (key, value) ∈ bindings) :
    assign bindings key = some value := by
  obtain ⟨earlier, later, rfl⟩ := List.append_of_mem member
  refine (assign_eq_some _ _ _).mpr ⟨earlier, later, rfl, ?_⟩
  rintro binding inside rfl
  rw [List.map_append, List.map_cons, List.nodup_append] at distinct
  exact (List.nodup_cons.mp distinct.2.1).1 (List.mem_map.mpr ⟨binding, inside, rfl⟩)

end Foundation
