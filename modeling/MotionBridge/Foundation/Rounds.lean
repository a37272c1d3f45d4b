import Mathlib.Data.List.Nodup
import Mathlib.Data.Nat.Init
import Mathlib.Logic.Function.Basic

/-!
# Registers rewritten in rounds

A writer sets all its registers to one version after the other, always in the same order. A
reader who looks at one register after the other meets several versions. Which of them go
together is a matter of both orders.
-/
namespace Foundation

variable {ι V : Type}

/-- How often the register at `place` has been set by the first `stores` of a writer with `size`
registers. -/
def rounds (size place stores : ℕ) : ℕ := (stores + (size - 1 - place)) / size

variable {size place : ℕ}

@[simp] theorem rounds_zero (inside : place < size) : rounds size place 0 = 0 :=
  Nat.div_eq_of_lt (by omega)

theorem rounds_mono {before after : ℕ} (later : before ≤ after) :
    rounds size place before ≤ rounds size place after :=
  Nat.div_le_div_right (Nat.add_le_add_right later _)

/-- What is set first is never behind. -/
theorem rounds_place {first second : ℕ} (before : first ≤ second) (stores : ℕ) :
    rounds size second stores ≤ rounds size first stores :=
  Nat.div_le_div_right (by omega)

theorem completed_le_rounds (size place stores : ℕ) : stores / size ≤ rounds size place stores :=
  Nat.div_le_div_right (Nat.le_add_right _ _)

theorem rounds_le_begun (size place stores : ℕ) :
    rounds size place stores ≤ (stores + (size - 1)) / size :=
  Nat.div_le_div_right (by omega)

theorem begun_le_completed (nonempty : 0 < size) (stores : ℕ) :
    (stores + (size - 1)) / size ≤ stores / size + 1 := by
  rw [← Nat.add_div_right _ nonempty]
  exact Nat.div_le_div_right (by omega)

/-- No register is more than one round ahead of another. -/
theorem rounds_close (inside : place < size) (other stores : ℕ) :
    rounds size place stores ≤ rounds size other stores + 1 :=
  calc rounds size place stores ≤ (stores + (size - 1)) / size := rounds_le_begun _ _ _
    _ ≤ stores / size + 1 := begun_le_completed (by omega) stores
    _ ≤ rounds size other stores + 1 := Nat.add_le_add_right (completed_le_rounds _ _ _) 1

/-- A register is set once in every round. -/
theorem rounds_succ (inside : place < size) (stores : ℕ) :
    rounds size place (stores + 1) =
      rounds size place stores + if stores % size = place then 1 else 0 := by
  have parts := Nat.div_add_mod stores size
  have below := Nat.mod_lt stores (show size > 0 by omega)
  have next : stores + 1 + (size - 1 - place) = stores + (size - 1 - place) + 1 := by omega
  have turn : size ∣ stores + (size - 1 - place) + 1 ↔ stores % size = place := by
    have split : stores + (size - 1 - place) + 1 =
        size * (stores / size) + (stores % size + (size - place)) := by omega
    rw [split, Nat.dvd_add_right (Nat.dvd_mul_right _ _)]
    constructor
    · intro divides
      have once := Nat.eq_of_dvd_of_lt_two_mul (by omega) divides (by omega)
      omega
    · intro here
      exact ⟨1, by omega⟩
  rw [rounds, rounds, next, Nat.succ_div]
  simp only [turn]

theorem rounds_before {stores : ℕ} (here : stores % size = place) (inside : place < size) :
    rounds size place stores = stores / size := by
  have parts := Nat.div_add_mod stores size
  have split : stores + (size - 1 - place) = size - 1 + size * (stores / size) := by omega
  rw [rounds, split, Nat.add_mul_div_left _ _ (by omega), Nat.div_eq_of_lt (show size - 1 < size by omega),
    Nat.zero_add]

variable [DecidableEq ι]

/-- The registers after some stores; `versions` says what each version sets them to, and number
zero is there at first. -/
def rewritten (order : List ι) (versions : ℕ → ι → V) : ℕ → ι → V
  | 0 => versions 0
  | stores + 1 =>
    match order[stores % order.length]? with
    | none => rewritten order versions stores
    | some register => Function.update (rewritten order versions stores) register
        (versions (stores / order.length + 1) register)

/-- Every register holds the version of its last round. -/
theorem rewritten_eq {order : List ι} (distinct : order.Nodup) (versions : ℕ → ι → V) {register : ι}
    (member : register ∈ order) (stores : ℕ) :
    rewritten order versions stores register =
      versions (rounds order.length (order.idxOf register) stores) register := by
  have inside : order.idxOf register < order.length := List.idxOf_lt_length_of_mem member
  induction stores with
  | zero => rw [rounds_zero inside]; rfl
  | succ stores ih =>
    have turn : stores % order.length < order.length := Nat.mod_lt _ (by omega)
    simp only [rewritten, List.getElem?_eq_getElem turn]
    by_cases here : stores % order.length = order.idxOf register
    · have same : order[stores % order.length] = register := by
        simp only [here, List.getElem_idxOf]
      rw [same, Function.update_self, rounds_succ inside, if_pos here, rounds_before here inside]
    · have other : register ≠ order[stores % order.length] := by
        rintro rfl
        exact here (distinct.idxOf_getElem _ turn).symm
      rw [Function.update_of_ne other, rounds_succ inside, if_neg here, Nat.add_zero, ih]

/-- A register that is looked at later shows at most one version less than one looked at before,
and no version less if the writer sets it first. -/
theorem rounds_later {first second : ℕ} (inside : first < size) {before after : ℕ}
    (later : before ≤ after) :
    rounds size first before ≤ rounds size second after + 1 ∧
      (second ≤ first → rounds size first before ≤ rounds size second after) := by
  have grown : rounds size first before ≤ rounds size first after := rounds_mono later
  constructor
  · exact Nat.le_trans grown (rounds_close inside second after)
  · intro ahead
    exact Nat.le_trans grown (rounds_place ahead after)

end Foundation
