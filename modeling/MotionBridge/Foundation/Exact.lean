import MotionBridge.Foundation.Double

/-!
# Exact arithmetic with the special values of IEEE 754

A finite `double` is an element of an ordered field, computed without rounding;
infinities and NaN are kept, and propagate and compare as IEEE 754 says. Zero
has no sign here.
-/
namespace Foundation

inductive Exact (K : Type) where
  | fin (x : K)
  | posInf
  | negInf
  | nan
  deriving DecidableEq, Repr

namespace Exact

variable {K : Type} [Field K] [LinearOrder K]

/-- An infinity with the sign of a nonzero field element. -/
def signed (x : K) : Exact K := if 0 < x then posInf else negInf

def neg : Exact K → Exact K
  | fin x => fin (-x)
  | posInf => negInf
  | negInf => posInf
  | nan => nan

def add : Exact K → Exact K → Exact K
  | fin x, fin y => fin (x + y)
  | nan, _ | _, nan => nan
  -- infinities of opposite sign cancel to nothing meaningful
  | posInf, negInf | negInf, posInf => nan
  | posInf, _ | _, posInf => posInf
  | negInf, _ | _, negInf => negInf

/-- Zero times an infinity is NaN, a nonzero product with one is an infinity. -/
def mul : Exact K → Exact K → Exact K
  | fin x, fin y => fin (x * y)
  | nan, _ | _, nan => nan
  | posInf, posInf | negInf, negInf => posInf
  | posInf, negInf | negInf, posInf => negInf
  | posInf, fin x | fin x, posInf => if x = 0 then nan else signed x
  | negInf, fin x | fin x, negInf => if x = 0 then nan else signed (-x)

def div : Exact K → Exact K → Exact K
  | fin x, fin y => if y = 0 then (if x = 0 then nan else signed x) else fin (x / y)
  | nan, _ | _, nan => nan
  -- a finite number over an infinity
  | fin _, _ => fin 0
  -- a zero divisor counts as the positive zero
  | posInf, fin y => if y < 0 then negInf else posInf
  | negInf, fin y => if y < 0 then posInf else negInf
  | _, _ => nan

/-- Every comparison with NaN is false. -/
def lt : Exact K → Exact K → Prop
  | fin x, fin y => x < y
  | negInf, fin _ | negInf, posInf | fin _, posInf => True
  | _, _ => False

def le : Exact K → Exact K → Prop
  | fin x, fin y => x ≤ y
  | negInf, fin _ | negInf, posInf | fin _, posInf | posInf, posInf | negInf, negInf => True
  | _, _ => False

def abs : Exact K → Exact K
  | fin x => fin |x|
  | posInf | negInf => posInf
  | nan => nan

def sqrt [SquareRoot K] : Exact K → Exact K
  | fin x => if x < 0 then nan else fin (SquareRoot.sqrt x)
  | posInf => posInf
  | negInf | nan => nan

def isfinite : Exact K → Bool
  | fin _ => true
  | _ => false

instance decideLt : (a b : Exact K) → Decidable (lt a b)
  | fin x, fin y => inferInstanceAs (Decidable (x < y))
  | negInf, fin _ | negInf, posInf | fin _, posInf => .isTrue trivial
  | posInf, fin _ | posInf, posInf | posInf, negInf | posInf, nan => .isFalse id
  | nan, fin _ | nan, posInf | nan, negInf | nan, nan => .isFalse id
  | fin _, negInf | fin _, nan | negInf, negInf | negInf, nan => .isFalse id

instance decideLe : (a b : Exact K) → Decidable (le a b)
  | fin x, fin y => inferInstanceAs (Decidable (x ≤ y))
  | negInf, fin _ | negInf, posInf | negInf, negInf => .isTrue trivial
  | fin _, posInf | posInf, posInf => .isTrue trivial
  | posInf, fin _ | posInf, negInf | posInf, nan => .isFalse id
  | nan, fin _ | nan, posInf | nan, negInf | nan, nan => .isFalse id
  | fin _, negInf | fin _, nan | negInf, nan => .isFalse id

instance exactDouble [SquareRoot K] : Double (Exact K) where
  zero := fin 0
  one := fin 1
  add := add
  sub a b := add a (neg b)
  mul := mul
  div := div
  neg := neg
  lt := lt
  le := le
  ofScientific m s e := fin (OfScientific.ofScientific m s e)
  decLt := decideLt
  decLe := decideLe
  isfinite := isfinite
  abs := abs
  sqrt := sqrt

variable [SquareRoot K]

@[simp] theorem zero_eq : (0 : Exact K) = fin 0 := rfl

@[simp] theorem one_eq : (1 : Exact K) = fin 1 := rfl

@[simp] theorem ofScientific_eq (m : Nat) (s : Bool) (e : Nat) :
    (OfScientific.ofScientific m s e : Exact K) = fin (OfScientific.ofScientific m s e) := rfl

/-- A counter converted to `double`. -/
theorem ofScientific_nat (n : ℕ) :
    (OfScientific.ofScientific n false 0 : Exact K) = fin (n : K) := by
  have whole : (OfScientific.ofScientific n false 0 : ℚ) = n := by
    rw [← Rat.ofScientific_eq_ofScientific, Rat.ofScientific_false_def, pow_zero, mul_one]
    rfl
  rw [ofScientific_eq, ← Rat.cast_ofScientific, whole, Rat.cast_natCast]

@[simp] theorem fin_add (x y : K) : (fin x + fin y : Exact K) = fin (x + y) := rfl

@[simp] theorem fin_sub (x y : K) : (fin x - fin y : Exact K) = fin (x - y) :=
  congrArg fin (sub_eq_add_neg x y).symm

@[simp] theorem fin_mul (x y : K) : (fin x * fin y : Exact K) = fin (x * y) := rfl

@[simp] theorem fin_neg (x : K) : (-fin x : Exact K) = fin (-x) := rfl

theorem fin_div (x y : K) (nonzero : y ≠ 0) : (fin x / fin y : Exact K) = fin (x / y) :=
  if_neg nonzero

@[simp] theorem fin_lt_fin (x y : K) : (fin x < fin y : Prop) ↔ x < y := Iff.rfl

@[simp] theorem fin_le_fin (x y : K) : (fin x ≤ fin y : Prop) ↔ x ≤ y := Iff.rfl

@[simp] theorem isfinite_fin (x : K) : Double.isfinite (fin x) = true := rfl

@[simp] theorem abs_fin (x : K) : Double.abs (fin x) = fin |x| := rfl

theorem sqrt_fin (x : K) (nonneg : 0 ≤ x) :
    Double.sqrt (fin x) = fin (Double.sqrt x) :=
  if_neg (not_lt.mpr nonneg)

theorem isfinite_iff (a : Exact K) : Double.isfinite a = true ↔ ∃ x, a = fin x := by
  constructor
  · intro finite
    cases a with
    | fin x => exact ⟨x, rfl⟩
    | posInf | negInf | nan => cases finite
  · rintro ⟨x, rfl⟩
    rfl

/-- The accepted time steps are exactly the positive field elements. -/
theorem validStep_iff (dt : Exact K) : Double.ValidStep dt ↔ ∃ x, dt = fin x ∧ 0 < x := by
  constructor
  -- positivity alone would let `posInf` through
  · rintro ⟨positive, finite⟩
    obtain ⟨x, rfl⟩ := (isfinite_iff dt).mp finite
    exact ⟨x, rfl, positive⟩
  · rintro ⟨x, rfl, positive⟩
    exact ⟨positive, rfl⟩

theorem fin_clamp (v lo hi : K) :
    Double.clamp (fin v) (fin lo) (fin hi) = fin (Double.clamp v lo hi) := by
  simp only [Double.clamp, fin_lt_fin]
  split_ifs <;> rfl

theorem fin_min (a b : K) : Double.min (fin a) (fin b) = fin (Double.min a b) := by
  simp only [Double.min, fin_lt_fin]
  split_ifs <;> rfl

theorem fin_max (a b : K) : Double.max (fin a) (fin b) = fin (Double.max a b) := by
  simp only [Double.max, fin_lt_fin]
  split_ifs <;> rfl

/-- Sums of special values are special values too, so adding stays associative. -/
instance addMonoid : AddMonoid (Exact K) where
  -- only three finite summands ask the field anything
  add_assoc a b c := by
    cases a <;> cases b <;> cases c <;> first | rfl | exact congrArg fin (add_assoc _ _ _)
  zero_add a := by
    cases a <;> first | rfl | exact congrArg fin (zero_add _)
  add_zero a := by
    cases a <;> first | rfl | exact congrArg fin (add_zero _)
  nsmul := nsmulRec

instance lawful [IsStrictOrderedRing K] : Double.Lawful (Exact K) where
  zero_add_valid x _ := zero_add x
  le_add_valid x y validX validY := by
    obtain ⟨a, rfl, _⟩ := (validStep_iff x).mp validX
    obtain ⟨b, rfl, positive⟩ := (validStep_iff y).mp validY
    exact (fin_le_fin _ _).mpr (le_add_of_nonneg_right positive.le)
  not_neg_of_pos x positive := by
    cases x with
    | fin a => exact not_lt.mpr (le_of_lt (show 0 < a from positive))
    | posInf => exact id
    | negInf | nan => cases positive
  neg_not_pos x positive := by
    cases x with
    | fin a => exact not_lt.mpr (neg_nonpos.mpr (le_of_lt (show 0 < a from positive)))
    | posInf => exact id
    | negInf | nan => cases positive

/-- A positive number with a finite bound is finite. -/
theorem fin_of_bounded {a : Exact K} {c : K} (positive : 0 < a) (bounded : a ≤ fin c) :
    ∃ x, a = fin x ∧ 0 < x ∧ x ≤ c := by
  cases a with
  | fin x => exact ⟨x, rfl, positive, bounded⟩
  | posInf => cases bounded
  | negInf | nan => cases positive

theorem not_le_negInf {a : Exact K} (positive : 0 < a) : ¬a ≤ negInf := by
  intro bounded
  cases a with
  | negInf => cases positive
  | fin | posInf | nan => cases bounded

/-- What fits beside a finite number is finite, or far below everything. -/
theorem fin_of_fits {a : Exact K} {x c : K} (fits : fin x + a ≤ fin c) :
    a = negInf ∨ ∃ y, a = fin y ∧ x + y ≤ c := by
  cases a with
  | fin y => exact .inr ⟨y, rfl, fits⟩
  | negInf => exact .inl rfl
  | posInf | nan => cases fits

/-- NaN and the negative infinity are not at least zero, so they cannot come up here. -/
theorem nonneg_add [IsStrictOrderedRing K] {a b : Exact K} (first : 0 ≤ a) (second : 0 ≤ b) :
    0 ≤ a + b := by
  cases a with
  | fin x =>
    cases b with
    | fin y => exact (fin_le_fin _ _).mpr (add_nonneg first second)
    | posInf => trivial
    | negInf | nan => cases second
  | posInf =>
    cases b with
    | fin _ | posInf => trivial
    | negInf | nan => cases second
  | negInf | nan => cases first

/-- Valid time steps add up to a finite time. -/
theorem sum_finite (steps : List (Exact K)) (valid : ∀ dt ∈ steps, Double.ValidStep dt) :
    ∃ t, steps.sum = fin t := by
  induction steps with
  | nil => exact ⟨0, rfl⟩
  | cons dt steps ih =>
    obtain ⟨t, rest⟩ := ih fun step member => valid step (List.mem_cons_of_mem _ member)
    obtain ⟨x, rfl, _⟩ := (validStep_iff dt).mp (valid dt (List.mem_cons_self ..))
    exact ⟨x + t, by rw [List.sum_cons, rest]; rfl⟩

theorem sum_nonneg [IsStrictOrderedRing K] (steps : List (Exact K))
    (valid : ∀ dt ∈ steps, Double.ValidStep dt) : ∃ t, steps.sum = fin t ∧ 0 ≤ t := by
  induction steps with
  | nil => exact ⟨0, rfl, le_rfl⟩
  | cons dt steps ih =>
    obtain ⟨t, rest, nonneg⟩ := ih fun step member => valid step (List.mem_cons_of_mem _ member)
    obtain ⟨x, rfl, positive⟩ := (validStep_iff dt).mp (valid dt (List.mem_cons_self ..))
    exact ⟨x + t, by rw [List.sum_cons, rest]; rfl, by linarith⟩

end Exact

end Foundation
