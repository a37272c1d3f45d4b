import Mathlib.Algebra.Order.Field.Basic
import Mathlib.Algebra.Order.AbsoluteValue.Basic
import Mathlib.Data.Rat.Sqrt
import Mathlib.Analysis.Real.Sqrt

/-!
# Floating-point operations as an interface

`Double` lists the operations a program performs on a C++ `double` and assumes
no law about them, so that a result proved over it holds for IEEE arithmetic,
rounding and overflow included. Every ordered field with a square root is an
instance: there the same program computes exactly.
-/
namespace Foundation

class Double (R : Type) extends
    Zero R, One R, Add R, Sub R, Mul R, Div R, Neg R, LT R, LE R, OfScientific R where
  decLt : DecidableLT R
  decLe : DecidableLE R
  isfinite : R → Bool
  abs : R → R
  sqrt : R → R

attribute [reducible, instance] Double.decLt Double.decLe

/-- The square root an ordered field computes with. -/
class SquareRoot (K : Type) where
  sqrt : K → K

instance : SquareRoot ℚ := ⟨Rat.sqrt⟩

noncomputable instance : SquareRoot ℝ := ⟨Real.sqrt⟩

instance fieldDouble {K : Type} [Field K] [LinearOrder K] [SquareRoot K] : Double K where
  decLt := inferInstance
  decLe := inferInstance
  isfinite _ := true
  abs x := |x|
  sqrt := SquareRoot.sqrt

namespace Double

variable {R : Type} [Double R]

/-- `std::min`: the first argument wins unless the second is smaller. -/
def min (a b : R) : R := if b < a then b else a

/-- `std::max`: the first argument wins unless it is smaller. -/
def max (a b : R) : R := if a < b then b else a

/-- `std::clamp`. -/
def clamp (v lo hi : R) : R := if v < lo then lo else if hi < v then hi else v

/-- The time steps every component accepts: positive and finite. -/
def ValidStep (dt : R) : Prop := 0 < dt ∧ isfinite dt = true

instance (dt : R) : Decidable (ValidStep dt) := inferInstanceAs (Decidable (_ ∧ _))

end Double

/-- Laws that IEEE arithmetic keeps in spite of rounding, and exact arithmetic too. -/
class Double.Lawful (R : Type) [Double R] : Prop where
  zero_add_valid : ∀ x : R, ValidStep x → 0 + x = x
  le_add_valid : ∀ x y : R, ValidStep x → ValidStep y → x ≤ x + y
  not_neg_of_pos : ∀ x : R, 0 < x → ¬x < 0
  neg_not_pos : ∀ x : R, 0 < x → ¬0 < -x

namespace Double

/-- Zero lies between a positive limit and its negation. -/
theorem clamp_zero {R : Type} [Double R] [Lawful R] {limit : R} (positive : 0 < limit) :
    clamp 0 (-limit) limit = 0 := by
  simp only [clamp, if_neg (Lawful.neg_not_pos limit positive),
    if_neg (Lawful.not_neg_of_pos limit positive)]

end Double

section Field

variable {K : Type} [Field K] [LinearOrder K] [SquareRoot K]

@[simp] theorem isfinite_field (x : K) : Double.isfinite x = true := rfl

@[simp] theorem abs_field (x : K) : Double.abs x = |x| := rfl

@[simp] theorem validStep_field (x : K) : Double.ValidStep x ↔ 0 < x := by
  simp [Double.ValidStep]

instance fieldLawful [IsStrictOrderedRing K] : Double.Lawful K where
  zero_add_valid x _ := zero_add x
  le_add_valid _ y _ validY := le_add_of_nonneg_right ((validStep_field y).mp validY).le
  not_neg_of_pos _ positive := not_lt.mpr positive.le
  neg_not_pos _ positive := not_lt.mpr (neg_nonpos.mpr positive.le)

theorem max_field (a b : K) : Double.max a b = Max.max a b := by
  simp only [Double.max, max_def]
  -- the two definitions ask for `a < b` and `a ≤ b`; they differ where both are equal
  split_ifs with h₁ h₂ h₂
  · rfl
  · exact absurd h₁.le h₂
  · exact le_antisymm h₂ (not_lt.mp h₁)
  · rfl

theorem min_field (a b : K) : Double.min a b = Min.min a b := by
  simp only [Double.min, min_def]
  split_ifs with h₁ h₂ h₂
  · exact le_antisymm h₁.le h₂
  · rfl
  · rfl
  · exact absurd (not_le.mp h₂) h₁

/-- A clamp between ordered bounds stays between them. -/
theorem clamp_mem (v lo hi : K) (ordered : lo ≤ hi) :
    lo ≤ Double.clamp v lo hi ∧ Double.clamp v lo hi ≤ hi := by
  simp only [Double.clamp]
  split_ifs with below above
  · exact ⟨le_rfl, ordered⟩
  · exact ⟨ordered, le_rfl⟩
  · exact ⟨not_lt.mp below, not_lt.mp above⟩

/-- Clamping towards an interval that contains zero never leaves another one. -/
theorem clamp_preserves (v lo hi a b : K) (inside : a ≤ v ∧ v ≤ b)
    (straddles : a ≤ 0 ∧ 0 ≤ b) (around : lo ≤ 0 ∧ 0 ≤ hi) :
    a ≤ Double.clamp v lo hi ∧ Double.clamp v lo hi ≤ b := by
  simp only [Double.clamp]
  split_ifs with below above
  · exact ⟨inside.1.trans below.le, around.1.trans straddles.2⟩
  · exact ⟨straddles.1.trans around.2, above.le.trans inside.2⟩
  · exact inside

end Field

end Foundation
