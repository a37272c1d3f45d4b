import MotionBridge.Foundation.Exact

/-!
# IEEE 754 binary64 words

A word has a sign bit, an exponent of 11 bits and a fraction of 52 bits. The largest
exponent marks infinities and NaN, the smallest one zero and the subnormal numbers.
-/
namespace Foundation

namespace Binary64

def sign (bits : UInt64) : Bool := decide (2 ^ 63 ≤ bits.toNat)

def exponent (bits : UInt64) : Nat := bits.toNat / 2 ^ 52 % 2 ^ 11

def fraction (bits : UInt64) : Nat := bits.toNat % 2 ^ 52

/-- Neither infinite nor NaN. -/
def IsFinite (bits : UInt64) : Prop := exponent bits ≠ 2047

/-- Greater than zero, of a finite word: both zeros have an empty magnitude. -/
def IsPositive (bits : UInt64) : Prop :=
  sign bits = false ∧ ¬(exponent bits = 0 ∧ fraction bits = 0)

instance (bits : UInt64) : Decidable (IsFinite bits) := inferInstanceAs (Decidable (_ ≠ _))

instance (bits : UInt64) : Decidable (IsPositive bits) := inferInstanceAs (Decidable (_ ∧ _))

section Value

variable {K : Type} [Field K]

def magnitude (bits : UInt64) : K :=
  if exponent bits = 0 then (fraction bits : K) * ((2 : ℕ) : K) ^ (-1074 : ℤ)
  -- a normal number has a leading one in front of its fraction
  else ((2 ^ 52 + fraction bits : ℕ) : K) * ((2 : ℕ) : K) ^ ((exponent bits : ℤ) - 1075)

def toExact (bits : UInt64) : Exact K :=
  if exponent bits = 2047 then
    if fraction bits ≠ 0 then .nan
    else if sign bits then .negInf
    else .posInf
  else if sign bits then .fin (-magnitude bits)
  else .fin (magnitude bits)

theorem toExact_finite (bits : UInt64) (finite : IsFinite bits) :
    (toExact bits : Exact K) = .fin (if sign bits then -magnitude bits else magnitude bits) := by
  rw [toExact, if_neg finite]
  split_ifs <;> rfl

theorem isfinite_toExact [LinearOrder K] [SquareRoot K] (bits : UInt64) :
    Double.isfinite (toExact bits : Exact K) = true ↔ IsFinite bits := by
  constructor
  · intro finite special
    rw [toExact, if_pos special] at finite
    split_ifs at finite <;> cases finite
  · intro finite
    rw [toExact_finite bits finite]
    rfl

variable [LinearOrder K] [IsStrictOrderedRing K]

theorem magnitude_nonneg (bits : UInt64) : 0 ≤ (magnitude bits : K) := by
  unfold magnitude
  split_ifs
  · exact mul_nonneg (Nat.cast_nonneg _) (zpow_nonneg (Nat.cast_nonneg 2) _)
  · exact mul_nonneg (Nat.cast_nonneg _) (zpow_nonneg (Nat.cast_nonneg 2) _)

theorem magnitude_eq_zero (bits : UInt64) :
    (magnitude bits : K) = 0 ↔ exponent bits = 0 ∧ fraction bits = 0 := by
  unfold magnitude
  have base : ((2 : ℕ) : K) ≠ 0 := Nat.cast_ne_zero.mpr two_ne_zero
  split_ifs with subnormal
  · have scale : ((2 : ℕ) : K) ^ (-1074 : ℤ) ≠ 0 := zpow_ne_zero _ base
    rw [mul_eq_zero, or_iff_left scale, Nat.cast_eq_zero]
    exact (and_iff_right subnormal).symm
  · have scale : ((2 : ℕ) : K) ^ ((exponent bits : ℤ) - 1075) ≠ 0 := zpow_ne_zero _ base
    rw [mul_eq_zero, or_iff_left scale, Nat.cast_eq_zero]
    exact iff_of_false (by omega) fun zero => subnormal zero.1

theorem toExact_le_zero [SquareRoot K] (bits : UInt64) (finite : IsFinite bits) :
    (toExact bits : Exact K) ≤ 0 ↔ ¬IsPositive bits := by
  have nonneg : 0 ≤ (magnitude bits : K) := magnitude_nonneg bits
  have zero : (magnitude bits : K) = 0 ↔ _ := magnitude_eq_zero bits
  rw [toExact_finite bits finite, Exact.zero_eq, Exact.fin_le_fin, IsPositive, ← zero]
  cases sign bits with
  | true => simpa using nonneg
  | false => simpa using nonneg.ge_iff_eq'

end Value

end Binary64

/-- Reading the 64 bits of a `double`, and what that means for its comparisons. -/
class Double.Bits (R : Type) [Double R] where
  ofBits : UInt64 → R
  isfinite_ofBits : ∀ bits, Double.isfinite (ofBits bits) = true ↔ Binary64.IsFinite bits
  ofBits_le_zero : ∀ bits, Binary64.IsFinite bits →
    (ofBits bits ≤ 0 ↔ ¬Binary64.IsPositive bits)

instance exactBits {K : Type} [Field K] [LinearOrder K] [SquareRoot K] [IsStrictOrderedRing K] :
    Double.Bits (Exact K) where
  ofBits := Binary64.toExact
  isfinite_ofBits := Binary64.isfinite_toExact
  ofBits_le_zero := Binary64.toExact_le_zero

end Foundation
