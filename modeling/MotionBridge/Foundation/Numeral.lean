import Mathlib.Data.Nat.Notation
import MotionBridge.Foundation.Text

/-!
# Numerals

Rows of decimal digits, and what `std::stoul` makes of a text that may be more than that.
-/
namespace Foundation

/-- What `std::stoul` throws. -/
inductive NumeralError where
  | invalidArgument
  | outOfRange
  deriving DecidableEq, Repr

namespace Text

/-- The number a row of decimal digits denotes. -/
def decimal (digits : Text) : ℕ := Nat.ofDigitChars 10 digits 0

/-- Decimal digits and nothing else. -/
def Numeral (text : Text) : Prop := text ≠ [] ∧ ∀ c ∈ text, c.isDigit = true

instance (text : Text) : Decidable (Numeral text) :=
  have := List.decidableBAll (fun c : Char => c.isDigit = true) text
  inferInstanceAs (Decidable (_ ∧ _))

/-- Whether there is a minus sign, and what follows the sign if there is any. -/
def splitSign : Text → Bool × Text
  | [] => (false, [])
  | c :: rest =>
    if c = '-' then (true, rest)
    else if c = '+' then (false, rest)
    else (false, c :: rest)

/-- The digits `std::stoul` converts; it ignores what comes after them. -/
def leadingDigits (text : Text) : Text :=
  (splitSign (text.dropWhile isspace)).2.takeWhile Char.isDigit

/-- `std::stoul` with a 64-bit `unsigned long`. The negation of a number in range wraps. -/
def stoul (text : Text) : Except NumeralError UInt64 :=
  let digits := leadingDigits text
  if digits = [] then .error .invalidArgument
  else if UInt64.size ≤ decimal digits then .error .outOfRange
  else if (splitSign (text.dropWhile isspace)).1 then .ok (-UInt64.ofNat (decimal digits))
  else .ok (UInt64.ofNat (decimal digits))

theorem isspace_of_isDigit {c : Char} (digit : c.isDigit = true) : isspace c = false := by
  by_contra space
  have blank : c ∈ [' ', '\t', '\n', '\r', Char.ofNat 11, Char.ofNat 12] :=
    of_decide_eq_true (eq_true_of_ne_false space)
  simp only [List.mem_cons, List.not_mem_nil, or_false] at blank
  rcases blank with rfl | rfl | rfl | rfl | rfl | rfl <;> exact absurd digit (by decide)

theorem Numeral.stripped {text : Text} (numeral : Numeral text) : Stripped text := by
  rw [stripped_iff]
  constructor
  · intro c head
    exact isspace_of_isDigit (numeral.2 c (List.mem_of_mem_head? head))
  · intro c final
    exact isspace_of_isDigit (numeral.2 c (List.mem_of_getLast? final))

/-- A numeral has no sign, and is read to its end. -/
theorem Numeral.leadingDigits {text : Text} (numeral : Numeral text) :
    (splitSign (text.dropWhile isspace)).1 = false ∧ leadingDigits text = text := by
  have unsigned : splitSign text = (false, text) := by
    cases text with
    | nil => rfl
    | cons c rest =>
      have digit := numeral.2 c (List.mem_cons_self ..)
      have minus : c ≠ '-' := by
        rintro rfl
        exact absurd digit (by decide)
      have plus : c ≠ '+' := by
        rintro rfl
        exact absurd digit (by decide)
      simp [splitSign, minus, plus]
  rw [Text.leadingDigits, numeral.stripped.dropWhile, unsigned]
  exact ⟨rfl, List.takeWhile_eq_self_iff.mpr numeral.2⟩

theorem stoul_numeral {text : Text} (numeral : Numeral text) : stoul text =
    if UInt64.size ≤ decimal text then .error .outOfRange else .ok (UInt64.ofNat (decimal text)) := by
  obtain ⟨unsigned, digits⟩ := numeral.leadingDigits
  simp [stoul, unsigned, digits, numeral.1]

theorem numeral_toDigits (n : ℕ) : Numeral (Nat.toDigits 10 n) :=
  ⟨Nat.toDigits_ne_nil, fun _ member => Nat.isDigit_of_mem_toDigits (by decide) (by decide) member⟩

theorem decimal_toDigits (n : ℕ) : decimal (Nat.toDigits 10 n) = n := Nat.ofDigitChars_ten_toDigits

end Text

end Foundation
