import Mathlib.Logic.Equiv.Defs
import MotionBridge.Foundation.Double

/-! Numbers that are nothing but their 64 bits, and still good enough for a simulated axis. -/
namespace Foundation

/-- Fixed-point numbers of 64 bits, in millionths. -/
structure FixedPoint where
  bits : UInt64
  deriving DecidableEq, Repr

namespace FixedPoint

def value (x : FixedPoint) : ℤ := x.bits.toBitVec.toInt

def ofInt (n : ℤ) : FixedPoint := ⟨⟨BitVec.ofInt 64 n⟩⟩

instance fixedDouble : Double FixedPoint where
  zero := ofInt 0
  one := ofInt 1000000
  add x y := ofInt (x.value + y.value)
  sub x y := ofInt (x.value - y.value)
  mul x y := ofInt (x.value * y.value / 1000000)
  div x y := ofInt (x.value * 1000000 / y.value)
  neg x := ofInt (-x.value)
  lt x y := x.value < y.value
  le x y := x.value ≤ y.value
  ofScientific mantissa negative exponent :=
    if negative then ofInt (mantissa * 1000000 / 10 ^ exponent)
    else ofInt (mantissa * 10 ^ exponent * 1000000)
  decLt x y := inferInstanceAs (Decidable (x.value < y.value))
  decLe x y := inferInstanceAs (Decidable (x.value ≤ y.value))
  isfinite _ := true
  abs x := ofInt |x.value|
  sqrt x := ofInt (Int.sqrt (x.value * 1000000))

def equivBits : FixedPoint ≃ UInt64 := ⟨bits, mk, fun _ => rfl, fun _ => rfl⟩

end FixedPoint

end Foundation
