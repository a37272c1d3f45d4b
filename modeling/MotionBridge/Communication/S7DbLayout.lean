import MotionBridge.Interfaces.PlcMapping
import MotionBridge.Foundation.BigEndian

/-!
# The layout of DB2

A pointer into a buffer is the buffer with an offset. `bitCast` stands for
`std::bit_cast` between a `double` and its 64 bits, in either direction.
-/
namespace MotionBridge

open Foundation

namespace S7DbLayout

def commandOffset : Nat := 0
def commandSize : Nat := 30
def statusOffset : Nat := 30
def statusSize : Nat := 32
def totalSize : Nat := commandSize + statusSize

abbrev CommandBuffer := Vector UInt8 commandSize
abbrev StatusBuffer := Vector UInt8 statusSize

section Source

variable {n : Nat} {R : Type}

def readU16 (bytes : Vector UInt8 n) (offset : Nat) : UInt16 :=
  bytes[offset]!.toUInt16 <<< 8 ||| bytes[offset + 1]!.toUInt16

def readU32 (bytes : Vector UInt8 n) (offset : Nat) : UInt32 :=
  bytes[offset]!.toUInt32 <<< 24
    ||| bytes[offset + 1]!.toUInt32 <<< 16
    ||| bytes[offset + 2]!.toUInt32 <<< 8
    ||| bytes[offset + 3]!.toUInt32

/-- The bits after `count` rounds of the loop in `read_f64`. -/
def readBits (bytes : Vector UInt8 n) (offset count : Nat) : UInt64 :=
  (List.range count).foldl
    (fun bits index => bits <<< 8 ||| bytes[offset + index]!.toUInt64) 0

def readF64 (bitCast : UInt64 → R) (bytes : Vector UInt8 n) (offset : Nat) : R :=
  bitCast (readBits bytes offset 8)

def writeU16 (bytes : Vector UInt8 n) (offset : Nat) (value : UInt16) : Vector UInt8 n :=
  let bytes := bytes.set! offset (value >>> 8).toUInt8
  bytes.set! (offset + 1) value.toUInt8

def writeU32 (bytes : Vector UInt8 n) (offset : Nat) (value : UInt32) : Vector UInt8 n :=
  let bytes := bytes.set! offset (value >>> 24).toUInt8
  let bytes := bytes.set! (offset + 1) (value >>> 16).toUInt8
  let bytes := bytes.set! (offset + 2) (value >>> 8).toUInt8
  bytes.set! (offset + 3) value.toUInt8

/-- The buffer and the remaining bits after `count` rounds of the loop in `write_f64`,
which fills the eight bytes from the last to the first. -/
def writeBits (bytes : Vector UInt8 n) (offset : Nat) (bits : UInt64) (count : Nat) :
    Vector UInt8 n × UInt64 :=
  (List.range count).foldl
    (fun (bytes, bits) index =>
      (bytes.set! (offset + (8 - index - 1)) bits.toUInt8, bits >>> 8)) (bytes, bits)

def writeF64 (bitCast : R → UInt64) (bytes : Vector UInt8 n) (offset : Nat) (value : R) :
    Vector UInt8 n :=
  (writeBits bytes offset (bitCast value) 8).1

def decodeCommand (bitCast : UInt64 → R) (bytes : CommandBuffer) : PlcCommandData R where
  controlWord := readU16 bytes 0
  targetPositionRad := readF64 bitCast bytes 2
  maxVelocityRadS := readF64 bitCast bytes 10
  maxAccelerationRadS2 := readF64 bitCast bytes 18
  heartbeat := readU32 bytes 26

def encodeStatus (bitCast : R → UInt64) (status : PlcStatusData R) : StatusBuffer :=
  let bytes : StatusBuffer := Vector.replicate statusSize 0
  let bytes := writeU16 bytes 0 status.statusWord
  let bytes := writeF64 bitCast bytes 2 status.actualPositionRad
  let bytes := writeF64 bitCast bytes 10 status.actualVelocityRadS
  let bytes := writeF64 bitCast bytes 18 status.followingErrorRad
  let bytes := writeU16 bytes 26 status.faultCode
  writeU32 bytes 28 status.controllerHeartbeat

end Source

/-! Every reader computes the number in its stretch, and every writer writes that number
there. -/

section Specification

open BigEndian

variable {n : Nat} {R : Type}

/-- Shifting by a byte makes room for one. -/
theorem shift_or (high low : Nat) (digit : low < 256) : high <<< 8 ||| low = 256 * high + low := by
  rw [← Nat.shiftLeft_add_eq_or_of_lt (by omega : low < 2 ^ 8), Nat.shiftLeft_eq]
  ring

theorem readU16_toNat (bytes : Vector UInt8 n) (offset : Nat) :
    (readU16 bytes offset).toNat = value (slice bytes offset 2) := by
  have high : bytes[offset]!.toNat < 256 := UInt8.toNat_lt _
  have low : bytes[offset + 1]!.toNat < 256 := UInt8.toNat_lt _
  have fits : bytes[offset]!.toNat <<< 8 < 2 ^ 16 := by
    rw [Nat.shiftLeft_eq]
    omega
  calc (readU16 bytes offset).toNat
      = bytes[offset]!.toNat <<< 8 % 2 ^ 16 ||| bytes[offset + 1]!.toNat := by
        rw [readU16, UInt16.toNat_or, UInt16.toNat_shiftLeft, UInt8.toNat_toUInt16,
          UInt8.toNat_toUInt16]
        rfl
    _ = 256 * bytes[offset]!.toNat + bytes[offset + 1]!.toNat := by
        rw [Nat.mod_eq_of_lt fits, shift_or _ _ low]
    _ = value (slice bytes offset 2) := by
        rw [slice_succ, slice_succ, value_snoc, value_snoc]
        simp [slice]

theorem readU32_toNat (bytes : Vector UInt8 n) (offset : Nat) :
    (readU32 bytes offset).toNat = value (slice bytes offset 4) := by
  have first : bytes[offset]!.toNat < 256 := UInt8.toNat_lt _
  have second : bytes[offset + 1]!.toNat < 256 := UInt8.toNat_lt _
  have third : bytes[offset + 2]!.toNat < 256 := UInt8.toNat_lt _
  have fourth : bytes[offset + 3]!.toNat < 256 := UInt8.toNat_lt _
  have fits₁ : bytes[offset]!.toNat <<< 24 < 2 ^ 32 := by
    rw [Nat.shiftLeft_eq]
    omega
  have fits₂ : bytes[offset + 1]!.toNat <<< 16 < 2 ^ 32 := by
    rw [Nat.shiftLeft_eq]
    omega
  have fits₃ : bytes[offset + 2]!.toNat <<< 8 < 2 ^ 32 := by
    rw [Nat.shiftLeft_eq]
    omega
  calc (readU32 bytes offset).toNat
      = bytes[offset]!.toNat <<< 24 % 2 ^ 32 ||| bytes[offset + 1]!.toNat <<< 16 % 2 ^ 32
          ||| bytes[offset + 2]!.toNat <<< 8 % 2 ^ 32 ||| bytes[offset + 3]!.toNat := by
        simp only [readU32, UInt32.toNat_or, UInt32.toNat_shiftLeft, UInt8.toNat_toUInt32]
        rfl
    -- the shifts add up, so the bytes can be put in one after the other
    _ = ((bytes[offset]!.toNat <<< 8 ||| bytes[offset + 1]!.toNat) <<< 8
          ||| bytes[offset + 2]!.toNat) <<< 8 ||| bytes[offset + 3]!.toNat := by
        rw [Nat.mod_eq_of_lt fits₁, Nat.mod_eq_of_lt fits₂, Nat.mod_eq_of_lt fits₃,
          Nat.shiftLeft_or_distrib, Nat.shiftLeft_or_distrib, Nat.shiftLeft_or_distrib,
          ← Nat.shiftLeft_add, ← Nat.shiftLeft_add, ← Nat.shiftLeft_add]
    _ = 256 * (256 * (256 * bytes[offset]!.toNat + bytes[offset + 1]!.toNat)
          + bytes[offset + 2]!.toNat) + bytes[offset + 3]!.toNat := by
        rw [shift_or _ _ second, shift_or _ _ third, shift_or _ _ fourth]
    _ = value (slice bytes offset 4) := by
        rw [slice_succ, slice_succ, slice_succ, slice_succ, value_snoc, value_snoc, value_snoc,
          value_snoc]
        simp [slice]

/-- The loop of `read_f64` takes in one byte after the other. -/
theorem readBits_toNat (bytes : Vector UInt8 n) (offset count : Nat) (fits : count ≤ 8) :
    (readBits bytes offset count).toNat = value (slice bytes offset count) := by
  induction count with
  | zero => rfl
  | succ count ih =>
    have bits := ih (by omega)
    have digit : bytes[offset + count]!.toNat < 256 := UInt8.toNat_lt _
    have room : (readBits bytes offset count).toNat <<< 8 < 2 ^ 64 := by
      have smaller := value_lt (slice bytes offset count)
      have enough : 256 ^ count ≤ 256 ^ 7 := Nat.pow_le_pow_right (by decide) (by omega)
      rw [length_slice] at smaller
      rw [bits, Nat.shiftLeft_eq]
      omega
    calc (readBits bytes offset (count + 1)).toNat
        = (readBits bytes offset count <<< 8 ||| bytes[offset + count]!.toUInt64).toNat := by
          rw [readBits, List.range_succ, List.foldl_append]
          rfl
      _ = (readBits bytes offset count).toNat <<< 8 % 2 ^ 64 ||| bytes[offset + count]!.toNat := by
          rw [UInt64.toNat_or, UInt64.toNat_shiftLeft, UInt8.toNat_toUInt64]
          rfl
      _ = value (slice bytes offset (count + 1)) := by
          rw [Nat.mod_eq_of_lt room, shift_or _ _ digit, bits, slice_succ, value_snoc]

theorem writeU16_eq (bytes : Vector UInt8 n) (offset : Nat) (word : UInt16) :
    writeU16 bytes offset word = splice bytes offset (digits 2 word.toNat) := by
  have high : (word >>> 8).toUInt8 = UInt8.ofNat (word.toNat / 256) := by
    apply UInt8.toNat_inj.mp
    rw [UInt16.toNat_toUInt8, UInt16.toNat_shiftRight, UInt8.toNat_ofNat']
    exact congrArg (· % 2 ^ 8) (Nat.shiftRight_eq_div_pow word.toNat 8)
  have low : word.toUInt8 = UInt8.ofNat word.toNat := by
    apply UInt8.toNat_inj.mp
    rw [UInt16.toNat_toUInt8, UInt8.toNat_ofNat']
  rw [writeU16, high, low]
  rfl

theorem writeU32_eq (bytes : Vector UInt8 n) (offset : Nat) (word : UInt32) :
    writeU32 bytes offset word = splice bytes offset (digits 4 word.toNat) := by
  have shifted (shift : UInt32) : (word >>> shift).toUInt8 =
      UInt8.ofNat (word.toNat / 2 ^ (shift.toNat % 32)) := by
    apply UInt8.toNat_inj.mp
    rw [UInt32.toNat_toUInt8, UInt32.toNat_shiftRight, UInt8.toNat_ofNat',
      Nat.shiftRight_eq_div_pow]
  have low : word.toUInt8 = UInt8.ofNat word.toNat := by
    apply UInt8.toNat_inj.mp
    rw [UInt32.toNat_toUInt8, UInt8.toNat_ofNat']
  have digits : digits 4 word.toNat =
      [UInt8.ofNat (word.toNat / 2 ^ 24), UInt8.ofNat (word.toNat / 2 ^ 16),
        UInt8.ofNat (word.toNat / 2 ^ 8), UInt8.ofNat word.toNat] := by
    simp only [digits_cons, Nat.reducePow, Nat.div_one]
    rfl
  rw [writeU32, shifted, shifted, shifted, low, digits]
  rfl

/-- The loop of `write_f64` puts each byte in front of those it has written. -/
theorem writeBits_eq (bytes : Vector UInt8 n) (offset : Nat) (bits : UInt64) (count : Nat)
    (fits : count ≤ 8) (inside : offset + 8 ≤ n) :
    (writeBits bytes offset bits count).1 =
        splice bytes (offset + (8 - count)) (digits count bits.toNat) ∧
      (writeBits bytes offset bits count).2.toNat = bits.toNat / 256 ^ count := by
  induction count with
  | zero => exact ⟨rfl, (Nat.div_one _).symm⟩
  | succ count ih =>
    obtain ⟨written, rest⟩ := ih (by omega)
    have round : writeBits bytes offset bits (count + 1) =
        ((writeBits bytes offset bits count).1.set! (offset + (8 - count - 1))
            (writeBits bytes offset bits count).2.toUInt8,
          (writeBits bytes offset bits count).2 >>> 8) := by
      rw [writeBits, List.range_succ, List.foldl_append]
      rfl
    have byte : (writeBits bytes offset bits count).2.toUInt8 =
        UInt8.ofNat (bits.toNat / 256 ^ count) := by
      apply UInt8.toNat_inj.mp
      rw [UInt64.toNat_toUInt8, rest, UInt8.toNat_ofNat']
    have place : offset + (8 - (count + 1)) + 1 = offset + (8 - count) := by omega
    have room : offset + (8 - (count + 1)) + 1 + (digits count bits.toNat).length ≤ n := by
      rw [length_digits]
      omega
    constructor
    · rw [round, byte, written, digits_cons, splice_cons _ _ _ _ room, place]
      rfl
    · rw [round]
      change ((writeBits bytes offset bits count).2 >>> 8).toNat = _
      rw [UInt64.toNat_shiftRight, rest, Nat.shiftRight_eq_div_pow]
      exact Nat.div_div_eq_div_mul bits.toNat (256 ^ count) 256

theorem writeF64_eq (bitCast : R → UInt64) (bytes : Vector UInt8 n) (offset : Nat) (x : R)
    (inside : offset + 8 ≤ n) :
    writeF64 bitCast bytes offset x = splice bytes offset (digits 8 (bitCast x).toNat) :=
  (writeBits_eq bytes offset (bitCast x) 8 le_rfl inside).1

end Specification

end S7DbLayout

end MotionBridge
