import MotionBridge.Communication.S7DbLayout

/-!
# The DB2 codec loses nothing

Each field is the big-endian number in its own range of the buffer, and the ranges of
both buffers tile the data block.
-/
namespace MotionBridge

open Foundation

namespace S7DbLayout

open BigEndian

/-- Offset and width of the fields of a command, in the order of `decode_command`. -/
def commandRanges : List (Nat × Nat) := [(0, 2), (2, 8), (10, 8), (18, 8), (26, 4)]

/-- Offset and width of the fields of a status, in the order of `encode_status`. -/
def statusRanges : List (Nat × Nat) := [(0, 2), (2, 8), (10, 8), (18, 8), (26, 2), (28, 4)]

/-- The ranges of both buffers in DB2. -/
def dbRanges : List (Nat × Nat) :=
  commandRanges.map (fun range => (commandOffset + range.1, range.2)) ++
    statusRanges.map (fun range => (statusOffset + range.1, range.2))

/-- Two buffers have the same field exactly when they agree on its range. -/
def Reads {n : Nat} {α : Type} (field : Vector UInt8 n → α) (offset width : Nat) : Prop :=
  ∀ left right, field left = field right ↔ slice left offset width = slice right offset width

/-- Two records have the same field exactly when their buffers agree on its range. -/
def Writes {n : Nat} {α β : Type} (encode : β → Vector UInt8 n) (field : β → α)
    (offset width : Nat) : Prop :=
  ∀ left right, field left = field right ↔
    slice (encode left) offset width = slice (encode right) offset width

section Fields

variable {n : Nat} {R : Type}

theorem readU16_iff (bytes : Vector UInt8 n) (offset : Nat) (word : UInt16) :
    readU16 bytes offset = word ↔ slice bytes offset 2 = digits 2 word.toNat := by
  rw [← UInt16.toNat_inj, readU16_toNat]
  constructor
  · intro same
    rw [← same, digits_slice]
  · intro same
    rw [same, value_digits 2 _ word.toNat_lt]

theorem readU32_iff (bytes : Vector UInt8 n) (offset : Nat) (word : UInt32) :
    readU32 bytes offset = word ↔ slice bytes offset 4 = digits 4 word.toNat := by
  rw [← UInt32.toNat_inj, readU32_toNat]
  constructor
  · intro same
    rw [← same, digits_slice]
  · intro same
    rw [same, value_digits 4 _ word.toNat_lt]

theorem readF64_iff (bits : R ≃ UInt64) (bytes : Vector UInt8 n) (offset : Nat) (x : R) :
    readF64 bits.symm bytes offset = x ↔ slice bytes offset 8 = digits 8 (bits x).toNat := by
  rw [readF64, Equiv.symm_apply_eq, ← UInt64.toNat_inj, readBits_toNat bytes offset 8 le_rfl]
  constructor
  · intro same
    rw [← same, digits_slice]
  · intro same
    rw [same, value_digits 8 _ (bits x).toNat_lt]

/-! Writing a field that was read copies its bytes. -/

theorem writeU16_read (into bytes : Vector UInt8 n) (offset : Nat) :
    writeU16 into offset (readU16 bytes offset) = splice into offset (slice bytes offset 2) := by
  rw [writeU16_eq, readU16_toNat, digits_slice]

theorem writeU32_read (into bytes : Vector UInt8 n) (offset : Nat) :
    writeU32 into offset (readU32 bytes offset) = splice into offset (slice bytes offset 4) := by
  rw [writeU32_eq, readU32_toNat, digits_slice]

theorem writeF64_read (bits : R ≃ UInt64) (into bytes : Vector UInt8 n) (offset : Nat)
    (inside : offset + 8 ≤ n) :
    writeF64 bits into offset (readF64 bits.symm bytes offset) =
      splice into offset (slice bytes offset 8) := by
  rw [writeF64_eq bits into offset _ inside, readF64, Equiv.apply_symm_apply,
    readBits_toNat bytes offset 8 le_rfl, digits_slice]

theorem readU16_reads (offset : Nat) :
    Reads (fun bytes : Vector UInt8 n => readU16 bytes offset) offset 2 := by
  intro left right
  rw [readU16_iff, readU16_toNat, digits_slice]

theorem readU32_reads (offset : Nat) :
    Reads (fun bytes : Vector UInt8 n => readU32 bytes offset) offset 4 := by
  intro left right
  rw [readU32_iff, readU32_toNat, digits_slice]

theorem readF64_reads (bits : R ≃ UInt64) (offset : Nat) :
    Reads (fun bytes : Vector UInt8 n => readF64 bits.symm bytes offset) offset 8 := by
  intro left right
  change readF64 bits.symm left offset = readF64 bits.symm right offset ↔ _
  rw [readF64_iff, readF64, Equiv.apply_symm_apply, readBits_toNat right offset 8 le_rfl,
    digits_slice]

/-- A field that is written as a number of its own. -/
theorem writes_number {α β : Type} {encode : β → Vector UInt8 n} {field : β → α}
    {offset width : Nat} (number : α → Nat) (injective : Function.Injective number)
    (fits : ∀ x, number x < 256 ^ width)
    (written : ∀ record, slice (encode record) offset width = digits width (number (field record))) :
    Writes encode field offset width := by
  intro left right
  rw [written, written, digits_inj (fits _) (fits _), injective.eq_iff]

end Fields

section Buffers

variable {R : Type} (bits : R ≃ UInt64)

/-- What the encoder leaves in each range: later fields do not touch earlier ones. -/
theorem encodeStatus_slices (status : PlcStatusData R) :
    let bytes := encodeStatus bits status
    slice bytes 0 2 = digits 2 status.statusWord.toNat ∧
      slice bytes 2 8 = digits 8 (bits status.actualPositionRad).toNat ∧
      slice bytes 10 8 = digits 8 (bits status.actualVelocityRadS).toNat ∧
      slice bytes 18 8 = digits 8 (bits status.followingErrorRad).toNat ∧
      slice bytes 26 2 = digits 2 status.faultCode.toNat ∧
      slice bytes 28 4 = digits 4 status.controllerHeartbeat.toNat := by
  simp (disch := decide) only [encodeStatus, writeU16_eq, writeU32_eq, writeF64_eq,
    slice_digits_same, slice_digits_other, and_self]

-- 1.0, 0.5 and -0.25 by their bits
example :
    (encodeStatus id
      ⟨0x13, 0x3ff0000000000000, 0x3fe0000000000000, 0xbfd0000000000000, 1001, 0x01020304⟩).toList =
        [0x00, 0x13, 0x3f, 0xf0, 0, 0, 0, 0, 0, 0, 0x3f, 0xe0, 0, 0, 0, 0, 0, 0,
          0xbf, 0xd0, 0, 0, 0, 0, 0, 0, 0x03, 0xe9, 1, 2, 3, 4] := by
  decide +kernel

/-- Decoding and encoding lose nothing, and the fields are where the table of DB2 has
them. -/
theorem codec_lossless :
    (∀ into bytes : CommandBuffer,
      let command := decodeCommand bits.symm bytes
      let written := writeU16 into 0 command.controlWord
      let written := writeF64 bits written 2 command.targetPositionRad
      let written := writeF64 bits written 10 command.maxVelocityRadS
      let written := writeF64 bits written 18 command.maxAccelerationRadS2
      writeU32 written 26 command.heartbeat = bytes) ∧
    (∀ status : PlcStatusData R,
      let bytes := encodeStatus bits status
      readU16 bytes 0 = status.statusWord ∧
        readF64 bits.symm bytes 2 = status.actualPositionRad ∧
        readF64 bits.symm bytes 10 = status.actualVelocityRadS ∧
        readF64 bits.symm bytes 18 = status.followingErrorRad ∧
        readU16 bytes 26 = status.faultCode ∧ readU32 bytes 28 = status.controllerHeartbeat) ∧
    (Reads (fun bytes => (decodeCommand bits.symm bytes).controlWord) 0 2 ∧
      Reads (fun bytes => (decodeCommand bits.symm bytes).targetPositionRad) 2 8 ∧
      Reads (fun bytes => (decodeCommand bits.symm bytes).maxVelocityRadS) 10 8 ∧
      Reads (fun bytes => (decodeCommand bits.symm bytes).maxAccelerationRadS2) 18 8 ∧
      Reads (fun bytes => (decodeCommand bits.symm bytes).heartbeat) 26 4) ∧
    (Writes (encodeStatus bits) PlcStatusData.statusWord 0 2 ∧
      Writes (encodeStatus bits) PlcStatusData.actualPositionRad 2 8 ∧
      Writes (encodeStatus bits) PlcStatusData.actualVelocityRadS 10 8 ∧
      Writes (encodeStatus bits) PlcStatusData.followingErrorRad 18 8 ∧
      Writes (encodeStatus bits) PlcStatusData.faultCode 26 2 ∧
      Writes (encodeStatus bits) PlcStatusData.controllerHeartbeat 28 4) ∧
    (dbRanges.map Prod.fst = [0, 2, 10, 18, 26, 30, 32, 40, 48, 56, 58] ∧
      (∀ range ∈ dbRanges, range.1 + range.2 ≤ totalSize) ∧
      ∀ i < totalSize, ∃! range, range ∈ dbRanges ∧ range.1 ≤ i ∧ i < range.1 + range.2) := by
  have tiles : Tiles 0 dbRanges totalSize := by
    simp [Tiles, dbRanges, commandRanges, statusRanges, commandOffset, statusOffset, totalSize,
      commandSize, statusSize]
  refine ⟨?_, ?_, ?_, ?_, rfl, ?_, ?_⟩
  · intro into bytes
    have nothing : AgreeBelow 0 into bytes := fun i before => absurd before (Nat.not_lt_zero i)
    -- every write extends the part that is as in `bytes`
    have word := agreeBelow_splice _ bytes 0 2 (by decide) nothing
    have target := agreeBelow_splice _ bytes 2 8 (by decide) word
    have velocity := agreeBelow_splice _ bytes 10 8 (by decide) target
    have acceleration := agreeBelow_splice _ bytes 18 8 (by decide) velocity
    have heartbeat := agreeBelow_splice _ bytes 26 4 (by decide) acceleration
    simp (disch := decide) only [decodeCommand, writeU16_read, writeU32_read, writeF64_read]
    exact eq_of_agree _ _ heartbeat
  · intro status bytes
    obtain ⟨word, position, velocity, error, fault, heartbeat⟩ := encodeStatus_slices bits status
    exact ⟨(readU16_iff _ _ _).mpr word, (readF64_iff bits _ _ _).mpr position,
      (readF64_iff bits _ _ _).mpr velocity, (readF64_iff bits _ _ _).mpr error,
      (readU16_iff _ _ _).mpr fault, (readU32_iff _ _ _).mpr heartbeat⟩
  · exact ⟨readU16_reads 0, readF64_reads bits 2, readF64_reads bits 10, readF64_reads bits 18,
      readU32_reads 26⟩
  · have slices := encodeStatus_slices bits
    have words : Function.Injective UInt16.toNat := fun _ _ => UInt16.toNat_inj.mp
    have counters : Function.Injective UInt32.toNat := fun _ _ => UInt32.toNat_inj.mp
    have doubles : Function.Injective fun x => (bits x).toNat := fun _ _ same =>
      bits.injective (UInt64.toNat_inj.mp same)
    exact ⟨writes_number _ words UInt16.toNat_lt fun status => (slices status).1,
      writes_number _ doubles (fun x => (bits x).toNat_lt) fun status => (slices status).2.1,
      writes_number _ doubles (fun x => (bits x).toNat_lt) fun status => (slices status).2.2.1,
      writes_number _ doubles (fun x => (bits x).toNat_lt) fun status => (slices status).2.2.2.1,
      writes_number _ words UInt16.toNat_lt fun status => (slices status).2.2.2.2.1,
      writes_number _ counters UInt32.toNat_lt fun status => (slices status).2.2.2.2.2⟩
  · exact fun range member => ((tiles_within _ _ _ tiles).2 range member).2
  · exact fun i before => tiles_unique _ _ _ tiles i (Nat.zero_le i) before

end Buffers

end S7DbLayout

end MotionBridge
