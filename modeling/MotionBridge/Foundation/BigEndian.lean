import Mathlib.Data.List.Induction
import Mathlib.Data.Nat.Basic
import Mathlib.Tactic.Ring

/-!
# Big-endian numbers in byte buffers

A number in base 256, the most significant byte first, takes up a stretch of a buffer
of fixed size. Writing a stretch and reading one commute with everything outside it.
-/
namespace Foundation

namespace BigEndian

/-- The number that a list of bytes stands for. -/
def value (bytes : List UInt8) : Nat := bytes.foldl (fun high byte => 256 * high + byte.toNat) 0

/-- The last `width` bytes of a number. -/
def digits : Nat → Nat → List UInt8
  | 0, _ => []
  | width + 1, number => digits width (number / 256) ++ [UInt8.ofNat number]

@[simp] theorem value_nil : value [] = 0 := rfl

@[simp] theorem value_snoc (bytes : List UInt8) (byte : UInt8) :
    value (bytes ++ [byte]) = 256 * value bytes + byte.toNat := by
  simp only [value, List.foldl_append, List.foldl_cons, List.foldl_nil]

@[simp] theorem length_digits (width number : Nat) : (digits width number).length = width := by
  induction width generalizing number with
  | zero => rfl
  | succ width ih => rw [digits, List.length_append, ih, List.length_singleton]

/-- The first of the last bytes. -/
theorem digits_cons (width number : Nat) :
    digits (width + 1) number = UInt8.ofNat (number / 256 ^ width) :: digits width number := by
  induction width generalizing number with
  | zero => rw [Nat.pow_zero, Nat.div_one]; rfl
  | succ width ih =>
    rw [digits, ih, Nat.div_div_eq_div_mul, ← Nat.pow_succ', digits, List.cons_append]

theorem value_lt (bytes : List UInt8) : value bytes < 256 ^ bytes.length := by
  induction bytes using List.reverseRecOn with
  | nil => exact Nat.one_pos
  | append_singleton bytes byte ih =>
    have digit : byte.toNat < 256 := byte.toNat_lt
    rw [value_snoc, List.length_append, List.length_singleton, Nat.pow_succ]
    omega

theorem value_digits (width number : Nat) (fits : number < 256 ^ width) :
    value (digits width number) = number := by
  induction width generalizing number with
  | zero =>
    have none : number = 0 := by simpa using fits
    rw [none]
    rfl
  | succ width ih =>
    have high : number / 256 < 256 ^ width := by
      rw [Nat.pow_succ] at fits
      omega
    rw [digits, value_snoc, ih _ high, UInt8.toNat_ofNat']
    exact Nat.div_add_mod number 256

theorem digits_value (bytes : List UInt8) : digits bytes.length (value bytes) = bytes := by
  induction bytes using List.reverseRecOn with
  | nil => rfl
  | append_singleton bytes byte ih =>
    have digit : byte.toNat < 256 := byte.toNat_lt
    have high : (256 * value bytes + byte.toNat) / 256 = value bytes := by omega
    have low : UInt8.ofNat (256 * value bytes + byte.toNat) = byte := by
      apply UInt8.toNat_inj.mp
      rw [UInt8.toNat_ofNat']
      omega
    rw [List.length_append, List.length_singleton, digits, value_snoc, high, low, ih]

theorem digits_inj {width left right : Nat} (fitsLeft : left < 256 ^ width)
    (fitsRight : right < 256 ^ width) : digits width left = digits width right ↔ left = right := by
  constructor
  · intro same
    rw [← value_digits width left fitsLeft, same, value_digits width right fitsRight]
  · exact congrArg (digits width)

end BigEndian

/-! Stretches of a buffer. -/

variable {n : Nat}

/-- The `width` bytes from `offset` on. -/
def slice (buffer : Vector UInt8 n) (offset width : Nat) : List UInt8 :=
  (List.range' offset width).map fun i => buffer[i]!

/-- The buffer with `bytes` written from `offset` on. -/
def splice (buffer : Vector UInt8 n) (offset : Nat) : List UInt8 → Vector UInt8 n
  | [] => buffer
  | byte :: bytes => splice (buffer.set! offset byte) (offset + 1) bytes

@[simp] theorem length_slice (buffer : Vector UInt8 n) (offset width : Nat) :
    (slice buffer offset width).length = width := by
  rw [slice, List.length_map, List.length_range']

theorem get_set (buffer : Vector UInt8 n) (i j : Nat) (byte : UInt8) (inside : i < n) :
    (buffer.set! i byte)[j]! = if i = j then byte else buffer[j]! := by
  grind

theorem eq_of_agree (left right : Vector UInt8 n) (agree : ∀ i < n, left[i]! = right[i]!) :
    left = right := by
  apply Vector.ext
  intro i inside
  have same := agree i inside
  rwa [getElem!_pos left i inside, getElem!_pos right i inside] at same

theorem get_splice (buffer : Vector UInt8 n) (offset : Nat) (bytes : List UInt8)
    (fits : offset + bytes.length ≤ n) (i : Nat) :
    (splice buffer offset bytes)[i]! =
      if offset ≤ i ∧ i < offset + bytes.length then bytes[i - offset]! else buffer[i]! := by
  induction bytes generalizing buffer offset with
  | nil => rw [splice, if_neg (by simp)]
  | cons byte bytes ih =>
    rw [List.length_cons] at fits ⊢
    rw [splice, ih _ _ (by omega), get_set _ _ _ _ (by omega)]
    -- before the stretch, at its first byte, or behind it
    rcases Nat.lt_trichotomy i offset with before | rfl | behind
    · rw [if_neg (by omega), if_neg (by omega), if_neg (by omega)]
    · rw [if_neg (by omega), if_pos rfl, if_pos (by omega), Nat.sub_self]
      rfl
    · have shifted : i - offset = (i - (offset + 1)) + 1 := by omega
      rw [if_neg (by omega : ¬offset = i), shifted, List.getElem!_cons_succ]
      have same : (offset + 1 ≤ i ∧ i < offset + 1 + bytes.length) ↔
          (offset ≤ i ∧ i < offset + (bytes.length + 1)) := by omega
      simp only [same]

/-- A byte in front of a stretch is written before it or after it. -/
theorem splice_cons (buffer : Vector UInt8 n) (offset : Nat) (byte : UInt8) (bytes : List UInt8)
    (fits : offset + 1 + bytes.length ≤ n) :
    splice buffer offset (byte :: bytes) =
      (splice buffer (offset + 1) bytes).set! offset byte := by
  apply eq_of_agree
  intro i _
  rw [splice, get_splice _ _ _ fits, get_set _ _ _ _ (by omega), get_set _ _ _ _ (by omega),
    get_splice _ _ _ fits]
  split_ifs with within first
  · omega
  · rfl
  · rfl
  · rfl

theorem get_slice (buffer : Vector UInt8 n) (offset width i : Nat) (inside : i < width) :
    (slice buffer offset width)[i]! = buffer[offset + i]! := by
  have within : i < (slice buffer offset width).length := by rwa [length_slice]
  rw [getElem!_pos _ i within]
  simp [slice]

theorem slice_succ (buffer : Vector UInt8 n) (offset width : Nat) :
    slice buffer offset (width + 1) = slice buffer offset width ++ [buffer[offset + width]!] := by
  rw [slice, List.range'_1_concat, List.map_append]
  rfl

/-- Equal bytes make equal stretches. -/
theorem slice_congr (left right : Vector UInt8 n) (offset width : Nat)
    (same : ∀ i < width, left[offset + i]! = right[offset + i]!) :
    slice left offset width = slice right offset width := by
  induction width with
  | zero => rfl
  | succ width ih =>
    rw [slice_succ, slice_succ, ih fun i inside => same i (by omega), same width (by omega)]

/-- What has been written is read back. -/
theorem slice_splice_same (buffer : Vector UInt8 n) (offset : Nat) (bytes : List UInt8)
    (fits : offset + bytes.length ≤ n) :
    slice (splice buffer offset bytes) offset bytes.length = bytes := by
  apply List.ext_getElem (by rw [length_slice])
  intro i inside _
  rw [length_slice] at inside
  rw [← getElem!_pos (slice _ _ _) i, get_slice _ _ _ _ inside, get_splice _ _ _ fits,
    if_pos (by omega), Nat.add_sub_cancel_left, getElem!_pos bytes i inside]

/-- Other stretches stay as they were. -/
theorem slice_splice_other (buffer : Vector UInt8 n) (offset offset' width : Nat)
    (bytes : List UInt8) (fits : offset + bytes.length ≤ n)
    (apart : offset + bytes.length ≤ offset' ∨ offset' + width ≤ offset) :
    slice (splice buffer offset bytes) offset' width = slice buffer offset' width := by
  apply slice_congr
  intro i inside
  rw [get_splice buffer offset bytes fits, if_neg (by omega)]

/-- The two buffers agree on their first bytes. -/
def AgreeBelow (bound : Nat) (left right : Vector UInt8 n) : Prop :=
  ∀ i < bound, left[i]! = right[i]!

/-- Copying the next stretch extends the agreement over it. -/
theorem agreeBelow_splice (left right : Vector UInt8 n) (offset width : Nat)
    (fits : offset + width ≤ n) (agree : AgreeBelow offset left right) :
    AgreeBelow (offset + width) (splice left offset (slice right offset width)) right := by
  intro i inside
  rw [get_splice _ _ _ (by rwa [length_slice]), length_slice]
  split_ifs with within
  · rw [get_slice _ _ _ _ (by omega), Nat.add_sub_cancel' within.1]
  · exact agree i (by omega)

theorem digits_slice (buffer : Vector UInt8 n) (offset width : Nat) :
    BigEndian.digits width (BigEndian.value (slice buffer offset width)) =
      slice buffer offset width := by
  have whole := BigEndian.digits_value (slice buffer offset width)
  rwa [length_slice] at whole

theorem slice_digits_same (buffer : Vector UInt8 n) (offset width number : Nat)
    (fits : offset + width ≤ n) :
    slice (splice buffer offset (BigEndian.digits width number)) offset width =
      BigEndian.digits width number := by
  have written := slice_splice_same buffer offset (BigEndian.digits width number)
    (by rwa [BigEndian.length_digits])
  rwa [BigEndian.length_digits] at written

theorem slice_digits_other (buffer : Vector UInt8 n) (offset offset' width width' number : Nat)
    (fits : offset + width ≤ n) (apart : offset + width ≤ offset' ∨ offset' + width' ≤ offset) :
    slice (splice buffer offset (BigEndian.digits width number)) offset' width' =
      slice buffer offset' width' := by
  apply slice_splice_other
  · rwa [BigEndian.length_digits]
  · rwa [BigEndian.length_digits]

/-- The stretch as a buffer of its own. -/
def window (buffer : Vector UInt8 n) (offset width : Nat) : Vector UInt8 width :=
  Vector.ofFn fun i => buffer[offset + i]!

theorem get_window (buffer : Vector UInt8 n) (offset width i : Nat) (inside : i < width) :
    (window buffer offset width)[i]! = buffer[offset + i]! := by
  rw [getElem!_pos _ i inside, window, Vector.getElem_ofFn]

/-- A buffer that has been written is read back whole. -/
theorem window_splice_same {m : Nat} (buffer : Vector UInt8 n) (offset : Nat)
    (bytes : Vector UInt8 m) (fits : offset + m ≤ n) :
    window (splice buffer offset bytes.toList) offset m = bytes := by
  apply eq_of_agree
  intro i inside
  have length : bytes.toList.length = m := Vector.length_toList
  rw [get_window _ _ _ _ inside, get_splice _ _ _ (by rwa [length]), if_pos (by omega),
    Nat.add_sub_cancel_left, getElem!_pos bytes i inside, getElem!_pos _ i (by omega)]
  rfl

theorem window_splice_other {m : Nat} (buffer : Vector UInt8 n) (offset offset' width : Nat)
    (bytes : Vector UInt8 m) (fits : offset + m ≤ n)
    (apart : offset + m ≤ offset' ∨ offset' + width ≤ offset) :
    window (splice buffer offset bytes.toList) offset' width = window buffer offset' width := by
  apply eq_of_agree
  intro i inside
  have length : bytes.toList.length = m := Vector.length_toList
  rw [get_window _ _ _ _ inside, get_window _ _ _ _ inside, get_splice _ _ _ (by rwa [length]),
    if_neg (by omega)]

/-- Writing what is there changes nothing. -/
theorem splice_window (buffer : Vector UInt8 n) (offset width : Nat) (fits : offset + width ≤ n) :
    splice buffer offset (window buffer offset width).toList = buffer := by
  apply eq_of_agree
  intro i _
  have length : (window buffer offset width).toList.length = width := Vector.length_toList
  rw [get_splice _ _ _ (by rwa [length]), length]
  split_ifs with inside
  · have place : offset + (i - offset) = i := by omega
    have here := get_window buffer offset width (i - offset) (by omega)
    rw [place] at here
    rw [← here, getElem!_pos _ _ (by omega), getElem!_pos _ _ (by omega), Vector.getElem_toList]
  · rfl

/-! Ranges of a buffer, given by their offset and width, that follow one another. -/

/-- The ranges begin at `start`, leave nothing out, and end at `stop`. -/
def Tiles : Nat → List (Nat × Nat) → Nat → Prop
  | start, [], stop => start = stop
  | start, range :: ranges, stop => range.1 = start ∧ Tiles (range.1 + range.2) ranges stop

theorem tiles_within (ranges : List (Nat × Nat)) (start stop : Nat)
    (tiles : Tiles start ranges stop) :
    start ≤ stop ∧ ∀ range ∈ ranges, start ≤ range.1 ∧ range.1 + range.2 ≤ stop := by
  induction ranges generalizing start with
  | nil => exact ⟨tiles.le, by simp⟩
  | cons range ranges ih =>
    obtain ⟨rfl, rest⟩ := tiles
    obtain ⟨ends, inside⟩ := ih _ rest
    refine ⟨by omega, ?_⟩
    rw [List.forall_mem_cons]
    refine ⟨⟨le_rfl, ends⟩, fun other member => ?_⟩
    have := inside other member
    omega

/-- Every position between the ends lies in exactly one range. -/
theorem tiles_unique (ranges : List (Nat × Nat)) (start stop : Nat)
    (tiles : Tiles start ranges stop) (i : Nat) (after : start ≤ i) (before : i < stop) :
    ∃! range, range ∈ ranges ∧ range.1 ≤ i ∧ i < range.1 + range.2 := by
  induction ranges generalizing start with
  | nil =>
    have empty : start = stop := tiles
    omega
  | cons range ranges ih =>
    obtain ⟨rfl, rest⟩ := tiles
    have later := (tiles_within ranges _ _ rest).2
    by_cases here : i < range.1 + range.2
    · refine ⟨range, ⟨List.mem_cons_self .., after, here⟩, ?_⟩
      rintro other ⟨member, begins, _⟩
      rcases List.mem_cons.mp member with same | member
      · exact same
      · have := (later other member).1
        omega
    · obtain ⟨owner, ⟨member, inside⟩, unique⟩ := ih _ rest (not_lt.mp here)
      refine ⟨owner, ⟨List.mem_cons_of_mem _ member, inside⟩, ?_⟩
      rintro other ⟨member, inside⟩
      rcases List.mem_cons.mp member with rfl | member
      · exact absurd inside.2 here
      · exact unique other ⟨member, inside⟩

end Foundation
