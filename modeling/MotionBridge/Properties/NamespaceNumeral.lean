import MotionBridge.Properties.ConfigurationGrammar

/-! Which values of the namespace are accepted. `std::stoul` reads a number off the front
of a text, with a sign that may wrap, and the rest of the text is never looked at. -/
namespace MotionBridge

open Foundation

namespace OpcUaConfiguration

/-- The namespace is accepted exactly as a decimal number of 16 bits. -/
def AcceptsExactly (text value : Text) : Prop :=
  ((∃ configuration, loadOpcuaConfiguration text = .ok configuration) ↔
      Text.Numeral value ∧ Text.decimal value ≤ 65535) ∧
    ∀ configuration, loadOpcuaConfiguration text = .ok configuration →
      configuration.nodes.namespaceIndex.toNat = Text.decimal value

/-- The number read off the front of a text: a minus sign wraps at 64 bits. -/
def leadingNumber (value : Text) : ℕ :=
  if (Text.splitSign value).1 then (UInt64.size - Text.decimal value.leadingDigits) % UInt64.size
  else Text.decimal value.leadingDigits

/-- The value is a numeral, or no number of 16 bits can be read off its front. -/
def ReadInFull (value : Text) : Prop :=
  Text.Numeral value ∨ value.leadingDigits = [] ∨ UInt64.size ≤ Text.decimal value.leadingDigits ∨
    65535 < leadingNumber value

instance (value : Text) : Decidable (ReadInFull value) :=
  inferInstanceAs (Decidable (_ ∨ _ ∨ _ ∨ _))

theorem toNat_ofNat_of_small {n : ℕ} (small : n < UInt64.size) : (UInt64.ofNat n).toNat = n :=
  UInt64.toNat_ofNat_of_lt' small

/-- The negation of a number in range. -/
theorem toNat_neg_ofNat {n : ℕ} (small : n < UInt64.size) :
    (-UInt64.ofNat n).toNat = (UInt64.size - n) % UInt64.size := by
  have wrapped := UInt64.toNat_neg (UInt64.ofNat n)
  rwa [toNat_ofNat_of_small small] at wrapped

/-- What `std::stoul` accepts, and what it makes of it. -/
theorem stoul_ok (value : Text) (stripped : Text.Stripped value) (number : UInt64) :
    Text.stoul value = .ok number ↔
      value.leadingDigits ≠ [] ∧ Text.decimal value.leadingDigits < UInt64.size ∧
        number.toNat = leadingNumber value := by
  rw [Text.stoul, stripped.dropWhile, leadingNumber]
  by_cases empty : value.leadingDigits = []
  · simp [empty]
  by_cases large : UInt64.size ≤ Text.decimal value.leadingDigits
  · rw [if_neg empty, if_pos large]
    constructor
    · intro failed
      cases failed
    · intro accepted
      exact absurd accepted.2.1 (not_lt.mpr large)
  · have small : Text.decimal value.leadingDigits < UInt64.size := not_le.mp large
    simp only [empty, if_false, if_neg large, ne_eq, not_false_eq_true, small, true_and]
    by_cases minus : (Text.splitSign value).1 = true
    · rw [if_pos minus, if_pos minus, ← toNat_neg_ofNat small, UInt64.toNat_inj, Except.ok.injEq,
        eq_comm]
    · rw [if_neg minus, if_neg minus, Except.ok.injEq, ← UInt64.toNat_inj,
        toNat_ofNat_of_small small, eq_comm]

/-- A text that lacks nothing but perhaps a good namespace is accepted with this value. -/
theorem load_namespace {text value : Text} (wellFormed : WellFormed text)
    (present : ∀ key ∈ textKeys, ∃ binding ∈ bindings text, binding.1 = key.toList)
    (last : LastBinds (bindings text) "namespace".toList value) :
    ((∃ configuration, loadOpcuaConfiguration text = .ok configuration) ↔
        ∃ number, Text.stoul value = .ok number ∧ number ≤ 65535) ∧
      ∀ configuration, loadOpcuaConfiguration text = .ok configuration →
        ∃ number, Text.stoul value = .ok number ∧ number ≤ 65535 ∧
          configuration.nodes.namespaceIndex = number.toUInt16 := by
  have only : ∀ other, required (assign (bindings text)) "namespace" = .ok other ↔ other = value := by
    intro other
    rw [required_eq, ← assign_eq_some, (assign_eq_some _ _ _).mpr last, Option.some.injEq, eq_comm]
  have texts : ∀ key ∈ textKeys, ∃ value, required (assign (bindings text)) key = .ok value := by
    intro key member
    obtain ⟨other, found⟩ := (assign_isSome _ _).mpr (present key member)
    exact ⟨other, (required_eq _ _ _).mpr ((assign_eq_some _ _ _).mp found)⟩
  rw [load_wellFormed wellFormed]
  constructor
  · rw [assemble_succeeds]
    simp only [namespaceIndex_ok, only]
    constructor
    · rintro ⟨_, index, other, number, rfl, converted, small, _⟩
      exact ⟨number, converted, small⟩
    · rintro ⟨number, converted, small⟩
      exact ⟨texts, _, value, number, rfl, converted, small, rfl⟩
  · intro configuration assembled
    obtain ⟨other, number, found, converted, small, index⟩ :=
      (namespaceIndex_ok _ _).mp ((assemble_ok _ _).mp assembled).2
    rw [(only other).mp found] at converted
    exact ⟨number, converted, small, index⟩

/-- The same, in terms of the text of the value. -/
theorem accepted_iff {value : Text} (stripped : Text.Stripped value) :
    (∃ number, Text.stoul value = .ok number ∧ number ≤ 65535) ↔
      value.leadingDigits ≠ [] ∧ Text.decimal value.leadingDigits < UInt64.size ∧
        leadingNumber value ≤ 65535 := by
  simp only [stoul_ok value stripped, UInt64.le_iff_toNat_le]
  constructor
  · rintro ⟨number, ⟨nonempty, small, same⟩, fits⟩
    exact ⟨nonempty, small, same ▸ fits⟩
  · rintro ⟨nonempty, small, fits⟩
    have back : (UInt64.ofNat (leadingNumber value)).toNat = leadingNumber value :=
      toNat_ofNat_of_small (lt_of_le_of_lt fits (by decide))
    exact ⟨UInt64.ofNat (leadingNumber value), ⟨nonempty, small, back⟩, back.trans_le fits⟩

/-- In a configuration that is otherwise in order, the namespace is accepted exactly as a
16-bit numeral if its value is a numeral, or has no such number at its front. -/
theorem namespace_exact_iff (text value : Text) (wellFormed : WellFormed text)
    (present : ∀ key ∈ textKeys, ∃ binding ∈ bindings text, binding.1 = key.toList)
    (last : LastBinds (bindings text) "namespace".toList value) :
    AcceptsExactly text value ↔ ReadInFull value := by
  have stripped : Text.Stripped value := by
    obtain ⟨earlier, later, split, _⟩ := last
    have member : ("namespace".toList, value) ∈ bindings text := by simp [split]
    exact (bindings_value member).2
  obtain ⟨succeeds, index⟩ := load_namespace wellFormed present last
  rw [accepted_iff stripped] at succeeds
  constructor
  · rintro ⟨accepts, _⟩
    by_contra short
    simp only [ReadInFull, not_or, not_le, not_lt] at short
    exact short.1 (accepts.mp (succeeds.mpr short.2)).1
  · intro full
    by_cases numeral : Text.Numeral value
    · obtain ⟨unsigned, digits⟩ := numeral.leadingDigits
      rw [stripped.dropWhile] at unsigned
      have number_eq : leadingNumber value = Text.decimal value := by
        rw [leadingNumber, unsigned, digits]
        exact if_neg Bool.false_ne_true
      rw [digits, number_eq] at succeeds
      constructor
      · rw [succeeds]
        constructor
        · exact fun accepted => ⟨numeral, accepted.2.2⟩
        · exact fun small => ⟨numeral.1, lt_of_le_of_lt small.2 (by decide), small.2⟩
      · intro configuration loaded
        obtain ⟨number, converted, small, same⟩ := index configuration loaded
        have value_eq := ((stoul_ok value stripped number).mp converted).2.2
        rw [UInt64.le_iff_toNat_le] at small
        rw [same, UInt64.toNat_toUInt16, ← number_eq, ← value_eq]
        exact Nat.mod_eq_of_lt (Nat.lt_succ_of_le small)
    -- the condition then says that nothing is accepted
    · have refused : ¬∃ configuration, loadOpcuaConfiguration text = .ok configuration := by
        rw [succeeds]
        rintro ⟨nonempty, small, fits⟩
        rcases full with isNumeral | empty | large | beyond
        · exact numeral isNumeral
        · exact nonempty empty
        · exact absurd small (not_lt.mpr large)
        · exact absurd fits (not_le.mpr beyond)
      refine ⟨iff_of_false refused fun accepted => numeral accepted.1, ?_⟩
      exact fun configuration loaded => absurd ⟨configuration, loaded⟩ refused

theorem namespace_exact_iff_sample : AcceptsExactly sample "3".toList ↔ ReadInFull "3".toList :=
  namespace_exact_iff sample "3".toList sample_wellFormed
    (fun key member => sample_complete key (List.mem_cons_of_mem _ member)) sample_namespace

/-- A configuration that is in order but for its namespace. -/
def trailing : Text :=
  ['\n'].intercalate
    (["endpoint=opc.tcp://plc", "namespace=3abc", "control_word=c", "target_position=t", "max_velocity=v",
      "max_acceleration=a", "plc_heartbeat=h", "status_word=s", "actual_position=p", "actual_velocity=u",
      "following_error=e", "fault_code=f", "controller_heartbeat=k"].map String.toList)

/-- A value that is no numeral is accepted for the number at its front. -/
theorem trailing_characters_accepted :
    ¬∀ text value : Text, WellFormed text →
      (∀ key ∈ textKeys, ∃ binding ∈ bindings text, binding.1 = key.toList) →
        LastBinds (bindings text) "namespace".toList value → AcceptsExactly text value := by
  intro numerals
  have accepted := numerals trailing "3abc".toList (by decide +kernel) (by decide +kernel)
    ((assign_eq_some _ _ _).mp (by decide +kernel))
  have loaded : loadOpcuaConfiguration trailing = .ok (ofValues (fun key =>
      ((assign (bindings trailing)) key.toList).getD []) 3) := by
    decide +kernel
  exact absurd (accepted.1.mp ⟨_, loaded⟩).1 (by decide +kernel)

end OpcUaConfiguration

end MotionBridge
