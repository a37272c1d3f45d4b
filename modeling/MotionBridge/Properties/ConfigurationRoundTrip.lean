import MotionBridge.Properties.ConfigurationGrammar

/-! Writing a configuration, one line for each key, and loading it again. A `#` starts a
comment wherever it stands, so it is the one character that does not survive. -/
namespace MotionBridge

open Foundation

namespace OpcUaConfiguration

/-- What a written configuration binds. -/
def written (configuration : OpcUaConfiguration) : List (Text × Text) :=
  ("namespace".toList, Nat.toDigits 10 configuration.nodes.namespaceIndex.toNat) ::
    configuration.entries.map fun entry => (entry.1.toList, entry.2)

def assignment (pair : Text × Text) : Text := pair.1 ++ '=' :: pair.2

/-- Strings an OPC UA server can expose, as far as a line can hold them. -/
def Writable (configuration : OpcUaConfiguration) : Prop :=
  ∀ entry ∈ configuration.entries, entry.2 ≠ [] ∧ '\n' ∉ entry.2 ∧ Text.Stripped entry.2

instance (configuration : OpcUaConfiguration) : Decidable configuration.Writable :=
  inferInstanceAs (Decidable (∀ entry ∈ _, _ ∧ _ ∧ _))

/-- The numbers of the lines do not matter for what they bind, nor do the empty ones. -/
theorem numbered_bindings (first : ℕ) (lines : List Text) :
    ((numbered first lines).filterMap fun statement => binding statement.1) =
      lines.filterMap fun line => binding (content line) := by
  induction lines generalizing first with
  | nil => rfl
  | cons line lines ih =>
    rw [numbered_cons, List.filterMap_cons, ← ih (first + 1)]
    by_cases empty : content line = []
    · simp [empty, binding]
    · simp [empty, List.filterMap_cons]

theorem numbered_mem (first : ℕ) (lines : List Text) :
    ∀ statement ∈ numbered first lines, ∃ line ∈ lines, statement.1 = content line := by
  induction lines generalizing first with
  | nil => simp [numbered]
  | cons line lines ih =>
    intro statement member
    rw [numbered_cons] at member
    split_ifs at member with empty
    · obtain ⟨other, inside, same⟩ := ih (first + 1) statement member
      exact ⟨other, by simp [inside], same⟩
    · rcases List.mem_cons.mp member with rfl | later
      · exact ⟨line, by simp, rfl⟩
      · obtain ⟨other, inside, same⟩ := ih (first + 1) statement later
        exact ⟨other, by simp [inside], same⟩

/-- A pair that is read back from the line it is written to. -/
structure Plain (pair : Text × Text) : Prop where
  key_nonempty : pair.1 ≠ []
  value_nonempty : pair.2 ≠ []
  key_stripped : Text.Stripped pair.1
  value_stripped : Text.Stripped pair.2
  key_unseparated : '=' ∉ pair.1
  key_uncommented : '#' ∉ pair.1
  value_uncommented : '#' ∉ pair.2

theorem Plain.content {pair : Text × Text} (plain : Plain pair) :
    content (assignment pair) = assignment pair := by
  have uncommented : '#' ∉ assignment pair := by
    simp [assignment, plain.key_uncommented, plain.value_uncommented]
  rw [OpcUaConfiguration.content, Text.before_of_not_mem uncommented]
  have stripped := plain.key_stripped.append plain.value_stripped plain.key_nonempty
    plain.value_nonempty ['=']
  rwa [List.append_assoc, List.singleton_append] at stripped

theorem Plain.binding {pair : Text × Text} (plain : Plain pair) :
    binding (assignment pair) = some pair := by
  have key := Text.before_append plain.key_unseparated pair.2
  have value := Text.after_append plain.key_unseparated pair.2
  have valid : '=' ∈ assignment pair ∧ pair.1 ≠ [] ∧ pair.2 ≠ [] :=
    ⟨by simp [assignment], plain.key_nonempty, plain.value_nonempty⟩
  rw [OpcUaConfiguration.binding, assignment, key, value]
  rw [plain.key_stripped, plain.value_stripped]
  exact if_pos valid

/-- A text of assignments binds exactly them, in its order. -/
theorem bindings_assignments {text : Text} {pairs : List (Text × Text)}
    (lines : text.lines = pairs.map assignment) (plain : ∀ pair ∈ pairs, Plain pair) :
    WellFormed text ∧ bindings text = pairs := by
  constructor
  · intro statement member
    obtain ⟨line, inside, same⟩ := numbered_mem 1 text.lines statement member
    rw [lines] at inside
    obtain ⟨pair, known, rfl⟩ := List.mem_map.mp inside
    rw [same, (plain pair known).content, (plain pair known).binding]
    simp
  · rw [bindings, statements, numbered_bindings, lines]
    clear lines
    induction pairs with
    | nil => rfl
    | cons pair pairs ih =>
      have here := plain pair (by simp)
      rw [List.map_cons, List.filterMap_cons, here.content, here.binding]
      simp only [ih fun other member => plain other (by simp [member])]

/-- No value that was loaded has a `#` in it. -/
theorem loaded_uncommented {text : Text} {configuration : OpcUaConfiguration}
    (loaded : loadOpcuaConfiguration text = .ok configuration) :
    ∀ entry ∈ configuration.entries, '#' ∉ entry.2 := by
  intro entry member comment
  have wellFormed := wellFormed_of_load loaded
  rw [load_wellFormed wellFormed] at loaded
  have found := ((assemble_ok _ _).mp loaded).1 entry member
  obtain ⟨earlier, later, split, _⟩ := (required_eq _ _ _).mp found
  have inside : (entry.1.toList, entry.2) ∈ bindings text := by simp [split]
  obtain ⟨statement, known, bound⟩ := List.mem_filterMap.mp inside
  obtain ⟨line, _, same⟩ := numbered_mem 1 text.lines statement known
  -- the value is a part of the line before its first `#`
  rw [(binding_value bound).2, same] at comment
  have rest := Text.mem_of_mem_after (Text.mem_of_mem_strip comment)
  exact Text.not_mem_before '#' line (Text.mem_of_mem_strip rest)

/-- The keys themselves cause no trouble. -/
theorem requiredKeys_plain : ∀ key ∈ requiredKeys, key.toList ≠ [] ∧ Text.Stripped key.toList ∧
    '=' ∉ key.toList ∧ '#' ∉ key.toList ∧ '\n' ∉ key.toList := by
  decide +kernel

theorem requiredKeys_distinct : (requiredKeys.map String.toList).Nodup := by
  decide +kernel

theorem written_keys (configuration : OpcUaConfiguration) :
    configuration.written.map Prod.fst = requiredKeys.map String.toList := by
  rw [written, requiredKeys, ← configuration.entries_keys]
  simp

theorem digits_free (n : ℕ) (c : Char) (nondigit : c.isDigit = false) : c ∉ Nat.toDigits 10 n := by
  intro member
  rw [(Text.numeral_toDigits n).2 c member] at nondigit
  cases nondigit

theorem written_plain (configuration : OpcUaConfiguration) (writable : configuration.Writable)
    (uncommented : ∀ entry ∈ configuration.entries, '#' ∉ entry.2) :
    ∀ pair ∈ configuration.written, Plain pair ∧ '\n' ∉ assignment pair := by
  intro pair member
  rcases List.mem_cons.mp member with rfl | member
  · have numeral := Text.numeral_toDigits configuration.nodes.namespaceIndex.toNat
    obtain ⟨nonempty, stripped, separated, comment, feed⟩ :=
      requiredKeys_plain "namespace" (by simp [requiredKeys])
    refine ⟨⟨nonempty, numeral.1, stripped, numeral.stripped, separated, comment, ?_⟩, ?_⟩
    · exact digits_free _ '#' (by decide)
    · simp [assignment, digits_free _ '\n' (by decide)]
  · obtain ⟨entry, inside, rfl⟩ := List.mem_map.mp member
    have key : entry.1 ∈ requiredKeys := by
      refine List.mem_cons_of_mem _ ?_
      rw [← configuration.entries_keys]
      exact List.mem_map.mpr ⟨entry, inside, rfl⟩
    obtain ⟨nonempty, stripped, separated, comment, feed⟩ := requiredKeys_plain entry.1 key
    obtain ⟨valueNonempty, valueFeed, valueStripped⟩ := writable entry inside
    refine ⟨⟨nonempty, valueNonempty, stripped, valueStripped, separated, comment,
      uncommented entry inside⟩, ?_⟩
    simp [assignment, feed, valueFeed]

/-- A number that fits is written and read as itself. -/
theorem namespaceIndex_written (values : Values) (index : UInt16)
    (found : required values "namespace" = .ok (Nat.toDigits 10 index.toNat)) :
    namespaceIndex values = .ok index := by
  have small : index.toNat < 65536 := index.toNat_lt
  have fits : index.toNat < UInt64.size := by
    change _ < 18446744073709551616
    omega
  refine (namespaceIndex_ok _ _).mpr ⟨_, UInt64.ofNat index.toNat, found, ?_, ?_, ?_⟩
  · rw [Text.stoul_numeral (Text.numeral_toDigits _), Text.decimal_toDigits, if_neg (by omega)]
  · rw [UInt64.le_iff_toNat_le, UInt64.toNat_ofNat_of_lt' fits]
    simp
    omega
  · apply UInt16.toNat_inj.mp
    simp

/-- Written in any order, the configuration is read back if its strings have no `#` in
them, and only then. -/
theorem round_trip_iff (configuration : OpcUaConfiguration) (writable : configuration.Writable)
    (order : List (Text × Text)) (arranged : order.Perm configuration.written) :
    loadOpcuaConfiguration ((order.map assignment).flatMap (· ++ ['\n'])) = .ok configuration ↔
      ∀ entry ∈ configuration.entries, '#' ∉ entry.2 := by
  constructor
  · exact loaded_uncommented
  · intro uncommented
    have plain := written_plain configuration writable uncommented
    have lines : Text.lines ((order.map assignment).flatMap (· ++ ['\n'])) = order.map assignment := by
      apply Text.lines_flatMap
      intro line member
      obtain ⟨pair, inside, rfl⟩ := List.mem_map.mp member
      exact (plain pair (arranged.subset inside)).2
    obtain ⟨wellFormed, bound⟩ := bindings_assignments lines
      fun pair member => (plain pair (arranged.subset member)).1
    have distinct : (order.map Prod.fst).Nodup := by
      rw [(arranged.map Prod.fst).nodup_iff, written_keys]
      exact requiredKeys_distinct
    generalize (order.map assignment).flatMap (· ++ ['\n']) = text at wellFormed bound ⊢
    -- every written pair is the only binding of its key
    have found : ∀ (key : String) (value : Text), (key.toList, value) ∈ configuration.written →
        required (assign (bindings text)) key = .ok value := by
      intro key value member
      rw [required_eq, ← assign_eq_some, bound]
      exact assign_of_mem distinct (arranged.symm.subset member)
    rw [load_wellFormed wellFormed, assemble_ok]
    constructor
    · intro entry member
      exact found entry.1 entry.2 (List.mem_cons_of_mem _ (List.mem_map.mpr ⟨entry, member, rfl⟩))
    · exact namespaceIndex_written _ _ (found "namespace" _ (List.mem_cons_self ..))

/-- Strings as a Siemens server exposes them, with a `=` in the endpoint. -/
def siemens (controlWord : String) : OpcUaConfiguration :=
  ofValues (fun key => if key = "control_word" then controlWord.toList
    else if key = "endpoint" then "opc.tcp://plc:4840/?a=b".toList
    else "\"DB\".\"Field\"".toList) 3

theorem round_trip_siemens :
    loadOpcuaConfiguration (((siemens "\"DB\".\"Control Word\"").written.map assignment).flatMap
      (· ++ ['\n'])) = .ok (siemens "\"DB\".\"Control Word\"") :=
  (round_trip_iff (siemens "\"DB\".\"Control Word\"") (by decide +kernel) _ (List.Perm.refl _)).mpr
    (by decide +kernel)

/-- A quoted identifier with a `#` comes back cut short. -/
theorem truncated_at_comment :
    ¬∀ configuration : OpcUaConfiguration, configuration.Writable →
      loadOpcuaConfiguration ((configuration.written.map assignment).flatMap (· ++ ['\n'])) =
        .ok configuration := by
  intro survives
  have loaded := survives (siemens "\"DB#1\".\"ControlWord\"") (by decide +kernel)
  exact absurd loaded (by decide +kernel)

end OpcUaConfiguration

end MotionBridge
