import MotionBridge.Communication.OpcUaConfig
import MotionBridge.Foundation.LastBinding

/-!
# The grammar of a configuration

What a configuration text says, read off its lines: which of them count, which key and
value each of these binds, and that loading the text finds exactly that.
-/
namespace MotionBridge

open Foundation

namespace OpcUaConfiguration

/-- A line without its comment and the white space around the rest. -/
def content (line : Text) : Text := (line.before '#').strip

/-- Key and value of a line, split at its first `=`. -/
def binding (content : Text) : Option (Text × Text) :=
  let key := (content.before '=').strip
  let value := (content.after '=').strip
  if '=' ∈ content ∧ key ≠ [] ∧ value ≠ [] then some (key, value) else none

/-- The lines that are not empty, each with its number; the first one has number `first`. -/
def numbered (first : ℕ) (lines : List Text) : List (Text × ℕ) :=
  ((lines.map content).zipIdx first).filter fun statement => statement.1 ≠ []

def statements (text : Text) : List (Text × ℕ) := numbered 1 text.lines

/-- All that the text binds, in the order of its lines. -/
def bindings (text : Text) : List (Text × Text) :=
  (statements text).filterMap fun statement => binding statement.1

theorem binding_value {content key value : Text} (bound : binding content = some (key, value)) :
    value ≠ [] ∧ value = (content.after '=').strip := by
  simp only [binding] at bound
  split_ifs at bound with valid
  cases bound
  exact ⟨valid.2.2, rfl⟩

theorem readLine_eq (values : Values) (lineNumber : ℕ) (line : Text) :
    readLine values lineNumber line =
      if content line = [] then .ok values
      else match binding (content line) with
        | some (key, value) => .ok (Function.update values key (some value))
        | none => .error (invalidLine lineNumber) := by
  have trimmed : trim (uncomment line) = content line := by
    rw [uncomment_eq, trim_eq, content]
  simp only [readLine, trimmed, trim_eq]
  by_cases empty : content line = []
  · rw [if_pos empty, if_pos empty]
  rw [if_neg empty, if_neg empty]
  cases found : Text.find (content line) '=' with
  | none =>
    have unbound : binding (content line) = none :=
      if_neg fun valid => (Text.find_none _ '=').mp found valid.1
    simp only [unbound]
  | some separator =>
    have separated : '=' ∈ content line := by
      by_contra absent
      rw [(Text.find_none _ '=').mpr absent] at found
      cases found
    obtain ⟨key, value⟩ := Text.find_some found
    simp only [key, value, binding, separated, true_and]
    by_cases valid : ((content line).before '=').strip ≠ [] ∧ ((content line).after '=').strip ≠ []
    · rw [if_neg (not_or.mpr valid), if_pos valid]
    · rw [if_pos (by simpa [or_iff_not_imp_left] using valid), if_neg valid]

/-- The map a list of statements leaves, or the number of the first that binds nothing. -/
def interpret (values : Values) : List (Text × ℕ) → Except Exception Values
  | [] => .ok values
  | (content, number) :: rest =>
    match binding content with
    | some (key, value) => interpret (Function.update values key (some value)) rest
    | none => .error (invalidLine number)

theorem numbered_cons (first : ℕ) (line : Text) (lines : List Text) :
    numbered first (line :: lines) =
      if content line = [] then numbered (first + 1) lines
      else (content line, first) :: numbered (first + 1) lines := by
  simp only [numbered, List.map_cons, List.zipIdx_cons, List.filter_cons]
  by_cases empty : content line = [] <;> simp [empty]

theorem readLines_eq (values : Values) (lineNumber : ℕ) (lines : List Text) :
    readLines values lineNumber lines = interpret values (numbered (lineNumber + 1) lines) := by
  induction lines generalizing values lineNumber with
  | nil => rfl
  | cons line lines ih =>
    rw [readLines, readLine_eq, numbered_cons]
    by_cases empty : content line = []
    · rw [if_pos empty, if_pos empty]
      exact ih values (lineNumber + 1)
    · rw [if_neg empty, if_neg empty, interpret]
      cases bound : binding (content line) with
      | none => rfl
      | some pair => exact ih _ (lineNumber + 1)

theorem interpret_invalid (values : Values) (earlier rest : List (Text × ℕ)) (content : Text)
    (number : ℕ) (bound : ∀ statement ∈ earlier, binding statement.1 ≠ none)
    (unbound : binding content = none) :
    interpret values (earlier ++ (content, number) :: rest) = .error (invalidLine number) := by
  induction earlier generalizing values with
  | nil => simp only [List.nil_append, interpret, unbound]
  | cons statement earlier ih =>
    obtain ⟨pair, here⟩ := Option.ne_none_iff_exists'.mp (bound statement (by simp))
    simp only [List.cons_append, interpret, here]
    exact ih _ fun other member => bound other (by simp [member])

theorem interpret_bound (values : Values) (statements : List (Text × ℕ))
    (bound : ∀ statement ∈ statements, binding statement.1 ≠ none) :
    interpret values statements =
      .ok ((statements.filterMap fun statement => binding statement.1).foldl
        (fun map binding => Function.update map binding.1 (some binding.2)) values) := by
  induction statements generalizing values with
  | nil => rfl
  | cons statement statements ih =>
    obtain ⟨pair, here⟩ := Option.ne_none_iff_exists'.mp (bound statement (by simp))
    simp only [interpret, here, List.filterMap_cons, List.foldl_cons]
    exact ih _ fun other member => bound other (by simp [member])

/-- A map is only ever left by statements that all bind a key. -/
theorem interpret_ok {values result : Values} {statements : List (Text × ℕ)}
    (interpreted : interpret values statements = .ok result) :
    ∀ statement ∈ statements, binding statement.1 ≠ none := by
  induction statements generalizing values with
  | nil => simp
  | cons statement statements ih =>
    rw [interpret] at interpreted
    cases here : binding statement.1 with
    | none =>
      rw [here] at interpreted
      cases interpreted
    | some pair =>
      rw [here] at interpreted
      intro other member
      rcases List.mem_cons.mp member with rfl | later
      · simp [here]
      · exact ih interpreted other later

/-- Every line that counts binds a key. -/
def WellFormed (text : Text) : Prop := ∀ statement ∈ statements text, binding statement.1 ≠ none

instance (text : Text) : Decidable (WellFormed text) :=
  inferInstanceAs (Decidable (∀ statement ∈ _, _ ≠ _))

theorem load_wellFormed {text : Text} (wellFormed : WellFormed text) :
    loadOpcuaConfiguration text = assemble (assign (bindings text)) := by
  rw [loadOpcuaConfiguration, readLines_eq]
  change (interpret _ (statements text) >>= assemble) = _
  rw [interpret_bound _ _ wellFormed]
  rfl

theorem wellFormed_of_load {text : Text} {configuration : OpcUaConfiguration}
    (loaded : loadOpcuaConfiguration text = .ok configuration) : WellFormed text := by
  rw [loadOpcuaConfiguration, readLines_eq] at loaded
  cases result : interpret (fun _ => none) (numbered (0 + 1) text.lines) with
  | error error =>
    rw [result] at loaded
    cases loaded
  | ok values => exact interpret_ok result

theorem bindings_value {text key value : Text} (member : (key, value) ∈ bindings text) :
    value ≠ [] ∧ Text.Stripped value := by
  obtain ⟨statement, _, bound⟩ := List.mem_filterMap.mp member
  obtain ⟨nonempty, rfl⟩ := binding_value bound
  exact ⟨nonempty, Text.stripped_strip _⟩

/-- A required key is found when some line binds it, with the value of the last such line. -/
theorem required_eq (text : Text) (key : String) (value : Text) :
    required (assign (bindings text)) key = .ok value ↔
      LastBinds (bindings text) key.toList value := by
  rw [← assign_eq_some]
  unfold required
  cases found : assign (bindings text) key.toList with
  | none => simp
  | some value' =>
    have nonempty : value' ≠ [] := by
      obtain ⟨earlier, later, split, _⟩ := (assign_eq_some _ _ _).mp found
      have member : (key.toList, value') ∈ bindings text := by simp [split]
      exact (bindings_value member).1
    simp [nonempty]

/-- The keys whose values are taken over as they are, with the fields they go to. -/
def entries (configuration : OpcUaConfiguration) : List (String × Text) :=
  let nodes := configuration.nodes
  [("endpoint", configuration.endpoint), ("control_word", nodes.controlWord),
    ("target_position", nodes.targetPosition), ("max_velocity", nodes.maxVelocity),
    ("max_acceleration", nodes.maxAcceleration), ("plc_heartbeat", nodes.plcHeartbeat),
    ("status_word", nodes.statusWord), ("actual_position", nodes.actualPosition),
    ("actual_velocity", nodes.actualVelocity), ("following_error", nodes.followingError),
    ("fault_code", nodes.faultCode), ("controller_heartbeat", nodes.controllerHeartbeat)]

theorem bind_ok {E A B : Type} (action : Except E A) (next : A → Except E B) (result : B) :
    (action >>= next) = .ok result ↔ ∃ value, action = .ok value ∧ next value = .ok result := by
  cases action with
  | error error => simp [bind, Except.bind]
  | ok value => simp [bind, Except.bind]

theorem namespaceIndex_ok (values : Values) (index : UInt16) :
    namespaceIndex values = .ok index ↔
      ∃ text value, required values "namespace" = .ok text ∧ Text.stoul text = .ok value ∧
        value ≤ 65535 ∧ index = value.toUInt16 := by
  simp only [namespaceIndex, bind_ok]
  constructor
  · rintro ⟨text, found, value, converted, checked⟩
    have converted : Text.stoul text = .ok value := by
      cases result : Text.stoul text with
      | error error =>
        rw [result] at converted
        cases converted
      | ok other =>
        rw [result] at converted
        cases converted
        rfl
    by_cases large : value > 65535
    · rw [if_pos large] at checked
      cases checked
    · rw [if_neg large] at checked
      cases checked
      exact ⟨text, value, found, converted, UInt64.not_lt.mp large, rfl⟩
  · rintro ⟨text, value, found, converted, small, rfl⟩
    refine ⟨text, found, value, ?_, ?_⟩
    · rw [converted]
      rfl
    · rw [if_neg (UInt64.not_lt.mpr small)]
      rfl

theorem assemble_ok (values : Values) (configuration : OpcUaConfiguration) :
    assemble values = .ok configuration ↔
      (∀ entry ∈ configuration.entries, required values entry.1 = .ok entry.2) ∧
        namespaceIndex values = .ok configuration.nodes.namespaceIndex := by
  simp only [assemble, bind_ok, entries, List.forall_mem_cons]
  constructor
  · rintro ⟨endpoint, e0, index, e1, controlWord, e2, targetPosition, e3, maxVelocity, e4,
      maxAcceleration, e5, plcHeartbeat, e6, statusWord, e7, actualPosition, e8, actualVelocity, e9,
      followingError, e10, faultCode, e11, controllerHeartbeat, e12, result⟩
    cases result
    simp [e0, e1, e2, e3, e4, e5, e6, e7, e8, e9, e10, e11, e12]
  · rintro ⟨⟨e0, e2, e3, e4, e5, e6, e7, e8, e9, e10, e11, e12, _⟩, e1⟩
    exact ⟨_, e0, _, e1, _, e2, _, e3, _, e4, _, e5, _, e6, _, e7, _, e8, _, e9, _, e10, _, e11,
      _, e12, rfl⟩

/-- The keys of the values that are taken over as they are. -/
def textKeys : List String :=
  ["endpoint", "control_word", "target_position", "max_velocity", "max_acceleration",
    "plc_heartbeat", "status_word", "actual_position", "actual_velocity", "following_error",
    "fault_code", "controller_heartbeat"]

def requiredKeys : List String := "namespace" :: textKeys

/-- The configuration with given values under these keys. -/
def ofValues (value : String → Text) (index : UInt16) : OpcUaConfiguration where
  endpoint := value "endpoint"
  nodes :=
    { namespaceIndex := index
      controlWord := value "control_word"
      targetPosition := value "target_position"
      maxVelocity := value "max_velocity"
      maxAcceleration := value "max_acceleration"
      plcHeartbeat := value "plc_heartbeat"
      statusWord := value "status_word"
      actualPosition := value "actual_position"
      actualVelocity := value "actual_velocity"
      followingError := value "following_error"
      faultCode := value "fault_code"
      controllerHeartbeat := value "controller_heartbeat" }

theorem entries_ofValues (value : String → Text) (index : UInt16) :
    (ofValues value index).entries = textKeys.map fun key => (key, value key) := rfl

theorem entries_keys (configuration : OpcUaConfiguration) :
    configuration.entries.map Prod.fst = textKeys := rfl

theorem assemble_succeeds (values : Values) :
    (∃ configuration, assemble values = .ok configuration) ↔
      (∀ key ∈ textKeys, ∃ value, required values key = .ok value) ∧
        ∃ index, namespaceIndex values = .ok index := by
  constructor
  · rintro ⟨configuration, assembled⟩
    obtain ⟨found, index⟩ := (assemble_ok _ _).mp assembled
    refine ⟨?_, _, index⟩
    intro key member
    rw [← configuration.entries_keys] at member
    obtain ⟨entry, inside, rfl⟩ := List.mem_map.mp member
    exact ⟨entry.2, found entry inside⟩
  · rintro ⟨found, index, accepted⟩
    -- one value for each key, whatever it is elsewhere
    let value := fun key => (required values key).toOption.getD []
    refine ⟨ofValues value index, (assemble_ok _ _).mpr ⟨?_, accepted⟩⟩
    rw [entries_ofValues]
    rintro entry member
    obtain ⟨key, inside, rfl⟩ := List.mem_map.mp member
    obtain ⟨here, present⟩ := found key inside
    simp [value, present, Except.toOption]

/-- The first line that counts and binds nothing is reported. Without such a line, and
with a namespace that converts, the text is accepted if and only if each required key is
bound, and the value of a key is that of the last line that binds it. -/
theorem configuration_grammar (text : Text) :
    (∀ earlier content number rest, statements text = earlier ++ (content, number) :: rest →
      (∀ statement ∈ earlier, binding statement.1 ≠ none) → binding content = none →
        loadOpcuaConfiguration text =
          .error (.runtimeError ("Invalid OPC UA configuration line " ++ toString number))) ∧
    (WellFormed text →
      (∀ value, LastBinds (bindings text) "namespace".toList value →
        ∃ index, Text.stoul value = .ok index ∧ index ≤ 65535) →
      ((∃ configuration, loadOpcuaConfiguration text = .ok configuration) ↔
        ∀ key ∈ requiredKeys, ∃ binding ∈ bindings text, binding.1 = key.toList) ∧
      ∀ configuration, loadOpcuaConfiguration text = .ok configuration →
        ∀ entry ∈ configuration.entries, LastBinds (bindings text) entry.1.toList entry.2) := by
  have present : ∀ key : String, (∃ value, required (assign (bindings text)) key = .ok value) ↔
      ∃ binding ∈ bindings text, binding.1 = key.toList := by
    intro key
    simp only [required_eq, ← assign_eq_some]
    exact assign_isSome (bindings text) key.toList
  constructor
  · intro earlier content number rest split bound unbound
    rw [loadOpcuaConfiguration, readLines_eq]
    change (interpret _ (statements text) >>= assemble) = _
    rw [split, interpret_invalid _ _ _ _ _ bound unbound]
    rfl
  · intro wellFormed converts
    rw [load_wellFormed wellFormed]
    constructor
    · rw [assemble_succeeds, requiredKeys, List.forall_mem_cons, ← present]
      simp only [← present]
      constructor
      · rintro ⟨texts, index, accepted⟩
        obtain ⟨value, _, found, _⟩ := (namespaceIndex_ok _ _).mp accepted
        exact ⟨⟨value, found⟩, texts⟩
      · rintro ⟨⟨value, found⟩, texts⟩
        obtain ⟨index, converted, small⟩ := converts value ((required_eq _ _ _).mp found)
        exact ⟨texts, _, (namespaceIndex_ok _ _).mpr ⟨value, index, found, converted, small, rfl⟩⟩
    · intro configuration assembled entry member
      exact (required_eq _ _ _).mp (((assemble_ok _ _).mp assembled).1 entry member)

/-- All keys, with a comment, an unknown key, carriage returns, a value that has a `=` of
its own, one key bound twice, and no line feed at the end. -/
def sample : Text :=
  ['\n'].intercalate
    (["# PLC\r", "\r", " namespace = 2 ", "endpoint=opc.tcp://plc?a=b\r", "unknown=x", "control_word=c",
      "target_position=t", "max_velocity=v", "max_acceleration=a", "plc_heartbeat=h", "status_word=s",
      "actual_position=p", "actual_velocity=u", "following_error=e", "fault_code=f", "namespace=3#4",
      "controller_heartbeat=k"].map String.toList)

theorem sample_wellFormed : WellFormed sample := by decide +kernel

theorem sample_complete :
    ∀ key ∈ requiredKeys, ∃ binding ∈ bindings sample, binding.1 = key.toList := by
  decide +kernel

theorem sample_namespace : LastBinds (bindings sample) "namespace".toList "3".toList :=
  (assign_eq_some _ _ _).mp (by decide +kernel)

theorem configuration_grammar_sample :
    loadOpcuaConfiguration "a=1\n\n # note\n=2\nb".toList =
        .error (.runtimeError ("Invalid OPC UA configuration line " ++ toString 4)) ∧
      ∃ configuration, loadOpcuaConfiguration sample = .ok configuration := by
  refine ⟨(configuration_grammar _).1 [("a=1".toList, 1)] "=2".toList 4 [("b".toList, 5)]
    (by decide +kernel) (by decide +kernel) (by decide +kernel), ?_⟩
  refine ((configuration_grammar sample).2 sample_wellFormed ?_).1.mpr sample_complete
  intro value lastBinds
  have same := (assign_eq_some _ _ _).mpr lastBinds
  rw [(assign_eq_some _ _ _).mpr sample_namespace] at same
  cases same
  exact ⟨3, by decide +kernel, by decide +kernel⟩

end OpcUaConfiguration

end MotionBridge
