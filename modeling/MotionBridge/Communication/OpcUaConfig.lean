import Mathlib.Logic.Function.Basic
import MotionBridge.Foundation.Numeral

namespace MotionBridge

open Foundation

structure OpcUaNodeMap where
  namespaceIndex : UInt16
  controlWord : Text
  targetPosition : Text
  maxVelocity : Text
  maxAcceleration : Text
  plcHeartbeat : Text
  statusWord : Text
  actualPosition : Text
  actualVelocity : Text
  followingError : Text
  faultCode : Text
  controllerHeartbeat : Text
  deriving DecidableEq, Repr

structure OpcUaConfiguration where
  endpoint : Text
  nodes : OpcUaNodeMap
  deriving DecidableEq, Repr

namespace OpcUaConfiguration

/-- What loading a configuration can throw. -/
inductive Exception where
  | runtimeError (what : String)
  | stoul (error : NumeralError)
  deriving DecidableEq, Repr

/-- From the first to the last character that is not white space. -/
def trim (value : Text) : Text :=
  let first := value.findIdx fun c => !Text.isspace c
  let last := value.length - value.reverse.findIdx fun c => !Text.isspace c
  if first ≥ last then [] else (value.take last).drop first

/-- The `std::unordered_map` of the source. -/
abbrev Values := Text → Option Text

def required (values : Values) (key : String) : Except Exception Text :=
  match values key.toList with
  | some value =>
    if value = [] then .error (.runtimeError ("Missing OPC UA configuration key: " ++ key))
    else .ok value
  | none => .error (.runtimeError ("Missing OPC UA configuration key: " ++ key))

def invalidLine (lineNumber : ℕ) : Exception :=
  .runtimeError ("Invalid OPC UA configuration line " ++ toString lineNumber)

/-- The block that erases a comment. -/
def uncomment (line : Text) : Text :=
  match Text.find line '#' with
  | some comment => line.take comment
  | none => line

/-- The body of the loop over the lines. -/
def readLine (values : Values) (lineNumber : ℕ) (line : Text) : Except Exception Values :=
  let line := trim (uncomment line)
  if line = [] then .ok values
  else match Text.find line '=' with
    | none => .error (invalidLine lineNumber)
    | some separator =>
      let key := trim (line.take separator)
      let value := trim (line.drop (separator + 1))
      if key = [] ∨ value = [] then .error (invalidLine lineNumber)
      else .ok (Function.update values key (some value))

/-- The loop; `lineNumber` counts the lines read before. -/
def readLines (values : Values) (lineNumber : ℕ) : List Text → Except Exception Values
  | [] => .ok values
  | line :: rest => do
    let values ← readLine values (lineNumber + 1) line
    readLines values (lineNumber + 1) rest

/-- The namespace is checked after the conversion, before the other keys. -/
def namespaceIndex (values : Values) : Except Exception UInt16 := do
  let namespaceText ← required values "namespace"
  let namespaceValue ← (Text.stoul namespaceText).mapError Exception.stoul
  if namespaceValue > 65535 then throw (.runtimeError "OPC UA namespace must fit in UInt16")
  else return namespaceValue.toUInt16

/-- The second half of `load_opcua_configuration`. -/
def assemble (values : Values) : Except Exception OpcUaConfiguration := do
  let endpoint ← required values "endpoint"
  let namespaceIndex ← namespaceIndex values
  let controlWord ← required values "control_word"
  let targetPosition ← required values "target_position"
  let maxVelocity ← required values "max_velocity"
  let maxAcceleration ← required values "max_acceleration"
  let plcHeartbeat ← required values "plc_heartbeat"
  let statusWord ← required values "status_word"
  let actualPosition ← required values "actual_position"
  let actualVelocity ← required values "actual_velocity"
  let followingError ← required values "following_error"
  let faultCode ← required values "fault_code"
  let controllerHeartbeat ← required values "controller_heartbeat"
  return {
    endpoint := endpoint
    nodes := {
      namespaceIndex := namespaceIndex
      controlWord := controlWord
      targetPosition := targetPosition
      maxVelocity := maxVelocity
      maxAcceleration := maxAcceleration
      plcHeartbeat := plcHeartbeat
      statusWord := statusWord
      actualPosition := actualPosition
      actualVelocity := actualVelocity
      followingError := followingError
      faultCode := faultCode
      controllerHeartbeat := controllerHeartbeat } }

def loadOpcuaConfiguration (input : Text) : Except Exception OpcUaConfiguration := do
  let values ← readLines (fun _ => none) 0 (Text.lines input)
  assemble values

/-- `file` is what the stream opened at `path` reads, if it could be opened. -/
def loadOpcuaConfigurationFile (path : String) (file : Option Text) :
    Except Exception OpcUaConfiguration :=
  match file with
  | none => .error (.runtimeError ("Unable to open OPC UA configuration: " ++ path))
  | some input => loadOpcuaConfiguration input

/-- The two searches of `trim` meet exactly when there is only white space. -/
theorem trim_eq (value : Text) : trim value = value.strip := by
  have first : value.findIdx (fun c => !Text.isspace c) = (value.takeWhile Text.isspace).length := by
    rw [List.takeWhile_eq_take_findIdx_not, List.length_take, Nat.min_eq_left List.findIdx_le_length]
  have kept : value.take (value.length - value.reverse.findIdx fun c => !Text.isspace c) =
      value.rdropWhile Text.isspace := by
    rw [List.rdropWhile, List.dropWhile_eq_drop_findIdx_not, List.reverse_drop, List.reverse_reverse,
      List.length_reverse]
  by_cases blank : ∀ c ∈ value, Text.isspace c = true
  · have nothing : value.rdropWhile Text.isspace = [] := List.rdropWhile_eq_nil_iff.mpr blank
    rw [(Text.strip_eq_nil_iff value).mpr blank]
    simp [trim, kept, nothing]
  -- what is dropped in front lies before everything that is kept
  · obtain ⟨c, member, visible⟩ := not_forall₂.mp blank
    have split := List.takeWhile_append_dropWhile (p := Text.isspace) (l := value)
    have inside : c ∈ value.dropWhile Text.isspace := by
      rw [← split] at member
      exact (List.mem_append.mp member).resolve_left fun leading =>
        visible (List.mem_takeWhile_imp leading)
    have shown : value.rdropWhile Text.isspace = value.takeWhile Text.isspace ++ value.strip := by
      conv_lhs => rw [← split]
      exact Text.rdropWhile_append _ _ ⟨c, inside, by simpa using visible⟩
    have nonempty : value.strip ≠ [] := fun empty =>
      visible ((Text.strip_eq_nil_iff value).mp empty c member)
    have apart : value.findIdx (fun c => !Text.isspace c) <
        value.length - value.reverse.findIdx fun c => !Text.isspace c := by
      have longer := congrArg List.length (kept.trans shown)
      rw [List.length_take, List.length_append, Nat.min_eq_left (Nat.sub_le _ _)] at longer
      have positive := List.length_pos_iff.mpr nonempty
      omega
    rw [trim, if_neg (not_le.mpr apart), kept, shown, first, List.drop_left]

theorem uncomment_eq (line : Text) : uncomment line = line.before '#' := by
  unfold uncomment
  cases found : Text.find line '#' with
  | some comment => exact (Text.find_some found).1
  | none => exact (Text.before_of_not_mem ((Text.find_none line '#').mp found)).symm

end OpcUaConfiguration

end MotionBridge
