import MotionBridge.Foundation.Double

/-! The command line of the demo program. -/
namespace MotionBridge

open Foundation

structure Options (R : Type) where
  target : R
  maxVelocity : R
  maxAcceleration : R
  duration : R
  frequency : R
  csvFile : String
  fast : Bool
  deriving DecidableEq, Repr

namespace Options

/-- How `parse_options` ends without options: `std::exit(0)`, or a
`std::invalid_argument`. -/
inductive Exit where
  | help
  | invalidArgument (what : String)
  deriving DecidableEq, Repr

variable {R : Type} [Double R]

/-- `Options{}`. -/
def initial : Options R := ⟨1.57, 0.8, 1.5, 5.0, 1000.0, "", false⟩

/-- `strtod` returns a value and how many characters of the text it has read. -/
def parseNumber (strtod : String → R × ℕ) (text option : String) : Except Exit R :=
  let (value, read) := strtod text
  if read = 0 ∨ read ≠ text.length ∨ Double.isfinite value = false then
    .error (.invalidArgument ("Invalid number for " ++ option))
  else .ok value

/-- The assignments at the end of the loop in `parse_options`. -/
def set (options : Options R) (argument : String) (value : R) : Except Exit (Options R) :=
  if argument = "--target" then .ok { options with target := value }
  else if argument = "--max-velocity" then .ok { options with maxVelocity := value }
  else if argument = "--max-acceleration" then .ok { options with maxAcceleration := value }
  else if argument = "--duration" then .ok { options with duration := value }
  else if argument = "--frequency" then .ok { options with frequency := value }
  else .error (.invalidArgument ("Unknown option: " ++ argument))

/-- The check after the loop. -/
def check (options : Options R) : Except Exit (Options R) :=
  if options.maxVelocity ≤ 0 ∨ options.maxAcceleration ≤ 0 ∨ options.duration ≤ 0 ∨
      options.frequency ≤ 0 then
    .error (.invalidArgument "Velocity, acceleration, duration, and frequency must be positive")
  else .ok options

/-- The loop, with the options read so far and the arguments that are left. -/
def parse (strtod : String → R × ℕ) (options : Options R) :
    List String → Except Exit (Options R)
  | [] => options.check
  | argument :: rest =>
    if argument = "--help" then .error .help
    else if argument = "--fast" then parse strtod { options with fast := true } rest
    else match rest with
      | [] => .error (.invalidArgument ("Missing value for " ++ argument))
      | text :: rest =>
        if argument = "--csv" then parse strtod { options with csvFile := text } rest
        -- the number is looked at before the name of the option
        else do
          let value ← parseNumber strtod text argument
          let options ← options.set argument value
          parse strtod options rest

/-- `arguments` are those after the name of the program. -/
def parseOptions (strtod : String → R × ℕ) (arguments : List String) :
    Except Exit (Options R) :=
  parse strtod initial arguments

end Options

end MotionBridge
