import MotionBridge.Demo.Options
import MotionBridge.Foundation.LastBinding

/-!
# The grammar of the command line

A command line is a list of settings, each of one or two words. It is read from the left
and cannot be cut into settings in two ways, and the last setting of an option counts.
-/
namespace MotionBridge

open Foundation

namespace Options

/-- The options that take a number. -/
inductive Parameter where
  | target
  | maxVelocity
  | maxAcceleration
  | duration
  | frequency
  deriving DecidableEq, Repr

def Parameter.name : Parameter → String
  | target => "--target"
  | maxVelocity => "--max-velocity"
  | maxAcceleration => "--max-acceleration"
  | duration => "--duration"
  | frequency => "--frequency"

inductive Setting where
  | fast
  | csv (path : String)
  | number (parameter : Parameter) (text : String)
  deriving DecidableEq, Repr

def Setting.words : Setting → List String
  | fast => ["--fast"]
  | csv path => ["--csv", path]
  | number parameter text => [parameter.name, text]

variable {R : Type}

/-- The assignment to one of the five members. -/
def put (options : Options R) (parameter : Parameter) (value : R) : Options R :=
  match parameter with
  | .target => { options with target := value }
  | .maxVelocity => { options with maxVelocity := value }
  | .maxAcceleration => { options with maxAcceleration := value }
  | .duration => { options with duration := value }
  | .frequency => { options with frequency := value }

theorem set_name (options : Options R) (parameter : Parameter) (value : R) :
    options.set parameter.name value = .ok (options.put parameter value) := by
  cases parameter <;> rfl

theorem set_unknown (options : Options R) (argument : String) (value : R)
    (unknown : ∀ parameter : Parameter, argument ≠ parameter.name) :
    options.set argument value = .error (.invalidArgument ("Unknown option: " ++ argument)) := by
  have target : argument ≠ "--target" := unknown .target
  have velocity : argument ≠ "--max-velocity" := unknown .maxVelocity
  have acceleration : argument ≠ "--max-acceleration" := unknown .maxAcceleration
  have duration : argument ≠ "--duration" := unknown .duration
  have frequency : argument ≠ "--frequency" := unknown .frequency
  rw [set, if_neg target, if_neg velocity, if_neg acceleration, if_neg duration, if_neg frequency]

variable [Double R]

/-- The whole text is a finite number. -/
def IsNumber (strtod : String → R × ℕ) (text : String) : Prop :=
  (strtod text).2 ≠ 0 ∧ (strtod text).2 = text.length ∧ Double.isfinite (strtod text).1 = true

instance (strtod : String → R × ℕ) (text : String) : Decidable (IsNumber strtod text) :=
  inferInstanceAs (Decidable (_ ∧ _ ∧ _))

def Setting.Valid (strtod : String → R × ℕ) : Setting → Prop
  | number _ text => IsNumber strtod text
  | _ => True

/-- The numbers given, in their order. -/
def numbers (strtod : String → R × ℕ) (settings : List Setting) : List (Parameter × R) :=
  settings.filterMap fun
    | .number parameter text => some (parameter, (strtod text).1)
    | _ => none

def paths (settings : List Setting) : List String :=
  settings.filterMap fun
    | .csv path => some path
    | _ => none

/-- What the settings ask for: the last one of each option, or its default. -/
def described (strtod : String → R × ℕ) (settings : List Setting) : Options R :=
  let value (parameter : Parameter) (default : R) :=
    (assign (numbers strtod settings) parameter).getD default
  { target := value .target 1.57
    maxVelocity := value .maxVelocity 0.8
    maxAcceleration := value .maxAcceleration 1.5
    duration := value .duration 5.0
    frequency := value .frequency 1000.0
    csvFile := (paths settings).getLast?.getD ""
    fast := decide (Setting.fast ∈ settings) }

/-- The limits, the duration and the frequency are above zero. -/
def Positive (options : Options R) : Prop :=
  ¬(options.maxVelocity ≤ 0 ∨ options.maxAcceleration ≤ 0 ∨ options.duration ≤ 0 ∨
    options.frequency ≤ 0)

instance (options : Options R) : Decidable options.Positive := inferInstanceAs (Decidable (¬_))

/-- Where reading stops, after these settings and before these arguments. -/
inductive Stops (strtod : String → R × ℕ) (settings : List Setting) :
    List String → Except Exit (Options R) → Prop
  | complete : (described strtod settings).Positive →
      Stops strtod settings [] (.ok (described strtod settings))
  | negative : ¬(described strtod settings).Positive →
      Stops strtod settings [] (.error (.invalidArgument
        "Velocity, acceleration, duration, and frequency must be positive"))
  | help (rest : List String) : Stops strtod settings ("--help" :: rest) (.error .help)
  | missing (argument : String) : argument ≠ "--help" → argument ≠ "--fast" →
      Stops strtod settings [argument]
        (.error (.invalidArgument ("Missing value for " ++ argument)))
  | malformed (argument text : String) (rest : List String) : argument ≠ "--help" →
      argument ≠ "--fast" → argument ≠ "--csv" → ¬IsNumber strtod text →
      Stops strtod settings (argument :: text :: rest)
        (.error (.invalidArgument ("Invalid number for " ++ argument)))
  | unknown (argument text : String) (rest : List String) : argument ≠ "--help" →
      argument ≠ "--fast" → argument ≠ "--csv" → IsNumber strtod text →
      (∀ parameter : Parameter, argument ≠ parameter.name) →
      Stops strtod settings (argument :: text :: rest)
        (.error (.invalidArgument ("Unknown option: " ++ argument)))

theorem parseNumber_eq (strtod : String → R × ℕ) (text option : String) :
    parseNumber strtod text option = if IsNumber strtod text then .ok (strtod text).1
      else .error (.invalidArgument ("Invalid number for " ++ option)) := by
  by_cases number : IsNumber strtod text
  · obtain ⟨some, all, finite⟩ := number
    simp [parseNumber, IsNumber, all ▸ some, all, finite]
  · rw [if_neg number, parseNumber]
    simp only [IsNumber, not_and] at number
    change (if (strtod text).2 = 0 ∨ (strtod text).2 ≠ text.length ∨
      Double.isfinite (strtod text).1 = false then _ else _) = _
    split_ifs with invalid
    · rfl
    · simp only [not_or, not_not, Bool.not_eq_false] at invalid
      exact absurd invalid.2.2 (number invalid.1 invalid.2.1)

/-- A setting takes effect when it is read. -/
def apply (strtod : String → R × ℕ) (options : Options R) : Setting → Options R
  | .fast => { options with fast := true }
  | .csv path => { options with csvFile := path }
  | .number parameter text => options.put parameter (strtod text).1

theorem described_snoc (strtod : String → R × ℕ) (settings : List Setting) (setting : Setting) :
    described strtod (settings ++ [setting]) = (described strtod settings).apply strtod setting := by
  cases setting with
  | fast => simp [described, apply, numbers, paths]
  | csv path => simp [described, apply, numbers, paths]
  | number parameter text =>
    have more : numbers strtod (settings ++ [.number parameter text]) =
        numbers strtod settings ++ [(parameter, (strtod text).1)] := by
      simp [numbers]
    have same : paths (settings ++ [.number parameter text]) = paths settings := by
      simp [paths]
    simp only [described, apply, more, same, assign_snoc]
    -- the new value is found under its own parameter only
    cases parameter <;> simp [put, Function.update]

theorem parse_help (strtod : String → R × ℕ) (options : Options R) (rest : List String) :
    parse strtod options ("--help" :: rest) = .error .help := by
  cases rest <;> simp [parse]

theorem parse_fast (strtod : String → R × ℕ) (options : Options R) (rest : List String) :
    parse strtod options ("--fast" :: rest) = parse strtod { options with fast := true } rest := by
  cases rest <;> simp [parse]

/-- Valid settings are read one after the other. -/
theorem parse_words (strtod : String → R × ℕ) (options : Options R) (settings : List Setting)
    (rest : List String) (valid : ∀ setting ∈ settings, setting.Valid strtod) :
    parse strtod options (settings.flatMap Setting.words ++ rest) =
      parse strtod (settings.foldl (apply strtod) options) rest := by
  induction settings generalizing options with
  | nil => rfl
  | cons setting settings ih =>
    have later := ih (options.apply strtod setting)
      fun other member => valid other (List.mem_cons_of_mem _ member)
    rw [List.foldl_cons, ← later]
    cases setting with
    | fast => exact parse_fast strtod options _
    | csv path => simp [Setting.words, parse, apply]
    | number parameter text =>
      have number : IsNumber strtod text := valid _ (List.mem_cons_self ..)
      have named : parameter.name ≠ "--help" ∧ parameter.name ≠ "--fast" ∧
          parameter.name ≠ "--csv" := by
        cases parameter <;> decide
      simp only [List.flatMap_cons, Setting.words, List.cons_append, List.nil_append, parse,
        if_neg named.1, if_neg named.2.1, if_neg named.2.2, parseNumber_eq, if_pos number,
        set_name]
      rfl

theorem foldl_apply (strtod : String → R × ℕ) (settings : List Setting) :
    settings.foldl (apply strtod) initial = described strtod settings := by
  induction settings using List.reverseRecOn with
  | nil => rfl
  | append_singleton settings setting ih => rw [List.foldl_append, ih, described_snoc]; rfl

/-- Reading on from where it stops ends at once. -/
theorem parse_stops {strtod : String → R × ℕ} {settings : List Setting} {rest : List String}
    {outcome : Except Exit (Options R)} (stops : Stops strtod settings rest outcome) :
    parse strtod (described strtod settings) rest = outcome := by
  cases stops with
  | complete positive => exact if_neg positive
  | negative nonpositive => exact if_pos (not_not.mp nonpositive)
  | help rest => exact parse_help strtod _ rest
  | missing argument helpless slow => simp only [parse, if_neg helpless, if_neg slow]
  | malformed argument text rest helpless slow fileless invalid =>
    simp only [parse, if_neg helpless, if_neg slow, if_neg fileless, parseNumber_eq, if_neg invalid]
    rfl
  | unknown argument text rest helpless slow fileless number unknown =>
    simp only [parse, if_neg helpless, if_neg slow, if_neg fileless, parseNumber_eq, if_pos number]
    change (set _ argument _ >>= _) = _
    rw [set_unknown _ _ _ unknown]
    rfl

/-- The line can be cut into valid settings and a rest where reading stops. -/
def Readable (strtod : String → R × ℕ) (earlier : List Setting) (arguments : List String) : Prop :=
  ∃ settings rest outcome, arguments = settings.flatMap Setting.words ++ rest ∧
    (∀ setting ∈ settings, setting.Valid strtod) ∧ Stops strtod (earlier ++ settings) rest outcome

theorem readable_words {strtod : String → R × ℕ} {earlier : List Setting} (setting : Setting)
    {rest : List String} (valid : setting.Valid strtod)
    (readable : Readable strtod (earlier ++ [setting]) rest) :
    Readable strtod earlier (setting.words ++ rest) := by
  obtain ⟨settings, rest', outcome, rfl, later, stops⟩ := readable
  refine ⟨setting :: settings, rest', outcome, by simp, ?_, by simpa using stops⟩
  exact List.forall_mem_cons.mpr ⟨valid, later⟩

theorem readable_stops {strtod : String → R × ℕ} {earlier : List Setting}
    {arguments : List String} {outcome : Except Exit (Options R)}
    (stops : Stops strtod earlier arguments outcome) : Readable strtod earlier arguments :=
  ⟨[], arguments, outcome, rfl, nofun, by simpa using stops⟩

theorem readable (strtod : String → R × ℕ) (earlier : List Setting) (arguments : List String) :
    Readable strtod earlier arguments := by
  -- by the number of arguments, since a setting takes up to two of them
  induction bound : arguments.length using Nat.strong_induction_on generalizing earlier arguments with
  | _ bound' ih =>
    have later : ∀ setting (rest : List String), rest.length < arguments.length →
        Readable strtod (earlier ++ [setting]) rest :=
      fun setting rest shorter => ih _ (bound ▸ shorter) (earlier ++ [setting]) rest rfl
    cases arguments with
    | nil =>
      by_cases positive : (described strtod earlier).Positive
      · exact readable_stops (.complete positive)
      · exact readable_stops (.negative positive)
    | cons argument rest =>
      by_cases help : argument = "--help"
      · subst help
        exact readable_stops (.help rest)
      by_cases fast : argument = "--fast"
      · subst fast
        exact readable_words .fast trivial (later .fast rest (by simp))
      cases rest with
      | nil => exact readable_stops (.missing argument help fast)
      | cons text rest =>
        by_cases csv : argument = "--csv"
        · subst csv
          exact readable_words (.csv text) trivial (later (.csv text) rest (by simp))
        by_cases number : IsNumber strtod text
        · by_cases known : ∃ parameter : Parameter, argument = parameter.name
          · obtain ⟨parameter, rfl⟩ := known
            exact readable_words (.number parameter text) number
              (later (.number parameter text) rest (by simp))
          · exact readable_stops (.unknown argument text rest help fast csv number
              fun parameter named => known ⟨parameter, named⟩)
        · exact readable_stops (.malformed argument text rest help fast csv number)

/-- `parse_options` returns the options described by settings that make up the whole line,
and otherwise fails at the first argument that is none, naming it. `--help` ends it, too,
but only where a setting could begin. -/
theorem parse_options_reads (strtod : String → R × ℕ) (arguments : List String)
    (outcome : Except Exit (Options R)) :
    parseOptions strtod arguments = outcome ↔
      ∃ settings rest, arguments = settings.flatMap Setting.words ++ rest ∧
        (∀ setting ∈ settings, setting.Valid strtod) ∧ Stops strtod settings rest outcome := by
  have reads : ∀ {settings rest} {outcome : Except Exit (Options R)},
      (∀ setting ∈ settings, setting.Valid strtod) → Stops strtod settings rest outcome →
        parseOptions strtod (settings.flatMap Setting.words ++ rest) = outcome := by
    intro settings rest outcome valid stops
    rw [parseOptions, parse_words _ _ _ _ valid, foldl_apply, parse_stops stops]
  constructor
  · rintro rfl
    obtain ⟨settings, rest, outcome, split, valid, stops⟩ := readable strtod [] arguments
    refine ⟨settings, rest, split, valid, ?_⟩
    rwa [split, reads valid stops]
  · rintro ⟨settings, rest, rfl, valid, stops⟩
    exact reads valid stops

end Options

end MotionBridge
