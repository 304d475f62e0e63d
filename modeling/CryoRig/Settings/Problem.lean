import CryoRig.Number.Print
import CryoRig.Settings.LogLevel
import CryoRig.Text.Quoted

/-!
# What can be wrong with the settings

Settings may fail to have the right shape, which is a *problem* at some path of keys, or have the
right shape and make no sense, which is an *objection*.

## Main definitions

* `CryoRig.Settings.Found`: a value as it is quoted in a problem.
* `CryoRig.Settings.Problem`: what is wrong with the shape, and where.
* `CryoRig.Settings.Objection`: why well-formed settings are refused.
-/

namespace CryoRig.Settings

/-- A value as it is quoted. -/
inductive Found where
  | flag (value : Bool)
  | unsigned (value : Nat)
  | signed (value : Int)
  | float (value : Float)
  | text (value : String)
  | letter (value : Char)
  | unit
  | sequence
  | map

/-- How a value is quoted. -/
def Found.message : Found → String
  | flag value => s!"bool {value}"
  | unsigned value => s!"unsigned int `{value}`"
  | signed value => s!"signed int `{value}`"
  | float value => "float `" ++ Number.plain value ++ "`"
  | text value => "string " ++ Text.quoted value
  | letter value => "char " ++ Text.quotedLetter value
  | unit => "unit"
  | sequence => "sequence"
  | map => "map"

/-- What can be wrong with the shape of the settings. -/
inductive ProblemKind where
  /-- A key that has to be there is not. -/
  | missingField (name : String)
  /-- A value of the wrong type. -/
  | invalidType (found : Found) (expected : String)
  /-- A value of the right type that is out of range. -/
  | invalidValue (found : Found) (expected : String)
  /-- A sequence with too few or too many items. -/
  | invalidLength (length : Nat) (expected : String)
  /-- A name that is none of those allowed. -/
  | unknownVariant (found : String) (expected : List String)
  /-- The file or a variable cannot be read at all. -/
  | unreadable

/-- Something wrong with the shape of the settings. -/
structure Problem where
  /-- What is wrong. -/
  kind : ProblemKind
  /-- The keys that lead to it. -/
  path : List String

/-- The allowed names, each in quotes. -/
def oneOf (names : List String) : String :=
  match names.map fun n => "`" ++ n ++ "`" with
  | [] => "there are no variants"
  | [a] => a
  | [a, b] => a ++ " or " ++ b
  | many => "one of " ++ ", ".intercalate many

/-- The wording of a problem. -/
def ProblemKind.message : ProblemKind → String
  | missingField name => s!"missing field `{name}`"
  | invalidType found expected => "invalid type: found " ++ found.message ++ ", expected " ++ expected
  | invalidValue found expected => "invalid value " ++ found.message ++ ", expected " ++ expected
  | invalidLength length expected => s!"invalid length {length}, expected {expected}"
  | unknownVariant found expected =>
    "unknown variant: found `" ++ found ++ "`, expected `" ++ oneOf expected ++ "`"
  | unreadable => "TOML parse error"

/-- Why well-formed settings are refused. -/
inductive Objection where
  | badLogLevel (level : String)
  | badLogFormat (format : String)
  | blankSample
  | statusCheckZero
  | overloadThresholdZero
  | fieldStepRateNotPositive (rate : Float)
  | waitPollZero
  | tooManyLockins (count : Nat)
  | duplicateInstrument (id : String)
  | instrumentNotEnabled (id : String)
  /-- Any other objection, in its own words. -/
  | other (text : String)

/-- The wording of an objection. -/
def Objection.message : Objection → String
  | badLogLevel level =>
    "Invalid log_level '" ++ level ++ "'. Must be one of: " ++ LogLevel.listing
  | badLogFormat format =>
    "Invalid log_format '" ++ format ++ "'. Must be one of: " ++ LogFormat.listing
  | blankSample => "Sample name must not be empty"
  | statusCheckZero => "status_check_every must be at least 1"
  | overloadThresholdZero => "overload_threshold must be at least 1"
  | fieldStepRateNotPositive rate =>
    "field_step_rate must be positive, got " ++ Number.plain rate
  | waitPollZero => "wait_poll_secs must be at least 1"
  | tooManyLockins count => s!"At most 4 lock-ins are supported, got {count}"
  | duplicateInstrument id => s!"Duplicate instrument ID: {id}"
  | instrumentNotEnabled id =>
    s!"Facility uses instrument '{id}' which is not defined or not enabled"
  | other text => text

end CryoRig.Settings
