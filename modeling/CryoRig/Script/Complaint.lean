/-!
# What can be wrong with a script line

A line that is no command is answered with its number, the reason and the usage of the operation it
names.

## Main definitions

* `CryoRig.Script.Operation`: the operations of the script language, with their spelling.
* `CryoRig.Script.Usage`: the usage text shown for an operation, or the list of all of them.
* `CryoRig.Script.Reason`: why a line is refused.
* `CryoRig.Script.Complaint`: reason and usage; `CryoRig.Script.LineFault` adds the line number.

## Main results

* `CryoRig.Script.Operation.ofName?_name`: an operation is found by its spelling.
* `CryoRig.Script.Operation.ofName?_eq_some_iff`: and by nothing else.
-/

namespace CryoRig.Script

/-! ## Operations -/

/-- The operations of the script language. -/
inductive Operation where
  | config | startSimple | startCooldown | startStep | startDidv | stop | wait | waitForField
  | waitForTemperature | waitForProgram | setGateVoltage | setGateCurrent | setGateState
  | setTargetField | setTargetTemperature | setAmplitude | setFrequency | setOffsetAndExpand
  | tcChannel | tcCurrent | setRange
  deriving DecidableEq, Repr

namespace Operation

/-- Every operation, in the order in which they are listed to the user. -/
def all : List Operation :=
  [config, startSimple, startCooldown, startStep, startDidv, stop, wait, waitForField,
    waitForTemperature, waitForProgram, setGateVoltage, setGateCurrent, setGateState,
    setTargetField, setTargetTemperature, setAmplitude, setFrequency, setOffsetAndExpand,
    tcChannel, tcCurrent, setRange]

/-- The spelling of an operation. -/
def name : Operation → String
  | config => "config"
  | startSimple => "start-simple"
  | startCooldown => "start-cooldown"
  | startStep => "start-step"
  | startDidv => "start-didv"
  | stop => "stop"
  | wait => "wait"
  | waitForField => "wait-for-field"
  | waitForTemperature => "wait-for-temperature"
  | waitForProgram => "wait-for-program"
  | setGateVoltage => "set-gate-voltage"
  | setGateCurrent => "set-gate-current"
  | setGateState => "set-gate-state"
  | setTargetField => "set-target-field"
  | setTargetTemperature => "set-target-temperature"
  | setAmplitude => "set-amplitude"
  | setFrequency => "set-frequency"
  | setOffsetAndExpand => "set-offset-and-expand"
  | tcChannel => "tc-channel"
  | tcCurrent => "tc-current"
  | setRange => "set-rng"

/-- The arguments of an operation as they are shown to the user. -/
def arguments : Operation → String
  | config => " <step-relax|step-measure|current-field|current-temperature|autorange> <value>"
  | startSimple => " <NAME>"
  | startCooldown => " <NAME>"
  | startStep => " <NAME> <AMP-R1|AMP-ALL|FREQ|VG|H|HEATER> <FROM>..<TO> <POINTS>*<ZIGZAG>"
  | startDidv => " <NAME> <FROM>..<TO> <POINTS> with delta <DELTA>"
  | wait => " <time> <s|sec|seconds|m|min|minute|minutes|h|hour|hours>"
  | setGateVoltage => " <voltage> <V|mV>"
  | setGateCurrent => " <current> <A|mA>"
  | setGateState => " <0|1>"
  | setTargetField => " <field> <T|Oe> with rate <rate> <T/min|Oe/min>"
  | setTargetTemperature => " <temp> <K|mK> with rate <rate> <K/min|mK/min>"
  | setAmplitude => " <volts>"
  | setFrequency => " <hertz>"
  | setOffsetAndExpand => " <R1|R2|R3|R4> <on|off> <1x|10x|100x>"
  | tcChannel => " <channel>"
  | tcCurrent => " <up|down>"
  | setRange => " <channel> <up|down>"
  | stop | waitForField | waitForTemperature | waitForProgram => ""

/-- The operation with a given spelling. -/
def ofName? (s : String) : Option Operation :=
  all.find? fun o => o.name == s

theorem mem_all (o : Operation) : o ∈ all := by
  cases o <;> simp [all]

theorem name_injective {o p : Operation} (h : o.name = p.name) : o = p := by
  cases o <;> cases p <;> simp_all [name]

/-- A word is read as an operation exactly if it is its spelling. -/
theorem ofName?_eq_some_iff {s : String} {o : Operation} : ofName? s = some o ↔ o.name = s := by
  constructor
  · intro h
    simpa using List.find?_some h
  · rintro rfl
    cases h : ofName? o.name with
    | none => exact absurd (List.find?_eq_none.1 h o (mem_all o)) (by simp)
    | some p => exact congrArg some (name_injective (by simpa using List.find?_some h))

@[simp] theorem ofName?_name (o : Operation) : ofName? o.name = some o :=
  ofName?_eq_some_iff.2 rfl

end Operation

/-! ## Complaints -/

/-- What the user is shown: the usage of one operation, or all operations. -/
inductive Usage where
  /-- The usage of one operation. -/
  | of (operation : Operation)
  /-- The names of all operations. -/
  | list
  deriving DecidableEq, Repr

/-- The usage text. -/
def Usage.text : Usage → String
  | .of o => o.name ++ o.arguments
  | .list => ", ".intercalate (Operation.all.map Operation.name)

/-- Why a line is refused. -/
inductive Reason where
  | expectedNameAndValue
  | notNumber (text : String)
  | negativeRelax
  | negativeMeasure
  | badAutorange
  | unknownSetting (name : String)
  | expectedName
  | expectedArguments (count : Nat)
  | unknownStepParameter (name : String)
  | badRange
  | badPoints
  | pointsTooFew
  | pointsNotPositive
  | deltaNotNumber
  | takesNoArguments
  | expectedTimeAndUnit
  | timeNotNumber
  | timeNegative
  | unknownUnit (unit : String)
  | timeTooLarge
  | expectedValueAndUnit
  | valueNotNumber
  | badGateState
  | fieldNotNumber
  | badFieldUnit
  | rateNotPositive
  | badFieldRateUnit
  | temperatureNotNumber
  | badTemperatureUnit
  | badTemperatureRateUnit
  | noAmplitude
  | noFrequency
  | badLockin
  | badExpand
  | badOffsetState
  | noChannel
  | expectedDirection
  | badDirection (text : String)
  | expectedChannelAndDirection
  | unknownCommand (name : String)
  | relaxMissing
  | measureMissing
  | fieldMissing
  | temperatureMissing
  /-- Any other reason, in its own words. -/
  | other (text : String)
  deriving DecidableEq, Repr

/-- The wording of a reason. -/
def Reason.message : Reason → String
  | expectedNameAndValue => "expected a parameter name and a value"
  | notNumber text => s!"'{text}' is not a number"
  | negativeRelax => "step-relax must not be negative"
  | negativeMeasure => "step-measure must not be negative"
  | badAutorange => "autorange must be on, off, 1 or 0"
  | unknownSetting name => s!"unknown parameter name '{name}'"
  | expectedName => "expected exactly one name"
  | expectedArguments count => s!"expected {count} arguments"
  | unknownStepParameter name => s!"unknown step parameter '{name}'"
  | badRange => "bad <FROM>..<TO>"
  | badPoints => "bad <POINTS>*<ZIGZAG>"
  | pointsTooFew => "POINTS and ZIGZAG must be at least 1"
  | pointsNotPositive => "POINTS must be a positive integer"
  | deltaNotNumber => "DELTA is not a number"
  | takesNoArguments => "takes no arguments"
  | expectedTimeAndUnit => "expected a time and a unit"
  | timeNotNumber => "time is not a number"
  | timeNegative => "time must not be negative"
  | unknownUnit unit => s!"unknown unit '{unit}'"
  | timeTooLarge => "time is too large"
  | expectedValueAndUnit => "expected a value and a unit"
  | valueNotNumber => "value is not a number"
  | badGateState => "state must be 0 or 1"
  | fieldNotNumber => "field is not a number"
  | badFieldUnit => "field unit must be T or Oe"
  | rateNotPositive => "rate must be a positive number"
  | badFieldRateUnit => "rate unit must be T/min or Oe/min"
  | temperatureNotNumber => "temperature is not a number"
  | badTemperatureUnit => "temperature unit must be K or mK"
  | badTemperatureRateUnit => "rate unit must be K/min or mK/min"
  | noAmplitude => "cannot determine amplitude"
  | noFrequency => "cannot determine frequency"
  | badLockin => "lock-in must be R1..R4"
  | badExpand => "expand must be 1x, 10x or 100x"
  | badOffsetState => "state must be on or off"
  | noChannel => "cannot determine channel number"
  | expectedDirection => "expected up or down"
  | badDirection text => s!"expected up or down, got '{text}'"
  | expectedChannelAndDirection => "expected a channel and a direction"
  | unknownCommand name => s!"unknown command '{name}'"
  | relaxMissing => "step-relax not configured"
  | measureMissing => "step-measure not configured"
  | fieldMissing => "current-field not configured"
  | temperatureMissing => "current-temperature not configured"
  | other text => text

/-- Why a line is refused and what it should have looked like. -/
structure Complaint where
  /-- What is wrong. -/
  reason : Reason
  /-- What is shown to help. -/
  usage : Usage
  deriving DecidableEq, Repr

/-- A complaint about a line; lines are counted from one. -/
structure LineFault where
  /-- The number of the line. -/
  line : Nat
  /-- What is wrong with it. -/
  complaint : Complaint
  deriving DecidableEq, Repr

/-- A complaint about a given line. -/
def Complaint.onLine (c : Complaint) (line : Nat) : LineFault := ⟨line, c⟩

/-- The wording of a complaint about a line. -/
def LineFault.message (f : LineFault) : String :=
  "Syntax error on line " ++ toString f.line ++ ": " ++ f.complaint.reason.message ++ ". Usage: " ++
    f.complaint.usage.text

end CryoRig.Script
