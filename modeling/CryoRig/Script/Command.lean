import CryoRig.Duration
import CryoRig.Number.Read
import CryoRig.Quantity
import CryoRig.Script.Complaint
import CryoRig.Script.Targets

/-!
# Commands

One line of a script is one command: the name of an operation followed by its arguments. All
quantities are converted to base units, that is seconds, tesla, tesla per minute, kelvin, kelvin
per minute, volts and amperes.

## Main definitions

* `CryoRig.Script.Command`: the commands.
* `CryoRig.Script.Command.read`: the command of an operation and its arguments.
* `CryoRig.Script.Command.parse`: the same for a numbered line.
-/

namespace CryoRig.Script

/-- A setting that holds for the lines that follow. -/
inductive Setting where
  /-- Seconds dropped after each step. -/
  | stepRelax (seconds : Float)
  /-- Seconds averaged after that. -/
  | stepMeasure (seconds : Float)
  /-- The field the magnet is at. -/
  | currentField (tesla : Float)
  /-- The temperature the sample is at. -/
  | currentTemperature (kelvin : Float)
  /-- Whether the range of a lock-in is raised on overload. -/
  | autorange (on : Bool)

/-- What one line asks for. -/
inductive Command where
  /-- Set something for the lines that follow. -/
  | config (setting : Setting)
  /-- Sample every channel. -/
  | startSimple (name : String)
  /-- Sample along the thermometry scanner. -/
  | startCooldown (name : String)
  /-- Sweep a parameter in steps. -/
  | startStep (name : String) (parameter : Parameter) (targets : List Float)
  /-- Have the current source run a differential sweep. -/
  | startDidv (name : String) (plan : DeltaPlan)
  /-- Stop the acquisition. -/
  | stop
  /-- Let time pass. -/
  | wait (seconds : Float)
  /-- Wait until the magnet has settled. -/
  | waitForField
  /-- Wait until the temperature has settled. -/
  | waitForTemperature
  /-- Wait until the acquisition has finished. -/
  | waitForProgram
  /-- Set the gate voltage. -/
  | setGateVoltage (volts : Float)
  /-- Set the gate current. -/
  | setGateCurrent (amps : Float)
  /-- Switch the gate output. -/
  | setGateState (on : Bool)
  /-- Ramp the magnet; the rate is in tesla per minute. -/
  | setTargetField (tesla rate : Float)
  /-- Ramp the temperature; the rate is in kelvin per minute. -/
  | setTargetTemperature (kelvin rate : Float)
  /-- Set the amplitude of the first lock-in. -/
  | setAmplitude (volts : Float)
  /-- Set the frequency of the first lock-in. -/
  | setFrequency (hertz : Float)
  /-- Offset and expand the output of a lock-in, or switch both off. -/
  | setOffsetExpand (lockin : Nat) (expand : Option Expand)
  /-- Put the scanner on a channel. -/
  | tcChannel (channel : Nat)
  /-- Step the excitation of the channel the scanner is on. -/
  | tcCurrent (direction : Direction)
  /-- Step the resistance range of a channel. -/
  | setRange (channel : Nat) (direction : Direction)

/-! ## Arguments -/

/-- The result of reading an argument. -/
abbrev Reading (α : Type) := Except Reason α

/-- A finite number, or `reason`. -/
def finite (text : String) (reason : Reason) : Reading Float :=
  (Number.readFinite? text).elim (.error reason) .ok

/-- A finite number above zero, or `reason`. -/
def positive (text : String) (reason : Reason) : Reading Float := do
  let x ← finite text reason
  if 0 < x then pure x else throw reason

/-- `x`, unless it is negative. -/
def nonNegative (x : Float) (reason : Reason) : Reading Float :=
  if 0 ≤ x then .ok x else .error reason

/-- Cut a text at the first place where `mark` occurs. -/
def splitOnce? (mark : List Char) : List Char → Option (List Char × List Char)
  | [] => if mark.isEmpty then some ([], []) else none
  | c :: cs =>
    if mark.isPrefixOf (c :: cs) then some ([], (c :: cs).drop mark.length)
    else (splitOnce? mark cs).map fun (before, after) => (c :: before, after)

/-- Two finite numbers with two points between them. -/
def readRange (text : String) : Reading (Float × Float) :=
  let ends? := do
    let (first, second) ← splitOnce? "..".toList text.toList
    let start ← Number.readFinite? (String.ofList first)
    let stop ← Number.readFinite? (String.ofList second)
    some (start, stop)
  ends?.elim (.error .badRange) .ok

/-- Two whole numbers with a star between them, both at least one. -/
def readPasses (text : String) : Reading (Nat × Nat) := do
  let counts? := do
    let (first, second) ← splitOnce? ['*'] text.toList
    let points ← Number.readWhole? Number.hugeMax (String.ofList first)
    let zigzag ← Number.readWhole? Number.hugeMax (String.ofList second)
    some (points, zigzag)
  let (points, zigzag) ← counts?.elim (.error .badPoints) Except.ok
  if points = 0 ∨ zigzag = 0 then throw .pointsTooFew
  pure (points, zigzag)

/-- A channel number of one byte. -/
def readChannel (text : String) : Reading Nat :=
  (Number.readWhole? Number.byteMax text).elim (.error .noChannel) .ok

/-- A direction in any case. -/
def readDirection (text : String) : Reading Direction :=
  (Direction.parse text).mapError .badDirection

/-- The place of a lock-in given by its label in any case, counted from zero. -/
def readLockin (text : String) : Reading Nat :=
  let number? := match text.toLower.toList with
    | 'r' :: digits => Number.readWhole? Number.hugeMax (String.ofList digits)
    | _ => none
  match number? with
  | some n => if 1 ≤ n ∧ n ≤ maxLockins then .ok (n - 1) else .error .badLockin
  | none => .error .badLockin

/-- The factor of a unit. -/
def unitFactor (units : List (String × Float)) (unit : String) (reason : Reason) : Reading Float :=
  (units.lookup unit).elim (.error reason) .ok

/-- Units of time, in seconds. -/
def timeUnits : List (String × Float) :=
  [("s", 1), ("sec", 1), ("seconds", 1), ("m", 60), ("min", 60), ("minute", 60), ("minutes", 60),
    ("h", 3600), ("hour", 3600), ("hours", 3600)]

/-- Units of field, in tesla. -/
def fieldUnits : List (String × Float) := [("T", 1), ("Oe", 1e-4)]

/-- Units of field rate, in tesla per minute. -/
def fieldRateUnits : List (String × Float) := [("T/min", 1), ("Oe/min", 1e-4)]

/-- Units of temperature, in kelvin. -/
def temperatureUnits : List (String × Float) := [("K", 1), ("mK", 1e-3)]

/-- Units of temperature rate, in kelvin per minute. -/
def temperatureRateUnits : List (String × Float) := [("K/min", 1), ("mK/min", 1e-3)]

/-! ## Operations -/

/-- The argument of `config`. -/
def readSetting (name value : String) : Reading Setting :=
  let number := finite value (.notNumber value)
  if name = "step-relax" then do
    pure (.stepRelax (← nonNegative (← number) .negativeRelax))
  else if name = "step-measure" then do
    pure (.stepMeasure (← nonNegative (← number) .negativeMeasure))
  else if name = "current-field" then do
    pure (.currentField (← number))
  else if name = "current-temperature" then do
    pure (.currentTemperature (← number))
  else if name = "autorange" then
    let lower := value.toLower
    if lower = "on" ∨ lower = "1" then .ok (.autorange true)
    else if lower = "off" ∨ lower = "0" then .ok (.autorange false)
    else .error .badAutorange
  else .error (.unknownSetting name)

/-- A time and its unit, in seconds. -/
def readWait (amount unit : String) : Reading Float := do
  let amount ← nonNegative (← finite amount .timeNotNumber) .timeNegative
  let seconds := amount * (← unitFactor timeUnits unit (.unknownUnit unit))
  if (Duration.ofSeconds? seconds).isNone then throw .timeTooLarge
  pure seconds

/-- A level of the gate source, in `base` or in thousandths of it. -/
def readLevel (base milli value unit : String) : Reading Float := do
  let value ← finite value .valueNotNumber
  let unit := unit.toLower
  if unit = base then pure value
  else if unit = milli then pure (value * 1e-3)
  else throw (.unknownUnit unit)

/-- The command of an operation with the given arguments. -/
def Command.ofArguments (operation : Operation) (args : List String) : Reading Command :=
  match operation with
  | .config => match args with
    | [name, value] => do pure (.config (← readSetting name value))
    | _ => .error .expectedNameAndValue
  | .startSimple => match args with
    | [name] => .ok (.startSimple name)
    | _ => .error .expectedName
  | .startCooldown => match args with
    | [name] => .ok (.startCooldown name)
    | _ => .error .expectedName
  | .startStep => match args with
    | [name, parameter, range, passes] => do
      let parameter ← (Parameter.parse parameter).mapError .unknownStepParameter
      let (first, last) ← readRange range
      let (points, zigzag) ← readPasses passes
      pure (.startStep name parameter (stepList first last points zigzag))
    | _ => .error (.expectedArguments 4)
  | .startDidv => match args with
    | [name, range, points, "with", "delta", delta] => do
      let (first, last) ← readRange range
      let points ← (Number.readWhole? Number.longMax points).elim (.error .pointsNotPositive) Except.ok
      if points = 0 then throw .pointsNotPositive
      let delta ← finite delta .deltaNotNumber
      pure (.startDidv name ⟨first, last, points, delta⟩)
    | _ => .error (.expectedArguments 6)
  | .stop => if args.isEmpty then .ok .stop else .error .takesNoArguments
  | .wait => match args with
    | [amount, unit] => do pure (.wait (← readWait amount unit))
    | _ => .error .expectedTimeAndUnit
  | .waitForField => if args.isEmpty then .ok .waitForField else .error .takesNoArguments
  | .waitForTemperature =>
    if args.isEmpty then .ok .waitForTemperature else .error .takesNoArguments
  | .waitForProgram => if args.isEmpty then .ok .waitForProgram else .error .takesNoArguments
  | .setGateVoltage => match args with
    | [value, unit] => do pure (.setGateVoltage (← readLevel "v" "mv" value unit))
    | _ => .error .expectedValueAndUnit
  | .setGateCurrent => match args with
    | [value, unit] => do pure (.setGateCurrent (← readLevel "a" "ma" value unit))
    | _ => .error .expectedValueAndUnit
  | .setGateState => match args with
    | ["0"] => .ok (.setGateState false)
    | ["1"] => .ok (.setGateState true)
    | _ => .error .badGateState
  | .setTargetField => match args with
    | [value, unit, "with", "rate", rate, rateUnit] => do
      let tesla := (← finite value .fieldNotNumber) * (← unitFactor fieldUnits unit .badFieldUnit)
      let rate := (← positive rate .rateNotPositive) *
        (← unitFactor fieldRateUnits rateUnit .badFieldRateUnit)
      pure (.setTargetField tesla rate)
    | _ => .error (.expectedArguments 6)
  | .setTargetTemperature => match args with
    | [value, unit, "with", "rate", rate, rateUnit] => do
      let kelvin := (← finite value .temperatureNotNumber) *
        (← unitFactor temperatureUnits unit .badTemperatureUnit)
      let rate := (← positive rate .rateNotPositive) *
        (← unitFactor temperatureRateUnits rateUnit .badTemperatureRateUnit)
      pure (.setTargetTemperature kelvin rate)
    | _ => .error (.expectedArguments 6)
  | .setAmplitude => match args with
    | [value] => do pure (.setAmplitude (← finite value .noAmplitude))
    | _ => .error .noAmplitude
  | .setFrequency => match args with
    | [value] => do pure (.setFrequency (← finite value .noFrequency))
    | _ => .error .noFrequency
  | .setOffsetAndExpand => match args with
    | [lockin, state, expand] => do
      let lockin ← readLockin lockin
      let factor ← (Expand.parse? expand).elim (.error .badExpand) Except.ok
      let state := state.toLower
      if state = "on" then pure (.setOffsetExpand lockin (some factor))
      else if state = "off" then pure (.setOffsetExpand lockin none)
      else throw .badOffsetState
    | _ => .error (.expectedArguments 3)
  | .tcChannel => match args with
    | [channel] => do pure (.tcChannel (← readChannel channel))
    | _ => .error .noChannel
  | .tcCurrent => match args with
    | [direction] => do pure (.tcCurrent (← readDirection direction))
    | _ => .error .expectedDirection
  | .setRange => match args with
    | [channel, direction] => do
      let channel ← readChannel channel
      pure (.setRange channel (← readDirection direction))
    | _ => .error .expectedChannelAndDirection

/-- The command of a line whose first word is `name` and whose other words are `args`. -/
def Command.read (name : String) (args : List String) : Except Complaint Command :=
  match Operation.ofName? name with
  | some operation => (Command.ofArguments operation args).mapError (⟨·, .of operation⟩)
  | none => .error ⟨.unknownCommand name, .list⟩

/-- The command of a numbered line. -/
def Command.parse (line : Nat) (name : String) (args : List String) : Except LineFault Command :=
  (Command.read name args).mapError fun complaint => complaint.onLine line

end CryoRig.Script
