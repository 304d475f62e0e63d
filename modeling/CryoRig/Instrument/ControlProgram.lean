import CryoRig.Instrument.Bus

/-!
# The control program

Field and temperature of a cryogen-free system belong to a control program of its own. It is sent
targets and asked for readings and for whether they are stable.

## Main definitions

* `CryoRig.Instrument.ControlProgram.field`, `kelvin`: the readings.
* `CryoRig.Instrument.ControlProgram.setField`, `setKelvin`: the targets.
* `CryoRig.Instrument.ControlProgram.fieldStable`, `kelvinStable`: whether they are reached.
-/

namespace CryoRig.Instrument.ControlProgram

/-- The field at the sample, in tesla. -/
def field (id : String) : Driving Float := number id "READ? BA"

/-- The temperature of the sample, in kelvin. -/
def kelvin (id : String) : Driving Float := number id "READ? TB"

/-- Ramp to a field in tesla, at a rate in tesla per minute. -/
def setField (id : String) (tesla rate : Float) : Driving Unit :=
  write id ("SET B" ++ Number.plain tesla ++ "," ++ Number.plain rate)

/-- Go to a temperature in kelvin, at a rate in kelvin per minute. -/
def setKelvin (id : String) (kelvin rate : Float) : Driving Unit :=
  write id ("SET T" ++ Number.plain kelvin ++ "," ++ Number.plain rate)

/-- Whether a reply says yes, in any case. -/
def isTrue (reply : String) : Bool := (Text.trim reply).toUpper == "TRUE"

/-- Whether the field is stable. -/
def fieldStable (id : String) : Driving Bool := do
  pure (isTrue (← query id "STAB? B"))

/-- Whether the temperature is stable. -/
def kelvinStable (id : String) : Driving Bool := do
  pure (isTrue (← query id "STAB? TB"))

end CryoRig.Instrument.ControlProgram
