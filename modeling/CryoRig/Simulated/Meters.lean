import CryoRig.Simulated.Handler

/-!
# Simulated meters

Instruments that always show the same readings.

## Main definitions

* `CryoRig.Simulated.temperatureController`: a controller with two inputs.
* `CryoRig.Simulated.multimeter`: a multimeter.
* `CryoRig.Simulated.resistanceMeter`: a source-measure unit.
-/

namespace CryoRig.Simulated

variable {σ : Type}

/-- The answer of a temperature controller. -/
def temperatureController : Handler σ := fun command =>
  match command with
  | "KRDG? A" => reply "+4.2150"
  | "KRDG? B" => reply "+4.1980"
  | _ => throw (.unknownCommand "lakeshore335" command)

/-- The answer of a multimeter. -/
def multimeter : Handler σ := fun command =>
  match command with
  | ":DATA?" => reply "+1.234560E+03"
  | _ => throw (.unknownCommand "keithley2000" command)

/-- The answer of a source-measure unit: voltage, current, resistance, time and status. -/
def resistanceMeter : Handler σ := fun command =>
  match command with
  | ":READ?" => reply "+1.000000E-03,+1.000000E-06,+1.000000E+03,+2.5E+02,+0.0E+00"
  | _ => throw (.unknownCommand "keithley6430" command)

end CryoRig.Simulated
