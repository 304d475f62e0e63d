import CryoRig.Instrument.Bus

/-!
# Meters

## Main definitions

* `CryoRig.Instrument.TemperatureController.kelvin`: the temperature at an input.
* `CryoRig.Instrument.Multimeter.reading`: the reading of a multimeter.
* `CryoRig.Instrument.ResistanceMeter.ohms`: the resistance a source-measure unit finds.
-/

namespace CryoRig.Instrument

/-- The temperature at an input of a temperature controller, in kelvin. -/
def TemperatureController.kelvin (id : String) (input : Char) : Driving Float :=
  number id (String.ofList ("KRDG? ".toList ++ [input]))

/-- The reading of a multimeter, in ohm. -/
def Multimeter.reading (id : String) : Driving Float := number id ":DATA?"

/-- The resistance a source-measure unit finds, in ohm: the third number of its reply. -/
def ResistanceMeter.ohms (id : String) : Driving Float := do
  let values ← values id ":READ?"
  match values.rest with
  | _ :: ohms :: _ => pure ohms
  | rest => throw (.tooFewFields id ":READ?" (rest.length + 1))

end CryoRig.Instrument
