import CryoRig.Simulated.Bridge
import CryoRig.Simulated.ControlProgram
import CryoRig.Simulated.CurrentSource
import CryoRig.Simulated.Gate
import CryoRig.Simulated.Lockin
import CryoRig.Simulated.Magnet
import CryoRig.Simulated.Meters

/-!
# Simulated instruments

## Main definitions

* `CryoRig.Simulated.Model`: the instruments that can be simulated, with their names.
* `CryoRig.Simulated.Device`: a simulated instrument in its present state.
* `CryoRig.Simulated.Device.handle`: its answer to a command, and the instrument after it.
-/

namespace CryoRig.Simulated

/-- The instruments that can be simulated. -/
inductive Model where
  | lockin
  | bridge
  | temperatureController
  | magnet
  | gate
  | multimeter
  | resistanceMeter
  | currentSource
  | controlProgram
  deriving DecidableEq, Repr

namespace Model

/-- Every model. -/
def all : List Model :=
  [lockin, bridge, temperatureController, magnet, gate, multimeter, resistanceMeter,
    currentSource, controlProgram]

/-- The name of a model. -/
def name : Model → String
  | lockin => "sr830"
  | bridge => "lakeshore370"
  | temperatureController => "lakeshore335"
  | magnet => "ami430"
  | gate => "yokogawa"
  | multimeter => "keithley2000"
  | resistanceMeter => "keithley6430"
  | currentSource => "keithley6221"
  | controlProgram => "mss"

/-- The model with a given name. -/
def ofName? (s : String) : Option Model := all.find? fun m => m.name == s

end Model

/-- A simulated instrument. -/
inductive Device where
  | lockin (state : Lockin)
  | bridge (state : Bridge)
  | temperatureController
  | magnet (state : Magnet)
  | gate (state : Gate)
  | multimeter
  | resistanceMeter
  | currentSource (state : CurrentSource)
  | controlProgram (state : ControlProgram)

namespace Device

/-- An instrument that was just switched on. -/
def initial : Model → Device
  | .lockin => .lockin .initial
  | .bridge => .bridge .initial
  | .temperatureController => .temperatureController
  | .magnet => .magnet .initial
  | .gate => .gate .initial
  | .multimeter => .multimeter
  | .resistanceMeter => .resistanceMeter
  | .currentSource => .currentSource .initial
  | .controlProgram => .controlProgram .initial

/-- The model of an instrument. -/
def model : Device → Model
  | lockin _ => .lockin
  | bridge _ => .bridge
  | temperatureController => .temperatureController
  | magnet _ => .magnet
  | gate _ => .gate
  | multimeter => .multimeter
  | resistanceMeter => .resistanceMeter
  | currentSource _ => .currentSource
  | controlProgram _ => .controlProgram

/-- Answer a command and put the state back into the instrument. -/
def answerWith {σ : Type} (wrap : σ → Device) (handler : Handler σ) (command : String)
    (state : σ) : Except DeviceFault (Option String) × Device :=
  let (answer, state) := (handler command).run.run state
  (answer, wrap state)

/-- The answer to a command, and the instrument after it. -/
def handle (command : String) : Device → Except DeviceFault (Option String) × Device
  | lockin state => answerWith lockin Lockin.handle command state
  | bridge state => answerWith bridge Bridge.handle command state
  | temperatureController =>
    answerWith (fun _ => temperatureController) Simulated.temperatureController command ()
  | magnet state => answerWith magnet Magnet.handle command state
  | gate state => answerWith gate Gate.handle command state
  | multimeter => answerWith (fun _ => multimeter) Simulated.multimeter command ()
  | resistanceMeter => answerWith (fun _ => resistanceMeter) Simulated.resistanceMeter command ()
  | currentSource state => answerWith currentSource CurrentSource.handle command state
  | controlProgram state => answerWith controlProgram ControlProgram.handle command state

end Device

end CryoRig.Simulated
