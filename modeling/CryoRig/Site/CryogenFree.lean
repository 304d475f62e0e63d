import CryoRig.Instrument.ControlProgram
import CryoRig.Instrument.Gate
import CryoRig.Site.Lockins

/-!
# The cryogen-free system

Field and temperature belong to the control program of the system, which only takes targets and
gives readings.

## Main definitions

* `CryoRig.Site.CryogenFreeWiring`: which instruments are wired to what.
* `CryoRig.Site.cryogenFree`: the site.
-/

namespace CryoRig.Site

open Instrument

/-- Which instruments a cryogen-free system has, by their names on the bus. -/
structure CryogenFreeWiring where
  /-- The lock-ins, in order. -/
  lockins : List String
  /-- The control program. -/
  control : String
  /-- The gate source. -/
  gate : Option String
  deriving DecidableEq, Repr

/-- The process of an action that the site has no means for. -/
def unsupported (site : String) (a : Action) : Driving a.Result :=
  match a.ability with
  | some ability => throw (.unsupported site ability)
  | none => throw (.reported site)

namespace CryogenFreeWiring

/-- The name of the site. -/
def siteName : String := "cfms"

/-- The channels in every mode. -/
def layout : Layout := lockinColumns false ++ [⟨"H", "T"⟩, ⟨"T", "K"⟩]

/-- Every channel, once. -/
def readChannels (w : CryogenFreeWiring) : Driving (List (Option Float)) := do
  let signals ← readLockins w.lockins
  let field ← ControlProgram.field w.control
  let kelvin ← ControlProgram.kelvin w.control
  pure (signals ++ [some field, some kelvin])

/-- Work on the gate source; that there is none is only reported. -/
def onGate (w : CryogenFreeWiring) (work : String → Driving Unit) : Driving Unit :=
  match w.gate with
  | some id => work id
  | none => log .gateMissing

/-- How an action is carried out. -/
def perform (w : CryogenFreeWiring) : (a : Action) → Driving a.Result
  | .readChannels _ => w.readChannels
  | .lockinStatus index => onLockin siteName w.lockins index Lockin.status
  | .rangeUp index => onLockin siteName w.lockins index Lockin.rangeUp
  | .prepare .continuous | .prepare .stepped => (pure () : Driving Unit)
  | .setGateVoltage volts => w.onGate fun id => do let _ ← Gate.setLevel id .voltage volts
  | .setGateCurrent amps => w.onGate fun id => do let _ ← Gate.setLevel id .current amps
  | .setGateOutput on => w.onGate fun id => Gate.setOutput id on
  | .setTargetField tesla rate => ControlProgram.setField w.control tesla rate
  | .magnetRamping => do pure (!(← ControlProgram.fieldStable w.control))
  | .setTargetTemperature kelvin rate => ControlProgram.setKelvin w.control kelvin rate
  | .temperatureRamping => do pure (!(← ControlProgram.kelvinStable w.control))
  | .setAmplitude index volts =>
    onLockin siteName w.lockins index fun id => Lockin.setAmplitude id volts
  | .setFrequency index hertz =>
    onLockin siteName w.lockins index fun id => Lockin.setFrequency id hertz
  | .setOffsetExpand index expand =>
    onLockin siteName w.lockins index fun id => offsetExpand id false expand
  | a => unsupported siteName a

end CryogenFreeWiring

/-- A cryogen-free system. -/
def cryogenFree (w : CryogenFreeWiring) : Site Surroundings where
  name := CryogenFreeWiring.siteName
  layout _ := CryogenFreeWiring.layout
  lockins := w.lockins.length
  perform a := (w.perform a).run

end CryoRig.Site
