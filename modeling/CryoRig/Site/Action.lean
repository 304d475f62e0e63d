import CryoRig.Instrument.Fault
import CryoRig.Process
import CryoRig.Quantity

/-!
# What a site can be asked to do

A site is a cryostat with everything wired to the sample. Scripts and acquisitions know nothing of
its instruments: they ask it for actions, and each action has a result of its own kind.

## Main definitions

* `CryoRig.Action`: everything a site can be asked for, with the type of the result.
* `CryoRig.Action.ability`: what a site without the means for an action says it lacks.
* `CryoRig.Site`: a site over given surroundings.
* `CryoRig.Site.translate`: the same site over other surroundings.
-/

namespace CryoRig

/-- Everything a site can be asked for. -/
inductive Action where
  /-- Read every channel of a layout once. -/
  | readChannels (mode : Mode)
  /-- Read the status byte of a lock-in. -/
  | lockinStatus (index : Nat)
  /-- Go one sensitivity range up. -/
  | rangeUp (index : Nat)
  /-- Get ready for sampling. -/
  | prepare (mode : Mode)
  /-- Set the gate to a voltage. -/
  | setGateVoltage (volts : Float)
  /-- Set the gate to a current. -/
  | setGateCurrent (amps : Float)
  /-- Switch the gate. -/
  | setGateOutput (on : Bool)
  /-- Ramp the magnet. -/
  | setTargetField (tesla rate : Float)
  /-- Ask whether the magnet is ramping. -/
  | magnetRamping
  /-- Ramp the temperature. -/
  | setTargetTemperature (kelvin rate : Float)
  /-- Ask whether the temperature is ramping. -/
  | temperatureRamping
  /-- Set the amplitude of a lock-in. -/
  | setAmplitude (index : Nat) (volts : Float)
  /-- Set the frequency of a lock-in. -/
  | setFrequency (index : Nat) (hertz : Float)
  /-- Offset and expand the output of a lock-in, or switch both off. -/
  | setOffsetExpand (index : Nat) (expand : Option Expand)
  /-- Put the thermometry scanner on a channel. -/
  | selectChannel (channel : Nat) (autoscan : Bool)
  /-- Step the excitation of the channel the scanner is on. -/
  | stepExcitation (direction : Direction)
  /-- Step the resistance range of a channel. -/
  | stepRange (channel : Nat) (direction : Direction)
  /-- Set the power of the heater, in microwatts. -/
  | setHeater (microwatts : Float)
  /-- Start a differential sweep. -/
  | armSweep (plan : DeltaPlan)
  /-- Look how far the differential sweep is. -/
  | sweepStatus
  /-- Fetch the result of the differential sweep. -/
  | fetchTrace
  /-- End the differential sweep. -/
  | abortSweep

namespace Action

/-- What comes of an action that succeeds. -/
def Result : Action → Type
  | readChannels _ => List (Option Float)
  | lockinStatus _ => LockinStatus
  | rangeUp _ | stepExcitation _ | stepRange .. => Option Nat
  | magnetRamping | temperatureRamping => Bool
  | sweepStatus => DeltaStatus
  | fetchTrace => DeltaTrace
  | _ => Unit

/-- What comes of an action. -/
def Outcome (a : Action) : Type := Except DeviceFault a.Result

/-- What a site without the means for an action says it lacks. Reading channels and the checks of
lock-ins are what every site can do. -/
def ability : Action → Option Ability
  | readChannels _ | lockinStatus _ | rangeUp _ => none
  | prepare .autoscan => some .autoscan
  | prepare .differential => some .differentialSweep
  | prepare _ => none
  | setGateVoltage _ => some .gateVoltage
  | setGateCurrent _ => some .gateCurrent
  | setGateOutput _ => some .gateOutput
  | setTargetField .. | magnetRamping => some .fieldControl
  | setTargetTemperature .. | temperatureRamping => some .temperatureControl
  | setAmplitude .. => some .lockinAmplitude
  | setFrequency .. => some .lockinFrequency
  | setOffsetExpand .. => some .offsetAndExpand
  | selectChannel .. => some .scannerSelection
  | stepExcitation _ => some .excitationControl
  | stepRange .. => some .rangeControl
  | setHeater _ => some .heaterControl
  | armSweep _ | sweepStatus | fetchTrace | abortSweep => some .differentialSweep

end Action

/-- A site whose actions are processes over the surroundings `I`. -/
structure Site (I : Interface) where
  /-- Its name. -/
  name : String
  /-- The channels that are read in each mode. -/
  layout : Mode → Layout
  /-- The number of lock-ins. -/
  lockins : Nat
  /-- How an action is carried out. -/
  perform : (a : Action) → Process I a.Outcome

/-- The same site over other surroundings. -/
def Site.translate {I J : Interface} (h : (r : I.Request) → Process J (I.Reply r)) (s : Site I) :
    Site J where
  name := s.name
  layout := s.layout
  lockins := s.lockins
  perform a := (s.perform a).translate h

end CryoRig
