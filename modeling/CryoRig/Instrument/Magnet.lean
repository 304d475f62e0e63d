import CryoRig.Instrument.Bus

/-!
# The magnet supply

The supply ramps by itself once it has a rate and a target.

## Main definitions

* `CryoRig.Instrument.MagnetState`: what the supply is doing.
* `CryoRig.Instrument.Magnet.field`, `setTarget`, `state`: the field and the way to it.
-/

namespace CryoRig.Instrument

/-- What a magnet supply is doing. -/
inductive MagnetState where
  | ramping
  | holding
  | paused
  | manual
  | zeroing
  | quench
  | atZero
  | switching
  /-- Something this program has no name for. -/
  | unknown (code : Nat)
  deriving DecidableEq, Repr

namespace MagnetState

/-- The state with a given code. -/
def ofCode : Nat → MagnetState
  | 1 => ramping
  | 2 => holding
  | 3 => paused
  | 4 | 5 => manual
  | 6 => zeroing
  | 7 => quench
  | 8 => atZero
  | 9 | 10 => switching
  | code => unknown code

/-- The name of a state. -/
def name : MagnetState → String
  | ramping => "Ramping"
  | holding => "Holding"
  | paused => "Paused"
  | manual => "Manual"
  | zeroing => "Zeroing"
  | quench => "Quench"
  | atZero => "AtZero"
  | switching => "Switching"
  | unknown code => s!"Unknown({code})"

end MagnetState

namespace Magnet

/-- The field, in tesla. -/
def field (id : String) : Driving Float := number id "FIELD:MAG?"

/-- Ramp to a field in tesla, at a rate in tesla per minute. -/
def setTarget (id : String) (tesla rate : Float) : Driving Unit := withBus do
  Held.write id ("CONFIGURE:RAMP:RATE:FIELD 1," ++ Number.plain rate ++ ",1;")
  Held.write id ("CONFIGURE:FIELD:TARGET " ++ Number.plain tesla ++ ";")

/-- What the supply is doing. -/
def state (id : String) : Driving MagnetState := do
  pure (.ofCode (← whole id "STATE?" Number.byteMax))

end Magnet

end CryoRig.Instrument
