import CryoRig.Instrument.Bus

/-!
# The resistance bridge

A bridge reads the thermometer that its scanner is on. With autoscan the scanner moves by itself,
so a reading is only worth something together with the channel it was taken on: both are asked for
while the bus is held. Excitation and resistance range of each channel are indices from 1 to 22.

## Main definitions

* `CryoRig.Instrument.Bridge.scanner`: where the scanner is.
* `CryoRig.Instrument.Bridge.readScanned`: a reading of the channel the scanner is on.
* `CryoRig.Instrument.Bridge.stepExcitation`, `stepRange`: the settings of a channel.
* `CryoRig.Instrument.Bridge.setSetpoint`, `setHeater`: the temperature.

## Main results

* `CryoRig.Instrument.Bridge.stepIndex_mem`: a step stays within the indices.
-/

namespace CryoRig.Instrument.Bridge

/-! ## Settings of a channel -/

/-- The highest index of an excitation or a range. -/
def topIndex : Nat := 22

/-- The settings of a channel, one byte each. -/
structure ChannelSettings where
  /-- Whether a voltage or a current excites it. -/
  mode : Nat
  /-- The index of the excitation. -/
  excitation : Nat
  /-- The index of the resistance range. -/
  range : Nat
  /-- Whether the bridge chooses the range itself. -/
  autorange : Nat
  /-- Whether the excitation is switched off. -/
  excitationOff : Nat
  deriving DecidableEq, Repr

/-- The command that sets up a channel. -/
def ChannelSettings.command (s : ChannelSettings) (channel : Nat) : String :=
  "RDGRNG " ++ ",".intercalate
    ([channel, s.mode, s.excitation, s.range, s.autorange, s.excitationOff].map toString)

/-- The settings in a reply. -/
def ChannelSettings.ofValues (id : String) (v : Values) : Except DeviceFault ChannelSettings :=
  match v.rest with
  | [excitation, range, autorange, off] =>
    .ok ⟨Number.toByte v.first, Number.toByte excitation, Number.toByte range,
      Number.toByte autorange, Number.toByte off⟩
  | rest => .error (.wrongCount id "RDGRNG?" 5 (rest.length + 1))

/-- The index one step further, unless the last one is reached. -/
def stepIndex (index : Nat) : Direction → Option Nat
  | .up => if index < topIndex then some (index + 1) else none
  | .down => if 1 < index then some (index - 1) else none

/-- A step from an index within bounds stays within them. -/
theorem stepIndex_mem {index next : Nat} {direction : Direction} (low : 1 ≤ index)
    (high : index ≤ topIndex) (h : stepIndex index direction = some next) :
    1 ≤ next ∧ next ≤ topIndex := by
  cases direction <;> simp only [stepIndex, Option.ite_none_right_eq_some] at h <;>
    obtain ⟨_, h⟩ := h <;> cases h <;> omega

/-- The settings of a channel. -/
def channelSettings (id : String) (channel : Nat) : Driving ChannelSettings := do
  let values ← values id s!"RDGRNG? {channel}"
  settled (ChannelSettings.ofValues id values)

/-- Step one index of the settings of a channel: the new index, or `none` at the limit. The bus is
held throughout, so nothing of the settings is lost. -/
def stepSetting (id : String) (channel : Nat) (direction : Direction)
    (index : ChannelSettings → Nat) (change : ChannelSettings → Nat → ChannelSettings) :
    Driving (Option Nat) := withBus do
  let values ← Held.values id s!"RDGRNG? {channel}"
  let settings ← settled (ChannelSettings.ofValues id values)
  match stepIndex (index settings) direction with
  | none => pure none
  | some next =>
    Held.write id ((change settings next).command channel)
    pure (some next)

/-- Step the excitation of a channel. -/
def stepExcitation (id : String) (channel : Nat) (direction : Direction) : Driving (Option Nat) :=
  stepSetting id channel direction ChannelSettings.excitation
    fun settings next => { settings with excitation := next }

/-- Step the resistance range of a channel. -/
def stepRange (id : String) (channel : Nat) (direction : Direction) : Driving (Option Nat) :=
  stepSetting id channel direction ChannelSettings.range
    fun settings next => { settings with range := next }

/-! ## The scanner -/

/-- The channel and the autoscan flag in a reply. -/
def parseScan (id : String) (v : Values) : Except DeviceFault (Nat × Bool) :=
  match v.rest with
  | [autoscan] => .ok (Number.toByte v.first, autoscan != 0)
  | rest => .error (.wrongCount id "SCAN?" 2 (rest.length + 1))

/-- The channel the scanner is on, and whether autoscan is on. -/
def scanner (id : String) : Driving (Nat × Bool) := do
  let values ← values id "SCAN?"
  settled (parseScan id values)

/-- What is read from a channel. -/
inductive Reading where
  /-- Its temperature. -/
  | kelvin
  /-- Its resistance. -/
  | ohms
  deriving DecidableEq, Repr

/-- The command that reads a channel. -/
def Reading.command (r : Reading) (channel : Nat) : String :=
  match r with
  | kelvin => s!"RDGK? {channel}"
  | ohms => s!"RDGR? {channel}"

/-- The channel the scanner is on, and what `pick` has read for it. The bus is held throughout, so
the scanner does not move in between. -/
def readScanned (id : String) (pick : Nat → Option (Nat × Reading)) :
    Driving (Nat × Option Float) := withBus do
  let values ← Held.values id "SCAN?"
  let (channel, _) ← settled (parseScan id values)
  match pick channel with
  | none => pure (channel, none)
  | some (target, reading) =>
    let values ← Held.values id (reading.command target)
    pure (channel, some values.first)

/-- Put the scanner on a channel. -/
def selectChannel (id : String) (channel : Nat) (autoscan : Bool) : Driving Unit :=
  write id (s!"SCAN {channel}," ++ if autoscan then "1" else "0")

/-- The resistance of a channel, in ohm. -/
def ohms (id : String) (channel : Nat) : Driving Float :=
  number id (Reading.ohms.command channel)

/-! ## The temperature -/

/-- The time the bridge needs between a new ramp and a new setpoint. -/
def settleTime : Duration := .ofMillis 500

/-- Set the temperature to go to, in kelvin, at a rate in kelvin per minute if one is given. -/
def setSetpoint (id : String) (kelvin : Float) (rate : Option Float) : Driving Unit := do
  write id (match rate with
    | some rate => "RAMP 1," ++ Number.plain rate
    | none => "RAMP 0,0")
  sleep settleTime
  write id ("SETP " ++ Number.plain kelvin)

/-- Whether the setpoint is on its way. -/
def ramping (id : String) : Driving Bool := do
  pure ((← number id "RAMPST?") != 0)

/-- Set the power of the heater, in microwatts. -/
def setHeater (id : String) (microwatts : Float) : Driving Unit :=
  write id ("MOUT " ++ Number.plain (microwatts * 1e-6))

end CryoRig.Instrument.Bridge
