import CryoRig.Instrument.Bridge
import CryoRig.Instrument.CurrentSource
import CryoRig.Instrument.Gate
import CryoRig.Instrument.Magnet
import CryoRig.Instrument.Meters
import CryoRig.Site.Lockins

/-!
# The dilution refrigerator

Its thermometers hang on a bridge whose scanner visits one channel at a time. Sampling along the
scanner gives each thermometer a column of its own and fills the one the scanner is on. All other
sampling reads only the channel the scanner is parked on: the mixing chamber or one of the two
plain resistances.

## Main definitions

* `CryoRig.Site.RefrigeratorWiring`: which instruments are wired to what.
* `CryoRig.Site.scanColumns`, `parkedColumns`: the readings of the bridge by column.
* `CryoRig.Site.refrigerator`: the site.

## Main results

* `CryoRig.Site.length_scanColumns`, `length_parkedColumns`: as many readings as columns.
-/

namespace CryoRig.Site

open Instrument

/-- Which instruments a dilution refrigerator has, by their names on the bus. -/
structure RefrigeratorWiring where
  /-- The lock-ins, in order. -/
  lockins : List String
  /-- The magnet supply. -/
  magnet : Option String
  /-- The resistance bridge. -/
  bridge : String
  /-- The gate source. -/
  gate : Option String
  /-- The source-measure unit. -/
  resistanceMeter : Option String
  /-- The current source for differential sweeps. -/
  currentSource : Option String
  /-- Whether the Hall sensor is read. -/
  measureHall : Bool
  /-- Whether the thermometer of another flange stands for that of the mixing chamber. -/
  ptFlange : Bool
  /-- Whether the first lock-in measures a current. -/
  firstMeasuresCurrent : Bool
  deriving DecidableEq, Repr

/-- The bridge channel of the mixing chamber. -/
def mixingChamber : Nat := 6

/-- The bridge channel that is read instead if `ptFlange` is set. -/
def ptFlangeChannel : Nat := 2

/-- The bridge channel of the Hall sensor. -/
def hallChannel : Nat := 8

/-- The bridge channels in the order of their columns. -/
def scanOrder : List Nat := [1, 2, 3, 5, 6, 7, 8]

/-- What is read from each channel along the scanner. -/
def scanReading (channel : Nat) : Option (Nat × Bridge.Reading) :=
  if channel ∈ [1, 2, 3, 5, 6] then some (channel, .kelvin)
  else if channel = 7 ∨ channel = 8 then some (channel, .ohms)
  else none

/-- The columns along the scanner: the reading stands in the one of its channel. -/
def scanColumns (channel : Nat) (reading : Option Float) : List (Option Float) :=
  scanOrder.map fun c => if c = channel then reading else none

@[simp] theorem length_scanColumns (channel : Nat) (reading : Option Float) :
    (scanColumns channel reading).length = 7 := rfl

/-- What is read from the channel the scanner is parked on. -/
def parkedReading (ptFlange : Bool) (channel : Nat) : Option (Nat × Bridge.Reading) :=
  if channel = mixingChamber then
    some (if ptFlange then ptFlangeChannel else mixingChamber, .kelvin)
  else if channel = 7 ∨ channel = 8 then some (channel, .ohms)
  else none

/-- The columns of the parked scanner: mixing chamber and the two resistances. -/
def parkedColumns (channel : Nat) (reading : Option Float) : List (Option Float) :=
  [mixingChamber, 7, 8].map fun c => if c = channel then reading else none

@[simp] theorem length_parkedColumns (channel : Nat) (reading : Option Float) :
    (parkedColumns channel reading).length = 3 := rfl

namespace RefrigeratorWiring

/-- The name of the site. -/
def siteName : String := "bluefors"

/-- The channels in each mode. -/
def layout (w : RefrigeratorWiring) (mode : Mode) : Layout :=
  lockinColumns w.firstMeasuresCurrent ++ [⟨"H", "T"⟩, ⟨"Hall", "Ohm"⟩] ++
    match mode with
    | .autoscan =>
      [⟨"T1", "K"⟩, ⟨"T2", "K"⟩, ⟨"T3", "K"⟩, ⟨"T5", "K"⟩, ⟨"T6", "K"⟩, ⟨"T7", "Ohm"⟩,
        ⟨"T8", "Ohm"⟩]
    | _ => [⟨"T", "K"⟩, ⟨"T7", "Ohm"⟩, ⟨"T8", "Ohm"⟩, ⟨"RK", "Ohm"⟩]

/-- A reading of an instrument that may not be there. -/
def reading (instrument : Option String) (read : String → Driving Float) :
    Driving (Option Float) :=
  match instrument with
  | some id => do pure (some (← read id))
  | none => pure none

/-- The channels that are read in every mode. -/
def readCommon (w : RefrigeratorWiring) : Driving (List (Option Float)) := do
  let signals ← readLockins w.lockins
  let field ← reading w.magnet Magnet.field
  let hall ← reading (if w.measureHall then some w.bridge else none) fun id =>
    Bridge.ohms id hallChannel
  pure (signals ++ [field, hall])

/-- The thermometer the scanner is on. A channel without a thermometer is reported. -/
def readScan (w : RefrigeratorWiring) : Driving (List (Option Float)) := do
  let (channel, reading) ← Bridge.readScanned w.bridge scanReading
  if channel ∉ scanOrder then log (.unknownScannerChannel channel)
  pure (scanColumns channel reading)

/-- The channel the scanner is parked on, and the resistance meter. -/
def readParked (w : RefrigeratorWiring) : Driving (List (Option Float)) := do
  let (channel, parked) ← Bridge.readScanned w.bridge (parkedReading w.ptFlange)
  let meter ← reading w.resistanceMeter ResistanceMeter.ohms
  pure (parkedColumns channel parked ++ [meter])

/-- Every channel, once. -/
def readChannels (w : RefrigeratorWiring) (mode : Mode) : Driving (List (Option Float)) := do
  let common ← w.readCommon
  let thermometry ← if mode = .autoscan then w.readScan else w.readParked
  pure (common ++ thermometry)

/-- Work on the gate source; that there is none is only reported. -/
def onGate (w : RefrigeratorWiring) (work : String → Driving Unit) : Driving Unit :=
  match w.gate with
  | some id => work id
  | none => log .gateMissing

/-- Work on the magnet supply. -/
def onMagnet {α : Type} (w : RefrigeratorWiring) (work : String → Driving α) : Driving α :=
  match w.magnet with
  | some id => work id
  | none => throw (.noMagnet siteName)

/-- Work on the current source. -/
def onCurrentSource {α : Type} (w : RefrigeratorWiring) (work : String → Driving α) : Driving α :=
  match w.currentSource with
  | some id => work id
  | none => throw (.noCurrentSource siteName)

/-- How an action is carried out. -/
def perform (w : RefrigeratorWiring) : (a : Action) → Driving a.Result
  | .readChannels mode => w.readChannels mode
  | .lockinStatus index => onLockin siteName w.lockins index Lockin.status
  | .rangeUp index => onLockin siteName w.lockins index Lockin.rangeUp
  | .prepare .autoscan => Bridge.selectChannel w.bridge 1 true
  | .prepare .differential => w.onCurrentSource fun _ => pure ()
  | .prepare .continuous | .prepare .stepped => (pure () : Driving Unit)
  | .setGateVoltage volts => w.onGate fun id => do let _ ← Gate.setLevel id .voltage volts
  | .setGateCurrent amps => w.onGate fun id => do let _ ← Gate.setLevel id .current amps
  | .setGateOutput on => w.onGate fun id => Gate.setOutput id on
  | .setTargetField tesla rate => w.onMagnet fun id => Magnet.setTarget id tesla rate
  | .magnetRamping => w.onMagnet fun id => do pure ((← Magnet.state id) == .ramping)
  | .setTargetTemperature kelvin rate => Bridge.setSetpoint w.bridge kelvin (some rate)
  | .temperatureRamping => Bridge.ramping w.bridge
  | .setAmplitude index volts =>
    onLockin siteName w.lockins index fun id => Lockin.setAmplitude id volts
  | .setFrequency index hertz =>
    onLockin siteName w.lockins index fun id => Lockin.setFrequency id hertz
  | .setOffsetExpand index expand =>
    onLockin siteName w.lockins index fun id => offsetExpand id true expand
  | .selectChannel channel autoscan => Bridge.selectChannel w.bridge channel autoscan
  | .stepExcitation direction => do
    let (channel, _) ← Bridge.scanner w.bridge
    Bridge.stepExcitation w.bridge channel direction
  | .stepRange channel direction => Bridge.stepRange w.bridge channel direction
  | .setHeater microwatts => Bridge.setHeater w.bridge microwatts
  | .armSweep plan => w.onCurrentSource fun id => CurrentSource.startSweep id plan
  | .sweepStatus => w.onCurrentSource CurrentSource.status
  | .fetchTrace => w.onCurrentSource CurrentSource.trace
  | .abortSweep => w.onCurrentSource CurrentSource.abort

end RefrigeratorWiring

/-- A dilution refrigerator. -/
def refrigerator (w : RefrigeratorWiring) : Site Surroundings where
  name := RefrigeratorWiring.siteName
  layout := w.layout
  lockins := w.lockins.length
  perform a := (w.perform a).run

end CryoRig.Site
