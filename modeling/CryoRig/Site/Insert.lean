import CryoRig.Instrument.Meters
import CryoRig.Site.CryogenFree

/-!
# The student insert

A dipstick with a temperature controller, a multimeter at the sample and one lock-in.

## Main definitions

* `CryoRig.Site.InsertWiring`: which instruments are wired to what.
* `CryoRig.Site.insert`: the site.
-/

namespace CryoRig.Site

open Instrument

/-- Which instruments an insert has, by their names on the bus. -/
structure InsertWiring where
  /-- The multimeter at the sample. -/
  multimeter : String
  /-- The temperature controller. -/
  controller : String
  /-- The lock-in. -/
  lockin : String
  deriving DecidableEq, Repr

namespace InsertWiring

/-- The name of the site. -/
def siteName : String := "student_insert"

/-- The channels in every mode. -/
def layout : Layout :=
  [⟨"R_Sample", "Ohm"⟩, ⟨"T_Sample_1", "K"⟩, ⟨"T_Sample_2", "K"⟩, ⟨"Ux", "V"⟩, ⟨"Uy", "V"⟩,
    ⟨"Ur", "V"⟩, ⟨"Theta", "deg"⟩]

/-- Every channel, once. -/
def readChannels (w : InsertWiring) : Driving (List (Option Float)) := do
  let resistance ← Multimeter.reading w.multimeter
  let first ← TemperatureController.kelvin w.controller 'A'
  let second ← TemperatureController.kelvin w.controller 'B'
  let (x, y, amplitude, phase) ← Lockin.snapshot w.lockin
  pure ([resistance, first, second, x, y, amplitude, phase].map some)

/-- Work on the only lock-in. -/
def onLockin {α : Type} (w : InsertWiring) (index : Nat) (work : String → Driving α) : Driving α :=
  if index = 0 then work w.lockin else throw (.onlyFirstLockin siteName)

/-- How an action is carried out. -/
def perform (w : InsertWiring) : (a : Action) → Driving a.Result
  | .readChannels _ => w.readChannels
  | .lockinStatus index => w.onLockin index Lockin.status
  | .rangeUp index => w.onLockin index Lockin.rangeUp
  | .prepare .continuous | .prepare .stepped => (pure () : Driving Unit)
  | .setAmplitude index volts => w.onLockin index fun id => Lockin.setAmplitude id volts
  | .setFrequency index hertz => w.onLockin index fun id => Lockin.setFrequency id hertz
  | a => unsupported siteName a

end InsertWiring

/-- A student insert. -/
def insert (w : InsertWiring) : Site Surroundings where
  name := InsertWiring.siteName
  layout _ := InsertWiring.layout
  lockins := 1
  perform a := (w.perform a).run

end CryoRig.Site
