/-!
# What is set, stepped and recorded

The small vocabularies shared by scripts, instruments and sampling: directions, lock-in status and
expand factors, sampling modes, stepped parameters, channel layouts and the plan of a differential
sweep.

## Main definitions

* `CryoRig.Direction`, `CryoRig.LockinStatus`, `CryoRig.Expand`: the state of instruments.
* `CryoRig.Mode`, `CryoRig.Parameter`: ways of sampling and what a sweep steps.
* `CryoRig.Layout`: the columns of a sample.
* `CryoRig.DeltaPlan`, `CryoRig.DeltaStatus`, `CryoRig.DeltaTrace`: the differential sweep of a
  current source.
-/

namespace CryoRig

/-! ## Directions -/

/-- A step to the next higher or lower setting. -/
inductive Direction where
  | up
  | down
  deriving DecidableEq, Repr

/-- The spelling of a direction. -/
def Direction.name : Direction → String
  | up => "up"
  | down => "down"

/-- A direction in any case; otherwise the text in lower case. -/
def Direction.parse (s : String) : Except String Direction :=
  let lower := s.toLower
  if lower = "up" then .ok up else if lower = "down" then .ok down else .error lower

/-! ## Lock-in amplifiers -/

/-- The status byte of a lock-in. -/
structure LockinStatus where
  /-- The byte as it was read. -/
  byte : UInt8
  deriving DecidableEq, Repr

namespace LockinStatus

/-- The input or its reserve is overloaded. -/
def inputOverload (s : LockinStatus) : Bool := s.byte &&& 1 != 0

/-- The filter of the time constant is overloaded. -/
def filterOverload (s : LockinStatus) : Bool := s.byte &&& 2 != 0

/-- The signal exceeds the sensitivity range. -/
def outputOverload (s : LockinStatus) : Bool := s.byte &&& 4 != 0

/-- No overload is flagged. -/
def isClear (s : LockinStatus) : Bool :=
  !s.inputOverload && !s.filterOverload && !s.outputOverload

/-- The flags in words. -/
def text (s : LockinStatus) : String :=
  let flags := (if s.inputOverload then ["I/S"] else []) ++
    (if s.filterOverload then ["TC"] else []) ++ (if s.outputOverload then ["OUT"] else [])
  if flags.isEmpty then "OK" else "+".intercalate flags ++ " overload"

end LockinStatus

/-- The factor by which a lock-in expands its output. -/
inductive Expand where
  | x1
  | x10
  | x100
  deriving DecidableEq, Repr

namespace Expand

/-- The spelling of a factor. -/
def name : Expand → String
  | x1 => "1x"
  | x10 => "10x"
  | x100 => "100x"

/-- The code of a factor on the instrument. -/
def code : Expand → Nat
  | x1 => 0
  | x10 => 1
  | x100 => 2

/-- A factor in any case. -/
def parse? (s : String) : Option Expand :=
  let lower := s.toLower
  [x1, x10, x100].find? fun e => e.name == lower

end Expand

/-- The number of lock-ins a site can hold. -/
def maxLockins : Nat := 4

/-- The name of a lock-in; they are numbered from one. -/
def lockinLabel (index : Nat) : String :=
  "R" ++ toString (index + 1)

/-! ## Sampling -/

/-- The ways of sampling. -/
inductive Mode where
  /-- Every channel on every tick. -/
  | continuous
  /-- Follow the thermometry scanner, one thermometer on each tick. -/
  | autoscan
  /-- Every channel, grouped into averaged steps. -/
  | stepped
  /-- A differential sweep run by the current source itself. -/
  | differential
  deriving DecidableEq, Repr

/-- The name of a mode. -/
def Mode.name : Mode → String
  | continuous => "continuous"
  | autoscan => "autoscan"
  | stepped => "step"
  | differential => "didv"

/-- What a stepped sweep steps. -/
inductive Parameter where
  /-- The amplitude of the first lock-in. -/
  | firstAmplitude
  /-- The amplitude of every lock-in. -/
  | allAmplitudes
  /-- The frequency of the first lock-in. -/
  | frequency
  /-- The gate voltage. -/
  | gateVoltage
  /-- The magnetic field. -/
  | field
  /-- The power of the heater. -/
  | heater
  deriving DecidableEq, Repr

namespace Parameter

/-- Every parameter. -/
def all : List Parameter :=
  [firstAmplitude, allAmplitudes, frequency, gateVoltage, field, heater]

/-- The spelling of a parameter, also the name of its column. -/
def name : Parameter → String
  | firstAmplitude => "AMP-R1"
  | allAmplitudes => "AMP-ALL"
  | frequency => "FREQ"
  | gateVoltage => "VG"
  | field => "H"
  | heater => "HEATER"

/-- The unit of a parameter. -/
def unit : Parameter → String
  | firstAmplitude | allAmplitudes | gateVoltage => "V"
  | frequency => "Hz"
  | field => "T"
  | heater => "uW"

/-- A parameter in any case; otherwise the text in upper case. -/
def parse (s : String) : Except String Parameter :=
  let upper := s.toUpper
  match all.find? fun p => p.name == upper with
  | some p => .ok p
  | none => .error upper

end Parameter

/-- One column of a sample. -/
structure Channel where
  /-- The name at the head of the column. -/
  name : String
  /-- The unit below it. -/
  unit : String
  deriving DecidableEq, Repr

/-- The columns of a sample, in order. -/
abbrev Layout := List Channel

/-- The names of the columns. -/
def Layout.names (l : Layout) : List String := l.map Channel.name

/-- The units of the columns. -/
def Layout.units (l : Layout) : List String := l.map Channel.unit

/-- The place of the first column with a given name. -/
def Layout.indexOf? (l : Layout) (name : String) : Option Nat :=
  l.findIdx? fun c => c.name == name

/-- One accepted tick. -/
structure Sample where
  /-- Seconds since sampling began. -/
  time : Float
  /-- One reading for each column, if it was taken. -/
  values : List (Option Float)

/-! ## Differential sweeps -/

/-- A differential sweep, all currents in amperes. -/
structure DeltaPlan where
  /-- The first current. -/
  start : Float
  /-- The last current. -/
  stop : Float
  /-- The number of points. -/
  points : Nat
  /-- The amplitude of the differential current. -/
  delta : Float

/-- The increment from one point to the next. -/
def DeltaPlan.step (p : DeltaPlan) : Float :=
  (p.stop - p.start) / Float.ofNat (max p.points 1)

/-- The condition register of the current source. -/
structure DeltaStatus where
  /-- The register as it was read. -/
  word : UInt16
  deriving DecidableEq, Repr

namespace DeltaStatus

/-- The source is calibrating itself. -/
def calibrating (s : DeltaStatus) : Bool := s.word &&& 1 != 0

/-- The sweep is finished. -/
def finished (s : DeltaStatus) : Bool := s.word &&& 2 != 0

/-- The sweep is under way. -/
def sweeping (s : DeltaStatus) : Bool := s.word &&& 8 != 0

end DeltaStatus

/-- A point of a differential sweep. -/
structure DeltaPoint where
  /-- The differential resistance, in ohm. -/
  ohms : Float
  /-- Seconds since the sweep began. -/
  time : Float

/-- The result of a differential sweep. -/
structure DeltaTrace where
  /-- The reading of the voltmeter at zero current. -/
  zeroVoltage : Float
  /-- The points, in order. -/
  points : List DeltaPoint

end CryoRig
