import CryoRig.Duration
import CryoRig.Quantity
import CryoRig.Sampling.Sweep

/-!
# Ways to run an acquisition

## Main definitions

* `CryoRig.Sampling.Protocol`: a way of sampling with its parameters.
* `CryoRig.Sampling.Protocol.mode`: the mode in which channels are read.
* `CryoRig.Sampling.Tuning`: the settings that all acquisitions share.
-/

namespace CryoRig.Sampling

/-- A way of sampling with its parameters. -/
inductive Protocol where
  /-- Every channel on every tick. -/
  | continuous
  /-- Along the thermometry scanner. -/
  | autoscan
  /-- In averaged steps. -/
  | stepped (sweep : Sweep Float)
  /-- A differential sweep of the current source. -/
  | differential (plan : DeltaPlan)

/-- The mode in which channels are read. -/
def Protocol.mode : Protocol → Mode
  | continuous => .continuous
  | autoscan => .autoscan
  | stepped _ => .stepped
  | differential _ => .differential

/-- The settings that all acquisitions share. -/
structure Tuning where
  /-- The pause after each tick. -/
  tickInterval : Duration
  /-- Lock-ins are checked on every tick whose number is a multiple of this. -/
  statusCheckEvery : Nat
  /-- How many checks in a row have to find an overload. -/
  overloadThreshold : Nat
  /-- The rate of field steps, in tesla per minute. -/
  fieldStepRate : Float
  /-- Whether the range of an overloaded lock-in is raised. -/
  autorange : Bool
  /-- The directory of all data files. -/
  dataDir : String
  /-- The name of the sample. -/
  sample : String

end CryoRig.Sampling
