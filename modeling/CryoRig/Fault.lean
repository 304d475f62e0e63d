import CryoRig.Instrument.Fault
import CryoRig.Script.Complaint
import CryoRig.Settings.Problem

/-!
# Faults

Everything that can end a run with an error, as data, with one wording for each.

## Main definitions

* `CryoRig.StateFault`: what the session refuses because of what is going on.
* `CryoRig.StorageFault`: why a data file cannot be written.
* `CryoRig.Fault`: every fault, and `CryoRig.Fault.message`.
-/

namespace CryoRig

/-- What is refused because of what is going on. -/
inductive StateFault where
  | programRunning
  | notStarted
  | alreadyRunning (name : String)
  /-- Any other refusal, in its own words. -/
  | other (text : String)
  deriving DecidableEq, Repr

/-- The wording of a refusal. -/
def StateFault.message : StateFault → String
  | programRunning => "Program already running"
  | notStarted => "Experiment not started!"
  | alreadyRunning name => s!"Experiment already running, '{name}' not started"
  | other text => text

/-- Why a data file cannot be written. -/
inductive StorageFault where
  /-- The directory cannot be made. -/
  | directory (path : String) (cause : SystemFault)
  /-- The file cannot be made. -/
  | file (cause : SystemFault)
  /-- Anything else, in its own words. -/
  | other (text : String)
  deriving DecidableEq, Repr

/-- The wording of a storage fault. -/
def StorageFault.message : StorageFault → String
  | directory path cause => path ++ ": " ++ cause.message
  | file cause => cause.message
  | other text => text

/-- Everything that can go wrong. -/
inductive Fault where
  /-- A line of a script is no command, or not at this place. -/
  | line (fault : Script.LineFault)
  /-- An instrument failed. -/
  | device (cause : DeviceFault)
  /-- The request does not fit what is going on. -/
  | state (cause : StateFault)
  /-- The settings do not have the right shape. -/
  | settings (problem : Settings.Problem)
  /-- The settings make no sense. -/
  | objection (cause : Settings.Objection)
  /-- A file cannot be read. -/
  | file (cause : SystemFault)
  /-- A data file cannot be written. -/
  | storage (cause : StorageFault)
  /-- A kind of connection is left out of this build. -/
  | leftOut (feature : String)

namespace Fault

/-- The wording of a fault. -/
def message : Fault → String
  | line fault => fault.message
  | device cause => "Instrument error: " ++ cause.message
  | state cause => "State error: " ++ cause.message
  | settings problem => "Configuration error: " ++ problem.kind.message
  | objection cause => "Configuration validation error: " ++ cause.message
  | file cause => "I/O error: " ++ cause.message
  | storage cause => "Storage error: " ++ cause.message
  | leftOut feature =>
    s!"Feature '{feature}' is not enabled. Please build with --features {feature}"

/-- Whether a fault is about the text of a script. -/
def isLine : Fault → Bool
  | line _ => true
  | _ => false

end Fault

end CryoRig
