import CryoRig.Instrument.Bus

/-!
# The current source

A current source runs a differential sweep by itself and keeps its result until it is fetched.

## Main definitions

* `CryoRig.Instrument.CurrentSource.startSweep`: set up, arm and trigger a sweep.
* `CryoRig.Instrument.CurrentSource.status`, `trace`, `abort`: follow and end a sweep.

## Main results

* `CryoRig.Instrument.CurrentSource.length_setup`: a sweep is set up by ten commands.
-/

namespace CryoRig.Instrument.CurrentSource

/-- The time between two looks at whether the source is armed. -/
def armPoll : Duration := .ofMillis 500

/-- How often it is looked at whether the source is armed. -/
def armAttempts : Nat := 20

/-- The commands that set up and arm a sweep. -/
def setup (plan : DeltaPlan) : List String :=
  ["*RST", "UNIT OHMS", "SOUR:DCON:STAR " ++ Number.plain plan.start,
    "SOUR:DCON:STOP " ++ Number.plain plan.stop, "SOUR:DCON:STEP " ++ Number.plain plan.step,
    "SOUR:DCON:DELT " ++ Number.plain plan.delta, "SOUR:DCON:DEL 50e-3", "SOUR:DCON:CAB OFF",
    "TRAC:POIN " ++ toString plan.points, "SOUR:DCON:ARM"]

@[simp] theorem length_setup (plan : DeltaPlan) : (setup plan).length = 10 := rfl

/-- Send commands one after the other. -/
def writeAll (id : String) : List String → Driving Unit
  | [] => pure ()
  | command :: rest => do
    write id command
    writeAll id rest

/-- Whether a reply says that the source is armed. -/
def isArmed (reply : String) : Bool :=
  match Number.read (Text.trim reply) with
  | .ok x => x != 0
  | .error _ => false

/-- Look up to `attempts` times whether the source is armed, then trigger the sweep. -/
def trigger (id : String) : Nat → Driving Unit
  | 0 => throw (.notArmed id)
  | attempts + 1 => do
    if isArmed (← query id "SOUR:DCON:ARM?") then write id "INIT:IMM"
    else
      sleep armPoll
      trigger id attempts

/-- Set up, arm and trigger a sweep. -/
def startSweep (id : String) (plan : DeltaPlan) : Driving Unit := do
  writeAll id (setup plan)
  trigger id armAttempts

/-- The condition register. -/
def status (id : String) : Driving DeltaStatus := do
  pure ⟨UInt16.ofNat (← whole id "STAT:OPER:COND?" Number.wordMax)⟩

/-- Numbers taken two at a time as resistance and time. -/
def pairs : List Float → Option (List DeltaPoint)
  | [] => some []
  | [_] => none
  | ohms :: time :: rest => (pairs rest).map fun points => ⟨ohms, time⟩ :: points

/-- The result of the sweep. -/
def trace (id : String) : Driving DeltaTrace := do
  let zeroVoltage ← number id "SOUR:DCON:NVZ?"
  let values ← values id "TRAC:DATA?"
  match pairs values.toList with
  | some points => pure ⟨zeroVoltage, points⟩
  | none => throw (.oddTrace id values.toList.length)

/-- End the sweep. -/
def abort (id : String) : Driving Unit := write id "SOUR:SWE:ABOR"

end CryoRig.Instrument.CurrentSource
