/-!
# The state of a program

A program is a script that is checked or run. Its state is published while that happens and after.

## Main definitions

* `CryoRig.ProgramState`: what a program is doing or how it ended.
* `CryoRig.ProgramState.text`, `CryoRig.ProgramState.isActive`: how it is shown.
-/

namespace CryoRig

/-- What a program is doing or how it ended. -/
inductive ProgramState where
  /-- No program was run yet. -/
  | idle
  /-- A script is checked. -/
  | checking
  /-- A line of a script is carried out. -/
  | running (line : Nat)
  /-- Every line was carried out. -/
  | complete
  /-- The program was cancelled before its end. -/
  | interrupted
  /-- The program ended with a fault. -/
  | failed
  deriving DecidableEq, Repr

namespace ProgramState

/-- A state in words. -/
def text : ProgramState → String
  | idle => "Idle"
  | checking => "Checking"
  | running line => s!"Running (line {line})"
  | complete => "Complete"
  | interrupted => "Interrupted"
  | failed => "Failed"

/-- Whether a script is being checked or carried out. -/
def isActive : ProgramState → Bool
  | checking | running _ => true
  | _ => false

end ProgramState

end CryoRig
