import CryoRig.Simulated.Handler
import CryoRig.Number.Print
import CryoRig.Text.Uppercase

/-!
# A simulated gate source

## Main definitions

* `CryoRig.Simulated.Gate`: the state of the source.
* `CryoRig.Simulated.Gate.handle`: its answer to a command.
-/

namespace CryoRig.Simulated

/-- The state of a gate source. -/
structure Gate where
  /-- What it puts out, by name. -/
  function : String
  /-- The level, in volts or amperes. -/
  level : Float
  /-- Whether the output is on. -/
  output : Bool

namespace Gate

/-- The state after it is switched on. -/
def initial : Gate := ⟨"VOLT", 0, false⟩

/-- The answer to a command. -/
def handle : Handler Gate := fun command => do
  let g ← get
  match command with
  | ":SOUR:FUNC?" => reply g.function
  | ":OUTP?" => reply (flag g.output)
  | ":SOURCE:LEVEL?" => reply (Number.scientific g.level)
  | _ =>
    if let some function := argument? command ":SOUR:FUNC " then
      set { g with function := Text.uppercase function }
      silence
    else if let some value := argument? command ":SOURCE:LEVEL " then
      set { g with level := ← number value }
      silence
    else if let some value := argument? command ":OUTP " then
      set { g with output := (← number value) != 0 }
      silence
    else throw (.unknownCommand "yokogawa" command)

end Gate

end CryoRig.Simulated
