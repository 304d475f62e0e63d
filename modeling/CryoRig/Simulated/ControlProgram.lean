import CryoRig.Simulated.Handler
import CryoRig.Number.Print

/-!
# A simulated control program

The program that controls field and temperature of a cryogen-free system. Both are at their target
as soon as it is set, and always stable.

## Main definitions

* `CryoRig.Simulated.ControlProgram`: the state of the program.
* `CryoRig.Simulated.ControlProgram.handle`: its answer to a command.
-/

namespace CryoRig.Simulated

/-- The state of a control program. -/
structure ControlProgram where
  /-- The field, in tesla. -/
  field : Float
  /-- The temperature that was set, in kelvin; zero if none was. -/
  temperature : Float

namespace ControlProgram

/-- The state after it is started. -/
def initial : ControlProgram := ⟨0, 0⟩

/-- The temperature of the sample, in kelvin. -/
def kelvin (p : ControlProgram) : Float := if p.temperature == 0 then 1.8 else p.temperature

/-- The answer to a command. -/
def handle : Handler ControlProgram := fun command => do
  let p ← get
  match command with
  | "READ? BA" | "READ? BD" => reply (Number.fixed 5 p.field ++ ",0")
  | "READ? TA" | "READ? TB" => reply (Number.fixed 4 p.kelvin ++ ",0")
  | "STAB? B" | "STAB? TB" | "STAB? TA" => reply "TRUE"
  | _ =>
    if let some values := argument? command "SET B" then
      set { p with field := ← number ((fields values)[0]?.getD "0") }
      silence
    else if let some values := argument? command "SET T" then
      set { p with temperature := ← number ((fields values)[0]?.getD "0") }
      silence
    else throw (.unknownCommand "mss" command)

end ControlProgram

end CryoRig.Simulated
