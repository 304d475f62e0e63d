import CryoRig.Simulated.Handler
import CryoRig.Number.Print

/-!
# A simulated magnet supply

The magnet is at its target as soon as the target is set.

## Main definitions

* `CryoRig.Simulated.Magnet`: the state of the supply.
* `CryoRig.Simulated.Magnet.handle`: its answer to a command.
-/

namespace CryoRig.Simulated

/-- The state of a magnet supply. -/
structure Magnet where
  /-- The field, in tesla. -/
  field : Float
  /-- The ramp rate, in tesla per minute. -/
  rate : Float

namespace Magnet

/-- The state after it is switched on. -/
def initial : Magnet := ⟨0, 0⟩

/-- The answer to a command; semicolons after it do not matter. -/
def handle : Handler Magnet := fun command => do
  let command := String.ofList (dropSemicolons command.toList)
  let m ← get
  match command with
  | "FIELD:MAG?" | "FIELD:TARG?" => reply (Number.fixed 6 m.field)
  | "STATE?" => reply "2"
  | "RAMP:RATE:FIELD:1?" => reply (Number.plain m.rate ++ ",1")
  | "RAMP" | "PAUSE" => silence
  | _ =>
    if let some value := argument? command "CONFIGURE:FIELD:TARGET " then
      set { m with field := ← number value }
      silence
    else if let some values := argument? command "CONFIGURE:RAMP:RATE:FIELD " then
      set { m with rate := ← number ((fields values)[1]?.getD "0") }
      silence
    else throw (.unknownCommand "ami430" command)

end Magnet

end CryoRig.Simulated
