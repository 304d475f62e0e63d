import CryoRig.Simulated.Handler
import CryoRig.Number.Print

/-!
# A simulated lock-in

It measures a sample of one kiloohm behind a megaohm, so that a thousandth of the amplitude is
seen, always at the same phase.

## Main definitions

* `CryoRig.Simulated.Lockin`: the settings of the lock-in.
* `CryoRig.Simulated.Lockin.handle`: its answer to a command.
-/

namespace CryoRig.Simulated

/-- The settings of a lock-in. -/
structure Lockin where
  /-- The index of the sensitivity range. -/
  sensitivity : Nat
  /-- The amplitude of its output, in volts. -/
  amplitude : Float
  /-- The frequency of its output, in hertz. -/
  frequency : Float
  /-- The offset, in percent. -/
  offset : Float
  /-- The code of the expand factor. -/
  expand : Nat

namespace Lockin

/-- The settings after it is switched on. -/
def initial : Lockin := ⟨20, 0.004, 13.777, 0, 0⟩

/-- The phase of the signal, in degrees. -/
def phase : Float := 1.25

/-- The cosine of the phase. -/
def phaseCos : Float := 0.9997620270799091

/-- The sine of the phase. -/
def phaseSin : Float := 0.02181488503456112

/-- The amplitude of the signal. -/
def signal (l : Lockin) : Float := l.amplitude * 1e-3

/-- Commands with an argument. -/
def set : Handler Lockin := fun command => do
  if let some value := argument? command "SENS " then
    let x ← number value
    modify fun l => { l with sensitivity := Number.toByte x }
    silence
  else if let some value := argument? command "SLVL " then
    let x ← number value
    modify fun l => { l with amplitude := x }
    silence
  else if let some value := argument? command "FREQ " then
    let x ← number value
    modify fun l => { l with frequency := x }
    silence
  else if let some values := argument? command "OEXP 3," then
    let offset ← number ((fields values)[0]?.getD "0")
    modify fun l => { l with offset := offset }
    let expand ← number ((fields values)[1]?.getD "0")
    modify fun l => { l with expand := Number.toByte expand }
    silence
  else throw (.unknownCommand "sr830" command)

/-- The answer to a command. -/
def handle : Handler Lockin := fun command => do
  let l ← get
  match command with
  | "SNAP? 3,4" => reply (Number.scientific l.signal ++ "," ++ Number.plain phase)
  | "SNAP? 1,2,3,4" =>
    reply (",".intercalate [Number.scientific (l.signal * phaseCos),
      Number.scientific (l.signal * phaseSin), Number.scientific l.signal, Number.plain phase])
  | "LIAS?" => reply "0"
  | "SENS?" => reply (toString l.sensitivity)
  | "SLVL?" => reply (Number.plain l.amplitude)
  | "FREQ?" => reply (Number.plain l.frequency)
  | "OEXP? 3" => reply (Number.fixed 2 l.offset ++ "," ++ toString l.expand)
  | "AOFF 3" => do
    modify fun l => { l with offset := 40 }
    silence
  | "*CLS" | "*RST" => silence
  | _ => set command

end Lockin

end CryoRig.Simulated
