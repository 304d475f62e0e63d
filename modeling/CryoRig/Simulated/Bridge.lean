import CryoRig.Simulated.Handler
import CryoRig.Number.Print

/-!
# A simulated resistance bridge

Its scanner connects one of seven thermometers. While autoscan is on, each time the scanner is
asked where it is, it goes on to the next one after answering.

## Main definitions

* `CryoRig.Simulated.Bridge`: the state of the bridge.
* `CryoRig.Simulated.Bridge.next`: the channel after a given one.
* `CryoRig.Simulated.Bridge.handle`: its answer to a command.

## Main results

* `CryoRig.Simulated.Bridge.next_mem`: from anywhere the scanner goes on to a thermometer.
-/

namespace CryoRig.Simulated

/-- The state of a bridge. -/
structure Bridge where
  /-- The channel the scanner is on. -/
  channel : Nat
  /-- Whether the scanner goes on by itself. -/
  autoscan : Bool
  /-- The indices of excitation and resistance range of each channel. -/
  ranges : Nat → Nat × Nat
  /-- The setpoint of the temperature, in kelvin. -/
  setpoint : Float
  /-- The power of the heater, in watts. -/
  heater : Float

namespace Bridge

/-- The state after it is switched on. -/
def initial : Bridge := ⟨6, false, fun _ => (5, 10), 0, 0⟩

/-- The channels with a thermometer, in the order of the scanner. -/
def thermometers : List Nat := [1, 2, 3, 5, 6, 7, 8]

/-- The channel after a given one. -/
def next : Nat → Nat
  | 1 => 2
  | 2 => 3
  | 3 => 5
  | 5 => 6
  | 6 => 7
  | 7 => 8
  | _ => 1

theorem next_mem (channel : Nat) : next channel ∈ thermometers := by
  unfold next
  split <;> decide

/-- The temperature at a channel, in kelvin. -/
def kelvin : Nat → Float
  | 1 => 48
  | 2 => 3.9
  | 3 => 0.85
  | 5 => 0.12
  | 6 => 0.0125
  | _ => 0

/-- The resistance at a channel, in ohm. -/
def ohms (channel : Nat) : Float := 1000 + Float.ofNat channel * 137.5

/-- Set the indices of one channel. -/
def setRange (b : Bridge) (channel : Nat) (indices : Nat × Nat) : Bridge :=
  { b with ranges := fun c => if c = channel then indices else b.ranges c }

/-- Two digits and the autoscan flag. -/
def scanReply (b : Bridge) : String := Number.padded 2 b.channel ++ "," ++ flag b.autoscan

/-- The bridge after it was asked where the scanner is. -/
def scanned (b : Bridge) : Bridge := if b.autoscan then { b with channel := next b.channel } else b

/-- The answer to a command. -/
def handle : Handler Bridge := fun command => do
  let b ← get
  if command = "SCAN?" then
    set b.scanned
    reply b.scanReply
  else if command = "RAMPST?" then reply "0"
  else if command = "MOUT?" then reply (Number.scientific b.heater)
  else if let some channel := argument? command "RDGK? " then
    reply (Number.scientific (kelvin (Number.toByte (← number channel))))
  else if let some channel := argument? command "RDGR? " then
    reply (Number.scientific (ohms (Number.toByte (← number channel))))
  else if let some channel := argument? command "RDGRNG? " then
    let (excitation, range) := b.ranges (Number.toByte (← number channel))
    reply s!"0,{excitation},{range},0,0"
  else if let some values := argument? command "RDGRNG " then
    match ← (fields values).mapM fun text => liftM (number text) with
    | [channel, _, excitation, range, _, _] =>
      set (b.setRange (Number.toByte channel) (Number.toByte excitation, Number.toByte range))
      silence
    | _ => throw (.wrongArguments "lakeshore370" "RDGRNG" 6)
  else if let some values := argument? command "SCAN " then
    let channel ← number ((fields values)[0]?.getD "6")
    modify fun b => { b with channel := Number.toByte channel }
    let autoscan ← number ((fields values)[1]?.getD "0")
    modify fun b => { b with autoscan := autoscan != 0 }
    silence
  else if let some value := argument? command "SETP " then
    set { b with setpoint := ← number value }
    silence
  else if let some value := argument? command "MOUT " then
    set { b with heater := ← number value }
    silence
  else if (argument? command "RAMP ").isSome then silence
  else throw (.unknownCommand "lakeshore370" command)

end Bridge

end CryoRig.Simulated
