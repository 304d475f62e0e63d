import CryoRig.Simulated.Handler
import CryoRig.Number.Print

/-!
# A simulated current source

Its differential sweep is finished as soon as it is triggered.

## Main definitions

* `CryoRig.Simulated.CurrentSource`: the state of the source.
* `CryoRig.Simulated.CurrentSource.handle`: its answer to a command.
-/

namespace CryoRig.Simulated

/-- The state of a current source. -/
structure CurrentSource where
  /-- The number of points of a sweep. -/
  points : Nat
  /-- Whether a sweep is armed. -/
  armed : Bool
  /-- Whether a sweep was triggered. -/
  running : Bool

namespace CurrentSource

/-- The state after it is switched on. -/
def initial : CurrentSource := ⟨0, false, false⟩

/-- A point of the trace: resistance and time. -/
def point (index : Nat) : String :=
  Number.scientific (100 + Float.ofNat index) ++ "," ++
    Number.scientific (Float.ofNat index * 0.05)

/-- The answer to a command. -/
def handle : Handler CurrentSource := fun command => do
  let s ← get
  match command with
  | "*RST" | "UNIT OHMS" => silence
  | "SOUR:DCON:ARM" => do
    set { s with armed := true }
    silence
  | "SOUR:DCON:ARM?" => reply (flag s.armed)
  | "INIT:IMM" => do
    set { s with running := s.armed }
    silence
  | "STAT:OPER:COND?" => reply (if s.running then "2" else "0")
  | "SOUR:DCON:NVZ?" => reply "+1.500000E-06"
  | "TRAC:DATA?" => reply (",".intercalate ((List.range s.points).map point))
  | "SOUR:SWE:ABOR" => do
    set { s with armed := false, running := false }
    silence
  | _ =>
    if let some points := argument? command "TRAC:POIN " then
      set { s with points := (Number.clampWhole 0 Number.hugeMax (← number points)).toNat }
      silence
    else if "SOUR:DCON:".toList.isPrefixOf command.toList then silence
    else throw (.unknownCommand "keithley6221" command)

end CurrentSource

end CryoRig.Simulated
