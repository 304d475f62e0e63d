import CryoRig.Number.Print
import CryoRig.Site.Action

/-!
# The bench

A site without instruments, for rehearsals. It has two channels: the number of the reading, and one
that is never read. It keeps a list of what it was asked to do, and it can be told beforehand
which readings fail, what the next status bytes are and how often the magnet is still ramping.

## Main definitions

* `CryoRig.Site.Bench`: what the bench remembers and was told beforehand.
* `CryoRig.Site.Bench.perform`: how an action is carried out.
* `CryoRig.Site.bench`: the site, over surroundings that hold the bench.
-/

namespace CryoRig.Site

/-- What a bench remembers and was told beforehand. -/
structure Bench where
  /-- The number of readings so far. -/
  reads : Nat
  /-- The numbers of the readings that fail. -/
  failing : List Nat
  /-- The next status bytes; after them the lock-in is fine. -/
  statuses : List UInt8
  /-- How often the magnet is still ramping when asked. -/
  ramp : Nat
  /-- The sensitivity range of the lock-in. -/
  range : Nat
  /-- What it was asked to do, the latest first. -/
  done : List String

namespace Bench

/-- The name of the site. -/
def siteName : String := "bench"

/-- A bench that was told nothing. -/
def initial : Bench := ⟨0, [], [], 0, 0, []⟩

/-- What it was asked to do, in order. -/
def actions (b : Bench) : List String := b.done.reverse

/-- Remember what was asked. -/
def record (b : Bench) (words : List String) : Bench :=
  { b with done := " ".intercalate words :: b.done }

/-- How an expand factor is remembered. -/
def expandWord : Option Expand → String
  | none => "None"
  | some .x1 => "Some(X1)"
  | some .x10 => "Some(X10)"
  | some .x100 => "Some(X100)"

/-- The result of every differential sweep. -/
def trace : DeltaTrace := ⟨1e-6, [⟨100, 0.1⟩, ⟨101, 0.2⟩, ⟨102, 0.3⟩]⟩

/-- The bench was asked for something that has no result. -/
def did (b : Bench) (words : List String) : Except DeviceFault Unit × Bench :=
  (.ok (), b.record words)

/-- The process of an action that the bench has no means for. -/
def refuse (b : Bench) (a : Action) : a.Outcome × Bench :=
  match a.ability with
  | some ability => (.error (.unsupported siteName ability), b)
  | none => (.error (.reported siteName), b)

/-- How an action is carried out: what comes of it, and the bench after it. -/
def perform (b : Bench) : (a : Action) → a.Outcome × Bench
  | .readChannels _ =>
    let b' := { b with reads := b.reads + 1 }
    if b.reads ∈ b.failing then (.error (.readFailed siteName b.reads), b')
    else (.ok [some (Float.ofNat b.reads), none], b')
  | .lockinStatus _ =>
    match b.statuses with
    | [] => (.ok ⟨0⟩, b)
    | byte :: rest => (.ok ⟨byte⟩, { b with statuses := rest })
  | .rangeUp index =>
    let range := (b.range + 1) % 256
    (.ok (some range), { b.record ["range_up", toString index] with range := range })
  | .prepare mode => b.did ["prepare", mode.name]
  | .setGateVoltage volts => b.did ["gate_voltage", Number.plain volts]
  | .setGateOutput on => b.did ["gate_output", toString on]
  | .setTargetField tesla rate => b.did ["field", Number.plain tesla, Number.plain rate]
  | .magnetRamping => (.ok (decide (0 < b.ramp)), { b with ramp := b.ramp - 1 })
  | .setAmplitude index volts => b.did ["amplitude", toString index, Number.plain volts]
  | .setFrequency index hertz => b.did ["frequency", toString index, Number.plain hertz]
  | .setOffsetExpand index expand => b.did ["offset_expand", toString index, expandWord expand]
  | .stepRange channel direction =>
    (.ok none, b.record ["range", toString channel, direction.name])
  | .setHeater microwatts => b.did ["heater", Number.plain microwatts]
  | .armSweep plan =>
    b.did ["arm", Number.plain plan.start, Number.plain plan.stop, toString plan.points]
  | .sweepStatus => (.ok ⟨2⟩, b)
  | .fetchTrace => (.ok trace, b)
  | .abortSweep => b.did ["abort"]
  | a => b.refuse a

end Bench

/-- The channels of a bench in every mode. -/
def benchLayout : Layout := [⟨"U1", "V"⟩, ⟨"T", "K"⟩]

/-- What can be asked of a bench. -/
def BenchRequests : Interface := ⟨Action, Action.Outcome⟩

/-- A bench, over surroundings that hold it. -/
def bench : Site BenchRequests where
  name := Bench.siteName
  layout _ := benchLayout
  lockins := 1
  perform a := Process.request (I := BenchRequests) a

end CryoRig.Site
