import CryoRig.Journal
import CryoRig.Sampling.Protocol
import CryoRig.Script.Listing
import CryoRig.Site.Action

/-!
# What a line comes to

Checking a script and running it go through the same plan. The plan of a line says what is
reported, what is to be done, how long it is expected to take and what holds for the lines after
it; it depends on the lines before it only through the settings they leave behind. Checking adds
up the durations, running also does what is to be done.

## Main definitions

* `CryoRig.Script.RunConfig`: the settings that lines leave behind.
* `CryoRig.Script.Step`: the plan of a line.
* `CryoRig.Script.plan`: the plan of a command after given settings.
* `CryoRig.Script.rehearse`: check lines one after the other.
* `CryoRig.Script.estimate`: the expected duration of a script.

## Main results

* `CryoRig.Script.Line.plan_eq_ok_iff`: when a line has a plan.
* `CryoRig.Script.rehearse_append`: a check goes on from where it has got to.
-/

namespace CryoRig.Script

/-! ## Settings and deeds -/

/-- The settings that the lines so far leave behind. -/
structure RunConfig where
  /-- Seconds dropped after each step. -/
  stepRelax : Option Float
  /-- Seconds averaged after that. -/
  stepMeasure : Option Float
  /-- Whether ranges are raised on overload. -/
  autorange : Option Bool
  /-- The field the magnet is at or going to. -/
  field : Option Float
  /-- The temperature the sample is at or going to. -/
  temperature : Option Float

/-- Nothing is set yet. -/
def RunConfig.empty : RunConfig := ⟨none, none, none, none, none⟩

/-- What a program waits for. -/
inductive Awaited where
  | field
  | temperature
  | acquisition
  deriving DecidableEq, Repr

/-- What is done for a line. -/
inductive Deed where
  /-- Nothing. -/
  | nothing
  /-- Start an acquisition, with ranges raised or not. -/
  | start (name : String) (protocol : Sampling.Protocol) (autorange : Option Bool)
  /-- Stop the acquisition. -/
  | stop
  /-- Let seconds pass. -/
  | wait (seconds : Float)
  /-- Wait until something has settled. -/
  | waitFor (what : Awaited)
  /-- Have the site do something. -/
  | act (action : Action)

/-- The plan of a line. -/
structure Step where
  /-- What is reported beforehand. -/
  notes : List Event
  /-- What is done. -/
  deed : Deed
  /-- The seconds it is expected to take. -/
  charge : Float
  /-- The settings it leaves behind. -/
  config : RunConfig

/-! ## Plans -/

/-- A setting comes into force. -/
def RunConfig.set (c : RunConfig) : Setting → RunConfig
  | .stepRelax seconds => { c with stepRelax := some seconds }
  | .stepMeasure seconds => { c with stepMeasure := some seconds }
  | .currentField tesla => { c with field := some tesla }
  | .currentTemperature kelvin => { c with temperature := some kelvin }
  | .autorange on => { c with autorange := some on }

/-- A setting that a command needs. -/
def need {α : Type} (setting : Option α) (reason : Reason) (operation : Operation) :
    Except Complaint α :=
  setting.elim (.error ⟨reason, .of operation⟩) .ok

/-- The seconds of a ramp from `start` to `target` at a rate per minute. -/
def rampSeconds (start target rate : Float) : Float := (target - start).abs / rate * 60

/-- The seconds of a sweep over `count` targets. -/
def sweepSeconds (count : Nat) (relax measure : Float) : Float :=
  Float.ofNat count * (relax + measure)

/-- The plan of a command after given settings. -/
def plan (c : RunConfig) : Command → Except Complaint Step
  | .config setting => .ok ⟨[], .nothing, 0, c.set setting⟩
  | .startSimple name => .ok ⟨[], .start name .continuous c.autorange, 0, c⟩
  | .startCooldown name => .ok ⟨[], .start name .autoscan c.autorange, 0, c⟩
  | .startStep name parameter targets => do
    let relax ← need c.stepRelax .relaxMissing .startStep
    let measure ← need c.stepMeasure .measureMissing .startStep
    let seconds := sweepSeconds targets.length relax measure
    let sweep := Sampling.Sweep.start parameter targets relax measure
    pure ⟨[.sweepEstimate parameter targets.length seconds],
      .start name (.stepped sweep) c.autorange, seconds, c⟩
  | .startDidv name delta => .ok ⟨[], .start name (.differential delta) c.autorange, 0, c⟩
  | .stop => .ok ⟨[], .stop, 0, c⟩
  | .wait seconds => .ok ⟨[], .wait seconds, seconds, c⟩
  | .waitForField => .ok ⟨[], .waitFor .field, 0, c⟩
  | .waitForTemperature => .ok ⟨[], .waitFor .temperature, 0, c⟩
  | .waitForProgram => .ok ⟨[], .waitFor .acquisition, 0, c⟩
  | .setGateVoltage volts => .ok ⟨[], .act (.setGateVoltage volts), 0, c⟩
  | .setGateCurrent amps => .ok ⟨[], .act (.setGateCurrent amps), 0, c⟩
  | .setGateState on => .ok ⟨[], .act (.setGateOutput on), 0, c⟩
  | .setTargetField tesla rate => do
    let current ← need c.field .fieldMissing .setTargetField
    let seconds := rampSeconds current tesla rate
    pure ⟨[.fieldRamp current tesla rate seconds], .act (.setTargetField tesla rate), seconds,
      { c with field := some tesla }⟩
  | .setTargetTemperature kelvin rate => do
    let current ← need c.temperature .temperatureMissing .setTargetTemperature
    let seconds := rampSeconds current kelvin rate
    pure ⟨[.temperatureRamp current kelvin rate seconds],
      .act (.setTargetTemperature kelvin rate), seconds, { c with temperature := some kelvin }⟩
  | .setAmplitude volts => .ok ⟨[], .act (.setAmplitude 0 volts), 0, c⟩
  | .setFrequency hertz => .ok ⟨[], .act (.setFrequency 0 hertz), 0, c⟩
  | .setOffsetExpand lockin expand => .ok ⟨[], .act (.setOffsetExpand lockin expand), 0, c⟩
  | .tcChannel channel => .ok ⟨[], .act (.selectChannel channel false), 0, c⟩
  | .tcCurrent direction => .ok ⟨[], .act (.stepExcitation direction), 0, c⟩
  | .setRange channel direction => .ok ⟨[], .act (.stepRange channel direction), 0, c⟩

/-- The plan of a line after given settings. -/
def Line.plan (l : Line) (c : RunConfig) : Except LineFault Step := do
  let command ← l.command
  (Script.plan c command).mapError fun complaint => complaint.onLine l.number

/-- What is reported when a line is taken up. -/
def Line.processing (l : Line) : Event := .processing l.number l.operation l.arguments

/-! ## What plans need -/

section Needs

variable {c : RunConfig} {step : Step} {name : String} {parameter : Parameter}
  {targets : List Float} {target rate : Float}

/-- A sweep needs to know how long to relax and how long to measure. -/
theorem plan_startStep_eq_ok_iff : plan c (.startStep name parameter targets) = .ok step ↔
    ∃ relax measure, c.stepRelax = some relax ∧ c.stepMeasure = some measure ∧
      step = ⟨[.sweepEstimate parameter targets.length
          (sweepSeconds targets.length relax measure)],
        .start name (.stepped (.start parameter targets relax measure)) c.autorange,
        sweepSeconds targets.length relax measure, c⟩ := by
  cases hrelax : c.stepRelax <;> cases hmeasure : c.stepMeasure <;>
    simp [plan, need, hrelax, hmeasure, bind, Except.bind, pure, Except.pure, eq_comm]

/-- A ramp of the field needs to know where the magnet is. -/
theorem plan_setTargetField_eq_ok_iff : plan c (.setTargetField target rate) = .ok step ↔
    ∃ current, c.field = some current ∧
      step = ⟨[.fieldRamp current target rate (rampSeconds current target rate)],
        .act (.setTargetField target rate), rampSeconds current target rate,
        { c with field := some target }⟩ := by
  cases hfield : c.field <;>
    simp [plan, need, hfield, bind, Except.bind, pure, Except.pure, eq_comm]

/-- A ramp of the temperature needs to know where the sample is. -/
theorem plan_setTargetTemperature_eq_ok_iff :
    plan c (.setTargetTemperature target rate) = .ok step ↔
    ∃ current, c.temperature = some current ∧
      step = ⟨[.temperatureRamp current target rate (rampSeconds current target rate)],
        .act (.setTargetTemperature target rate), rampSeconds current target rate,
        { c with temperature := some target }⟩ := by
  cases htemperature : c.temperature <;>
    simp [plan, need, htemperature, bind, Except.bind, pure, Except.pure, eq_comm]

/-- The plan of a line depends on its words; its number is only put on a complaint. -/
theorem Line.plan_eq (l : Line) (c : RunConfig) :
    l.plan c = (Command.read l.operation l.arguments >>= Script.plan c).mapError
      fun complaint => complaint.onLine l.number := by
  unfold Line.plan Line.command Command.parse
  cases Command.read l.operation l.arguments <;> rfl

/-- A line has a plan if it is a command and that has one. -/
theorem Line.plan_eq_ok_iff {l : Line} : l.plan c = .ok step ↔
    ∃ command, l.command = .ok command ∧ Script.plan c command = .ok step := by
  unfold Line.plan
  cases l.command with
  | error fault =>
    constructor
    · rintro ⟨⟩
    · rintro ⟨_, ⟨⟩, -⟩
  | ok command =>
    change (Script.plan c command).mapError _ = _ ↔ _
    constructor
    · intro h
      refine ⟨command, rfl, ?_⟩
      cases hplan : Script.plan c command <;> rw [hplan] at h <;> cases h
      rfl
    · rintro ⟨_, ⟨⟩, h⟩
      rw [h]
      rfl

end Needs

/-! ## Checking -/

/-- Check lines one after the other: what is reported, and the sum of the durations or the first
complaint. -/
def rehearse : RunConfig → Float → List Line → List Event × Except LineFault Float
  | _, sum, [] => ([], .ok sum)
  | c, sum, l :: rest =>
    match l.plan c with
    | .error fault => ([l.processing, .programAborted l.number (.line fault)], .error fault)
    | .ok step =>
      let (events, result) := rehearse step.config (sum + step.charge) rest
      (l.processing :: step.notes ++ events, result)

/-- The expected duration of a script, in seconds. -/
def estimate (s : Script) : Except LineFault Float := (rehearse .empty 0 s.program).2

/-- What is reported of the text of a script. -/
def announce (s : Script) : List Event := .rule :: s.lines.map .scriptLine ++ [.rule]

/-! ## Checking in parts -/

/-- Lines taken together: the settings and the sum they leave behind, or the first complaint. -/
def accumulate : RunConfig → Float → List Line → Except LineFault (RunConfig × Float)
  | c, sum, [] => .ok (c, sum)
  | c, sum, l :: rest => do
    let step ← l.plan c
    accumulate step.config (sum + step.charge) rest

/-- A check goes on from where it has got to. -/
theorem rehearse_append (c : RunConfig) (sum : Float) (first rest : List Line) :
    (rehearse c sum (first ++ rest)).2 =
      match accumulate c sum first with
      | .error fault => .error fault
      | .ok (c', sum') => (rehearse c' sum' rest).2 := by
  induction first generalizing c sum with
  | nil => rfl
  | cons l first ih =>
    cases h : l.plan c with
    | error fault => simp [rehearse, accumulate, h, bind, Except.bind]
    | ok step => simpa [rehearse, accumulate, h, bind, Except.bind] using ih _ _

end CryoRig.Script
