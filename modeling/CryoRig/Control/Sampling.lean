import CryoRig.Control.Work
import CryoRig.Sampling.Table

/-!
# Acquisitions

Starting an acquisition does everything that can fail, files and instruments, before anything runs
in the background. What then runs is a loop of ticks or, for a differential sweep, the supervision
of the current source. Either looks at its token between two turns and while it pauses, so a turn
under way is always finished.

## Main definitions

* `CryoRig.Control.startAcquisition`: prepare an acquisition and start its job.
* `CryoRig.Control.Ticking.turn`: one tick and the pause after it.
* `CryoRig.Control.Supervision.turn`: one look at a differential sweep.
* `CryoRig.Control.Acquisition.stop`: stop an acquisition and wait for its end.
-/

namespace CryoRig.Control

open Sampling

/-! ## Ticks -/

namespace Ticking

/-- Look at one lock-in, and raise its range if that is called for. The counters keep what they
were told, also if something fails. -/
def checkLockin (m : OverloadMonitor) (index : Nat) :
    Working (Except DeviceFault Unit × OverloadMonitor) := do
  match ← act (.lockinStatus index) with
  | .error fault => pure (.error fault, m)
  | .ok (status : LockinStatus) =>
    if !status.isClear then log (.lockinStatus index status)
    let (verdict, m) := m.record index status
    match verdict with
    | .rangeUp =>
      log (.outputOverload index true)
      match ← act (.rangeUp index) with
      | .error fault => pure (.error fault, m)
      | .ok (range : Option Nat) =>
        log (match range with
          | some range => .sensitivityIncreased index range
          | none => .sensitivityAtTop index)
        pure (.ok (), m)
    | .report =>
      log (.outputOverload index false)
      pure (.ok (), m)
    | .clear | .counting _ => pure (.ok (), m)

/-- Look at lock-ins one after the other until something fails. -/
def checkLockins (m : OverloadMonitor) :
    List Nat → Working (Except DeviceFault Unit × OverloadMonitor)
  | [] => pure (.ok (), m)
  | index :: rest => do
    match ← checkLockin m index with
    | (.ok (), m) => checkLockins m rest
    | failed => pure failed

/-- Whether lock-ins are looked at on this tick. -/
def checkDue (t : Ticking) : Bool := t.attempted % t.tuning.statusCheckEvery == 0

/-- Look at the lock-ins if that is due, then read every channel. -/
def acquire (t : Ticking) :
    Working (Except DeviceFault (List (Option Float)) × OverloadMonitor) := do
  let (checked, overload) ←
    if t.checkDue then checkLockins t.overload (List.range t.lockins)
    else pure (.ok (), t.overload)
  match checked with
  | .error fault => pure (.error fault, overload)
  | .ok () => pure (← act (.readChannels t.mode), overload)

/-- Set the amplitude of lock-ins one after the other until something fails. -/
def setAmplitudes (volts : Float) : List Nat → Working (Except DeviceFault Unit)
  | [] => pure (.ok ())
  | index :: rest => do
    match ← act (.setAmplitude index volts) with
    | .ok _ => setAmplitudes volts rest
    | .error fault => pure (.error fault)

/-- Set what is stepped to a value. -/
def applyStep (t : Ticking) (parameter : Parameter) (value : Float) :
    Working (Except DeviceFault Unit) :=
  match parameter with
  | .firstAmplitude => act (.setAmplitude 0 value)
  | .allAmplitudes => setAmplitudes value (List.range t.lockins)
  | .frequency => act (.setFrequency 0 value)
  | .gateVoltage => act (.setGateVoltage value)
  | .field => act (.setTargetField value t.tuning.fieldStepRate)
  | .heater => act (.setHeater value)

/-- Write a sample that is kept, and show it. -/
def commit (t : Ticking) (x : Sample) : Working Unit := do
  if let .error cause ← ask (.append t.samples (Table.values x.time x.values)) then
    log (.cannotWriteSample (.storage cause))
  ask (.present t.token x)

/-- Write the aggregates of a step that is closed. -/
def writeStep (t : Ticking) (parameter : Parameter) (target : Float)
    (aggregates : List Aggregate) : Working Unit := do
  if let some file := t.aggregates then
    let readings := aggregates.flatMap Aggregate.entries
    if let .error cause ← ask (.append file (Table.values target readings)) then
      log (.cannotWriteAggregate (.storage cause))
  log (.stepClosed parameter target)

/-- Set the next target; a failure is reported and noted. -/
def enterStep (t : Ticking) (parameter : Parameter) (target : Float) : Working Ticking := do
  match ← t.applyStep parameter target with
  | .ok () =>
    log (.stepEntered parameter target)
    pure t
  | .error fault =>
    log (.stepFailed parameter target fault)
    pure { t with ledger := t.ledger.entryFailed }

/-- What follows from the verdict on a sample, apart from keeping it. -/
def followUp (t : Ticking) (parameter : Parameter) (verdict : Verdict) : Working Ticking := do
  if let some (target, aggregates) := verdict.closed then
    t.writeStep parameter target aggregates
  match verdict.enter with
  | some target => t.enterStep parameter target
  | none => pure t

/-- One tick: whether it ends the sweep, and what is remembered after it. A tick in which something
fails leaves no trace but its report. -/
def tick (t : Ticking) (now : Float) : Working (Bool × Ticking) := do
  let (result, overload) ← t.acquire
  let t := { t with overload := overload }
  match result with
  | .error fault =>
    log (.cannotObtainPoint fault)
    pure (false, t)
  | .ok values =>
    let x : Sample := ⟨now, values⟩
    let (verdict, ledger) := t.ledger.take x
    let t := { t with ledger := ledger }
    if verdict.keep then t.commit x
    match ledger.sweep with
    | none => pure (false, t)
    | some sweep => pure (verdict.finished, ← t.followUp sweep.parameter verdict)

/-- One tick and the pause after it. -/
def turn (t : Ticking) : Working (Turn Ticking Ending) := do
  if ← fired t.token then pure (.over .acquisition)
  else
    let ms ← clock
    let origin := t.origin.getD ms
    let (finished, t) ← t.tick (Duration.ofMillis (ms - origin)).seconds
    let t := { t with attempted := t.attempted + 1, origin := some origin }
    if finished then
      log (.sweepFinished t.attempted)
      pure (.over .acquisition)
    else if ← pause t.token t.tuning.tickInterval then pure (.again t)
    else pure (.over .acquisition)

end Ticking

/-! ## Differential sweeps -/

namespace Supervision

/-- The time between two looks at the current source. -/
def poll : Duration := .ofSeconds 1

/-- Write the points of a trace, the first of them number `index`. -/
def writePoints (s : Supervision) (index : Nat) : List DeltaPoint → Working (Except StorageFault Unit)
  | [] => pure (.ok ())
  | point :: rest => do
    let current := s.plan.start + Float.ofNat index * s.plan.step
    match ← ask (.append s.file (Table.values current [some point.time, some point.ohms])) with
    | .ok _ => s.writePoints (index + 1) rest
    | .error cause => pure (.error cause)

/-- Fetch the trace and write it. -/
def exportTrace (s : Supervision) : Working Unit := do
  match ← act .fetchTrace with
  | .error fault => log (.cannotExport fault)
  | .ok (trace : DeltaTrace) =>
    log (.differentialExported trace.zeroVoltage trace.points.length)
    if let .error cause ← s.writePoints 0 trace.points then
      log (.cannotExport (.storage (Fault.storage cause).message))

/-- Fetch the trace, then end the sweep on the current source. -/
def finish (s : Supervision) : Working (Turn Supervision Ending) := do
  s.exportTrace
  if let .error fault ← act .abortSweep then log (.cannotAbort fault)
  pure (.over .acquisition)

/-- One look at the current source. -/
def turn (s : Supervision) : Working (Turn Supervision Ending) := do
  if ← pause s.token poll then
    match ← act .sweepStatus with
    | .ok (status : DeltaStatus) => if status.finished then s.finish else pure (.again s)
    | .error fault =>
      log (.cannotReadSweepStatus fault)
      pure (.again s)
  else
    log .differentialInterrupted
    s.finish

end Supervision

/-! ## Starting and stopping -/

/-- Write rows into a file. -/
def appendRows (file : Nat) : List (List String) → Risky Unit
  | [] => pure ()
  | fields :: rest => do
    match ← ask (.append file (Table.row fields)) with
    | .ok _ => appendRows file rest
    | .error cause => throw (.storage cause)

/-- Make a data file with the given columns. -/
def openTable (path : String) (columns : List Channel) : Risky Nat := do
  match ← ask (.create path) with
  | .error cause => throw (.storage cause)
  | .ok (file : Nat) =>
    log .fileCreated
    appendRows file (Table.header columns)
    pure file

/-- Prepare what a protocol needs and give the job that runs it. -/
def prepareJob {I : Interface} (site : Site I) (tuning : Tuning) (paths : DataPaths)
    (token : Nat) : Protocol → Risky Job
  | .differential plan => do
    let file ← openTable paths.trace Table.traceColumns
    let _ ← actOrFail (.prepare .differential)
    let _ ← actOrFail (.armSweep plan)
    pure (.supervision ⟨plan, token, file⟩)
  | .stepped sweep => do
    let layout := site.layout .stepped
    let samples ← openTable paths.samples (Table.sampleColumns layout)
    let aggregates ← openTable paths.aggregates (Table.aggregateColumns sweep.parameter layout)
    ticking .stepped samples (some aggregates) (some sweep)
  | .continuous => plain .continuous
  | .autoscan => plain .autoscan
where
  /-- The job of a loop of ticks, once the site is ready for it. -/
  ticking (mode : Mode) (samples : Nat) (aggregates : Option Nat) (sweep : Option (Sweep Float)) :
      Risky Job := do
    let _ ← actOrFail (.prepare mode)
    pure (.ticking
      { tuning, mode, token, samples, aggregates
        lockins := site.lockins
        overload := .start site.lockins tuning.overloadThreshold tuning.autorange
        ledger := .start (site.layout mode).length sweep
        attempted := 0
        origin := none })
  /-- Sampling without steps. -/
  plain (mode : Mode) : Risky Job := do
    let samples ← openTable paths.samples (Table.sampleColumns (site.layout mode))
    ticking mode samples none none

/-- Prepare an acquisition and start its job. -/
def startAcquisition {I : Interface} (site : Site I) (tuning : Tuning) (name : String)
    (protocol : Protocol) : Risky Acquisition := do
  let mode := protocol.mode
  let paths := DataPaths.of tuning.dataDir tuning.sample name (← ask .calendar)
  let token : Nat ← ask .newToken
  log (.startingAcquisition name mode)
  let job ← prepareJob site tuning paths token protocol
  let number : Nat ← ask (.spawn job)
  pure ⟨number, token, name, mode, site.layout mode, paths⟩

/-- Stop an acquisition and wait for its end, for some time at most; whether it ended. -/
def Acquisition.stop (a : Acquisition) (limit : Duration) : Working Bool := do
  ask (.fire a.token)
  match ← ask (.join a.job ((← now).later? limit)) with
  | some _ =>
    log (.acquisitionStopped a.name)
    pure true
  | none =>
    log (.acquisitionOverran limit)
    pure false

end CryoRig.Control
