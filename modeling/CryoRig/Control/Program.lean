import CryoRig.Control.Sampling

/-!
# Programs

A check goes through the plans of all lines and touches nothing but the published state. A run
goes through the same plans and does what they say, line by line. It looks at its token before
every line and in every wait; once the token is fired no further line is begun.

## Main definitions

* `CryoRig.Control.checkScript`: check a script.
* `CryoRig.Control.ProgramRun.start`: a program before its first turn.
* `CryoRig.Control.ProgramRun.turn`: take up a line, or look whether a wait is over.
-/

namespace CryoRig.Control

open Script

/-! ## Checking -/

/-- Check a script on a console: its expected duration in seconds. -/
def checkScript (console : Nat) (s : Script) : Risky Float := do
  let previous : ProgramState ← ask (.published console)
  publish console .checking
  logAll (announce s)
  let (events, result) := rehearse .empty 0 s.program
  logAll events
  match result with
  | .ok seconds =>
    publish console previous
    pure seconds
  | .error fault =>
    publish console .failed
    throw (.line fault)

/-! ## The acquisition in the slot -/

/-- Whether the acquisition in the slot is still running. One that has ended is taken out. -/
def acquisitionActive (console : Nat) : Working Bool := do
  match ← slot console with
  | none => pure false
  | some a =>
    if ← ended a.job then
      log (.acquisitionFinished a.name)
      setSlot console none
      pure false
    else pure true

/-- Start an acquisition into the slot, unless one is running there. -/
def startInSlot {I : Interface} (site : Site I) (console : Nat) (tuning : Sampling.Tuning)
    (name : String) (protocol : Sampling.Protocol) : Risky Unit := do
  if ← acquisitionActive console then log (.startSkipped (.alreadyRunning name))
  else
    let a ← startAcquisition site tuning name protocol
    log .experimentStarted
    setSlot console (some a)

/-- Stop the acquisition in the slot, if there is one. -/
def stopInSlot (console : Nat) (limit : Duration) (line : Nat) : Working Unit := do
  let a? ← slot console
  setSlot console none
  match a? with
  | none => log (.cannotStop line .notStarted)
  | some a =>
    let _ ← a.stop limit

/-! ## Deeds -/

/-- What is reported of the result of an action. -/
def resultEvents : (a : Action) → a.Result → List Event
  | .stepExcitation direction, (next : Option Nat) =>
    [match next with
      | some excitation => .excitationChanged direction excitation
      | none => .excitationAtLimit direction]
  | .stepRange channel direction, (next : Option Nat) =>
    [match next with
      | some range => .rangeChanged channel direction range
      | none => .rangeAtLimit channel direction]
  | _, _ => []

/-- What is reported when a wait begins. -/
def awaitedEvent : Awaited → Event
  | .field => .waitingForField
  | .temperature => .waitingForTemperature
  | .acquisition => .waitingForAcquisition

/-- Do what the plan of a line says: where the program is then. -/
def perform {I : Interface} (site : Site I) (conduct : Conduct) (line : Nat) : Deed → Risky Phase
  | .nothing => pure .between
  | .start name protocol autorange => do
    let tuning := { conduct.tuning with autorange := autorange.getD conduct.tuning.autorange }
    startInSlot site conduct.console tuning name protocol
    pure .between
  | .stop => do
    stopInSlot conduct.console conduct.stopLimit line
    pure .between
  | .wait seconds => do
    log (.waiting seconds)
    let total := (Duration.ofSeconds? seconds).getD .max
    pure (.sleeping ((← now).later? total))
  | .waitFor what => do
    log (awaitedEvent what)
    pure (.settling what)
  | .act a => do
    let result ← actOrFail a
    logAll (resultEvents a result)
    pure .between

/-- Whether what is waited for is still under way. -/
def underWay (console : Nat) : Awaited → Risky Bool
  | .field => actOrFail .magnetRamping
  | .temperature => actOrFail .temperatureRamping
  | .acquisition => acquisitionActive console

/-! ## Turns -/

namespace ProgramRun

/-- A program before its first turn. -/
def start (conduct : Conduct) (token : Nat) (s : Script) : ProgramRun :=
  ⟨conduct, token, .opening (announce s), 0, s.program, .empty, 0⟩

/-- The program ends because its token was fired. -/
def interrupted (r : ProgramRun) : Working (Turn ProgramRun Ending) := do
  log .programInterrupted
  publish r.conduct.console .interrupted
  pure (.over (.program (.ok r.sum)))

/-- The program ends because of a fault on the line it is at. -/
def abort (r : ProgramRun) (fault : Fault) : Working (Turn ProgramRun Ending) := do
  log (.programAborted r.line fault)
  publish r.conduct.console .failed
  pure (.over (.program (.error fault)))

/-- The program ends after its last line. -/
def complete (r : ProgramRun) : Working (Turn ProgramRun Ending) := do
  log .programComplete
  publish r.conduct.console .complete
  pure (.over (.program (.ok r.sum)))

/-- Take up a line. -/
def begin {I : Interface} (site : Site I) (r : ProgramRun) (l : Line) (rest : List Line) :
    Working (Turn ProgramRun Ending) := do
  let r := { r with line := l.number }
  publish r.conduct.console (.running l.number)
  log l.processing
  match l.plan r.config with
  | .error fault => r.abort (.line fault)
  | .ok step =>
    logAll step.notes
    match ← (perform site r.conduct l.number step.deed).run with
    | .error fault => r.abort fault
    | .ok phase =>
      let sum := r.sum + step.charge
      pure (.again { r with phase := phase, lines := rest, config := step.config, sum := sum })

/-- The wait is over; what comes next is looked at on the next turn. -/
def resume (r : ProgramRun) : Turn ProgramRun Ending := .again { r with phase := .between }

/-- Pause for a while; the wait goes on after that unless the token was fired. -/
def pauseFor (r : ProgramRun) (span : Duration) : Working (Turn ProgramRun Ending) := do
  if ← pause r.token span then pure (.again r) else pure r.resume

/-- Take up a line, or look whether a wait is over. -/
def turn {I : Interface} (site : Site I) (r : ProgramRun) : Working (Turn ProgramRun Ending) := do
  match r.phase with
  | .opening announcements =>
    logAll announcements
    pure r.resume
  | .between =>
    match r.lines with
    | [] => if ← fired r.token then r.interrupted else r.complete
    | l :: rest => if ← fired r.token then r.interrupted else r.begin site l rest
  | .sleeping until? =>
    let t ← now
    let left := match until? with
      | some moment => moment.since t
      | none => r.conduct.poll
    if left = .zero then pure r.resume
    else if ← fired r.token then pure r.resume
    else r.pauseFor (min left r.conduct.poll)
  | .settling what =>
    match ← (underWay r.conduct.console what).run with
    | .error fault => r.abort fault
    | .ok false => pure r.resume
    | .ok true => r.pauseFor r.conduct.poll

end ProgramRun

end CryoRig.Control
