import CryoRig.CommandLine.Arguments
import CryoRig.CommandLine.Failure
import CryoRig.Rig.Schedule
import CryoRig.Rig.Setup
import CryoRig.Settings.Validity

/-!
# What comes of a command line

The settings are loaded, the log is set up, the script is read and the rig is set up; then the
script is checked or run. The first of these that fails ends it. Whoever runs a script that leaves
an acquisition running has to interrupt the program; that is taken to happen at once.

## Main definitions

* `CryoRig.CommandLine.Workplace`: where a command line is given.
* `CryoRig.CommandLine.Outcome`: the exit code, the report of a failure, and the rig afterwards.
* `CryoRig.CommandLine.carryOut`: what comes of a command line.

## Main results

* `CryoRig.CommandLine.code_ofFailure`: whatever fails is reported and gives the code one.
-/

namespace CryoRig.CommandLine

open Control

/-! ## The log -/

/-- Whether events of a given importance are logged. -/
def admits (log : Settings.LogSettings) (level : Level) : Bool :=
  match log.level, level with
  | .error, .error => true
  | .error, _ => false
  | .warn, .info => false
  | _, _ => true

/-- Whether an entry is marked as that of a job. A mark is no more important than news, so a log
that leaves out news has no marks. -/
def marks (log : Settings.LogSettings) (e : Rig.Entry) : Bool :=
  admits log .info && e.origin != .foreground

/-! ## Work -/

/-- Whether an acquisition is running on a console. -/
def acquisitionRuns (console : Nat) : Working Bool := do
  match ← slot console with
  | some a => ended a.job >>= fun e => pure !e
  | none => pure false

/-- Run a script to its end, then stop whatever is left. -/
def runScript (s : SessionSettings) (text : String) : Risky Unit := do
  Session.start s text
  match ← ExceptT.lift Session.wait.run with
  | .error fault => log (.programFailed fault)
  | .ok _ => pure ()
  if ← acquisitionRuns s.conduct.console then log .acquisitionKeepsRunning
  Session.stop s
  log .applicationFinished

/-- What is to be done with the text of a script. -/
def Purpose.work (p : Purpose) (s : SessionSettings) (text : String) : Risky Unit :=
  match p with
  | check => do
    let _ ← Session.check s.conduct.console text
  | run => runScript s text

/-! ## Outcomes -/

/-- Where a command line is given. -/
structure Workplace where
  /-- The files below the working directory. -/
  files : FileStore
  /-- The environment variables. -/
  environment : List (String × String)
  /-- What instruments are reached over. -/
  network : Transport.Network
  /-- The minute of the calendar. -/
  calendar : Calendar

/-- What comes of a command line. -/
structure Outcome where
  /-- The exit code. -/
  code : Nat
  /-- The lines of the report if something failed. -/
  report : List String
  /-- How the log is kept, once that is settled. -/
  log : Option Settings.LogSettings
  /-- The rig afterwards. -/
  rig : Rig.State

namespace Outcome

/-- The outcome of a failure. -/
def ofFailure (failure : Failure) (log : Option Settings.LogSettings) (rig : Rig.State) : Outcome :=
  ⟨1, failure.report, log, rig⟩

/-- What is logged, the earliest first. -/
def logged (o : Outcome) : List Rig.Entry :=
  match o.log with
  | none => []
  | some log => o.rig.journal.reverse.filter fun e => admits log e.event.level

/-- Whatever fails is reported and gives the code one. -/
theorem code_ofFailure (failure : Failure) (log : Option Settings.LogSettings) (rig : Rig.State) :
    (ofFailure failure log rig).code = 1 ∧ (ofFailure failure log rig).report = failure.report :=
  ⟨rfl, rfl⟩

end Outcome

/-- The settings at a path, with variables laid over them. -/
def Workplace.settings (w : Workplace) (path : String) : Except Failure Settings.Rig :=
  match Settings.Rig.load (w.files.read path).toOption w.environment with
  | .ok settings => .ok settings
  | .error problem => .error (.settings path (Settings.Variables.read w.environment) problem)

/-- Settings that make sense, and how the log is kept. -/
def Workplace.prepare (w : Workplace) (path : String) :
    Except Failure (Settings.Rig × Settings.LogSettings) := do
  let settings ← w.settings path
  settings.validate.mapError fun o => .fault (.objection o)
  let log ← (Settings.LogSettings.ofRig settings).mapError .log
  pure (settings, log)

/-- Carry out an order; `none` if that does not come to an end. -/
def Order.carryOut (o : Order) (w : Workplace) : Option Outcome :=
  let s : Rig.State := { Rig.State.initial w.calendar with files := w.files }
  match w.prepare o.config with
  | .error failure => some (.ofFailure failure none s)
  | .ok (settings, log) =>
    let s := s.note .foreground (.applicationStarted o.config)
    match w.files.read o.script with
    | .error cause => some (.ofFailure (.script o.script cause) log s)
    | .ok text =>
      match s.setUp w.network settings with
      | (.error fault, s) => some (.ofFailure (.fault fault) log s)
      | (.ok _, s) =>
        let site := settings.facility.site.translate ofDriver
        let work := o.purpose.work (settings.session 0) text
        (Rig.run site s (Control.carryOut site work.run)).map fun
          | (.error fault, s) => .ofFailure (.fault fault) log s
          | (.ok _, s) => ⟨0, [], log, s⟩

/-- What comes of a command line; `none` if it does not come to an end. -/
def carryOut (w : Workplace) (arguments : List String) : Option Outcome :=
  let s := Rig.State.initial w.calendar
  match Invocation.read? arguments with
  | none => some ⟨2, [], none, s⟩
  | some .help => some ⟨0, [], none, s⟩
  | some (.order o) => o.carryOut w

end CryoRig.CommandLine
