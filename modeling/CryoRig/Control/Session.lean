import CryoRig.Control.Program

/-!
# Sessions

A session lets one program run at a time. The program that was started last lies on a desk that
only one caller has at a time: whoever waits for the program keeps the desk meanwhile, so nobody
else starts one.

## Main definitions

* `CryoRig.Control.SessionSettings`: the time limits of a session, and how it runs programs.
* `CryoRig.Control.Session.check`: check a script.
* `CryoRig.Control.Session.start`, `wait`, `stop`: start a program, wait for its end, stop it.
-/

namespace CryoRig.Control

/-- The settings of a session. -/
structure SessionSettings where
  /-- How programs are run. -/
  conduct : Conduct
  /-- How long a program may take to stop. -/
  programStopLimit : Duration

namespace Session

/-- Programs of more seconds than this end after the last day of the calendar. -/
def calendarSeconds : Float := 8.2e12

/-- Check the script with a given text, and report how long it would take. -/
def check (console : Nat) (text : String) : Risky Float := do
  let seconds ← checkScript console (Script.load text)
  log (.estimate seconds)
  if calendarSeconds < seconds then log .finishUnknown
  pure seconds

/-- Whether the program on the desk is still running. -/
def programActive : Working Bool := do
  match ← ask .program with
  | some (job : Nat) => ended job >>= fun e => pure !e
  | none => pure false

/-- Check a script and start it; the desk is taken. -/
def startAtDesk (s : SessionSettings) (text : String) : Risky Unit := do
  if ← programActive then throw (.state .programRunning)
  let _ ← check s.conduct.console text
  let token : Nat ← ask .newToken
  ask (.setProgramToken token)
  let run := ProgramRun.start s.conduct token (Script.load text)
  let job : Nat ← ask (.spawn (.program run))
  ask (.setProgram (some job))
  log .programStarted

/-- Check a script and start it, unless a program is running. -/
def start (s : SessionSettings) (text : String) : Risky Unit := ExceptT.mk do
  let free : Bool ← ask .tryDesk
  if free then
    let result ← (startAtDesk s text).run
    ask .leaveDesk
    pure result
  else pure (.error (.state .programRunning))

/-- The result of a program, if the job was one. -/
def programResult : Option Ending → Except Fault (Option Float)
  | some (.program result) => result.map some
  | _ => .ok none

/-- Wait for the job on the desk to end and take its result; the desk is taken, and left. -/
def collect (job : Nat) : Risky (Option Float) := ExceptT.mk do
  let ending ← ask (.join job none)
  ask (.setProgram none)
  ask .leaveDesk
  pure (programResult ending)

/-- Wait for the program to end: its expected duration, or `none` if there is no program. -/
def wait : Risky (Option Float) := ExceptT.mk do
  let _ ← ask (.takeDesk none)
  match ← ask .program with
  | none =>
    ask .leaveDesk
    pure (.ok none)
  | some (job : Nat) => (collect job).run

/-- Wait for the program while another script is to be started. Whichever is possible first is
done first: with no program running the wait is over at once, otherwise the start is refused. -/
def waitAndStart (s : SessionSettings) (text : String) :
    Working (Except Fault (Option Float) × Except Fault Unit) := do
  let _ ← ask (.takeDesk none)
  match ← ask .program with
  | none =>
    ask .leaveDesk
    let started ← (start s text).run
    pure (.ok none, started)
  | some (job : Nat) =>
    if ← ended job then
      let waited ← (collect job).run
      let started ← (start s text).run
      pure (waited, started)
    else
      let started ← (start s text).run
      let waited ← (collect job).run
      pure (waited, started)

/-- Take the program off the desk and wait for its end, up to a moment; whether that was in time. -/
def stopProgram (limit : Option Instant) : Working Bool := do
  let taken : Bool ← ask (.takeDesk limit)
  if taken then
    let job? : Option Nat ← ask .program
    ask (.setProgram none)
    let inTime : Bool ← match job? with
      | none => pure true
      | some job => do
        let ending : Option Ending ← ask (.join job limit)
        pure ending.isSome
    ask .leaveDesk
    pure inTime
  else pure false

/-- Cancel the program, then stop the acquisition; neither wait is longer than its limit. -/
def stop (s : SessionSettings) : Working Unit := do
  let token : Nat ← ask .programToken
  ask (.fire token)
  log .stoppingProgram
  let inTime ← stopProgram ((← now).later? s.programStopLimit)
  if !inTime then log .programOverran
  let a? ← slot s.conduct.console
  setSlot s.conduct.console none
  if let some a := a? then
    log (.waitingForAcquisitionStop s.conduct.stopLimit)
    let _ ← a.stop s.conduct.stopLimit
  log .sessionStopped

end Session

end CryoRig.Control
