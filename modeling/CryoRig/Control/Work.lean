import CryoRig.Control.Job
import CryoRig.Instrument.Bus
import CryoRig.Script.State

/-!
# What running a rig asks for

Programs, acquisitions and sessions are processes too. They ask the site for actions, and the rig
for everything else: time, tokens, background jobs, files, and the few places that all of them
share.

Programs are run from a *console*. It shows the state of the program, and it has a slot for the one
acquisition that its programs may have running.

A token is fired once and stays so. A pause under a token ends early when the token is fired.

## Main definitions

* `CryoRig.Control.Request`: what the rig is asked for, with `CryoRig.Control.RigSurroundings`.
* `CryoRig.Control.RigWork`: work that asks for the rig alone.
* `CryoRig.Control.Working`: work that also asks the site for actions.
* `CryoRig.Control.carryOut`: the same work with every action carried out by a given site.
-/

namespace CryoRig.Control

/-- What the rig is asked for. -/
inductive Request where
  /-- What a driver may ask for. -/
  | device (r : Instrument.Request)
  /-- What is asked of the bench. -/
  | bench (a : Action)
  /-- The milliseconds the clock shows. -/
  | clock
  /-- The minute of the calendar. -/
  | calendar
  /-- A new token. -/
  | newToken
  /-- Fire a token. -/
  | fire (token : Nat)
  /-- Whether a token was fired. -/
  | fired (token : Nat)
  /-- Let time pass unless a token is fired; whether it passed. -/
  | pause (token : Nat) (span : Duration)
  /-- Start a job in the background. -/
  | spawn (job : Job)
  /-- Whether a job has ended. -/
  | ended (job : Nat)
  /-- Wait for a job to end, up to some moment if one is given; `none` if it did not. -/
  | join (job : Nat) (limit : Option Instant)
  /-- Publish the state of the program on a console. -/
  | publish (console : Nat) (state : ProgramState)
  /-- The state that was published last on a console. -/
  | published (console : Nat)
  /-- Show the latest sample of the acquisition that a token stops. -/
  | present (token : Nat) (sample : Sample)
  /-- Make an empty file, with the directories it lies in. -/
  | create (path : String)
  /-- Write at the end of what was written to a file. -/
  | append (file : Nat) (text : String)
  /-- The acquisition in the slot of a console. -/
  | slot (console : Nat)
  /-- Put an acquisition into the slot of a console, or none. -/
  | setSlot (console : Nat) (acquisition : Option Acquisition)
  /-- Take the program desk if it is free; whether it was. -/
  | tryDesk
  /-- Wait until the program desk is free and take it, up to some moment if one is given; whether
  it was taken. -/
  | takeDesk (limit : Option Instant)
  /-- Give the program desk back. -/
  | leaveDesk
  /-- The job of the program on the desk. -/
  | program
  /-- Put the job of a program on the desk, or none. -/
  | setProgram (job : Option Nat)
  /-- The token of the program that was started last. -/
  | programToken
  /-- Note the token of a program. -/
  | setProgramToken (token : Nat)

/-- What comes back. -/
def Request.Reply : Request → Type
  | device r => r.Reply
  | bench a => a.Outcome
  | clock | newToken | spawn _ | programToken => Nat
  | calendar => Calendar
  | fired _ | pause .. | ended _ | tryDesk | takeDesk _ => Bool
  | join .. => Option Ending
  | published _ => ProgramState
  | create _ => Except StorageFault Nat
  | append .. => Except StorageFault Unit
  | slot _ => Option Acquisition
  | program => Option Nat
  | fire _ | publish .. | present .. | setSlot .. | leaveDesk | setProgram _ | setProgramToken _ =>
    Unit

/-- What the rig can be asked for. -/
def RigSurroundings : Interface := ⟨Request, Request.Reply⟩

/-- Work that asks for nothing but the rig. -/
abbrev RigWork := Process RigSurroundings

/-- What work asks for: the rig, or an action of the site. -/
inductive WorkRequest where
  | rig (r : Request)
  | act (a : Action)

/-- What comes back. -/
def WorkRequest.Reply : WorkRequest → Type
  | rig r => r.Reply
  | act a => a.Outcome

/-- What work can ask for. -/
def WorkSurroundings : Interface := ⟨WorkRequest, WorkRequest.Reply⟩

/-- Work on the rig and its site. -/
abbrev Working := Process WorkSurroundings

/-- Work that may fail. -/
abbrev Risky := ExceptT Fault Working

/-- Ask the rig for something. -/
def ask (r : Request) : Working r.Reply := Process.request (I := WorkSurroundings) (.rig r)

/-- Ask the site for an action. -/
def act (a : Action) : Working a.Outcome := Process.request (I := WorkSurroundings) (.act a)

/-- Report something. -/
def log (event : Event) : Working Unit := ask (.device (.log event))

/-- Report several things. -/
def logAll : List Event → Working Unit
  | [] => pure ()
  | event :: rest => do
    log event
    logAll rest

/-- The milliseconds the clock shows. -/
def clock : Working Nat := ask .clock

/-- The moment the clock shows. -/
def now : Working Instant := do pure (.ofMillis (← clock))

/-- Whether a token was fired. -/
def fired (token : Nat) : Working Bool := ask (.fired token)

/-- Let time pass unless a token is fired; whether it passed. -/
def pause (token : Nat) (span : Duration) : Working Bool := ask (.pause token span)

/-- Whether a job has ended. -/
def ended (job : Nat) : Working Bool := ask (.ended job)

/-- The acquisition in the slot of a console. -/
def slot (console : Nat) : Working (Option Acquisition) := ask (.slot console)

/-- Put an acquisition into the slot of a console, or none. -/
def setSlot (console : Nat) (acquisition : Option Acquisition) : Working Unit :=
  ask (.setSlot console acquisition)

/-- Publish the state of the program on a console. -/
def publish (console : Nat) (state : ProgramState) : Working Unit :=
  ask (.publish console state)

/-- An action whose failure is a fault. -/
def actOrFail (a : Action) : Risky a.Result := ExceptT.mk do
  match ← act a with
  | .ok result => pure (.ok result)
  | .error fault => pure (.error (.device fault))

/-! ## Sites -/

/-- A driver's request, put to the rig. -/
def ofDriver (r : Instrument.Request) : RigWork r.Reply :=
  Process.request (I := RigSurroundings) (.device r)

/-- A driver's work, put to the rig. -/
def drive {α : Type} (work : Instrument.Driving α) : RigWork (Except DeviceFault α) :=
  work.run.translate ofDriver

/-- A request to the bench, put to the rig. -/
def ofBench (a : Action) : RigWork a.Outcome := Process.request (I := RigSurroundings) (.bench a)

/-- A request of work, with actions carried out by a site. -/
def ofWork (site : Site RigSurroundings) : (r : WorkRequest) → RigWork r.Reply
  | .rig r => Process.request (I := RigSurroundings) r
  | .act a => site.perform a

/-- Work with every action carried out by a site. -/
def carryOut {α : Type} (site : Site RigSurroundings) (work : Working α) : RigWork α :=
  work.translate (ofWork site)

end CryoRig.Control
