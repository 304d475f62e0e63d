import CryoRig.Control.Report
import CryoRig.Control.Work
import CryoRig.Files
import CryoRig.Site.Bench
import CryoRig.Transport.Attachment

/-!
# The rig as it stands

Everything that a rig remembers between two requests: the clock, the instruments on the bus and
who holds it, tokens, jobs, files, the journal, and the places that programs and sessions share.

One thing runs at a time, either the user's own work, in the *foreground*, or a job. It goes on
until it asks for something that is not there yet; then it waits, and something else runs.

## Main definitions

* `CryoRig.Rig.Party`: who runs or waits.
* `CryoRig.Rig.Waiting`, `CryoRig.Rig.JobStatus`: work that waits, and jobs.
* `CryoRig.Rig.State`: the rig.
* `CryoRig.Rig.State.report`: its status report.

## Main results

* `CryoRig.Rig.Desk.holder_leave`: a place goes to whoever has waited longest.
-/

namespace CryoRig.Rig

open Control

/-- Who runs or waits. -/
inductive Party where
  | foreground
  | job (number : Nat)
  deriving DecidableEq, Repr

/-- A place that one party has at a time; the others wait in a line. -/
structure Desk where
  /-- Who has it. -/
  holder : Option Party
  /-- Who waits for it, the next one first. -/
  line : List Party
  deriving DecidableEq, Repr

namespace Desk

/-- Nobody has it. -/
def free : Desk := ⟨none, []⟩

/-- Take the place, or join the line. -/
def arrive (d : Desk) (p : Party) : Desk :=
  match d.holder with
  | none => ⟨some p, d.line⟩
  | some _ => { d with line := d.line ++ [p] }

/-- Give the place to the next in the line. -/
def leave (d : Desk) : Desk :=
  match d.line with
  | [] => ⟨none, []⟩
  | next :: rest => ⟨some next, rest⟩

/-- Stop waiting in the line. -/
def giveUp (d : Desk) (p : Party) : Desk := { d with line := d.line.filter (· ≠ p) }

/-- Whoever arrives has the place or waits for it. -/
theorem holder_arrive_or_mem_line (d : Desk) (p : Party) :
    (d.arrive p).holder = some p ∨ p ∈ (d.arrive p).line := by
  cases h : d.holder <;> simp [arrive, h]

/-- Whoever has the place keeps it while others arrive. -/
theorem holder_arrive {d : Desk} {q : Party} (h : d.holder = some q) (p : Party) :
    (d.arrive p).holder = some q := by
  simp [arrive, h]

/-- The place goes to whoever has waited longest. -/
theorem holder_leave (d : Desk) : d.leave.holder = d.line.head? := by
  cases h : d.line <;> simp [leave, h]

/-- Whoever has the place keeps it while others stop waiting. -/
theorem holder_giveUp (d : Desk) (p : Party) : (d.giveUp p).holder = d.holder := rfl

end Desk

/-- How a command was sent. -/
inductive Sending where
  | write
  | query
  deriving DecidableEq, Repr

/-- A command that was sent over the bus. -/
structure Transaction where
  /-- The milliseconds the clock showed. -/
  time : Nat
  /-- The instrument. -/
  id : String
  /-- How it was sent. -/
  sending : Sending
  /-- The command. -/
  command : String
  deriving DecidableEq, Repr

/-- Something that was reported. -/
structure Entry where
  /-- The milliseconds the clock showed. -/
  time : Nat
  /-- Who reported it. -/
  origin : Party
  /-- What was reported. -/
  event : Event

/-- A file that is being written. -/
structure Writer where
  /-- Its path. -/
  path : String
  /-- Where the next text goes, in bytes from its start. -/
  offset : Nat
  deriving DecidableEq, Repr

/-- Work that waits for the reply to a request. -/
structure Waiting (β : Type) where
  /-- What was asked for. -/
  request : Request
  /-- How it goes on. -/
  next : request.Reply → RigWork β
  /-- When a timer wakes it, in milliseconds of the clock. -/
  alarm : Option Nat
  /-- How many waits began before it. -/
  rank : Nat

/-- A job. -/
inductive JobStatus where
  /-- It can go on. -/
  | running (work : RigWork (Turn Job Ending))
  /-- It waits. -/
  | waiting (wait : Waiting (Turn Job Ending))
  /-- It has ended. -/
  | ended (ending : Ending)

/-- Where programs are run from. -/
structure Console where
  /-- The published state of the program. -/
  published : ProgramState
  /-- The acquisition in the slot. -/
  slot : Option Acquisition
  deriving DecidableEq, Repr

/-- A console that nothing was run from. -/
def Console.blank : Console := ⟨.idle, none⟩

/-- The rig. -/
structure State where
  /-- The milliseconds the clock shows. -/
  clock : Nat
  /-- The minute of the calendar. -/
  calendar : Calendar
  /-- Which tokens were fired. -/
  tokens : Array Bool
  /-- All jobs so far. -/
  jobs : Array JobStatus
  /-- The jobs that can go on, the next one first. -/
  ready : List Nat
  /-- How many waits have begun. -/
  waits : Nat
  /-- Who holds the bus. -/
  bus : Desk
  /-- The instruments on the bus. -/
  attached : List (String × Transport.Attachment)
  /-- What was sent over the bus, the latest first. -/
  traffic : List Transaction
  /-- The bench. -/
  bench : Site.Bench
  /-- What was reported, the latest first. -/
  journal : List Entry
  /-- Directories and files. -/
  files : FileStore
  /-- The files that are being written. -/
  writers : Array Writer
  /-- What is on each console. -/
  consoles : List Console
  /-- The latest sample of each acquisition, by the token that stops it. -/
  latest : List (Nat × Sample)
  /-- Who has the program desk. -/
  desk : Desk
  /-- The job of the program on the desk. -/
  program : Option Nat
  /-- The token of the program that was started last. -/
  programToken : Nat

namespace State

/-- A rig that was just set up. Token zero belongs to no program. -/
def initial (calendar : Calendar) : State where
  clock := 0
  calendar := calendar
  tokens := #[false]
  jobs := #[]
  ready := []
  waits := 0
  bus := .free
  attached := []
  traffic := []
  bench := .initial
  journal := []
  files := .empty
  writers := #[]
  consoles := []
  latest := []
  desk := .free
  program := none
  programToken := 0

/-- Attach an instrument, instead of one with the same name. -/
def attach (s : State) (id : String) (a : Transport.Attachment) : State :=
  { s with attached := (id, a) :: s.attached.filter fun x => x.1 ≠ id }

/-- Whether a token was fired. -/
def isFired (s : State) (token : Nat) : Bool := s.tokens[token]?.getD false

/-- The jobs that wait, with their numbers, `first` being that of the first one. -/
def waitingFrom (first : Nat) : List JobStatus → List (Nat × Waiting (Turn Job Ending))
  | [] => []
  | .waiting w :: rest => (first, w) :: waitingFrom (first + 1) rest
  | _ :: rest => waitingFrom (first + 1) rest

/-- The jobs that wait, with their numbers. -/
def waiting (s : State) : List (Nat × Waiting (Turn Job Ending)) := waitingFrom 0 s.jobs.toList

/-- What came of a job, if it has ended. -/
def ending? (s : State) (job : Nat) : Option Ending :=
  match s.jobs[job]? with
  | some (.ended ending) => some ending
  | _ => none

/-- The latest sample of an acquisition. -/
def latestSample (s : State) (a : Acquisition) : Option Sample := s.latest.lookup a.token

/-- What is on a console. -/
def console (s : State) (number : Nat) : Console := s.consoles[number]?.getD .blank

/-- Change what is on a console. -/
def setConsole (s : State) (number : Nat) (c : Console) : State :=
  let room := s.consoles ++ List.replicate (number + 1 - s.consoles.length) Console.blank
  { s with consoles := room.set number c }

/-- The status report of a console. -/
def report (s : State) (number : Nat) : Report :=
  let c := s.console number
  match c.slot with
  | some a =>
    if (s.ending? a.job).isSome then .idle c.published.text
    else .of c.published.text a.layout (s.latestSample a)
  | none => .idle c.published.text

end State

end CryoRig.Rig
