import CryoRig.Fault
import CryoRig.Sampling.Paths
import CryoRig.Sampling.TickLoop
import CryoRig.Script.Plan

/-!
# What runs in the background

A program, the sampling of an acquisition and the supervision of a differential sweep run beside
whatever the user is doing. Each goes round in turns; what it has to remember from one turn to the
next is data.

## Main definitions

* `CryoRig.Control.Acquisition`: what is known of an acquisition that was started.
* `CryoRig.Control.Conduct`: how programs are run.
* `CryoRig.Control.ProgramRun`, `Ticking`, `Supervision`: the three kinds of job between turns.
* `CryoRig.Control.Job`, `CryoRig.Control.Ending`: any job, and what comes of it.
-/

namespace CryoRig.Control

/-- What is known of an acquisition that was started. -/
structure Acquisition where
  /-- The job that samples. -/
  job : Nat
  /-- The token that stops it. -/
  token : Nat
  /-- Its name. -/
  name : String
  /-- The mode in which channels are read. -/
  mode : Mode
  /-- The channels. -/
  layout : Layout
  /-- Its files. -/
  paths : Sampling.DataPaths
  deriving DecidableEq, Repr

/-- How programs are run. -/
structure Conduct where
  /-- The console they are run from. -/
  console : Nat
  /-- How often it is looked whether something has settled. -/
  poll : Duration
  /-- How long an acquisition may take to stop. -/
  stopLimit : Duration
  /-- The settings of acquisitions. -/
  tuning : Sampling.Tuning

/-- Where a program is between two turns. -/
inductive Phase where
  /-- The text of the script is not announced yet. -/
  | opening (announcements : List Event)
  /-- A line is next. -/
  | between
  /-- Time has to pass until a moment, if the clock reaches it. -/
  | sleeping (until? : Option Instant)
  /-- Something has to settle. -/
  | settling (what : Script.Awaited)

/-- A program between two turns. -/
structure ProgramRun where
  /-- How it is run. -/
  conduct : Conduct
  /-- The token that cancels it. -/
  token : Nat
  /-- Where it is. -/
  phase : Phase
  /-- The number of the line it is at. -/
  line : Nat
  /-- The lines that are left. -/
  lines : List Script.Line
  /-- The settings the lines so far left behind. -/
  config : Script.RunConfig
  /-- The expected duration of the lines so far. -/
  sum : Float

/-- The sampling of an acquisition between two ticks. -/
structure Ticking where
  /-- The settings of acquisitions. -/
  tuning : Sampling.Tuning
  /-- The mode in which channels are read. -/
  mode : Mode
  /-- The number of lock-ins. -/
  lockins : Nat
  /-- The token that stops it. -/
  token : Nat
  /-- The file of the samples. -/
  samples : Nat
  /-- The file of the aggregates. -/
  aggregates : Option Nat
  /-- The counters of overloads. -/
  overload : Sampling.OverloadMonitor
  /-- The samples and the sweep. -/
  ledger : Sampling.Ledger
  /-- How many ticks there were. -/
  attempted : Nat
  /-- When the first tick was, in milliseconds of the clock. -/
  origin : Option Nat

/-- The supervision of a differential sweep. -/
structure Supervision where
  /-- The sweep. -/
  plan : DeltaPlan
  /-- The token that stops it. -/
  token : Nat
  /-- The file of the trace. -/
  file : Nat

/-- A job between two turns. -/
inductive Job where
  | program (run : ProgramRun)
  | ticking (state : Ticking)
  | supervision (state : Supervision)

/-- What comes of a job. -/
inductive Ending where
  /-- A program ended, with its expected duration or a fault. -/
  | program (result : Except Fault Float)
  /-- Sampling ended. -/
  | acquisition

end CryoRig.Control
