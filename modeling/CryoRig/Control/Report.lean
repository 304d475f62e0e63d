import CryoRig.Quantity

/-!
# Status reports

What a status page shows: whether an acquisition is running, what the program is doing, and the
latest sample by channel.

## Main definitions

* `CryoRig.Control.Report`: a report, and `CryoRig.Control.Report.of` for a running acquisition.
* `CryoRig.Control.Report.flat`: the same as one list of entries.

## Main results

* `CryoRig.Control.Report.names_of`: a report on an acquisition names its channels in order.
-/

namespace CryoRig.Control

/-- A status report. -/
structure Report where
  /-- Whether an acquisition is running, in words. -/
  message : String
  /-- What the program is doing, in words. -/
  program : String
  /-- The latest reading of each channel. -/
  channels : List (String × Option Float)

namespace Report

/-- What is said while an acquisition is running. -/
def running : String := "Experiment running"

/-- What is said otherwise. -/
def stopped : String := "Experiment stopped"

/-- The readings of a sample by channel, starting at place `index`. -/
def readings (latest : Option Sample) (index : Nat) : Layout → List (String × Option Float)
  | [] => []
  | c :: rest =>
    (c.name, latest.bind fun x => x.values[index]?.join) :: readings latest (index + 1) rest

/-- The report while an acquisition with the given channels is running. -/
def of (program : String) (layout : Layout) (latest : Option Sample) : Report :=
  ⟨running, program, readings latest 0 layout⟩

/-- The report while no acquisition is running. -/
def idle (program : String) : Report := ⟨stopped, program, []⟩

/-- An entry of a flat report. -/
inductive Entry where
  | text (value : String)
  | reading (value : Option Float)

/-- Set an entry; an entry of the same name is replaced. -/
def setEntry (name : String) (entry : Entry) : List (String × Entry) → List (String × Entry)
  | [] => [(name, entry)]
  | (n, e) :: rest => if n = name then (name, entry) :: rest else (n, e) :: setEntry name entry rest

/-- A report as one list of entries; channels come last and win. -/
def flat (r : Report) : List (String × Entry) :=
  r.channels.foldl (fun entries (name, value) => setEntry name (.reading value) entries)
    [("message", .text r.message), ("program", .text r.program)]

/-- A report on an acquisition names its channels in order. -/
theorem names_of (program : String) (layout : Layout) (latest : Option Sample) :
    (of program layout latest).channels.map Prod.fst = layout.names := by
  have (index : Nat) : (readings latest index layout).map Prod.fst = layout.names := by
    induction layout generalizing index with
    | nil => rfl
    | cons c rest ih => simpa [readings, Layout.names] using ih (index + 1)
  exact this 0

end Report

end CryoRig.Control
