import CryoRig.Number.Print

/-!
# Where data files lie

Every acquisition has its files in a directory for the day, under a name made of the minute it was
started in, the sample and the acquisition.

## Main definitions

* `CryoRig.Calendar`: a date and a time of day, to the minute.
* `CryoRig.Sampling.DataPaths`: the files of an acquisition.
* `CryoRig.Sampling.DataPaths.of`: the files of an acquisition started at a given minute.
-/

namespace CryoRig

/-- A minute of the calendar. -/
structure Calendar where
  /-- The year; it may be negative. -/
  year : Int
  /-- The month, from one. -/
  month : Nat
  /-- The day of the month, from one. -/
  day : Nat
  /-- The hour. -/
  hour : Nat
  /-- The minute. -/
  minute : Nat
  deriving DecidableEq, Repr

namespace Calendar

/-- A year in four digits; years that do not fit have a sign. -/
def yearText (year : Int) : String :=
  let digits := Number.padded 4 year.natAbs
  if year < 0 then "-" ++ digits else if 9999 < year then "+" ++ digits else digits

/-- The day as `YYYY-MM-DD`. -/
def dayText (c : Calendar) : String :=
  yearText c.year ++ "-" ++ Number.padded 2 c.month ++ "-" ++ Number.padded 2 c.day

/-- The minute as `YYYYMMDD-HHMM`. -/
def minuteText (c : Calendar) : String :=
  yearText c.year ++ Number.padded 2 c.month ++ Number.padded 2 c.day ++ "-" ++
    Number.padded 2 c.hour ++ Number.padded 2 c.minute

end Calendar

namespace Sampling

/-- The path of something inside a directory. -/
def joinPath (directory name : String) : String :=
  if directory.isEmpty then name
  else if directory.toList.getLast? = some '/' then directory ++ name
  else directory ++ "/" ++ name

/-- The files of an acquisition. -/
structure DataPaths where
  /-- The samples. -/
  samples : String
  /-- The aggregates of a stepped sweep. -/
  aggregates : String
  /-- The trace of a differential sweep. -/
  trace : String
  deriving DecidableEq, Repr

/-- The files of the acquisition `name` of `sample`, started at `started`. -/
def DataPaths.of (dataDir sample name : String) (started : Calendar) : DataPaths :=
  let day := joinPath dataDir started.dayText
  let stem := started.minuteText ++ "-" ++ sample ++ "-" ++ name
  ⟨joinPath day (stem ++ ".txt"), joinPath day (stem ++ "-proc.txt"),
    joinPath day (stem ++ "-didv.txt")⟩

end Sampling

end CryoRig
