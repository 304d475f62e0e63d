import CryoRig.Settings.Rig

/-!
# The settings of the log

## Main definitions

* `CryoRig.Settings.LogSettings`: level and format, with what else a log line may show.
* `CryoRig.Settings.LogSettings.read`: the settings with a given level and format.

## Main results

* `CryoRig.Settings.LogSettings.read_names`: every level and format is found under its name.
-/

namespace CryoRig.Settings

/-- The settings of the log. -/
structure LogSettings where
  /-- How important an event has to be. -/
  level : LogLevel
  /-- How lines look. -/
  format : LogFormat
  /-- Whether the beginning and the end of a piece of work are logged. -/
  spanEvents : Bool
  /-- Whether the place in the program is shown. -/
  fileAndLine : Bool
  /-- Whether threads are named. -/
  threadNames : Bool
  /-- Whether lines are coloured. -/
  ansi : Bool
  deriving DecidableEq, Repr

/-- Why there are no such settings. -/
inductive LogFault where
  | badLevel (level : String)
  | badFormat (format : String)
  deriving DecidableEq, Repr

/-- The wording of a fault. -/
def LogFault.message : LogFault → String
  | badLevel level =>
    "Invalid log level '" ++ level ++ "'. Must be one of: " ++ LogLevel.listing
  | badFormat format =>
    "Invalid log format '" ++ format ++ "'. Must be one of: " ++ LogFormat.listing

namespace LogSettings

/-- The settings with a given level. -/
def ofLevel (level : LogLevel) : LogSettings := ⟨level, .pretty, false, false, false, true⟩

/-- The level with a given name in any case. -/
def readLevel (s : String) : Except LogFault LogLevel :=
  let lower := s.toLower
  (LogLevel.all.find? fun l => l.name == lower).elim (.error (.badLevel s)) .ok

/-- The format with a given name in any case. -/
def readFormat (s : String) : Except LogFault LogFormat :=
  let lower := s.toLower
  (LogFormat.all.find? fun f => f.name == lower).elim (.error (.badFormat s)) .ok

/-- The settings with a given level and format. -/
def read (level format : String) : Except LogFault LogSettings := do
  let level ← readLevel level
  pure { ofLevel level with format := ← readFormat format }

/-- The settings of the log of a rig. -/
def ofRig (r : Rig) : Except LogFault LogSettings :=
  read r.application.logLevel r.application.logFormat

theorem readLevel_name (level : LogLevel) : readLevel level.name = .ok level := by
  simp only [readLevel, level.toLower_name, level.find_name]
  rfl

theorem readFormat_name (format : LogFormat) : readFormat format.name = .ok format := by
  simp only [readFormat, format.toLower_name, format.find_name]
  rfl

/-- Every level and format is found under its name. -/
theorem read_names (level : LogLevel) (format : LogFormat) :
    read level.name format.name = .ok { ofLevel level with format := format } := by
  simp only [read, readLevel_name, readFormat_name]
  rfl

end LogSettings

end CryoRig.Settings
