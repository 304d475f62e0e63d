/-!
# Levels and formats of the log

## Main definitions

* `CryoRig.Settings.LogLevel`: how important an event has to be to be logged.
* `CryoRig.Settings.LogFormat`: how log lines look.
-/

namespace CryoRig.Settings

/-- How important an event has to be. -/
inductive LogLevel where
  | trace
  | debug
  | info
  | warn
  | error
  deriving DecidableEq, Repr

/-- The name of a level. -/
def LogLevel.name : LogLevel → String
  | trace => "trace"
  | debug => "debug"
  | info => "info"
  | warn => "warn"
  | error => "error"

/-- Every level, from the most to the least talkative. -/
def LogLevel.all : List LogLevel := [trace, debug, info, warn, error]

theorem LogLevel.toLower_name (level : LogLevel) : level.name.toLower = level.name := by
  cases level <;> decide +kernel

/-- No two levels share a name. -/
theorem LogLevel.find_name (level : LogLevel) :
    (all.find? fun l => l.name == level.name) = some level := by
  cases level <;> decide

/-- The names of all levels. -/
def LogLevel.listing : String := ", ".intercalate (all.map name)

/-- How log lines look. -/
inductive LogFormat where
  | pretty
  | compact
  | json
  deriving DecidableEq, Repr

/-- The name of a format. -/
def LogFormat.name : LogFormat → String
  | pretty => "pretty"
  | compact => "compact"
  | json => "json"

/-- Every format. -/
def LogFormat.all : List LogFormat := [pretty, compact, json]

theorem LogFormat.toLower_name (format : LogFormat) : format.name.toLower = format.name := by
  cases format <;> decide +kernel

/-- No two formats share a name. -/
theorem LogFormat.find_name (format : LogFormat) :
    (all.find? fun f => f.name == format.name) = some format := by
  cases format <;> decide

/-- The names of all formats. -/
def LogFormat.listing : String := ", ".intercalate (all.map name)

end CryoRig.Settings
