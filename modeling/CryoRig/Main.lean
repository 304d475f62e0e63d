import CryoRig.CommandLine.LogLine
import Std.Time

/-!
# The program

Reads what a command line names, lets the library say what comes of it, prints the log, writes the
data files and reports a failure. Time is that of the rig, and no instrument is reached over a
network.
-/

namespace CryoRig.CommandLine

/-- The text of a file, if it can be read. -/
def fileText? (path : String) : IO (Option String) := do
  try pure (some (← IO.FS.readFile path)) catch _ => pure none

/-- The files among given paths that can be read. -/
def readable (paths : List String) : IO (List (String × String)) := do
  let mut found := []
  for path in paths do
    if let some text ← fileText? path then found := found ++ [(path, text)]
  pure found

/-- The environment variables. -/
def environment : IO (List (String × String)) := do
  let text := (← fileText? "/proc/self/environ").getD ""
  pure ((text.splitOn "\x00").filterMap fun entry =>
    match entry.splitOn "=" with
    | name :: value@(_ :: _) => some (name, "=".intercalate value)
    | _ => none)

/-- The minute of the calendar. -/
def currentMinute : IO Calendar := do
  let t ← Std.Time.PlainDateTime.now
  pure ⟨t.year.toInt, t.month.val.toNat, t.day.val.toNat, t.hour.val.toNat, t.minute.val.toNat⟩

/-- Write the directories and files that were not there before. -/
def writeNew (before after : FileStore) : IO Unit := do
  for (place, entry) in after.entries do
    if before.get? place != some entry then
      let path := "/".intercalate place
      match entry with
      | .directory => IO.FS.createDirAll path
      | .file content => IO.FS.writeFile path content

/-- The paths that a command line names. -/
def namedPaths (arguments : List String) : List String :=
  match Invocation.read? arguments with
  | some (.order o) => [o.config, o.script]
  | _ => []

/-- How the program is used. -/
def usage : String := "Usage: check|run <SCRIPT> [--config <CONFIG>]"

/-- Carry out a command line; the exit code. -/
def perform (arguments : List String) : IO UInt32 := do
  let files := FileStore.ofFiles (← readable (namedPaths arguments))
  let place := ⟨files, ← environment, Transport.isolated, ← currentMinute⟩
  match carryOut place arguments with
  | none => pure 1
  | some o =>
    o.lines.forM IO.println
    writeNew files o.rig.files
    o.report.forM IO.eprintln
    if o.code == 2 then IO.eprintln usage
    if Invocation.read? arguments == some .help then IO.println usage
    pure (UInt32.ofNat o.code)

end CryoRig.CommandLine

/-- Carry out the command line of the program. -/
def main (arguments : List String) : IO UInt32 := CryoRig.CommandLine.perform arguments
