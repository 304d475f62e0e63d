import CryoRig.CommandLine.Outcome

/-!
# Lines of the log

An entry of the journal as one line. In the format for machines a line is a JSON object; an entry
that a job made is marked as part of the program. The other formats are for people.

## Main definitions

* `CryoRig.CommandLine.jsonText`: a text in JSON quotes.
* `CryoRig.CommandLine.logLine`: an entry as a line.
* `CryoRig.CommandLine.Outcome.lines`: all lines of the log.

## Main results

* `CryoRig.CommandLine.length_lines`: there is one line for each entry that is logged.
-/

namespace CryoRig.CommandLine

/-- A character inside JSON quotes. -/
def jsonChar (c : Char) : List Char :=
  if c = '"' then ['\\', '"']
  else if c = '\\' then ['\\', '\\']
  else if c.toNat < 0x20 then
    let digits := Nat.toDigits 16 c.toNat
    '\\' :: 'u' :: List.replicate (4 - digits.length) '0' ++ digits
  else [c]

/-- A text in JSON quotes. -/
def jsonText (s : String) : String :=
  String.ofList ('"' :: s.toList.flatMap jsonChar ++ ['"'])

/-- A named value in JSON; what is no number has no value. -/
def jsonValue : Value → String
  | .text value => jsonText value
  | .number value => if value.isFinite then Number.plain value else "null"
  | .count value => toString value
  | .flag value => toString value

/-- A JSON object. -/
def jsonObject (entries : List (String × String)) : String :=
  "\x7b" ++ ",".intercalate (entries.map fun (key, value) => jsonText key ++ ":" ++ value) ++ "\x7d"

/-- An entry as a JSON object, marked as part of the program or not. -/
def jsonLine (marked : Bool) (e : Rig.Entry) : String :=
  let fields := ("message", jsonText e.event.message) ::
    e.event.fields.map fun (name, value) => (name, jsonValue value)
  let span := if marked then [("span", jsonObject [("name", jsonText "program")])] else []
  jsonObject (("level", jsonText e.event.level.name) :: ("fields", jsonObject fields) :: span)

/-- An entry for people. -/
def plainLine (e : Rig.Entry) : String :=
  " ".intercalate (e.event.level.name :: e.event.message ::
    e.event.fields.map fun (name, value) => name ++ "=" ++ value.render)

/-- An entry as a line. -/
def logLine (log : Settings.LogSettings) (e : Rig.Entry) : String :=
  match log.format with
  | .json => jsonLine (marks log e) e
  | .pretty | .compact => plainLine e

/-- All lines of the log. -/
def Outcome.lines (o : Outcome) : List String :=
  match o.log with
  | none => []
  | some log => o.logged.map (logLine log)

/-- There is one line for each entry that is logged. -/
theorem length_lines (o : Outcome) : o.lines.length = o.logged.length := by
  cases h : o.log <;> simp [Outcome.lines, Outcome.logged, h]

end CryoRig.CommandLine
