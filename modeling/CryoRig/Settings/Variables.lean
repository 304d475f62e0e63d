import CryoRig.Number.Read
import CryoRig.Settings.Node
import CryoRig.Text.Blank
import CryoRig.Text.Fields
import CryoRig.Text.Scan

/-!
# Settings from environment variables

A variable whose name begins with `RIG_DAQ_`, in any case, sets one entry. The rest of the name, in
lower case, is the path to the entry, with two underscores between the keys. The text of the variable
is a flag, a number, a text with or without quotes, a character in single quotes, an array in
brackets or a map in braces. What cannot be read as one of these is a text as it stands.

## Main definitions

* `CryoRig.Settings.Variables.value`: what the text of a variable stands for.
* `CryoRig.Settings.Variables.path?`: the path that the name of a variable stands for.
* `CryoRig.Settings.Variables.read`: all variables as a tree of settings.
-/

namespace CryoRig.Settings.Variables

open Text Scan

/-! ## Values -/

/-- A blank of the seven-bit characters. -/
def isSpace (c : Char) : Bool :=
  c == ' ' || c == '\t' || c == '\n' || c == '\r' || c == Char.ofNat 12

/-- A character of a text without quotes. -/
def isPlain (c : Char) : Bool :=
  !(c == ',' || c == '\x7b' || c == '\x7d' || c == '[' || c == ']')

/-- A character of a key without quotes. -/
def isKeyChar (c : Char) : Bool := c.isAlphanum || c == '_' || c == '-'

/-- Blanks. -/
def spaces : Scan Unit := do
  let _ ← run isSpace

/-- A text in double quotes, where a backslash escapes. -/
def quoted : Scan (List Char) := do
  eat '"'
  let step : Scan (Option Char) := do
    match ← satisfying fun _ => true with
    | '"' => pure none
    | '\\' => do pure (some (← escaped))
    | c => pure (some c)
  many step ((← left) + 1)

/-- What a text without quotes stands for. -/
def plain (s : String) : Node :=
  let float? := if '.' ∈ s.toList then (Number.read s).toOption else none
  match float?, Number.readWhole? Number.hugeMax s with
  | some x, _ => .float x
  | none, some n => .unsigned n
  | none, none =>
    match s.toList with
    | '-' :: digits =>
      match Number.readWhole? 0x8000000000000000 (String.ofList digits) with
      | some n => if digits.head? = some '+' then .text s else .signed (-(n : Int))
      | none => .text s
    | _ => .text s

/-- A value in which brackets are nested no deeper than `depth`. -/
def value : Nat → Scan Node
  | 0 => failure
  | depth + 1 => do
    spaces
    let v ←
      if ← startsWith "true".toList then do
        eatAll "true".toList
        pure (.flag true)
      else if ← startsWith "false".toList then do
        eatAll "false".toList
        pure (.flag false)
      else match ← next? with
        | some '\x7b' => do pure (.ofEntries (← bracketed '\x7b' '\x7d' (entry (value depth))))
        | some '[' => do pure (.sequence (← bracketed '[' ']' (value depth)))
        | some '"' => do pure (.text (String.ofList (← quoted)))
        | some '\'' => do
          eat '\''
          let c ← satisfying fun _ => true
          eat '\''
          pure (.letter c false)
        | _ => do pure (plain (String.ofList (trimChars (← run isPlain))))
    spaces
    pure v
where
  /-- A key and its value, which `item` reads. -/
  entry (item : Scan Node) : Scan (String × Node) := do
    spaces
    let k ← if (← next?) == some '"' then quoted else runSome isKeyChar
    spaces
    eat '='
    pure (String.ofList k, ← item)

/-- What the text of a variable stands for. -/
def ofText (s : String) : Node :=
  (all? (value (s.length + 1)) s.toList).getD (.text s)

/-! ## Names -/

/-- What the names of all variables begin with. -/
def mark : String := "RIG_DAQ_"

/-- Cut a name wherever two underscores or a point stand. -/
def nameParts : List Char → List (List Char)
  | [] => [[]]
  | '_' :: '_' :: cs => [] :: nameParts cs
  | '.' :: cs => [] :: nameParts cs
  | c :: cs =>
    match nameParts cs with
    | [] => [[c]]
    | part :: rest => (c :: part) :: rest

/-- The path that the name of a variable stands for. It ends where two marks follow each other. -/
def path? (name : String) : Option (List String) :=
  let name := trim name
  if name.toUpper.startsWith mark then
    let rest := trimChars (name.toList.drop mark.length)
    match (nameParts rest).takeWhile fun part => !part.isEmpty with
    | [] => none
    | parts => some (parts.map fun part => (String.ofList part).toLower)
  else none

/-- A value at the end of a path of maps. -/
def nest (node : Node) : List String → Node
  | [] => node
  | key :: path => .map [(key, nest node path)]

/-- All variables as a tree of settings; of two that set the same entry the later one wins. -/
def read (environment : List (String × String)) : Node :=
  environment.foldl (fun node v => match path? v.1 with
    | some path => node.merge (nest (ofText v.2) path)
    | none => node) (.map [])

end CryoRig.Settings.Variables
