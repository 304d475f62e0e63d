import CryoRig.Settings.Toml.Quoted
import CryoRig.Settings.Toml.Scalar
import CryoRig.Settings.Toml.Table

/-!
# TOML documents

A document is a list of lines: blank ones, headers of tables, and keys with their values.

## Main definitions

* `CryoRig.Settings.Toml.value`: a value.
* `CryoRig.Settings.Toml.line`: one line, and the tables after it.
* `CryoRig.Settings.Toml.read?`: a document as a tree of settings.
-/

namespace CryoRig.Settings.Toml

open Text Scan

/-! ## Values -/

/-- The word of a value without quotes and brackets. A date and a time may have a blank between
them. -/
def word : Scan (List Char) := do
  let cs ← runSome isWordChar
  if isDate cs then
    let rest ← fun text => some (text, text)
    match rest with
    | ' ' :: d :: _ =>
      if d.isDigit then do
        eat ' '
        pure (cs ++ ' ' :: (← run isWordChar))
      else pure cs
    | _ => pure cs
  else pure cs

/-- The values of an array, in which lines may end anywhere; `item` reads one of them. -/
def array (item : Scan Node) : Scan Node := do
  eat '['
  filler
  let step : Scan (Option Node) := do
    if ← eat? ']' then pure none
    else
      let v ← item
      filler
      if ← eat? ',' then filler
      else if (← next?) != some ']' then failure
      pure (some v)
  pure (.sequence (← many step ((← left) + 1)))

/-- The key of an entry and its value, which `item` reads. -/
def entry (item : Scan Node) : Scan (List String × Node) := do
  let path ← keyPath
  eat '='
  spaces
  let v ← item
  pure (path, v)

/-- Add an entry with a dotted key. -/
def defineEntry (e : List String × Node) (entries : Entries) : Option Entries :=
  match e.1.getLast? with
  | some key => define e.1.dropLast key e.2 entries
  | none => none

/-- The entries of a table in braces, all on one line. -/
def inlineTable (item : Scan Node) : Scan Node := do
  eat '\x7b'
  spaces
  if ← eat? '\x7d' then pure (.map [])
  else
    let first ← entry item
    let step : Scan (Option (List String × Node)) := do
      spaces
      if ← eat? ',' then do pure (some (← entry item))
      else
        eat '\x7d'
        pure none
    let rest ← many step ((← left) + 1)
    match (first :: rest).foldlM (fun entries e => defineEntry e entries) [] with
    | some entries => pure (.map (entryNodes entries))
    | none => failure

/-- A value in which brackets are nested no deeper than `depth`. -/
def value : Nat → Scan Node
  | 0 => scalar failure failure
  | depth + 1 => scalar (array (value depth)) (inlineTable (value depth))
where
  /-- A value, with a way to read one in brackets and one in braces. -/
  scalar (brackets braces : Scan Node) : Scan Node := do
    match ← next? with
    | some '"' | some '\'' => do pure (.text (← quotedText))
    | some '[' => brackets
    | some '\x7b' => braces
    | _ =>
      let cs ← word
      match scalar? cs with
      | some v => pure v
      | none => failure

/-! ## Lines -/

/-- What has been read of a document. -/
structure Reading where
  /-- All tables. -/
  root : Entries
  /-- The path of the last header. -/
  header : List String

/-- A header in brackets, and what it opens. -/
def headerLine (r : Reading) : Scan Reading := do
  eat '['
  let isElement ← eat? '['
  let path ← keyPath
  eat ']'
  if isElement then eat ']'
  lineRest
  match path.getLast? with
  | some key =>
    let opened := if isElement then openElement path.dropLast key r.root
      else openTable path.dropLast key r.root
    match opened with
    | some root => pure ⟨root, path⟩
    | none => failure
  | none => failure

/-- A key with its value. -/
def entryLine (r : Reading) : Scan Reading := do
  let e ← entry (value (depthLimit - 1))
  lineRest
  match update r.header (defineEntry e) r.root with
  | some root => pure { r with root := root }
  | none => failure

/-- One line, and what has been read after it. -/
def line (r : Reading) : Scan Reading := do
  spaces
  match ← next? with
  | some '[' => headerLine r
  | some '#' | some '\n' | some '\r' => do
    lineRest
    pure r
  | some _ => entryLine r
  | none => pure r

/-- Lines up to the end of the text. -/
def lines (r : Reading) : Nat → Scan Reading
  | 0 => failure
  | bound + 1 => do
    match ← next? with
    | none => pure r
    | some _ => do lines (← line r) bound

/-- A document as a tree of settings, if it is one. A byte order mark in front does not count. -/
def read? (text : String) : Option Node :=
  let cs := text.toList
  let cs := if cs.head? = some (Char.ofNat 0xFEFF) then cs.tail else cs
  (all? (lines ⟨[], []⟩ (cs.length + 1)) cs).map fun r => .map (entryNodes r.root)

end CryoRig.Settings.Toml
