import CryoRig.Text.Scan

/-!
# Quoted text and keys in TOML

A text stands in double quotes, where a backslash escapes, or in single quotes, where nothing does.
Either quote may be tripled; such a text may go over several lines.

## Main definitions

* `CryoRig.Settings.Toml.quotedText`: a text in quotes of any kind.
* `CryoRig.Settings.Toml.keyPath`: the keys of a dotted key.
* `CryoRig.Settings.Toml.lineEnd`, `lineRest`, `filler`: what may stand between.
-/

namespace CryoRig.Settings.Toml

open Text Scan

/-! ## Between -/

/-- A blank within a line. -/
def isSpace (c : Char) : Bool := c == ' ' || c == '\t'

/-- A character that may stand in a comment, and in single quotes. -/
def isPrintable (c : Char) : Bool := c == '\t' || (0x20 ≤ c.toNat && c.toNat != 0x7F)

/-- Blanks within a line. -/
def spaces : Scan Unit := do
  let _ ← run isSpace

/-- The end of a line. -/
def newline : Scan Unit := do
  if ← eat? '\r' then eat '\n' else eat '\n'

/-- A comment, if there is one. -/
def comment : Scan Unit := do
  if ← eat? '#' then
    let _ ← run isPrintable

/-- The end of a line or of the text. -/
def lineEnd : Scan Unit := do
  match ← next? with
  | none => pure ()
  | some _ => newline

/-- What may follow on a line: blanks, a comment and the end. -/
def lineRest : Scan Unit := do
  spaces
  comment
  lineEnd

/-- Blanks, comments and line ends, as many as there are. -/
def filler : Scan Unit := do
  let step : Scan (Option Unit) := do
    match ← next? with
    | some c =>
      if isSpace c then do
        spaces
        pure (some ())
      else if c == '\r' || c == '\n' then do
        newline
        pure (some ())
      else if c == '#' then do
        comment
        pure (some ())
      else pure none
    | none => pure none
  let _ ← many step ((← left) + 1)

/-! ## Quotes -/

/-- The characters up to the next single double quote. -/
def basicText : Scan (List Char) := do
  eat '"'
  let step : Scan (Option Char) := do
    match ← satisfying isPrintable with
    | '"' => pure none
    | '\\' => do pure (some (← escaped))
    | c => pure (some c)
  many step ((← left) + 1)

/-- The characters up to the next single quote. -/
def literalText : Scan (List Char) := do
  eat '\''
  let cs ← run fun c => isPrintable c && c != '\''
  eat '\''
  pure cs

/-- A line feed or a carriage return with a line feed, both as a line feed. -/
def newlineChar : Scan Char := do
  newline
  pure '\n'

/-- The parts of a text in triple quotes, each a few characters, until it ends; `plain` reads what is
no quote. -/
def tripled (quote : Char) (plain : Scan (List Char)) : Nat → Scan (List Char)
  | 0 => failure
  | bound + 1 => do
    if (← next?) == some quote then
      let quotes ← run (· == quote)
      if quotes.length < 3 then do pure (quotes ++ (← tripled quote plain bound))
      else if quotes.length ≤ 5 then pure (quotes.drop 3)
      else failure
    else do pure ((← plain) ++ (← tripled quote plain bound))

/-- What follows a backslash in triple double quotes: a line end, which is dropped with all blanks
after it, or an escaped character. -/
def escapedOrFolded : Scan (List Char) := do
  let isBlank (c : Char) : Bool := isSpace c || c == '\r' || c == '\n'
  if (← next?).any isBlank then
    spaces
    newline
    let step : Scan (Option Unit) := do
      match ← next? with
      | some c =>
        if isSpace c then do
          spaces
          pure (some ())
        else if c == '\r' || c == '\n' then do
          newline
          pure (some ())
        else pure none
      | none => pure none
    let _ ← many step ((← left) + 1)
    pure []
  else do pure [← escaped]

/-- Something other than a quote inside triple double quotes. -/
def basicPart : Scan (List Char) := do
  match ← next? with
  | some '\\' => do
    eat '\\'
    escapedOrFolded
  | some c => if c == '\r' || c == '\n' then do pure [← newlineChar] else do
    pure [← satisfying isPrintable]
  | none => failure

/-- Something other than a quote inside triple single quotes. -/
def literalPart : Scan (List Char) := do
  match ← next? with
  | some c => if c == '\r' || c == '\n' then do pure [← newlineChar] else do
    pure [← satisfying isPrintable]
  | none => failure

/-- A text in triple quotes. A line end right at its start does not count. -/
def tripledText (quote : Char) (plain : Scan (List Char)) : Scan (List Char) := do
  eatAll [quote, quote, quote]
  match ← next? with
  | some '\r' | some '\n' => newline
  | _ => pure ()
  tripled quote plain ((← left) + 1)

/-- A text in quotes on one line. -/
def lineText : Scan (List Char) := do
  if (← next?) == some '"' then basicText else literalText

/-- A text in quotes of any kind. -/
def quotedText : Scan String := do
  let cs ←
    if ← startsWith ['"', '"', '"'] then tripledText '"' basicPart
    else if ← startsWith ['\'', '\'', '\''] then tripledText '\'' literalPart
    else lineText
  pure (String.ofList cs)

/-! ## Keys -/

/-- A character of a key without quotes. -/
def isKeyChar (c : Char) : Bool := c.isAlphanum || c == '_' || c == '-'

/-- One key. -/
def key : Scan String := do
  match ← next? with
  | some '"' | some '\'' => do pure (String.ofList (← lineText))
  | _ => do pure (String.ofList (← runSome isKeyChar))

/-- How deep tables and brackets may be nested. -/
def depthLimit : Nat := 80

/-- The keys of a dotted key. -/
def keyPath : Scan (List String) := do
  spaces
  let first ← key
  spaces
  let step : Scan (Option String) := do
    if ← eat? '.' then
      spaces
      let k ← key
      spaces
      pure (some k)
    else pure none
  let rest ← many step ((← left) + 1)
  if depthLimit ≤ rest.length + 1 then failure else pure (first :: rest)

end CryoRig.Settings.Toml
