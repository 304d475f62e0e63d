/-!
# Reading text from the front

A *scan* takes some characters off the front of a text and makes something of them, or fails.

## Main definitions

* `CryoRig.Text.Scan`: scans, in sequence and as alternatives.
* `CryoRig.Text.Scan.eat`, `satisfying`, `run`, `many`: the elementary scans and repetition.
* `CryoRig.Text.Scan.all?`: a scan of a whole text.

## Main results

* `CryoRig.Text.Scan.run_eq`: a run and what it leaves make up the text.
-/

namespace CryoRig.Text

/-- Take something off the front of a text, or fail. -/
abbrev Scan := StateT (List Char) Option

namespace Scan

variable {α : Type}

/-- The next character, which stays where it is. -/
def next? : Scan (Option Char) := fun cs => some (cs.head?, cs)

/-- A character with a given property. -/
def satisfying (p : Char → Bool) : Scan Char
  | c :: cs => if p c then some (c, cs) else none
  | [] => none

/-- A given character. -/
def eat (c : Char) : Scan Unit := do
  let _ ← satisfying (· == c)

/-- A given text. -/
def eatAll : List Char → Scan Unit
  | [] => pure ()
  | c :: cs => do
    eat c
    eatAll cs

/-- A given character, if it is there; whether it was. -/
def eat? (c : Char) : Scan Bool := do
  if (← next?) == some c then
    eat c
    pure true
  else pure false

/-- The longest run of characters with a given property. -/
def run (p : Char → Bool) : Scan (List Char) := fun cs => some (cs.takeWhile p, cs.dropWhile p)

/-- The longest run of characters with a given property; there is at least one. -/
def runSome (p : Char → Bool) : Scan (List Char) := do
  let cs ← run p
  if cs.isEmpty then failure else pure cs

/-- The end of the text. -/
def atEnd : Scan Unit
  | [] => some ((), [])
  | _ :: _ => none

/-- Whether the text begins with another one. -/
def startsWith (text : List Char) : Scan Bool := fun cs => some (text.isPrefixOf cs, cs)

/-- How many characters are left. -/
def left : Scan Nat := fun cs => some (cs.length, cs)

/-- Repeat `step` until it says that it is done, at most `bound` times. -/
def many (step : Scan (Option α)) : Nat → Scan (List α)
  | 0 => failure
  | bound + 1 => do
    match ← step with
    | some a => do pure (a :: (← many step bound))
    | none => pure []

/-- Items between two brackets, separated by commas; a comma may also stand after the last one. -/
def bracketed (first last : Char) (item : Scan α) : Scan (List α) := do
  eat first
  let step (afterItem : Bool) : Scan (Option α) := do
    if afterItem && !(← eat? ',') then
      eat last
      pure none
    else if ← eat? last then pure none
    else do pure (some (← item))
  match ← step false with
  | some a => do pure (a :: (← many (step true) ((← left) + 1)))
  | none => pure []

/-- The result of a scan that takes up a whole text. -/
def all? (scan : Scan α) (cs : List Char) : Option α :=
  match scan cs with
  | some (a, []) => some a
  | _ => none

/-- A run and what it leaves make up the text. -/
theorem run_eq (p : Char → Bool) (cs : List Char) :
    ∃ taken rest, run p cs = some (taken, rest) ∧ taken ++ rest = cs :=
  ⟨cs.takeWhile p, cs.dropWhile p, rfl, List.takeWhile_append_dropWhile⟩

end Scan

/-! ## Quoted text -/

/-- The value of a hexadecimal digit. -/
def hexDigit? (c : Char) : Option Nat :=
  if '0' ≤ c ∧ c ≤ '9' then some (c.toNat - '0'.toNat)
  else if 'a' ≤ c ∧ c ≤ 'f' then some (c.toNat - 'a'.toNat + 10)
  else if 'A' ≤ c ∧ c ≤ 'F' then some (c.toNat - 'A'.toNat + 10)
  else none

/-- So many hexadecimal digits as one number. -/
def hexNumber : Nat → Nat → Scan Nat
  | 0, value => pure value
  | digits + 1, value => do
    match hexDigit? (← Scan.satisfying fun _ => true) with
    | some d => hexNumber digits (16 * value + d)
    | none => failure

/-- The character with a given number; surrogates and numbers that are too great have none. -/
def charOfNumber (n : Nat) : Scan Char :=
  if n < 0xD800 ∨ (0xDFFF < n ∧ n < 0x110000) then pure (Char.ofNat n) else failure

/-- What follows a backslash inside quotes. -/
def escaped : Scan Char := do
  match ← Scan.satisfying fun _ => true with
  | 'b' => pure (Char.ofNat 8)
  | 't' => pure '\t'
  | 'n' => pure '\n'
  | 'f' => pure (Char.ofNat 12)
  | 'r' => pure '\r'
  | '"' => pure '"'
  | '\\' => pure '\\'
  | 'u' => do charOfNumber (← hexNumber 4 0)
  | 'U' => do charOfNumber (← hexNumber 8 0)
  | _ => failure

end CryoRig.Text
