import CryoRig.Number.Read
import CryoRig.Settings.Node

/-!
# Numbers, dates and flags in TOML

A value without quotes and brackets is one word. It is a flag, a number or a date with a time.

## Main definitions

* `CryoRig.Settings.Toml.integer?`, `float?`: numbers, with underscores between digits.
* `CryoRig.Settings.Toml.isDateTime`: dates, times, and both together.
* `CryoRig.Settings.Toml.scalar?`: the value of a word.

## Main results

* `CryoRig.Settings.Toml.integer?_mem`: whole numbers have sixty-four bits.
-/

namespace CryoRig.Settings.Toml

open Number

/-! ## Digits -/

/-- Digits with single underscores between them, without the underscores; `digitLast` tells whether
the character before was a digit. -/
def digitsFrom (isDigit : Char → Bool) (digitLast : Bool) : List Char → Option (List Char)
  | [] => if digitLast then some [] else none
  | c :: cs =>
    if isDigit c then (digitsFrom isDigit true cs).map (c :: ·)
    else if c = '_' ∧ digitLast then digitsFrom isDigit false cs
    else none

/-- Digits with single underscores between them, at least one digit. -/
def digits? (isDigit : Char → Bool) (cs : List Char) : Option (List Char) :=
  digitsFrom isDigit false cs

/-- Decimal digits of a whole number: none but zero itself begins with a zero. -/
def wholeDigits? (cs : List Char) : Option (List Char) := do
  let ds ← digits? Char.isDigit cs
  match ds with
  | '0' :: _ :: _ => none
  | _ => some ds

/-- The sign in front of a number, and the rest. -/
def splitSign : List Char → Bool × List Char
  | '-' :: cs => (true, cs)
  | '+' :: cs => (false, cs)
  | cs => (false, cs)

/-! ## Whole numbers -/

/-- The value of a character as a digit. -/
def digitValue (c : Char) : Nat :=
  if c.isDigit then c.toNat - '0'.toNat else c.toLower.toNat - 'a'.toNat + 10

/-- The value of digits to a base. -/
def valueOf (base : Nat) (ds : List Char) : Nat := ds.foldl (fun n c => base * n + digitValue c) 0

/-- A whole number of sixty-four bits with a sign. -/
def inRange? (n : Int) : Option Int :=
  if -0x8000000000000000 ≤ n ∧ n < 0x8000000000000000 then some n else none

/-- The value of a whole number: decimal with an optional sign, or hexadecimal, octal or binary. -/
def wholeValue? : List Char → Option Int
  | '0' :: 'x' :: cs =>
    let isHex (c : Char) : Bool := c.isDigit || ('a' ≤ c && c ≤ 'f') || ('A' ≤ c && c ≤ 'F')
    (digits? isHex cs).map fun ds => valueOf 16 ds
  | '0' :: 'o' :: cs => (digits? (fun c => '0' ≤ c && c ≤ '7') cs).map fun ds => valueOf 8 ds
  | '0' :: 'b' :: cs => (digits? (fun c => c == '0' || c == '1') cs).map fun ds => valueOf 2 ds
  | cs =>
    let (negative, cs) := splitSign cs
    (wholeDigits? cs).map fun ds => if negative then -(valueOf 10 ds : Int) else valueOf 10 ds

/-- A whole number of sixty-four bits. -/
def integer? (cs : List Char) : Option Int := (wholeValue? cs).bind inRange?

theorem integer?_mem {cs : List Char} {n : Int} (h : integer? cs = some n) :
    -0x8000000000000000 ≤ n ∧ n < 0x8000000000000000 := by
  obtain ⟨m, _, hm⟩ := Option.bind_eq_some_iff.1 h
  unfold inRange? at hm
  split at hm
  · cases hm; assumption
  · simp at hm

/-! ## Floating point numbers -/

/-- What stands behind a mantissa: nothing, or `e`, an optional sign and digits. -/
def exponentText? : List Char → Option (List Char)
  | [] => some []
  | c :: cs =>
    if c = 'e' ∨ c = 'E' then
      let (negative, cs) := splitSign cs
      (digits? Char.isDigit cs).map fun ds => 'e' :: (if negative then '-' :: ds else ds)
    else none

/-- A number with a point or an exponent, without sign and underscores. -/
def magnitudeText? (cs : List Char) : Option (List Char) := do
  let isWhole (c : Char) : Bool := c.isDigit || c == '_'
  let whole ← wholeDigits? (cs.takeWhile isWhole)
  match cs.dropWhile isWhole with
  | '.' :: rest => do
    let part ← digits? Char.isDigit (rest.takeWhile isWhole)
    pure (whole ++ '.' :: part ++ (← exponentText? (rest.dropWhile isWhole)))
  | rest@(_ :: _) => do pure (whole ++ (← exponentText? rest))
  | [] => none

/-- A floating point number. One that is too great to be told from infinity is none. -/
def float? (cs : List Char) : Option Float :=
  let (negative, cs) := splitSign cs
  let signed (x : Float) : Float := if negative then -x else x
  if cs = "inf".toList then some (signed (1 / 0))
  else if cs = "nan".toList then some (signed (0 / 0))
  else do
    let x ← (readChars (← magnitudeText? cs)).toOption
    if x.isInf ∧ !negative then none else some (signed x)

/-! ## Dates -/

/-- A number of so many digits, between two bounds, and the rest. -/
def field? (width low high : Nat) (cs : List Char) : Option (Nat × List Char) :=
  let ds := cs.take width
  let n := digitsValue ds
  if ds.length = width ∧ ds.all Char.isDigit ∧ low ≤ n ∧ n ≤ high then some (n, cs.drop width)
  else none

/-- What follows a given character. -/
def after? (c : Char) : List Char → Option (List Char)
  | d :: cs => if d = c then some cs else none
  | [] => none

/-- The number of days of a month. -/
def monthDays (year month : Nat) : Nat :=
  if month = 2 then
    if year % 4 = 0 ∧ (year % 100 ≠ 0 ∨ year % 400 = 0) then 29 else 28
  else if month ∈ [4, 6, 9, 11] then 30
  else 31

/-- What follows a date. -/
def afterDate? (cs : List Char) : Option (List Char) := do
  let (year, cs) ← field? 4 0 9999 cs
  let (month, cs) ← field? 2 1 12 (← after? '-' cs)
  let (_, cs) ← field? 2 1 (monthDays year month) (← after? '-' cs)
  pure cs

/-- What follows a time of day. -/
def afterTime? (cs : List Char) : Option (List Char) := do
  let (_, cs) ← field? 2 0 23 cs
  let (_, cs) ← field? 2 0 59 (← after? ':' cs)
  let (_, cs) ← field? 2 0 60 (← after? ':' cs)
  match cs with
  | '.' :: cs => if (cs.takeWhile Char.isDigit).isEmpty then none else some (cs.dropWhile Char.isDigit)
  | cs => some cs

/-- Whether characters are nothing, or the distance from universal time. -/
def isOffset (cs : List Char) : Bool :=
  match cs with
  | [] | ['Z'] | ['z'] => true
  | '+' :: cs | '-' :: cs =>
    let rest? := do
      let (_, cs) ← field? 2 0 23 cs
      let (_, cs) ← field? 2 0 59 (← after? ':' cs)
      pure cs
    rest? == some []
  | _ => false

/-- Whether a word is a date, a time, or both. -/
def isDateTime (cs : List Char) : Bool :=
  match afterDate? cs with
  | some [] => true
  | some (c :: rest) =>
    (c == 'T' || c == 't' || c == ' ') && (afterTime? rest).any isOffset
  | none => afterTime? cs == some []

/-- Whether a word is a date and nothing else. -/
def isDate (cs : List Char) : Bool := afterDate? cs == some []

/-- The key under which a date and a time are kept. -/
def dateTimeKey : String := "$datetime"

/-! ## Values -/

/-- The value of a word. -/
def scalar? (cs : List Char) : Option Node :=
  if cs = "true".toList then some (.flag true)
  else if cs = "false".toList then some (.flag false)
  else if isDateTime cs then some (.map [(dateTimeKey, .text (String.ofList cs))])
  else match float? cs with
    | some x => some (.float x)
    | none => (integer? cs).map .signed

/-- A character of a word. -/
def isWordChar (c : Char) : Bool :=
  c.isAlphanum || c == '+' || c == '-' || c == '_' || c == '.' || c == ':'

end CryoRig.Settings.Toml
