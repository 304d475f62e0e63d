/-!
# Reading numbers

The grammar of the numbers that scripts and instruments write, and what can be wrong with them.

A floating point number is an optional sign followed by `inf`, `infinity` or `nan` in any case, or
by digits with at most one point and an optional exponent, at least one digit standing before the
exponent. A whole number is an optional plus sign and digits, and has an upper limit.

## Main definitions

* `CryoRig.Number.Fault`: why a text is no number.
* `CryoRig.Number.read`: a floating point number, correctly rounded.
* `CryoRig.Number.readWhole`: a whole number up to a limit.
-/

namespace CryoRig.Number

/-- Why a text is no number. -/
inductive Fault where
  /-- The text is empty where a floating point number is due. -/
  | emptyFloat
  /-- The text is no floating point number. -/
  | badFloat
  /-- The text is empty where a whole number is due. -/
  | emptyWhole
  /-- The text holds something other than a digit. -/
  | badDigit
  /-- The whole number is above its limit. -/
  | tooLarge
  deriving DecidableEq, Repr

/-- The wording of a fault. -/
def Fault.message : Fault → String
  | .emptyFloat => "cannot parse float from empty string"
  | .badFloat => "invalid float literal"
  | .emptyWhole => "cannot parse integer from empty string"
  | .badDigit => "invalid digit found in string"
  | .tooLarge => "number too large to fit in target type"

/-! ## Floating point numbers -/

/-- The value of a run of decimal digits. -/
def digitsValue (cs : List Char) : Nat :=
  cs.foldl (fun n c => 10 * n + (c.toNat - '0'.toNat)) 0

/-- The digits at the front, and the rest. -/
def spanDigits (cs : List Char) : List Char × List Char :=
  (cs.takeWhile Char.isDigit, cs.dropWhile Char.isDigit)

/-- The double nearest to `digits * 10 ^ exponent`. Numbers too great for a double become infinite
and numbers too small become zero, without the power being written out. -/
def nearestDouble (digits : Nat) (exponent : Int) : Float :=
  let size : Int := exponent + (Nat.toDigits 10 digits).length
  if digits = 0 || size < -400 then 0
  else if 400 < size then 1 / 0
  else match exponent with
    | .ofNat e => Float.ofScientific digits false e
    | .negSucc e => Float.ofScientific digits true (e + 1)

/-- The exponent at the end of a number: nothing, or `e`, an optional sign and digits. -/
def readExponent : List Char → Option Int
  | [] => some 0
  | c :: cs =>
    if c = 'e' ∨ c = 'E' then
      let (negative, ds) := match cs with
        | '+' :: ds => (false, ds)
        | '-' :: ds => (true, ds)
        | ds => (false, ds)
      if ds ≠ [] ∧ ds.all Char.isDigit then
        some (if negative then -(digitsValue ds : Int) else digitsValue ds)
      else none
    else none

/-- Digits, an optional point with digits, an optional exponent. -/
def readUnsigned (cs : List Char) : Option Float :=
  let (whole, rest) := spanDigits cs
  let (part, rest) := match rest with
    | '.' :: rest => spanDigits rest
    | rest => ([], rest)
  if whole.isEmpty && part.isEmpty then none
  else (readExponent rest).map fun e => nearestDouble (digitsValue (whole ++ part)) (e - part.length)

/-- The names of what is no finite number, in lower case. -/
def readNamed (cs : List Char) : Option Float :=
  let name := cs.map Char.toLower
  if name = "inf".toList ∨ name = "infinity".toList then some (1 / 0)
  else if name = "nan".toList then some (0 / 0)
  else none

/-- A number without its sign. -/
def readMagnitude (cs : List Char) : Option Float :=
  (readNamed cs).or (readUnsigned cs)

/-- A floating point number. -/
def readChars : List Char → Except Fault Float
  | [] => .error .emptyFloat
  | '-' :: cs => ((readMagnitude cs).map fun x => -x).elim (.error .badFloat) .ok
  | '+' :: cs => (readMagnitude cs).elim (.error .badFloat) .ok
  | cs => (readMagnitude cs).elim (.error .badFloat) .ok

/-- A floating point number. -/
def read (s : String) : Except Fault Float :=
  readChars s.toList

/-- A floating point number that is neither infinite nor undefined. -/
def readFinite? (s : String) : Option Float :=
  match read s with
  | .ok x => if x.isFinite then some x else none
  | .error _ => none

/-! ## Whole numbers -/

/-- Digits from the left onto `n`; the first digit that does not fit or is none ends it. -/
def wholeFrom (limit n : Nat) : List Char → Except Fault Nat
  | [] => .ok n
  | c :: cs =>
    if c.isDigit then
      let next := 10 * n + (c.toNat - '0'.toNat)
      if next ≤ limit then wholeFrom limit next cs else .error .tooLarge
    else .error .badDigit

/-- A whole number of at most `limit`: an optional plus sign and at least one digit. -/
def readWhole (limit : Nat) (s : String) : Except Fault Nat :=
  match s.toList with
  | [] => .error .emptyWhole
  | ['+'] => .error .badDigit
  | '+' :: cs => wholeFrom limit 0 cs
  | cs => wholeFrom limit 0 cs

/-- A whole number of at most `limit`, if the text is one. -/
def readWhole? (limit : Nat) (s : String) : Option Nat :=
  (readWhole limit s).toOption

/-- The greatest number of one byte. -/
def byteMax : Nat := 0xFF

/-- The greatest number of two bytes. -/
def wordMax : Nat := 0xFFFF

/-- The greatest number of four bytes. -/
def longMax : Nat := 0xFFFFFFFF

/-- The greatest number of eight bytes. -/
def hugeMax : Nat := 0xFFFFFFFFFFFFFFFF

end CryoRig.Number
