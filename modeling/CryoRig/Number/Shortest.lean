import CryoRig.Number.Binary64

/-!
# The fewest decimal digits that read back

A double is the nearest one to every real number of an interval around it. Of the decimals in that
interval those with the fewest digits are candidates, and the nearest of them to the double is its
shortest decimal. Everything is exact arithmetic on whole numbers.

For a given number of digits, if any point of the decimal grid lies in the interval, so does one
of the two neighbours of the double on that grid. So two candidates for each number of digits are
enough.

## Main definitions

* `CryoRig.Number.Decimal`: a whole number times a power of ten.
* `CryoRig.Number.Rounding`: the interval of the reals that a double stands for.
* `CryoRig.Number.shortest`: the shortest decimal of a double.
-/

namespace CryoRig.Number

/-- The number `digits * 10 ^ exponent`. -/
structure Decimal where
  /-- All digits as one whole number. -/
  digits : Nat
  /-- The power of ten of the last digit. -/
  exponent : Int
  deriving DecidableEq, Repr

/-- A positive number `middle / scale` and the reals that round to it: those between
`low / scale` and `high / scale`, the ends themselves if `closed`. -/
structure Rounding where
  /-- Four times the value, in units of `1 / scale`. -/
  middle : Nat
  /-- The lower end. -/
  low : Nat
  /-- The upper end. -/
  high : Nat
  /-- The common denominator. -/
  scale : Nat
  /-- Whether the ends round to the number too. -/
  closed : Bool
  deriving DecidableEq, Repr

/-- The rounding interval of `significand * 2 ^ exponent`. Below a power of two the neighbours lie
half as far apart. An end rounds to the number if its significand is even. -/
def Rounding.of (significand : Nat) (exponent : Int) : Rounding :=
  let gap := if significand = twoTo 52 ∧ exponent ≠ -1074 then 1 else 2
  let (up, scale) := match exponent - 2 with
    | .ofNat e => (twoTo e, 1)
    | .negSucc e => (1, twoTo (e + 1))
  { middle := 4 * significand * up
    low := (4 * significand - gap) * up
    high := (4 * significand + 2) * up
    scale := scale
    closed := significand % 2 = 0 }

/-- Whether `n * 10 ^ exponent` lies in the interval. -/
def Rounding.holds (r : Rounding) (n : Nat) (exponent : Int) : Bool :=
  let (value, unit) := match exponent with
    | .ofNat e => (n * tenTo e * r.scale, 1)
    | .negSucc e => (n * r.scale, tenTo (e + 1))
  if r.closed then r.low * unit ≤ value && value ≤ r.high * unit
  else r.low * unit < value && value < r.high * unit

/-- The number on the grid of multiples of `10 ^ exponent`: its quotient, rounded down, and twice
the remainder against the divisor. -/
def Rounding.onGrid (r : Rounding) (exponent : Int) : Nat × Ordering :=
  let (num, den) := match exponent with
    | .ofNat e => (r.middle, r.scale * tenTo e)
    | .negSucc e => (r.middle * tenTo (e + 1), r.scale)
  (num / den, compare (2 * (num % den)) den)

/-- The point of the grid nearest to the number among its two neighbours that lie in the interval;
of two equally near the greater. -/
def Rounding.candidate? (r : Rounding) (exponent : Int) : Option Nat :=
  let (n, side) := r.onGrid exponent
  match r.holds n exponent, r.holds (n + 1) exponent with
  | true, true => if side = .lt then some n else some (n + 1)
  | true, false => some n
  | false, true => some (n + 1)
  | false, false => none

/-- The power of ten of the first digit of `middle / scale`: found from the binary length, which
fixes it up to one. -/
def Rounding.leading (r : Rounding) : Int :=
  let bits : Int := (r.middle.log2 : Int) - r.scale.log2
  let guess : Int := (bits * 30103) / 100000 - 1
  let reaches (e : Int) : Bool := match e with
    | .ofNat k => r.scale * tenTo k ≤ r.middle
    | .negSucc k => r.scale ≤ r.middle * tenTo (k + 1)
  if reaches (guess + 2) then guess + 2 else if reaches (guess + 1) then guess + 1 else guess

/-- Try one digit, then two, and so on; `exponent` is the grid under trial. -/
def Rounding.search (r : Rounding) : Nat → Int → Decimal
  | 0, exponent => ⟨(r.onGrid exponent).1, exponent⟩
  | more + 1, exponent =>
    match r.candidate? exponent with
    | some n => ⟨n, exponent⟩
    | none => r.search more (exponent - 1)

/-- A decimal without zeros at its end; `bound` limits the number of zeros. -/
def Decimal.strip : Nat → Decimal → Decimal
  | 0, d => d
  | bound + 1, d =>
    if d.digits ≠ 0 ∧ d.digits % 10 = 0 then strip bound ⟨d.digits / 10, d.exponent + 1⟩ else d

/-- The shortest decimal that rounds to `significand * 2 ^ exponent`, the nearest one if there are
several. Seventeen digits always suffice. -/
def shortest (significand : Nat) (exponent : Int) : Decimal :=
  if significand = 0 then ⟨0, 0⟩
  else
    let r := Rounding.of significand exponent
    (r.search 18 r.leading).strip 20

end CryoRig.Number
