/-!
# Doubles as exact numbers

A double is a sign and a whole multiple of a power of two, or an infinity, or no number at all.
The texts of numbers are computed from this exact form.

## Main definitions

* `CryoRig.Number.twoTo`, `CryoRig.Number.tenTo`: powers of two and of ten.
* `CryoRig.Number.Binary64`: the three kinds of double.
* `CryoRig.Number.Binary64.ofFloat`: the exact form of a double.
* `CryoRig.Number.roundDiv`: the whole number nearest to a quotient.
* `CryoRig.Number.wholeNearest`: a double rounded to a whole number, halves upwards.
-/

namespace CryoRig.Number

/-- The power of two with a given exponent. -/
def twoTo (n : Nat) : Nat := Nat.pow 2 n

/-- The power of ten with a given exponent. -/
def tenTo (n : Nat) : Nat := Nat.pow 10 n

theorem twoTo_succ (n : Nat) : twoTo (n + 1) = twoTo n * 2 := rfl

theorem tenTo_succ (n : Nat) : tenTo (n + 1) = tenTo n * 10 := rfl

/-- What a double stands for. -/
inductive Binary64 where
  /-- The number `± significand * 2 ^ exponent`. -/
  | finite (negative : Bool) (significand : Nat) (exponent : Int)
  /-- An infinity. -/
  | infinite (negative : Bool)
  /-- No number. -/
  | notANumber
  deriving DecidableEq, Repr

/-- Read the sign bit, the eleven exponent bits and the fifty-two fraction bits. -/
def Binary64.ofBits (bits : UInt64) : Binary64 :=
  let n : Nat := bits.toNat
  let negative := n / twoTo 63 == 1
  let field : Nat := n / twoTo 52 % twoTo 11
  let fraction : Nat := n % twoTo 52
  if field = 2047 then
    if fraction = 0 then .infinite negative else .notANumber
  else if field = 0 then .finite negative fraction (-1074)
  else .finite negative (twoTo 52 + fraction) ((field : Int) - 1075)

/-- The exact form of a double. -/
def Binary64.ofFloat (x : Float) : Binary64 :=
  .ofBits x.toBits

/-- Where a quotient that lies half-way between two whole numbers goes. -/
inductive Tie where
  /-- To the even one. -/
  | toEven
  /-- To the greater one. -/
  | upwards
  deriving DecidableEq, Repr

/-- The whole number nearest to `num / den`. -/
def roundDiv (tie : Tie) (num den : Nat) : Nat :=
  let q := num / den
  let r := num % den
  if 2 * r < den then q
  else if den < 2 * r then q + 1
  else match tie with
    | .toEven => q + q % 2
    | .upwards => q + 1

/-- The whole number nearest to `significand * 2 ^ exponent * scale`. -/
def scaleRound (tie : Tie) (significand : Nat) (exponent : Int) (scale : Nat) : Nat :=
  match exponent with
  | .ofNat e => significand * twoTo e * scale
  | .negSucc e => roundDiv tie (significand * scale) (twoTo (e + 1))

/-- A number that is not negative, rounded to a whole number with halves going upwards and capped
at `limit`; zero for what is negative or no number. -/
def wholeNearest (limit : Nat) (x : Float) : Nat :=
  match Binary64.ofFloat x with
  | .finite false m e => min limit (scaleRound .upwards m e 1)
  | .infinite false => limit
  | _ => 0

/-- A number cut to its whole part and clamped to `low ≤ n ≤ high`; zero for what is no number. -/
def clampWhole (low high : Int) (x : Float) : Int :=
  match Binary64.ofFloat x with
  | .finite negative m e =>
    let whole : Nat := match e with
      | .ofNat k => m * twoTo k
      | .negSucc k => m / twoTo (k + 1)
    max low (min high (if negative then -(whole : Int) else whole))
  | .infinite negative => if negative then low else high
  | .notANumber => 0

/-- The index of an instrument setting read from a number: its whole part, kept in one byte. -/
def toByte (x : Float) : Nat :=
  (clampWhole 0 255 x).toNat

end CryoRig.Number
