import CryoRig.Number.Shortest

/-!
# Numbers as text

Three ways to write a double. The plain form has the fewest digits that read back and never an
exponent; the scientific form has the same digits with the point after the first one; the fixed
form has a given number of decimal places, a half going to the even neighbour.

## Main definitions

* `CryoRig.Number.plain`: `0.0000001`, `5`, `-0`, `NaN`, `inf`.
* `CryoRig.Number.scientific`: `1e-7`, `1.5e3`, `0e0`.
* `CryoRig.Number.fixed`: `0.50` for two places.
* `CryoRig.Number.padded`: a whole number with zeros in front.
-/

namespace CryoRig.Number

/-- The decimal digits of a whole number. -/
def digitChars (n : Nat) : List Char :=
  Nat.toDigits 10 n

/-- Zeros in front of `cs` up to `width` characters. -/
def zeroPad (width : Nat) (cs : List Char) : List Char :=
  List.replicate (width - cs.length) '0' ++ cs

/-- A whole number in at least `width` digits. -/
def padded (width n : Nat) : String :=
  String.ofList (zeroPad width (digitChars n))

/-- What stands in front of a number. -/
def signChars (negative : Bool) : List Char :=
  if negative then ['-'] else []

/-- The text of an infinity. -/
def infinityText (negative : Bool) : String :=
  if negative then "-inf" else "inf"

/-- A decimal written without an exponent. -/
def Decimal.plainChars (d : Decimal) : List Char :=
  let cs := digitChars d.digits
  match d.exponent with
  | .ofNat e => if d.digits = 0 then cs else cs ++ List.replicate e '0'
  | .negSucc e =>
    let places := e + 1
    let all := zeroPad (places + 1) cs
    all.take (all.length - places) ++ '.' :: all.drop (all.length - places)

/-- A decimal with the point after its first digit. -/
def Decimal.scientificChars (d : Decimal) : List Char :=
  let cs := digitChars d.digits
  let exponent : Int := d.exponent + (cs.length - 1 : Nat)
  let mantissa := match cs with
    | c :: rest@(_ :: _) => c :: '.' :: rest
    | _ => cs
  mantissa ++ 'e' :: (toString exponent).toList

/-- The plain text of a number. -/
def plain (x : Float) : String :=
  match Binary64.ofFloat x with
  | .finite negative m e => String.ofList (signChars negative ++ (shortest m e).plainChars)
  | .infinite negative => infinityText negative
  | .notANumber => "NaN"

/-- The scientific text of a number. -/
def scientific (x : Float) : String :=
  match Binary64.ofFloat x with
  | .finite negative m e => String.ofList (signChars negative ++ (shortest m e).scientificChars)
  | .infinite negative => infinityText negative
  | .notANumber => "NaN"

/-- The text of a number with `places` decimal places. -/
def fixed (places : Nat) (x : Float) : String :=
  match Binary64.ofFloat x with
  | .finite negative m e =>
    let cs := zeroPad (places + 1) (digitChars (scaleRound .toEven m e (tenTo places)))
    let whole := cs.take (cs.length - places)
    let part := cs.drop (cs.length - places)
    String.ofList (signChars negative ++ if places = 0 then whole else whole ++ '.' :: part)
  | .infinite negative => infinityText negative
  | .notANumber => "NaN"

end CryoRig.Number
