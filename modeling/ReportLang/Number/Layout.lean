import ReportLang.Number.Binary
import ReportLang.Number.Shortest

/-!
# Texts of floating-point numbers

Two ways of writing the shortest decimal of a number. The plain text never uses an exponent and
drops the fraction of a whole number; the data text keeps a fraction on whole numbers and uses an
exponent for very large and very small ones.
-/

namespace ReportLang.Number

/-- The decimal digits of a number, most significant first. -/
def digitsOf (n : Nat) : List Char := Nat.toDigits 10 n

/-- A row of zeros. -/
def zeros (count : Nat) : List Char := List.replicate count '0'

/-- Writes `coefficient · 10 ^ exponent` with a decimal point where it needs one. A whole number is
followed by `whole`. -/
def positional (whole : String) (d : Decimal) : String :=
  let digits := digitsOf d.coefficient
  match d.exponent with
  | .ofNat up => String.ofList (digits ++ zeros up) ++ whole
  | .negSucc down =>
    let places := down + 1
    let padded := zeros (places + 1 - digits.length) ++ digits
    let split := padded.length - places
    String.ofList (padded.take split ++ '.' :: padded.drop split)

/-- Writes `coefficient · 10 ^ exponent` with one digit before the point and an exponent. -/
def scientific (d : Decimal) : String :=
  let digits := digitsOf d.coefficient
  let power : Int := d.exponent + (digits.length - 1 : Nat)
  let fraction :=
    match digits.drop 1 with
    | [] => []
    | rest => '.' :: rest
  let mark := if power < 0 then "e-" else "e+"
  String.ofList (digits.take 1 ++ fraction) ++ mark ++ toString power.natAbs

/-- A minus sign in front of a negative number. -/
def withSign (negative : Bool) (text : String) : String :=
  if negative then "-" ++ text else text

/-- The plain text of a number. -/
def plainText (x : Float) : String :=
  match parts x with
  | .notANumber => "NaN"
  | .infinite negative => withSign negative "inf"
  | .finite negative 0 _ => withSign negative "0"
  | .finite negative mantissa exponent =>
    withSign negative (positional "" (shortest .up mantissa exponent leastExponent))

/-- Whether the data text of a decimal uses an exponent: from `10 ^ 16` on, and below `10 ^ -5`. -/
def isScientific (d : Decimal) : Bool :=
  let power : Int := d.exponent + ((digitsOf d.coefficient).length - 1 : Nat)
  16 ≤ power || power < -5

/-- The data text of a finite number. -/
def dataText? (x : Float) : Option String :=
  match parts x with
  | .finite negative 0 _ => some (withSign negative "0.0")
  | .finite negative mantissa exponent =>
    let d := shortest .toEven mantissa exponent leastExponent
    some (withSign negative (if isScientific d then scientific d else positional ".0" d))
  | _ => none

end ReportLang.Number
