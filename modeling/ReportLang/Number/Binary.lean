import ReportLang.Number.Power

/-!
# Binary floating-point numbers, taken apart

A finite number is `± mantissa · 2 ^ exponent` with whole numbers `mantissa` and `exponent`.
Rounding to a whole number, truncation and the remainder of a division are computed exactly on
these parts.
-/

namespace ReportLang.Number

/-- A floating-point number by its parts. -/
inductive Parts where
  /-- The result of an undefined operation. -/
  | notANumber
  /-- An infinity with its sign. -/
  | infinite (negative : Bool)
  /-- The number `mantissa · 2 ^ exponent` with its sign; zero has the mantissa zero. -/
  | finite (negative : Bool) (mantissa : Nat) (exponent : Int)

/-- The exponent of the smallest positive number. -/
def leastExponent : Int := -1074

/-- Takes a number apart. A finite mantissa is below `2 ^ 53`. -/
def parts (x : Float) : Parts :=
  let bits := x.toBits.toNat
  let negative := bits / twoTo 63 == 1
  let field : Nat := bits / twoTo 52 % twoTo 11
  let fraction := bits % twoTo 52
  if field = twoTo 11 - 1 then
    if fraction = 0 then .infinite negative else .notANumber
  else if field = 0 then
    .finite negative fraction leastExponent
  else
    .finite negative (twoTo 52 + fraction) ((field : Int) - 1 + leastExponent)

/-- Puts a number together, for a mantissa below `2 ^ 53` and an exponent the format has. -/
def ofParts (negative : Bool) (mantissa : Nat) (exponent : Int) : Float :=
  let room := (exponent - leastExponent).toNat
  let shift := min room (52 - mantissa.log2)
  let scaled := mantissa * twoTo shift
  let field := if scaled < twoTo 52 then 0 else room - shift + 1
  let sign := if negative then twoTo 63 else 0
  Float.ofBits (sign + field * twoTo 52 + scaled % twoTo 52).toUInt64

/-- The whole number nearest to `mantissa · 2 ^ exponent`; a half goes up. -/
def nearestWhole (mantissa : Nat) (exponent : Int) : Nat :=
  match exponent with
  | .ofNat up => mantissa * twoTo up
  | .negSucc down => (2 * mantissa + twoTo (down + 1)) / twoTo (down + 2)

/-- A magnitude with its sign. -/
def signed (negative : Bool) (magnitude : Nat) : Int :=
  if negative then -(magnitude : Int) else magnitude

/-- The integer nearest to a finite number; a half goes away from zero. -/
def nearest? (x : Float) : Option Int :=
  match parts x with
  | .finite negative mantissa exponent => some (signed negative (nearestWhole mantissa exponent))
  | _ => none

/-- The nearest integer between two limits; what is not a number counts as zero. -/
def nearestWithin (low high : Int) (x : Float) : Int :=
  match parts x with
  | .notANumber => 0
  | .infinite negative => if negative then low else high
  | .finite negative mantissa exponent =>
    max low (min high (signed negative (nearestWhole mantissa exponent)))

/-- The number without its fraction; the sign stays, also on zero. -/
def truncate (x : Float) : Float :=
  match parts x with
  | .finite negative mantissa (.negSucc down) => ofParts negative (mantissa / twoTo (down + 1)) 0
  | _ => x

/-- What is left of `x` after taking away `y` as often as it fits; it has the sign of `x`. -/
def remainder (x y : Float) : Float :=
  match parts x, parts y with
  | .finite negative mantissa exponent, .finite _ divisor scale =>
    if divisor = 0 then
      0.0 / 0.0
    else
      let common := min exponent scale
      let left := mantissa * twoTo (exponent - common).toNat
      let right := divisor * twoTo (scale - common).toNat
      ofParts negative (left % right) common
  | .finite .., .infinite _ => x
  | _, _ => 0.0 / 0.0

/-- The remainder moved into the range from zero to the divisor's magnitude. -/
def modulo (x y : Float) : Float :=
  let rest := remainder x y
  if rest < 0.0 then rest + y.abs else rest

end ReportLang.Number
