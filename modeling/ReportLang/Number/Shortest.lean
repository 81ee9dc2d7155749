import ReportLang.Number.Power

/-!
# Shortest decimals

The decimal with the fewest digits among those that round to a given binary number
`mantissa · 2 ^ exponent`, and of several such decimals the one nearest to it. All arithmetic is
exact. Which of two equally near decimals is taken is left to the caller.
-/

namespace ReportLang.Number

/-- Which of two equally near decimals is taken. -/
inductive Tie where
  /-- The larger one. -/
  | up
  /-- The one with an even last digit. -/
  | toEven
deriving DecidableEq

/-- The number `coefficient · 10 ^ exponent`. -/
structure Decimal where
  /-- The digits. -/
  coefficient : Nat
  /-- The power of ten that scales them. -/
  exponent : Int

/-- Moves factors of ten from the coefficient to the exponent, at most `count` of them. -/
def Decimal.reduced : Nat → Decimal → Decimal
  | 0, d => d
  | count + 1, d =>
    if d.coefficient ≠ 0 ∧ d.coefficient % 10 = 0 then
      reduced count ⟨d.coefficient / 10, d.exponent + 1⟩
    else
      d

/-- The numbers that round to `mantissa · 2 ^ exponent`, and the number itself, all in quarters of
the unit `2 ^ exponent`. Below a power of two the spacing is half as wide. -/
structure Rounding where
  /-- The lower end. -/
  low : Nat
  /-- The number itself. -/
  value : Nat
  /-- The upper end. -/
  high : Nat
  /-- The power of two of a quarter of the unit. -/
  exponent : Int
  /-- Whether the ends belong to it. -/
  closed : Bool

/-- The numbers that round to a positive number. Its ends belong to it when the mantissa is even. -/
def Rounding.of (mantissa : Nat) (exponent : Int) (least : Int) : Rounding where
  low := 4 * mantissa - (if mantissa = twoTo 52 ∧ least < exponent then 1 else 2)
  value := 4 * mantissa
  high := 4 * mantissa + 2
  exponent := exponent - 2
  closed := mantissa % 2 == 0

/-- The three numbers as multiples of a common unit, of which `10 ^ grid` is `step` many. -/
structure Scaled where
  /-- The lower end. -/
  low : Nat
  /-- The number itself. -/
  value : Nat
  /-- The upper end. -/
  high : Nat
  /-- The distance of two points of the decimal grid. -/
  step : Nat

/-- Brings the numbers that round to a given one and a power of ten to a common unit. -/
def Rounding.onGrid (r : Rounding) (grid : Int) : Scaled :=
  let scale := twoTo r.exponent.toNat * tenTo (-grid).toNat
  { low := r.low * scale
    value := r.value * scale
    high := r.high * scale
    step := tenTo grid.toNat * twoTo (-r.exponent).toNat }

/-- Whether `count` steps land on a number that rounds to the given one. -/
def Scaled.accepts (s : Scaled) (closed : Bool) (count : Nat) : Bool :=
  let point := count * s.step
  if closed then s.low ≤ point && point ≤ s.high else s.low < point && point < s.high

/-- Whether the upper of the two neighbouring points is to be taken. -/
def Scaled.prefersUpper (s : Scaled) (tie : Tie) (count : Nat) : Bool :=
  let below := s.value - count * s.step
  let above := (count + 1) * s.step - s.value
  if above = below then
    match tie with
    | .up => true
    | .toEven => count % 2 == 1
  else
    above < below

/-- The neighbour of the number on a decimal grid that rounds to it, if one does. -/
def Rounding.neighbour? (r : Rounding) (tie : Tie) (grid : Int) : Option Decimal :=
  let s := r.onGrid grid
  let count := s.value / s.step
  match s.accepts r.closed count, s.accepts r.closed (count + 1) with
  | true, true => some ⟨if s.prefersUpper tie count then count + 1 else count, grid⟩
  | true, false => some ⟨count, grid⟩
  | false, true => some ⟨count + 1, grid⟩
  | false, false => none

/-- The exponent of the leading decimal digit of the number. -/
def Rounding.magnitude (r : Rounding) : Int :=
  let guess := ((r.value.log2 : Int) + r.exponent) * 30103 / 100000
  let reaches (exponent : Int) : Bool :=
    let s := r.onGrid exponent
    s.step ≤ s.value
  if reaches (guess + 1) then guess + 1 else if reaches guess then guess else guess - 1

/-- Tries finer and finer decimal grids, `left` many of them. -/
def Rounding.search (r : Rounding) (tie : Tie) : (left : Nat) → (grid : Int) → Decimal
  | 0, grid => ⟨0, grid⟩
  | left + 1, grid =>
    match r.neighbour? tie grid with
    | some found => found
    | none => r.search tie left (grid - 1)

/-- The shortest decimal that rounds to a positive number. Seventeen digits always suffice. -/
def shortest (tie : Tie) (mantissa : Nat) (exponent : Int) (least : Int) : Decimal :=
  let r := Rounding.of mantissa exponent least
  Decimal.reduced 17 (r.search tie 18 r.magnitude)

end ReportLang.Number
