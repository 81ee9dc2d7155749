import Mathlib.Data.Rat.Floor
import ReportLang.Proofs.Value.Typing

/-!
# Exact whole numbers

What a calculation with whole numbers has to yield is said here without the functions that
calculate: a quotient is a fraction rounded toward zero, and a remainder is the number below the
divisor that makes the rest divisible (`Operation.HasResult`). A calculation yields exactly this
number, or is refused: it divides by zero, the number is out of the 64-bit range or too long for the
type of the left operand, or it is the one remainder whose quotient is out of range.
-/

namespace ReportLang

namespace Operation

/-- A fraction rounded toward zero. -/
def wholePart (x : ℚ) : ℤ := if 0 ≤ x then ⌊x⌋ else ⌈x⌉

/-- Whether a number is the exact result of an operation. -/
def HasResult (operation : Operation) (a b r : ℤ) : Prop :=
  match operation with
  | .add => r = a + b
  | .subtract => r = a - b
  | .multiply => r = a * b
  | .divide | .integerDivide => b ≠ 0 ∧ r = wholePart (a / b)
  | .modulo => b ≠ 0 ∧ (0 ≤ r ∧ r < |b|) ∧ b ∣ a - r

/-- Whether an operation is refused whatever the types of its operands are: it divides by zero, its
result is out of the 64-bit range, or it is the remainder of the smallest integer by minus one. -/
def Refuses (operation : Operation) (a b : ℤ) : Prop :=
  (operation.divides = true ∧ b = 0) ∨
    (∃ r, operation.HasResult a b r ∧ ¬(-2 ^ 63 ≤ r ∧ r < 2 ^ 63)) ∨
    (operation = .modulo ∧ a = -2 ^ 63 ∧ b = -1)

variable {operation : Operation} {a b r : ℤ}

/-- A quotient by a natural number rounded toward zero. -/
theorem wholePart_div_natCast (a : ℤ) (d : ℕ) : wholePart (a / d) = a.tdiv d := by
  rcases Nat.eq_zero_or_pos d with rfl | positive
  · simp [wholePart]
  have divisor : (0 : ℚ) < d := Nat.cast_pos.mpr positive
  have sign : (0 : ℚ) ≤ a / d ↔ 0 ≤ a := by
    rw [le_div_iff₀ divisor, zero_mul, Int.cast_nonneg_iff]
  unfold wholePart
  by_cases nonneg : 0 ≤ a
  · rw [if_pos (sign.mpr nonneg), Rat.floor_intCast_div_natCast]
    exact (Int.tdiv_eq_ediv_of_nonneg nonneg).symm
  · have opposite : 0 ≤ -a := by omega
    have quotient : (-a).tdiv d = -a / d := Int.tdiv_eq_ediv_of_nonneg opposite
    rw [if_neg (mt sign.mp nonneg), Rat.ceil_intCast_div_natCast, ← quotient, Int.neg_tdiv, neg_neg]

/-- A quotient rounded toward zero is the quotient that is calculated. -/
theorem wholePart_div (a b : ℤ) : wholePart (a / b) = a.tdiv b := by
  obtain ⟨d, rfl | rfl⟩ := b.eq_nat_or_neg
  · exact wholePart_div_natCast a d
  · have opposite : (a : ℚ) / ((-(d : ℤ) : ℤ) : ℚ) = ((-a : ℤ) : ℚ) / d := by
      push_cast
      rw [div_neg, neg_div]
    rw [opposite, wholePart_div_natCast, Int.neg_tdiv, Int.tdiv_neg]

/-- The remainder is the only number below the divisor that makes the rest divisible. -/
theorem emod_eq_iff_dvd_sub (nonzero : b ≠ 0) :
    a.emod b = r ↔ (0 ≤ r ∧ r < |b|) ∧ b ∣ a - r := by
  have rest : b ∣ r - a ↔ b ∣ a - r := dvd_sub_comm
  have size : (b.natAbs : ℤ) = |b| := Int.natCast_natAbs b
  have unique := Int.emod_eq_iff (a := a) (c := r) nonzero
  rw [rest, size, ← and_assoc] at unique
  exact unique

/-- The exact result is the one that is calculated, unless a divisor is zero. -/
theorem hasResult_iff :
    operation.HasResult a b r ↔ ¬(operation.divides = true ∧ b = 0) ∧ r = operation.exact a b := by
  cases operation with
  | add => simp [HasResult, divides, exact]
  | subtract => simp [HasResult, divides, exact]
  | multiply => simp [HasResult, divides, exact]
  | divide => simp [HasResult, divides, exact, wholePart_div]
  | integerDivide => simp [HasResult, divides, exact, wholePart_div]
  | modulo =>
    simp only [HasResult, divides, exact, true_and]
    refine and_congr_right fun nonzero => ?_
    rw [← emod_eq_iff_dvd_sub nonzero, eq_comm]

/-- The 64-bit range. -/
theorem inIntegerRange_iff : Text.inIntegerRange r = true ↔ -2 ^ 63 ≤ r ∧ r < 2 ^ 63 := by
  have least : Text.integerMin = -2 ^ 63 := rfl
  have most : Text.integerMax = 2 ^ 63 - 1 := rfl
  rw [Text.inIntegerRange, Bool.and_eq_true, decide_eq_true_iff, decide_eq_true_iff, least, most]
  omega

/-- An operation is refused exactly if its divisor is zero, or what is calculated is out of range,
or it is the remainder whose quotient is. -/
theorem refuses_iff :
    operation.Refuses a b ↔
      (operation.divides && b = 0) = true ∨
        (!Text.inIntegerRange (operation.exact a b) ||
          (operation = .modulo && a = Text.integerMin && b = -1)) = true := by
  have least : Text.integerMin = -2 ^ 63 := rfl
  have outside : (Text.inIntegerRange (operation.exact a b) = false) ↔
      ¬(-2 ^ 63 ≤ operation.exact a b ∧ operation.exact a b < 2 ^ 63) := by
    rw [← Bool.not_eq_true, inIntegerRange_iff]
  simp only [Refuses, hasResult_iff, Bool.and_eq_true, Bool.or_eq_true, Bool.not_eq_true',
    decide_eq_true_eq, outside, least, and_assoc]
  by_cases zero : operation.divides = true ∧ b = 0
  · exact iff_of_true (.inl zero) (.inl zero)
  · simp [zero]

/-- A calculation with whole numbers yields the exact result unless it is refused. -/
theorem onIntegers_eq_ok_iff :
    operation.onIntegers a b = .ok r ↔ ¬operation.Refuses a b ∧ operation.HasResult a b r := by
  rw [refuses_iff, hasResult_iff, onIntegers]
  by_cases zero : (operation.divides && b = 0) = true
  · simp [zero]
  · have nonzero : ¬(operation.divides = true ∧ b = 0) := by simpa using zero
    rw [if_neg zero]
    simp only
    split
    · rename_i refused
      simp [refused]
    · rename_i accepted
      have admitted : ¬((operation.divides && b = 0) = true ∨
          (!Text.inIntegerRange (operation.exact a b) ||
            (operation = .modulo && a = Text.integerMin && b = -1)) = true) := by
        simp only [not_or]
        exact ⟨zero, accepted⟩
      simp only [Except.ok.injEq, admitted, not_false_iff, nonzero, true_and]
      exact eq_comm

/-- A calculation with whole numbers that fails tells an arithmetic error. -/
theorem kind_of_onIntegers_eq_error {failure : ValueError}
    (failed : operation.onIntegers a b = .error failure) :
    failure.diagnostic.kind = .arithmetic := by
  unfold onIntegers at failed
  split at failed
  · rw [← Except.error.inj failed]
    rfl
  · simp only at failed
    split at failed
    · rw [← Except.error.inj failed]
      rfl
    · cases failed

/-- A quotient and a remainder make up the dividend, unless this is negative and not divisible: then
they are the size of the divisor too large. -/
theorem div_add_mod {q m : ℤ} (quotient : HasResult .integerDivide a b q)
    (remainder : HasResult .modulo a b m) :
    q * b + m = if 0 ≤ a ∨ b ∣ a then a else a + |b| := by
  have whole : q = a.tdiv b := (hasResult_iff.mp quotient).2
  have rest : m = a % b := (hasResult_iff.mp remainder).2
  have split : a / b * b + a % b = a := Int.ediv_mul_add_emod a b
  rw [whole, rest, Int.tdiv_eq_ediv]
  by_cases exact : 0 ≤ a ∨ b ∣ a
  · rw [if_pos exact, if_pos exact, add_zero]
    exact split
  · rw [if_neg exact, if_neg exact]
    calc
      (a / b + b.sign) * b + a % b = (a / b * b + a % b) + b.sign * b := by ring
      _ = a + |b| := by rw [split, Int.sign_mul_self_eq_abs]

/-- An operation that is not refused has a result. -/
theorem exists_hasResult (accepted : ¬operation.Refuses a b) : ∃ r, operation.HasResult a b r := by
  have nonzero : ¬(operation.divides = true ∧ b = 0) := fun zero => accepted (.inl zero)
  exact ⟨operation.exact a b, hasResult_iff.mpr ⟨nonzero, rfl⟩⟩

/-- There is one exact result at most. -/
theorem HasResult.unique {other : ℤ} (first : operation.HasResult a b r)
    (second : operation.HasResult a b other) : r = other :=
  (hasResult_iff.mp first).2.trans (hasResult_iff.mp second).2.symm

end Operation

/-- Whether a number, written with its sign, is too long for the length of a type. -/
def Ty.TooShortFor (ty : Ty) (n : ℤ) : Prop :=
  ∃ limit, ty.length? = some limit ∧ limit < (toString n).length

namespace Value

open Operation

/-- Whether a value is a whole number: a payload under a type of whole numbers of any length. -/
inductive IsWhole : Value → ℤ → Prop where
  /-- An integer, a numeric text or a packed number. -/
  | number {base : Base} {length : Option Nat} {n : ℤ} (kind : base.holdsNumbers = true) :
    IsWhole (.number (.elementary base length) n) n

variable {left right : Value} {ty : Ty} {operation : Operation} {a b r : ℤ}

/-- A whole number is a number. -/
theorem IsWhole.isNumeric (whole : left.IsWhole a) : left.isNumeric = true := by
  cases whole with
  | number kind => exact Base.isNumeric_of_holdsNumbers kind

/-- A number keeps its payload under the type of a whole number. -/
theorem IsWhole.retag (whole : left.IsWhole a) (ty : Ty) (n : ℤ) :
    retag left.ty (.number ty n) = .ok (.number left.ty n) := by
  cases whole with
  | @number base length _ kind =>
    exact retag_number (Base.ne_float_of_holdsNumbers kind) length ty n

/-- The result of a calculation under a type, unless it is too long for it. -/
def result (ty : Ty) (n : ℤ) : Except ValueError Value :=
  match ty.length?.filter (· < (toString n).length) with
  | some limit => .error (.resultTooLong (.number ty n) limit)
  | none => .ok (.number ty n)

/-- A result that is too long is an overflow of the length. -/
theorem result_of_tooShort (short : ty.TooShortFor r) :
    ∃ failure, result ty r = .error failure ∧ failure.diagnostic.kind = .lengthOverflow := by
  obtain ⟨limit, length, longer⟩ := short
  have found : ty.length?.filter (· < (toString r).length) = some limit :=
    Option.filter_eq_some_iff.mpr ⟨length, decide_eq_true longer⟩
  refine ⟨.resultTooLong (.number ty r) limit, ?_, rfl⟩
  rw [result, found]

/-- A result that is not too long is there. -/
theorem result_of_not_tooShort (fits : ¬ty.TooShortFor r) : result ty r = .ok (.number ty r) := by
  have none : ty.length?.filter (· < (toString r).length) = none := by
    apply Option.filter_eq_none_iff.mpr
    intro limit length longer
    exact fits ⟨limit, length, of_decide_eq_true longer⟩
  rw [result, none]

/-- Whole numbers are calculated first, and then the result takes the type on the left. -/
theorem IsWhole.calculate (first : left.IsWhole a) (second : right.IsWhole b) :
    left.calculate operation right = operation.onIntegers a b >>= result left.ty := by
  have raw : rawResult operation left right = (operation.onIntegers a b).map ofInteger := by
    cases first
    cases second
    rfl
  rw [Value.calculate, first.isNumeric, second.isNumeric, raw]
  cases operation.onIntegers a b with
  | error failure => rfl
  | ok n =>
    show (Value.retag left.ty (ofInteger n) >>= _) = result left.ty n
    rw [ofInteger, first.retag]
    rfl

/-- A calculation that is refused tells an arithmetic error. -/
theorem IsWhole.calculate_of_refuses (first : left.IsWhole a) (second : right.IsWhole b)
    (refused : operation.Refuses a b) :
    ∃ failure, left.calculate operation right = .error failure ∧
      failure.diagnostic.kind = .arithmetic := by
  rw [first.calculate second]
  cases calculated : operation.onIntegers a b with
  | ok n => exact absurd refused (onIntegers_eq_ok_iff.mp calculated).1
  | error failure => exact ⟨failure, rfl, kind_of_onIntegers_eq_error calculated⟩

/-- A calculation that is not refused has the exact result. -/
theorem IsWhole.calculate_of_hasResult (first : left.IsWhole a) (second : right.IsWhole b)
    (accepted : ¬operation.Refuses a b) (exact : operation.HasResult a b r) :
    left.calculate operation right = result left.ty r := by
  have calculated : operation.onIntegers a b = .ok r := onIntegers_eq_ok_iff.mpr ⟨accepted, exact⟩
  rw [first.calculate second, calculated]
  rfl

/-- How a calculation with whole numbers can end. -/
inductive Calculated (operation : Operation) (ty : Ty) (a b : ℤ) :
    Except ValueError Value → Prop where
  /-- It is refused. -/
  | refused {failure : ValueError} (refuses : operation.Refuses a b)
    (told : failure.diagnostic.kind = .arithmetic) : Calculated operation ty a b (.error failure)
  /-- The exact result is too long. -/
  | tooLong {failure : ValueError} {r : ℤ} (accepted : ¬operation.Refuses a b)
    (exact : operation.HasResult a b r) (short : ty.TooShortFor r)
    (told : failure.diagnostic.kind = .lengthOverflow) :
    Calculated operation ty a b (.error failure)
  /-- The exact result is there. -/
  | done {r : ℤ} (accepted : ¬operation.Refuses a b) (exact : operation.HasResult a b r)
    (fits : ¬ty.TooShortFor r) : Calculated operation ty a b (.ok (.number ty r))

/-- A calculation with whole numbers ends in one of these ways. -/
theorem IsWhole.calculated (first : left.IsWhole a) (second : right.IsWhole b)
    (operation : Operation) :
    Calculated operation left.ty a b (left.calculate operation right) := by
  by_cases refuses : operation.Refuses a b
  · obtain ⟨failure, failed, told⟩ := first.calculate_of_refuses second refuses
    rw [failed]
    exact .refused refuses told
  · obtain ⟨r, exact⟩ := exists_hasResult refuses
    rw [first.calculate_of_hasResult second refuses exact]
    by_cases short : left.ty.TooShortFor r
    · obtain ⟨failure, failed, told⟩ := result_of_tooShort short
      rw [failed]
      exact .tooLong refuses exact short told
    · rw [result_of_not_tooShort short]
      exact .done refuses exact short

section Calculated

variable {outcome : Except ValueError Value}

/-- An arithmetic error is told exactly if the operation is refused. -/
theorem Calculated.arithmetic_iff (ends : Calculated operation ty a b outcome) :
    (∃ failure, outcome = .error failure ∧ failure.diagnostic.kind = .arithmetic) ↔
      operation.Refuses a b := by
  cases ends with
  | refused refuses told => exact iff_of_true ⟨_, rfl, told⟩ refuses
  | tooLong accepted _ _ told => simp [accepted, told]
  | done accepted => simp [accepted]

/-- An overflow of the length is told exactly if there is an exact result that is too long. -/
theorem Calculated.lengthOverflow_iff (ends : Calculated operation ty a b outcome) :
    (∃ failure, outcome = .error failure ∧ failure.diagnostic.kind = .lengthOverflow) ↔
      ¬operation.Refuses a b ∧ ∃ r, operation.HasResult a b r ∧ ty.TooShortFor r := by
  cases ends with
  | refused refuses told => simp [refuses, told]
  | tooLong accepted exact short told =>
    exact iff_of_true ⟨_, rfl, told⟩ ⟨accepted, _, exact, short⟩
  | done accepted exact fits =>
    refine iff_of_false (by simp) ?_
    rintro ⟨_, other, same, short⟩
    rw [← exact.unique same] at short
    exact fits short

/-- A result is there exactly if it is the exact one and not too long. -/
theorem Calculated.eq_ok_iff (ends : Calculated operation ty a b outcome) (value : Value) :
    outcome = .ok value ↔
      ¬operation.Refuses a b ∧
        ∃ r, operation.HasResult a b r ∧ ¬ty.TooShortFor r ∧ value = .number ty r := by
  cases ends with
  | refused refuses => simp [refuses]
  | tooLong accepted exact short =>
    refine iff_of_false (by simp) ?_
    rintro ⟨_, other, same, fits, _⟩
    rw [← exact.unique same] at fits
    exact fits short
  | @done r accepted exact fits =>
    constructor
    · intro same
      exact ⟨accepted, r, exact, fits, (Except.ok.inj same).symm⟩
    · rintro ⟨_, other, same, _, rfl⟩
      rw [exact.unique same]

/-- No other failure is told. -/
theorem Calculated.kind_of_eq_error (ends : Calculated operation ty a b outcome)
    {failure : ValueError} (failed : outcome = .error failure) :
    failure.diagnostic.kind = .arithmetic ∨ failure.diagnostic.kind = .lengthOverflow := by
  cases ends with
  | refused _ told =>
    obtain rfl := Except.error.inj failed
    exact .inl told
  | tooLong _ _ _ told =>
    obtain rfl := Except.error.inj failed
    exact .inr told
  | done => cases failed

end Calculated

/-- A whole number that is calculated is the exact result. -/
theorem IsWhole.hasResult_of_calculate (first : left.IsWhole a) (second : right.IsWhole b)
    (there : left.calculate operation right = .ok (.number ty r)) : operation.HasResult a b r := by
  obtain ⟨_, n, exact, _, same⟩ := ((first.calculated second operation).eq_ok_iff _).mp there
  obtain ⟨_, rfl⟩ := Value.number.inj same
  exact exact

/-- Whole numbers are calculated exactly or not at all. A calculation fails with an arithmetic error
exactly if it divides by zero, if its exact result is out of the 64-bit range, or if it is the
remainder of the smallest integer by minus one. Else it fails with an overflow of the length exactly
if the exact result, written with its sign, is longer than the type on the left admits, and else it
yields the exact result under this type. If both a quotient and a remainder are there, they make up
the dividend, unless this is negative and not divisible: then they are the size of the divisor too
large. -/
theorem calculate_exact_or_refused (first : left.IsWhole a) (second : right.IsWhole b) :
    (∀ operation : Operation,
      ((∃ failure, left.calculate operation right = .error failure ∧
        failure.diagnostic.kind = .arithmetic) ↔ operation.Refuses a b) ∧
      ((∃ failure, left.calculate operation right = .error failure ∧
        failure.diagnostic.kind = .lengthOverflow) ↔
          ¬operation.Refuses a b ∧ ∃ r, operation.HasResult a b r ∧ left.ty.TooShortFor r) ∧
      (∀ failure, left.calculate operation right = .error failure →
        failure.diagnostic.kind = .arithmetic ∨ failure.diagnostic.kind = .lengthOverflow) ∧
      ∀ value, left.calculate operation right = .ok value ↔
        ¬operation.Refuses a b ∧
          ∃ r, operation.HasResult a b r ∧ ¬left.ty.TooShortFor r ∧ value = .number left.ty r) ∧
    ∀ q m, left.calculate .integerDivide right = .ok (.number left.ty q) →
      left.calculate .modulo right = .ok (.number left.ty m) →
      q * b + m = if 0 ≤ a ∨ b ∣ a then a else a + |b| := by
  constructor
  · intro operation
    have ends := first.calculated second operation
    exact ⟨ends.arithmetic_iff, ends.lengthOverflow_iff,
      fun _ failed => ends.kind_of_eq_error failed, ends.eq_ok_iff⟩
  · intro q m quotient remainder
    have whole := first.hasResult_of_calculate second quotient
    have rest := first.hasResult_of_calculate second remainder
    exact div_add_mod whole rest

/-- A numeric text of two places holds minus seven. Divided by two it is minus three, with one as
the remainder, and both together are larger than it by two; doubled it is too long for its type. -/
theorem calculate_exact_or_refused_negative :
    ∃ left right : Value, left.IsWhole (-7) ∧ right.IsWhole 2 ∧
      left.calculate .integerDivide right = .ok (.number left.ty (-3)) ∧
      left.calculate .modulo right = .ok (.number left.ty 1) ∧
      (-3) * 2 + 1 = (-7 : ℤ) + |2| ∧
      ∃ failure, left.calculate .multiply right = .error failure ∧
        failure.diagnostic.kind = .lengthOverflow := by
  let left : Value := .number (.elementary .numericText (some 2)) (-7)
  have first : left.IsWhole (-7) := .number rfl
  have second : (ofInteger 2).IsWhole 2 := .number rfl
  have accepted (operation : Operation) : ¬operation.Refuses (-7) 2 := by
    rw [refuses_iff]
    cases operation <;> decide
  have fits (n : ℤ) (short : (toString n).length ≤ 2) : ¬left.ty.TooShortFor n := by
    rintro ⟨limit, length, longer⟩
    obtain rfl : 2 = limit := Option.some.inj length
    omega
  obtain ⟨calculates, together⟩ := calculate_exact_or_refused first second
  have quotient := ((calculates .integerDivide).2.2.2 (.number left.ty (-3))).mpr
    ⟨accepted _, -3, hasResult_iff.mpr (by decide), fits _ (by decide), rfl⟩
  have remainder := ((calculates .modulo).2.2.2 (.number left.ty 1)).mpr
    ⟨accepted _, 1, hasResult_iff.mpr (by decide), fits _ (by decide), rfl⟩
  have sum := together (-3) 1 quotient remainder
  rw [if_neg (by decide)] at sum
  refine ⟨left, ofInteger 2, first, second, quotient, remainder, sum, ?_⟩
  exact (calculates .multiply).2.1.mpr
    ⟨accepted _, -14, hasResult_iff.mpr (by decide), 2, rfl, by decide⟩

end Value

end ReportLang
