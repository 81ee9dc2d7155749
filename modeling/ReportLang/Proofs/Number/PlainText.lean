import ReportLang.Number.Layout
import ReportLang.Proofs.Number.Shortest
import ReportLang.Text.Numeral

/-!
# The length of plain texts

A floating-point number is never written with fewer characters than the whole number it is rounded
to. If the shortest decimal has a fraction, the point alone makes up for a digit that rounding up
could add; if it has none, the number is whole itself.
-/

namespace ReportLang.Number

section Whole

variable {mantissa : ℕ} {exponent : ℤ}

/-- The nearest whole number is at most half a unit away; a half goes up. -/
theorem nearestWhole_bounds (mantissa : ℕ) (exponent : ℤ) :
    (nearestWhole mantissa exponent : ℚ) - 1 / 2 ≤ mantissa * 2 ^ exponent ∧
      (mantissa : ℚ) * 2 ^ exponent < nearestWhole mantissa exponent + 1 / 2 := by
  cases exponent with
  | ofNat up =>
    have same : ((nearestWhole mantissa (.ofNat up) : ℕ) : ℚ) = mantissa * 2 ^ (Int.ofNat up) := by
      simp [nearestWhole, twoTo]
    rw [same]
    constructor
    · linarith
    · linarith
  | negSucc down =>
    have positive : 0 < 2 ^ (down + 2) := by positivity
    have low := Nat.div_mul_le_self (2 * mantissa + 2 ^ (down + 1)) (2 ^ (down + 2))
    have high := Nat.lt_mul_div_succ (2 * mantissa + 2 ^ (down + 1)) positive
    have whole : nearestWhole mantissa (.negSucc down) =
        (2 * mantissa + 2 ^ (down + 1)) / 2 ^ (down + 2) := rfl
    rw [← whole] at low high
    generalize nearestWhole mantissa (.negSucc down) = nearest at low high
    have lowCast : (nearest : ℚ) * 2 ^ (down + 2) ≤ 2 * mantissa + 2 ^ (down + 1) := by
      exact_mod_cast low
    have highCast : (2 * mantissa + 2 ^ (down + 1) : ℚ) < 2 ^ (down + 2) * (nearest + 1) := by
      exact_mod_cast high
    have unit : (0 : ℚ) < 2 ^ (down + 1) := by positivity
    rw [pow_succ _ (down + 1)] at lowCast highCast
    rw [zpow_negSucc, ← div_eq_mul_inv]
    constructor
    · rw [le_div_iff₀ unit]
      linarith
    · rw [div_lt_iff₀ unit]
      linarith

/-- Without binary places a number is whole. -/
theorem nearestWhole_of_nonneg (whole : 0 ≤ exponent) :
    (nearestWhole mantissa exponent : ℚ) = mantissa * 2 ^ exponent := by
  obtain ⟨up, rfl⟩ := Int.eq_ofNat_of_zero_le whole
  simp [nearestWhole, twoTo]

/-- A whole number that is at most half a unit away from a number with binary places is the number
itself. -/
theorem eq_of_near {other : ℕ} (places : exponent < 0)
    (low : (mantissa - 1 / 2) * 2 ^ exponent ≤ (other : ℚ))
    (high : (other : ℚ) ≤ (mantissa + 1 / 2) * 2 ^ exponent) :
    (other : ℚ) = mantissa * 2 ^ exponent := by
  obtain ⟨down, rfl⟩ := Int.eq_negSucc_of_lt_zero places
  have unit : (0 : ℚ) < 2 ^ (down + 1) := by positivity
  rw [zpow_negSucc, ← div_eq_mul_inv] at low high
  rw [zpow_negSucc, ← div_eq_mul_inv, eq_div_iff unit.ne']
  rw [div_le_iff₀ unit] at low
  rw [le_div_iff₀ unit] at high
  have below : 2 * mantissa ≤ 2 * (other * 2 ^ (down + 1)) + 1 := by
    have cast : (2 * mantissa : ℚ) ≤ 2 * (other * 2 ^ (down + 1)) + 1 := by linarith
    exact_mod_cast cast
  have above : 2 * (other * 2 ^ (down + 1)) ≤ 2 * mantissa + 1 := by
    have cast : (2 * (other * 2 ^ (down + 1)) : ℚ) ≤ 2 * mantissa + 1 := by linarith
    exact_mod_cast cast
  have equal : other * 2 ^ (down + 1) = mantissa := by omega
  exact_mod_cast equal

end Whole

/-- A number has at most so many digits exactly when it is below that power of ten. -/
theorem length_digitsOf_le_iff {n count : ℕ} (positive : 0 < count) :
    (digitsOf n).length ≤ count ↔ n < 10 ^ count :=
  Nat.length_toDigits_le_iff (by decide) positive

/-- A number is below the power of ten of its number of digits. -/
theorem lt_pow_length_digitsOf (n : ℕ) : n < 10 ^ (digitsOf n).length :=
  (length_digitsOf_le_iff Nat.length_toDigits_pos).mp (Nat.le_refl _)

/-- A whole decimal has its digits and its zeros. -/
theorem length_positional_ofNat (coefficient up : ℕ) :
    (positional "" ⟨coefficient, .ofNat up⟩).length = (digitsOf coefficient).length + up := by
  simp [positional, zeros]

/-- A decimal with a fraction has its digits and a point at least. -/
theorem length_positional_negSucc (coefficient down : ℕ) :
    (digitsOf coefficient).length < (positional "" ⟨coefficient, .negSucc down⟩).length := by
  simp only [positional, zeros, String.length_ofList, List.length_append, List.length_cons,
    List.length_take, List.length_drop, List.length_replicate]
  omega

/-- A decimal that is not below a power of ten, and whole where the given number is below the next
one, is not shorter than the given number. -/
theorem length_digitsOf_le_positional {n magnitude : ℕ} {d : Decimal}
    (reached : 10 ^ magnitude ≤ d.toRat) (bounded : n ≤ 10 ^ (magnitude + 1))
    (whole : 0 ≤ d.exponent → n < 10 ^ (magnitude + 1)) :
    (digitsOf n).length ≤ (positional "" d).length := by
  obtain ⟨coefficient, exponent⟩ := d
  cases exponent with
  | ofNat up =>
    rw [length_positional_ofNat]
    have digits := lt_pow_length_digitsOf coefficient
    have below : 10 ^ magnitude < 10 ^ ((digitsOf coefficient).length + up) := by
      have cast : (10 ^ magnitude : ℕ) ≤ coefficient * 10 ^ up := by
        have value :
            Decimal.toRat ⟨coefficient, .ofNat up⟩ = ((coefficient * 10 ^ up : ℕ) : ℚ) := by
          simp [Decimal.toRat]
        rw [value] at reached
        exact_mod_cast reached
      rw [Nat.pow_add]
      exact cast.trans_lt (Nat.mul_lt_mul_of_pos_right digits (by positivity))
    have longer := (Nat.pow_lt_pow_iff_right (by decide)).mp below
    have own := (length_digitsOf_le_iff (Nat.succ_pos magnitude)).mpr (whole (by simp))
    omega
  | negSucc down =>
    have digits := lt_pow_length_digitsOf coefficient
    have point := length_positional_negSucc coefficient down
    have below : 10 ^ (magnitude + 1) < 10 ^ (digitsOf coefficient).length := by
      have places : (0 : ℚ) < 10 ^ (down + 1) := by positivity
      have value : Decimal.toRat ⟨coefficient, .negSucc down⟩ = coefficient / 10 ^ (down + 1) := by
        simp [Decimal.toRat, zpow_negSucc, div_eq_mul_inv]
      rw [value, le_div_iff₀ places, ← pow_add] at reached
      have cast : 10 ^ (magnitude + (down + 1)) ≤ coefficient := by exact_mod_cast reached
      have fewer : 10 ^ (magnitude + 1) ≤ 10 ^ (magnitude + (down + 1)) :=
        Nat.pow_le_pow_right (by decide) (by omega)
      exact (fewer.trans cast).trans_lt digits
    have longer := (Nat.pow_lt_pow_iff_right (by decide)).mp below
    have own : (digitsOf n).length ≤ magnitude + 2 := by
      refine (length_digitsOf_le_iff (Nat.succ_pos _)).mpr ?_
      rw [Nat.pow_succ]
      have positive : 0 < 10 ^ (magnitude + 1) := by positivity
      omega
    omega

/-- Every decimal is written with a character at least. -/
theorem length_positional_pos (d : Decimal) : 0 < (positional "" d).length := by
  obtain ⟨coefficient, exponent⟩ := d
  have digits : 0 < (digitsOf coefficient).length := Nat.length_toDigits_pos
  cases exponent with
  | ofNat up =>
    rw [length_positional_ofNat]
    omega
  | negSucc down =>
    have point := length_positional_negSucc coefficient down
    omega

/-- Numbers from one up to those of twenty digits have a leading power of ten. -/
theorem exists_magnitude {mantissa : ℕ} {exponent : ℤ} (least : ℤ) (positive : 0 < mantissa)
    (atLeast : 1 ≤ (mantissa : ℚ) * 2 ^ exponent)
    (atMost : (mantissa : ℚ) * 2 ^ exponent < 2 ^ 64) :
    ∃ magnitude : ℕ, (Rounding.of mantissa exponent least).magnitude = magnitude ∧
      10 ^ magnitude ≤ (mantissa : ℚ) * 2 ^ exponent ∧
      (mantissa : ℚ) * 2 ^ exponent < 10 ^ (magnitude + 1) := by
  have nonzero : (Rounding.of mantissa exponent least).value ≠ 0 := by
    simp only [Rounding.of]
    omega
  obtain ⟨below, above⟩ := Rounding.level_bounds nonzero
  have bounds := Rounding.magnitude_bounds nonzero
  rw [Rounding.toRat_value] at below above bounds
  generalize (Rounding.of mantissa exponent least).level = level at below above bounds
  have lower : 0 ≤ level := by
    have power : (2 : ℚ) ^ (0 : ℤ) < 2 ^ (level + 1) := by
      rw [zpow_zero]
      exact atLeast.trans_lt above
    have := (zpow_lt_zpow_iff_right₀ (by norm_num)).mp power
    omega
  have upper : level < 64 := by
    have power : (2 : ℚ) ^ level < 2 ^ (64 : ℤ) := by
      exact below.trans_lt (by exact_mod_cast atMost)
    exact (zpow_lt_zpow_iff_right₀ (by norm_num)).mp power
  obtain ⟨reached, next⟩ := bounds lower upper
  generalize (Rounding.of mantissa exponent least).magnitude = leading at reached next
  have natural : 0 ≤ leading := by
    have power : (10 : ℚ) ^ (0 : ℤ) < 10 ^ (leading + 1) := by
      rw [zpow_zero]
      exact atLeast.trans_lt next
    have := (zpow_lt_zpow_iff_right₀ (by norm_num)).mp power
    omega
  obtain ⟨magnitude, rfl⟩ := Int.eq_ofNat_of_zero_le natural
  refine ⟨magnitude, rfl, by rwa [zpow_natCast] at reached, ?_⟩
  exact_mod_cast next

/-- If a whole decimal is near a number, the number is whole. -/
theorem nearestWhole_eq_of_whole {mantissa : ℕ} {exponent : ℤ} {d : Decimal}
    (whole : 0 ≤ d.exponent) (low : (mantissa - 1 / 2) * 2 ^ exponent ≤ d.toRat)
    (high : d.toRat ≤ (mantissa + 1 / 2) * 2 ^ exponent) :
    (nearestWhole mantissa exponent : ℚ) = mantissa * 2 ^ exponent := by
  by_cases natural : 0 ≤ exponent
  · exact nearestWhole_of_nonneg natural
  · obtain ⟨coefficient, power⟩ := d
    obtain ⟨up, rfl⟩ := Int.eq_ofNat_of_zero_le whole
    have value : Decimal.toRat ⟨coefficient, up⟩ = ((coefficient * 10 ^ up : ℕ) : ℚ) := by
      simp [Decimal.toRat]
    rw [value] at low high
    have same := eq_of_near (by omega) low high
    obtain ⟨lowest, highest⟩ := nearestWhole_bounds mantissa exponent
    rw [← same] at lowest highest ⊢
    have above : nearestWhole mantissa exponent < coefficient * 10 ^ up + 1 := by
      have cast : (nearestWhole mantissa exponent : ℚ) < ((coefficient * 10 ^ up : ℕ) : ℚ) + 1 := by
        linarith
      exact_mod_cast cast
    have below : coefficient * 10 ^ up < nearestWhole mantissa exponent + 1 := by
      have cast : ((coefficient * 10 ^ up : ℕ) : ℚ) < nearestWhole mantissa exponent + 1 := by
        linarith
      exact_mod_cast cast
    have equal : nearestWhole mantissa exponent = coefficient * 10 ^ up := by omega
    exact_mod_cast equal

/-- The nearest whole number of a positive number has at most as many digits as the shortest decimal
has characters. -/
theorem length_nearestWhole_le (tie : Tie) (least : ℤ) {mantissa : ℕ} {exponent : ℤ}
    (positive : 0 < mantissa) (small : mantissa < 2 ^ 53)
    (inRange : nearestWhole mantissa exponent ≤ 2 ^ 63) :
    (digitsOf (nearestWhole mantissa exponent)).length ≤
      (positional "" (shortest tie mantissa exponent least)).length := by
  by_cases single : nearestWhole mantissa exponent < 10
  · have digit : (digitsOf (nearestWhole mantissa exponent)).length ≤ 1 :=
      (length_digitsOf_le_iff (by decide)).mpr (by simpa using single)
    have characters := length_positional_pos (shortest tie mantissa exponent least)
    omega
  obtain ⟨low, high⟩ := nearestWhole_bounds mantissa exponent
  have atLeast : (10 : ℚ) ≤ nearestWhole mantissa exponent := by
    exact_mod_cast Nat.le_of_not_lt single
  have atMost : (nearestWhole mantissa exponent : ℚ) ≤ 2 ^ 63 := by exact_mod_cast inRange
  obtain ⟨magnitude, leading, reached, next⟩ :=
    exists_magnitude least positive (by linarith) (by linarith)
  obtain ⟨decimal, near⟩ := shortest_bounds tie positive small leading (by rwa [zpow_natCast])
  rw [zpow_natCast] at decimal
  refine length_digitsOf_le_positional decimal ?_ fun whole => ?_
  · have cast : (nearestWhole mantissa exponent : ℚ) < 10 ^ (magnitude + 1) + 1 := by linarith
    have below : nearestWhole mantissa exponent < 10 ^ (magnitude + 1) + 1 := by exact_mod_cast cast
    omega
  · have same := nearestWhole_eq_of_whole whole near.1 near.2
    rw [← same] at next
    exact_mod_cast next

/-- The mantissa of a number has 53 bits at most. -/
theorem mantissa_lt {x : Float} {negative : Bool} {mantissa : ℕ} {exponent : ℤ}
    (finite : parts x = .finite negative mantissa exponent) : mantissa < 2 ^ 53 := by
  simp only [parts] at finite
  have fraction : x.toBits.toNat % twoTo 52 < 2 ^ 52 := Nat.mod_lt _ (by decide)
  split at finite
  · split at finite
    · simp at finite
    · simp at finite
  · split at finite
    · obtain ⟨_, rfl, _⟩ := Parts.finite.inj finite
      omega
    · obtain ⟨_, rfl, _⟩ := Parts.finite.inj finite
      simp only [twoTo, Nat.pow_eq] at fraction ⊢
      omega

/-- A whole number is written with its digits and its sign; zero has none. -/
theorem length_toString_signed_le (negative : Bool) (n : ℕ) :
    (toString (signed negative n)).length ≤
      (withSign negative (String.ofList (digitsOf n))).length := by
  have plain (other : ℕ) : toString (other : ℤ) = String.ofList (digitsOf other) := by
    rw [Int.toString_eq_repr]
    exact Nat.repr_eq_ofList_toDigits
  cases negative with
  | false => exact (congrArg String.length (plain n)).le
  | true =>
    cases n with
    | zero =>
      have zero : signed true 0 = ((0 : ℕ) : ℤ) := rfl
      rw [zero, plain, withSign, if_pos rfl, String.length_append]
      omega
    | succ n =>
      have minus : toString (signed true (n + 1)) = "-" ++ String.ofList (digitsOf (n + 1)) := by
        have below : signed true (n + 1) = Int.negSucc n := rfl
        rw [below, Int.toString_eq_repr]
        exact congrArg ("-" ++ ·) Nat.repr_eq_ofList_toDigits
      rw [minus, withSign, if_pos rfl]

/-- A longer text stays longer with a sign. -/
theorem length_withSign_le {first second : String} (negative : Bool)
    (shorter : first.length ≤ second.length) :
    (withSign negative first).length ≤ (withSign negative second).length := by
  cases negative with
  | false => exact shorter
  | true =>
    rw [withSign, withSign, if_pos rfl, if_pos rfl, String.length_append, String.length_append]
    omega

/-- A floating-point number is written with at least as many characters as the whole number it is
rounded to, if that is in range. -/
theorem length_toString_nearest_le {x : Float} {n : ℤ} (nearest : nearest? x = some n)
    (inRange : Text.inIntegerRange n = true) : (toString n).length ≤ (plainText x).length := by
  unfold nearest? at nearest
  split at nearest
  · rename_i negative mantissa exponent finite
    obtain rfl := Option.some.inj nearest
    refine (length_toString_signed_le negative _).trans ?_
    by_cases zero : mantissa = 0
    · subst zero
      have none : nearestWhole 0 exponent = 0 := by
        cases exponent with
        | ofNat up => simp [nearestWhole]
        | negSucc down =>
          have below : twoTo (down + 1) < twoTo (down + 2) :=
            Nat.pow_lt_pow_right (by decide) (by omega)
          simp [nearestWhole, Nat.div_eq_of_lt below]
      rw [none, plainText, finite]
      exact (congrArg String.length rfl).le
    · have magnitude : nearestWhole mantissa exponent ≤ 2 ^ 63 := by
        obtain ⟨above, below⟩ := Bool.and_eq_true_iff.mp inRange
        cases negative with
        | false =>
          have upper : (nearestWhole mantissa exponent : ℤ) ≤ 9223372036854775807 :=
            of_decide_eq_true below
          omega
        | true =>
          have lower : -9223372036854775808 ≤ -(nearestWhole mantissa exponent : ℤ) :=
            of_decide_eq_true above
          omega
      have shorter := length_nearestWhole_le .up leastExponent
        (Nat.pos_of_ne_zero zero) (mantissa_lt finite) magnitude
      have text : plainText x =
          withSign negative (positional "" (shortest .up mantissa exponent leastExponent)) := by
        rw [plainText, finite]
        cases mantissa with
        | zero => exact absurd rfl zero
        | succ mantissa => rfl
      rw [text]
      exact length_withSign_le negative (by simpa using shorter)
  · simp at nearest

end ReportLang.Number
