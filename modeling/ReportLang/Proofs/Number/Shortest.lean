import Mathlib.Algebra.Order.Field.Power
import Mathlib.Data.Rat.Cast.Order
import Mathlib.Tactic.FieldSimp
import Mathlib.Tactic.Linarith
import Mathlib.Tactic.NormNum
import Mathlib.Tactic.Positivity
import Mathlib.Tactic.Ring
import ReportLang.Number.Shortest

/-!
# The size of shortest decimals

A shortest decimal lies among the numbers that round to the given one, and has the leading power of
ten of the number or a larger one. Whole-number comparisons on a common unit are carried over to
rational numbers once, in `Rounding.cast_scaled` and `Rounding.cast_step`; everything after that is
about rational numbers.
-/

namespace ReportLang.Number

/-- A power with a negative exponent is a quotient of two powers. -/
theorem zpow_eq_toNat_div (base : ℚ) (exponent : ℤ) :
    base ^ exponent = base ^ exponent.toNat / base ^ (-exponent).toNat := by
  cases exponent with
  | ofNat up => simp
  | negSucc down => simp [zpow_negSucc]

/-- The rational number that a decimal stands for. -/
def Decimal.toRat (d : Decimal) : ℚ := d.coefficient * 10 ^ d.exponent

namespace Rounding

/-- A number of quarters as a rational number. -/
def toRat (r : Rounding) (quarters : ℕ) : ℚ := quarters * 2 ^ r.exponent

/-- The factor that brings quarters to the common unit. -/
def scale (r : Rounding) (grid : ℤ) : ℕ := twoTo r.exponent.toNat * tenTo (-grid).toNat

/-- How many of the common unit are one. -/
def unit (r : Rounding) (grid : ℤ) : ℚ := 2 ^ (-r.exponent).toNat * 10 ^ (-grid).toNat

/-- Some of the common unit are one. -/
theorem unit_pos (r : Rounding) (grid : ℤ) : 0 < r.unit grid := by
  unfold unit
  positivity

/-- Quarters in terms of the common unit. -/
theorem cast_scaled (r : Rounding) (grid : ℤ) (quarters : ℕ) :
    ((quarters * r.scale grid : ℕ) : ℚ) = r.toRat quarters * r.unit grid := by
  have twos : (2 : ℚ) ^ (-r.exponent).toNat ≠ 0 := by positivity
  rw [toRat, unit, zpow_eq_toNat_div 2 r.exponent]
  simp only [scale, twoTo, tenTo, Nat.pow_eq]
  push_cast
  field_simp

/-- Points of the grid in terms of the common unit. -/
theorem cast_step (r : Rounding) (grid : ℤ) (count : ℕ) :
    ((count * (r.onGrid grid).step : ℕ) : ℚ) = count * 10 ^ grid * r.unit grid := by
  have tens : (10 : ℚ) ^ (-grid).toNat ≠ 0 := by positivity
  rw [unit, zpow_eq_toNat_div 10 grid]
  simp only [onGrid, twoTo, tenTo, Nat.pow_eq]
  push_cast
  field_simp

/-- Quarters and points of the grid compare on the common unit as they do. -/
theorem scaled_le_iff (r : Rounding) (grid : ℤ) (quarters count : ℕ) :
    quarters * r.scale grid ≤ count * (r.onGrid grid).step ↔
      r.toRat quarters ≤ count * 10 ^ grid := by
  rw [← Nat.cast_le (α := ℚ), cast_scaled, cast_step]
  exact mul_le_mul_iff_left₀ (r.unit_pos grid)

/-- Points of the grid and quarters compare on the common unit as they do. -/
theorem le_scaled_iff (r : Rounding) (grid : ℤ) (quarters count : ℕ) :
    count * (r.onGrid grid).step ≤ quarters * r.scale grid ↔
      count * 10 ^ grid ≤ r.toRat quarters := by
  rw [← Nat.cast_le (α := ℚ), cast_scaled, cast_step]
  exact mul_le_mul_iff_left₀ (r.unit_pos grid)

/-- The points of a grid are apart. -/
theorem step_pos (r : Rounding) (grid : ℤ) : 0 < (r.onGrid grid).step := by
  simp only [onGrid, twoTo, tenTo, Nat.pow_eq]
  positivity

/-- A decimal that stands for a number among those that round to the given one, and is at least the
point of its grid below the number. -/
structure Admits (r : Rounding) (d : Decimal) : Prop where
  /-- It is not below the lower end. -/
  low : r.toRat r.low ≤ d.toRat
  /-- It is not above the upper end. -/
  high : d.toRat ≤ r.toRat r.high
  /-- It is not below any point of its grid that is not above the number. -/
  floor : ∀ count : ℕ, count * 10 ^ d.exponent ≤ r.toRat r.value → count ≤ d.coefficient

/-- A point that is accepted is among the numbers that round to the given one. -/
theorem bounds_of_accepts {r : Rounding} {grid : ℤ} {closed : Bool} {count : ℕ}
    (accepted : (r.onGrid grid).accepts closed count = true) :
    r.toRat r.low ≤ count * 10 ^ grid ∧ count * 10 ^ grid ≤ r.toRat r.high := by
  have ends : r.low * r.scale grid ≤ count * (r.onGrid grid).step ∧
      count * (r.onGrid grid).step ≤ r.high * r.scale grid := by
    cases closed with
    | true =>
      simp only [Scaled.accepts, if_true, Bool.and_eq_true, decide_eq_true_eq] at accepted
      exact accepted
    | false =>
      simp only [Scaled.accepts, Bool.false_eq_true, if_false, Bool.and_eq_true,
        decide_eq_true_eq] at accepted
      exact ⟨Nat.le_of_lt accepted.1, Nat.le_of_lt accepted.2⟩
  exact ⟨(r.scaled_le_iff grid r.low count).mp ends.1,
    (r.le_scaled_iff grid r.high count).mp ends.2⟩

/-- The number of whole steps below the given number. -/
theorem le_count {r : Rounding} {grid : ℤ} {count : ℕ}
    (below : count * 10 ^ grid ≤ r.toRat r.value) :
    count ≤ (r.onGrid grid).value / (r.onGrid grid).step :=
  (Nat.le_div_iff_mul_le (r.step_pos grid)).mpr ((r.le_scaled_iff grid r.value count).mpr below)

/-- The neighbour that is taken on a grid is admitted. -/
theorem admits_of_neighbour? {r : Rounding} {tie : Tie} {grid : ℤ} {d : Decimal}
    (found : r.neighbour? tie grid = some d) : d.exponent = grid ∧ r.Admits d := by
  have admitted {count : ℕ} (accepted : (r.onGrid grid).accepts r.closed count = true)
      (above : (r.onGrid grid).value / (r.onGrid grid).step ≤ count) :
      r.Admits ⟨count, grid⟩ := by
    obtain ⟨low, high⟩ := bounds_of_accepts accepted
    exact ⟨low, high, fun other below => (le_count below).trans above⟩
  simp only [neighbour?] at found
  split at found
  · rename_i lower upper
    obtain rfl := Option.some.inj found
    refine ⟨rfl, ?_⟩
    split
    · exact admitted upper (Nat.le_succ _)
    · exact admitted lower (Nat.le_refl _)
  · rename_i lower upper
    obtain rfl := Option.some.inj found
    exact ⟨rfl, admitted lower (Nat.le_refl _)⟩
  · rename_i lower upper
    obtain rfl := Option.some.inj found
    exact ⟨rfl, admitted upper (Nat.le_succ _)⟩
  · simp at found

/-- On a grid that is finer than the room above the number, the point above it is accepted. -/
theorem neighbour?_isSome {r : Rounding} (tie : Tie) {grid : ℤ} (below : r.low < r.value)
    (fine : r.toRat r.value + 10 ^ grid < r.toRat r.high) :
    (r.neighbour? tie grid).isSome = true := by
  have accepted : (r.onGrid grid).accepts r.closed
      ((r.onGrid grid).value / (r.onGrid grid).step + 1) = true := by
    generalize counted : (r.onGrid grid).value / (r.onGrid grid).step = count
    have lower : count * (r.onGrid grid).step ≤ r.value * r.scale grid := by
      rw [← counted]
      exact Nat.div_mul_le_self _ _
    have upper : r.value * r.scale grid < (count + 1) * (r.onGrid grid).step := by
      rw [← counted]
      rw [Nat.mul_comm _ (r.onGrid grid).step]
      exact Nat.lt_mul_div_succ _ (r.step_pos grid)
    have high : ¬ r.high * r.scale grid ≤ (count + 1) * (r.onGrid grid).step := by
      rw [scaled_le_iff]
      have near := (r.le_scaled_iff grid r.value count).mp lower
      push_cast
      linarith
    have low : r.low * r.scale grid ≤ r.value * r.scale grid :=
      Nat.mul_le_mul_right _ (Nat.le_of_lt below)
    have between : r.low * r.scale grid < (count + 1) * (r.onGrid grid).step ∧
        (count + 1) * (r.onGrid grid).step < r.high * r.scale grid := by omega
    cases r.closed with
    | true =>
      simp only [Scaled.accepts, if_true, Bool.and_eq_true, decide_eq_true_eq]
      exact ⟨Nat.le_of_lt between.1, Nat.le_of_lt between.2⟩
    | false =>
      simp only [Scaled.accepts, Bool.false_eq_true, if_false, Bool.and_eq_true,
        decide_eq_true_eq]
      exact between
  simp only [neighbour?, accepted]
  split <;> simp_all

/-- A search that reaches a fine enough grid finds an admitted decimal on the way. -/
theorem admits_search {r : Rounding} (tie : Tie) (below : r.low < r.value) (left : ℕ) (grid : ℤ)
    (fine : r.toRat r.value + 10 ^ (grid - left) < r.toRat r.high) :
    (r.search tie (left + 1) grid).exponent ≤ grid ∧ r.Admits (r.search tie (left + 1) grid) := by
  induction left generalizing grid with
  | zero =>
    have some := neighbour?_isSome tie below (by simpa using fine)
    obtain ⟨d, found⟩ := Option.isSome_iff_exists.mp some
    obtain ⟨same, admits⟩ := admits_of_neighbour? found
    rw [search, found]
    exact ⟨same.le, admits⟩
  | succ left ih =>
    cases found : r.neighbour? tie grid with
    | some d =>
      obtain ⟨same, admits⟩ := admits_of_neighbour? found
      rw [search, found]
      exact ⟨same.le, admits⟩
    | none =>
      have next : r.search tie (left + 1 + 1) grid = r.search tie (left + 1) (grid - 1) := by
        rw [search, found]
      have finer : grid - ((left + 1 : ℕ) : ℤ) = grid - 1 - (left : ℤ) := by
        push_cast
        ring
      rw [finer] at fine
      obtain ⟨smaller, admits⟩ := ih (grid - 1) fine
      rw [next]
      exact ⟨by omega, admits⟩

/-- The exponent of the leading binary digit of the number. -/
def level (r : Rounding) : ℤ := (r.value.log2 : ℤ) + r.exponent

/-- The number lies between two powers of two. -/
theorem level_bounds {r : Rounding} (positive : r.value ≠ 0) :
    2 ^ r.level ≤ r.toRat r.value ∧ r.toRat r.value < 2 ^ (r.level + 1) := by
  have nonzero : (2 : ℚ) ≠ 0 := by norm_num
  have scale : (0 : ℚ) < 2 ^ r.exponent := by positivity
  have low : ((2 : ℚ) ^ r.value.log2) ≤ r.value := by
    exact_mod_cast Nat.log2_self_le positive
  have high : (r.value : ℚ) < 2 ^ (r.value.log2 + 1) := by
    exact_mod_cast Nat.lt_log2_self
  have next : r.level + 1 = ((r.value.log2 + 1 : ℕ) : ℤ) + r.exponent := by
    unfold level
    push_cast
    ring
  rw [next, level, toRat, zpow_add₀ nonzero, zpow_add₀ nonzero, zpow_natCast, zpow_natCast]
  exact ⟨mul_le_mul_of_nonneg_right low scale.le, mul_lt_mul_of_pos_right high scale⟩

/-- For the levels that matter the guess at the leading power of ten is off by one at most. -/
theorem guess_bounds : ∀ level < 64, 10 ^ (level * 30103 / 100000) ≤ 10 * 2 ^ level ∧
    2 ^ (level + 1) ≤ 10 ^ (level * 30103 / 100000 + 2) := by
  decide

/-- A power of ten is reached exactly when the number is not below it. -/
theorem reaches_iff {r : Rounding} (exponent : ℤ) :
    (r.onGrid exponent).step ≤ (r.onGrid exponent).value ↔ 10 ^ exponent ≤ r.toRat r.value := by
  have one := r.le_scaled_iff exponent r.value 1
  rw [Nat.one_mul, Nat.cast_one, one_mul] at one
  exact one

/-- The magnitude is the exponent of the leading power of ten of the number. -/
theorem magnitude_bounds {r : Rounding} (positive : r.value ≠ 0) (least : 0 ≤ r.level)
    (most : r.level < 64) :
    10 ^ r.magnitude ≤ r.toRat r.value ∧ r.toRat r.value < 10 ^ (r.magnitude + 1) := by
  obtain ⟨level, same⟩ := Int.eq_ofNat_of_zero_le least
  obtain ⟨low, high⟩ := level_bounds positive
  rw [same] at low high most
  obtain ⟨below, above⟩ := guess_bounds level (by omega)
  generalize guessed : level * 30103 / 100000 = guess at below above
  have start : ((r.value.log2 : ℤ) + r.exponent) * 30103 / 100000 = (guess : ℤ) := by
    have known : (r.value.log2 : ℤ) + r.exponent = level := same
    rw [known, ← guessed]
    push_cast
    rfl
  have lowest : (10 : ℚ) ^ ((guess : ℤ) - 1) ≤ r.toRat r.value := by
    have cast : (10 : ℚ) ^ guess ≤ 10 * 2 ^ level := by exact_mod_cast below
    rw [zpow_natCast] at low
    rw [zpow_sub_one₀ (by norm_num), zpow_natCast]
    linarith
  have highest : r.toRat r.value < (10 : ℚ) ^ ((guess : ℤ) + 1 + 1) := by
    have cast : (2 : ℚ) ^ (level + 1) ≤ 10 ^ (guess + 2) := by exact_mod_cast above
    have up : ((level : ℤ) + 1) = ((level + 1 : ℕ) : ℤ) := by push_cast; rfl
    have upper : ((guess : ℤ) + 1 + 1) = ((guess + 2 : ℕ) : ℤ) := by push_cast; ring
    rw [up, zpow_natCast] at high
    rw [upper, zpow_natCast]
    exact high.trans_le cast
  simp only [magnitude, start, reaches_iff, decide_eq_true_eq]
  split
  · rename_i reached
    exact ⟨reached, highest⟩
  · rename_i missed
    split
    · rename_i reached
      exact ⟨reached, not_le.mp missed⟩
    · rename_i missed
      rw [sub_add_cancel]
      exact ⟨lowest, not_le.mp missed⟩

section Of

variable {mantissa : ℕ} {exponent least : ℤ}

/-- A quarter of the unit. -/
theorem quarter (exponent : ℤ) : (2 : ℚ) ^ (exponent - 2) = 2 ^ exponent / 4 := by
  rw [zpow_sub₀ (by norm_num)]
  norm_num

/-- The number itself. -/
theorem toRat_value : (Rounding.of mantissa exponent least).toRat
    (Rounding.of mantissa exponent least).value = mantissa * 2 ^ exponent := by
  simp only [toRat, Rounding.of, quarter]
  push_cast
  ring

/-- The upper end is half a unit above the number. -/
theorem toRat_high : (Rounding.of mantissa exponent least).toRat
    (Rounding.of mantissa exponent least).high = (mantissa + 1 / 2) * 2 ^ exponent := by
  simp only [toRat, Rounding.of, quarter]
  push_cast
  ring

/-- The lower end is at most half a unit below the number. -/
theorem le_toRat_low : (mantissa - 1 / 2) * 2 ^ exponent ≤
    (Rounding.of mantissa exponent least).toRat (Rounding.of mantissa exponent least).low := by
  have scale : (0 : ℚ) < 2 ^ exponent := by positivity
  have bound : (4 * mantissa - 2 : ℚ) ≤ ((Rounding.of mantissa exponent least).low : ℚ) := by
    have whole : 4 * mantissa ≤ (Rounding.of mantissa exponent least).low + 2 := by
      simp only [Rounding.of]
      split
      · omega
      · omega
    have cast : (4 * mantissa : ℚ) ≤ ((Rounding.of mantissa exponent least).low : ℚ) + 2 := by
      exact_mod_cast whole
    linarith
  have unit : (Rounding.of mantissa exponent least).exponent = exponent - 2 := rfl
  rw [toRat, unit, quarter]
  nlinarith

/-- The lower end of a positive number is below it. -/
theorem low_lt_value (positive : 0 < mantissa) :
    (Rounding.of mantissa exponent least).low < (Rounding.of mantissa exponent least).value := by
  simp only [Rounding.of]
  split
  · omega
  · omega

/-- Seventeen digits after the leading one are finer than half a unit. -/
theorem fine_of_magnitude {magnitude : ℤ} (small : mantissa < 2 ^ 53)
    (reached : 10 ^ magnitude ≤ (mantissa : ℚ) * 2 ^ exponent) :
    (mantissa : ℚ) * 2 ^ exponent + 10 ^ (magnitude - 17) < (mantissa + 1 / 2) * 2 ^ exponent := by
  have scale : (0 : ℚ) < 2 ^ exponent := by positivity
  have cast : (mantissa : ℚ) < 2 ^ 53 := by exact_mod_cast small
  have finest : (10 : ℚ) ^ (magnitude - 17) = 10 ^ magnitude / 10 ^ 17 := by
    rw [zpow_sub₀ (by norm_num)]
    norm_num
  have above : (mantissa : ℚ) * 2 ^ exponent < 2 ^ 53 * 2 ^ exponent :=
    mul_lt_mul_of_pos_right cast scale
  rw [finest]
  have share : (10 : ℚ) ^ magnitude / 10 ^ 17 < 1 / 2 * 2 ^ exponent := by
    rw [div_lt_iff₀ (by norm_num)]
    calc (10 : ℚ) ^ magnitude ≤ mantissa * 2 ^ exponent := reached
      _ < 2 ^ 53 * 2 ^ exponent := above
      _ ≤ 1 / 2 * 2 ^ exponent * 10 ^ 17 := by nlinarith
  linarith

end Of

end Rounding

/-- Moving factors of ten to the exponent does not change a decimal. -/
theorem Decimal.toRat_reduced (count : ℕ) (d : Decimal) : (d.reduced count).toRat = d.toRat := by
  induction count generalizing d with
  | zero => rfl
  | succ count ih =>
    rw [Decimal.reduced]
    split
    · rename_i divisible
      rw [ih]
      obtain ⟨rest, same⟩ := Nat.dvd_of_mod_eq_zero divisible.2
      have quotient : d.coefficient / 10 = rest := by omega
      simp only [Decimal.toRat, quotient]
      rw [same, zpow_add_one₀ (by norm_num)]
      push_cast
      ring
    · rfl

/-- A shortest decimal lies at most half a unit away from the number, and is not below its leading
power of ten. -/
theorem shortest_bounds (tie : Tie) {mantissa : ℕ} {exponent least magnitude : ℤ}
    (positive : 0 < mantissa) (small : mantissa < 2 ^ 53)
    (leading : (Rounding.of mantissa exponent least).magnitude = magnitude)
    (reached : 10 ^ magnitude ≤ (mantissa : ℚ) * 2 ^ exponent) :
    10 ^ magnitude ≤ (shortest tie mantissa exponent least).toRat ∧
      (mantissa - 1 / 2) * 2 ^ exponent ≤ (shortest tie mantissa exponent least).toRat ∧
      (shortest tie mantissa exponent least).toRat ≤ (mantissa + 1 / 2) * 2 ^ exponent := by
  have fine : (Rounding.of mantissa exponent least).toRat
        (Rounding.of mantissa exponent least).value + 10 ^ (magnitude - (17 : ℕ)) <
      (Rounding.of mantissa exponent least).toRat (Rounding.of mantissa exponent least).high := by
    rw [Rounding.toRat_value, Rounding.toRat_high]
    exact Rounding.fine_of_magnitude small reached
  obtain ⟨coarse, admits⟩ := Rounding.admits_search tie (Rounding.low_lt_value positive) 17
    magnitude fine
  simp only [shortest, leading, Decimal.toRat_reduced]
  generalize (Rounding.of mantissa exponent least).search tie 18 magnitude = d at coarse admits
  refine ⟨?_, Rounding.le_toRat_low.trans admits.low, admits.high.trans_eq Rounding.toRat_high⟩
  -- The leading power of ten is a point of every finer grid.
  obtain ⟨places, apart⟩ := Int.eq_ofNat_of_zero_le (sub_nonneg.mpr coarse)
  have point : ((10 ^ places : ℕ) : ℚ) * 10 ^ d.exponent = 10 ^ magnitude := by
    have sum : magnitude = (places : ℤ) + d.exponent := by omega
    rw [sum, zpow_add₀ (by norm_num), zpow_natCast]
    push_cast
    rfl
  have counted : 10 ^ places ≤ d.coefficient := by
    refine admits.floor _ ?_
    rw [point, Rounding.toRat_value]
    exact reached
  rw [← point, Decimal.toRat]
  have scale : (0 : ℚ) ≤ 10 ^ d.exponent := by positivity
  exact mul_le_mul_of_nonneg_right (by exact_mod_cast counted) scale

end ReportLang.Number
