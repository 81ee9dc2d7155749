import ReportLang.Proofs.Text.LowerCase
import ReportLang.Text.Class
import ReportLang.Text.Numeral

/-!
# Plain numerals

Whole numbers in plain decimal are read back, as counts and as integers, within the bounds of each.
Their digits are neither blanks nor capital letters, so that trimming and lower-casing leave them as
they are.
-/

namespace ReportLang.Text

/-- The code points of digits. -/
theorem toNat_of_isDigit {c : Char} (digit : c.isDigit = true) : 48 ≤ c.toNat ∧ c.toNat ≤ 57 := by
  simpa [Char.isDigit, UInt32.le_iff_toNat_le] using digit

/-- A digit is no blank. -/
theorem isBlank_of_isDigit {c : Char} (digit : c.isDigit = true) : isBlank c = false := by
  have range := toNat_of_isDigit digit
  have ascii : c.toNat < 128 := by omega
  simp only [isBlank, if_pos ascii, Bool.or_eq_false_iff, beq_eq_false_iff_ne,
    Bool.and_eq_false_iff, decide_eq_false_iff_not]
  omega

/-- A digit has no case. -/
theorem isSmall_of_isDigit {c : Char} (digit : c.isDigit = true) : IsSmall c := by
  have range := toNat_of_isDigit digit
  have fixed := toLower_of_not_capital c.toNat (by omega) (.inl (by omega))
  rw [Char.ofNat_toNat] at fixed
  exact isSmall_of_ascii (by omega) fixed

variable {n : Nat}

/-- A numeral consists of digits. -/
theorem isDigit_of_mem_toString {c : Char} (member : c ∈ (toString n).toList) :
    c.isDigit = true := by
  rw [Nat.toString_eq_repr, Nat.toList_repr] at member
  exact Nat.isDigit_of_mem_toDigits (by decide) (by decide) member

/-- A numeral has digits. -/
theorem toList_toString_ne_nil (n : Nat) : (toString n).toList ≠ [] := by
  rw [Nat.toString_eq_repr, Nat.toList_repr]
  exact Nat.toDigits_ne_nil

/-- A numeral is one or more digits. -/
theorem isDigits_toString (n : Nat) : isDigits (toString n).toList = true := by
  have digits : (toString n).toList.all Char.isDigit = true :=
    List.all_eq_true.mpr fun _ => isDigit_of_mem_toString
  have nonempty : (toString n).toList.isEmpty = false := by
    rw [List.isEmpty_eq_false_iff]
    exact toList_toString_ne_nil n
  rw [isDigits, nonempty, digits]
  rfl

/-- A numeral denotes its number. -/
theorem readDigits?_toString (n : Nat) : readDigits? (toString n).toList = some n := by
  have denotes : digitsValue (Nat.toDigits 10 n) = Nat.ofDigitChars 10 (Nat.toDigits 10 n) 0 := by
    simp only [digitsValue, Nat.ofDigitChars, Nat.mul_comm]
  rw [readDigits?, if_pos (isDigits_toString n), Nat.toString_eq_repr, Nat.toList_repr, denotes,
    Nat.ofDigitChars_toDigits (by decide) (by decide)]

/-- A numeral starts with no sign. -/
theorem head_toString_ne_sign {sign : Char} (plain : sign.isDigit = false) (rest : List Char) :
    (toString n).toList ≠ sign :: rest := by
  intro same
  have digit := isDigit_of_mem_toString (same ▸ List.mem_cons_self)
  rw [digit] at plain
  cases plain

/-- A count within its bound is read from its numeral. -/
theorem natural?_toString (below : n < naturalBound) : natural? (toString n) = some n := by
  unfold natural?
  split
  · rename_i rest same
    exact absurd same (head_toString_ne_sign rfl rest)
  · show (readDigits? (toString n).toList).filter (· < naturalBound) = some n
    rw [readDigits?_toString, Option.filter_some, if_pos (decide_eq_true below)]

/-- An integer within the 64-bit range is read from its numeral. -/
theorem integer?_toString (below : (n : Int) ≤ integerMax) :
    integer? (toString n) = some (n : Int) := by
  have inRange : inIntegerRange n = true := by
    have above : integerMin ≤ (n : Int) := by
      unfold integerMin
      omega
    simp [inIntegerRange, above, below]
  unfold integer?
  split
  · rename_i rest same
    exact absurd same (head_toString_ne_sign rfl rest)
  · rename_i rest same
    exact absurd same (head_toString_ne_sign rfl rest)
  · rw [readDigits?_toString, Option.map_some, Option.filter_some]
    exact if_pos inRange

/-- There are no blanks around a numeral. -/
theorem trim_toString (n : Nat) : trim (toString n) = toString n := by
  have kept {chars : List Char} (plain : ∀ c ∈ chars, isBlank c = false) :
      chars.dropWhile isBlank = chars := by
    cases chars with
    | nil => rfl
    | cons c rest => rw [List.dropWhile_cons, if_neg (by simp [plain c List.mem_cons_self])]
  have plain : ∀ c ∈ (toString n).toList, isBlank c = false :=
    fun _ member => isBlank_of_isDigit (isDigit_of_mem_toString member)
  rw [trim, trimEnd, kept plain, String.toList_ofList, kept (by simpa using plain),
    List.reverse_reverse, String.ofList_toList]

/-- A numeral is its own lower-case form. -/
theorem lower_toString (n : Nat) : lower (toString n) = toString n := by
  have small := @lower_of_isSmall (toString n).toList
    fun _ member => isSmall_of_isDigit (isDigit_of_mem_toString member)
  rwa [String.ofList_toList] at small

end ReportLang.Text
