import ReportLang.Proofs.Text.Numeral
import ReportLang.Value.Convert

/-!
# Numbers of fixed length as texts

A number whose type has a length is written with zeros in front of its numeral. Read as a decimal
number, digits behind at most one minus sign, the text denotes the number as long as no zero comes
before a minus sign. So every number that is not negative is read back, and a negative one only if
its numeral already has all the places of its type: a text such as `00-5` is no number. All of this
is said for lengths up to the largest width of a text; a number of a larger length cannot be
written.
-/

namespace ReportLang

namespace Text

/-- The number that digits behind at most one minus sign denote. -/
def decimal? (text : String) : Option Int :=
  match text.toList with
  | '-' :: digits => (readDigits? digits).map fun n : Nat => -(n : Int)
  | digits => (readDigits? digits).map Int.ofNat

/-- Zeros in front change nothing about the number that digits denote. -/
theorem digitsValue_zeros (count : Nat) (digits : List Char) :
    digitsValue (List.replicate count '0' ++ digits) = digitsValue digits := by
  induction count with
  | zero => rfl
  | succ count ih =>
    rw [List.replicate_succ, List.cons_append]
    exact ih

/-- Digits with zeros in front are read as the number they denote alone. -/
theorem readDigits?_zeros {digits : List Char} {n : Nat} (count : Nat)
    (read : readDigits? digits = some n) :
    readDigits? (List.replicate count '0' ++ digits) = some n := by
  unfold readDigits? at read ⊢
  split at read
  · rename_i whole
    obtain ⟨nonempty, all⟩ := Bool.and_eq_true_iff.mp whole
    have padded : isDigits (List.replicate count '0' ++ digits) = true := by
      have zero : Char.isDigit '0' = true := rfl
      refine Bool.and_eq_true_iff.mpr ⟨?_, ?_⟩
      · simpa using fun _ => by simpa using nonempty
      · rw [List.all_append, all, Bool.and_true, List.all_replicate, zero]
        exact ite_self true
    rw [if_pos padded, digitsValue_zeros]
    exact read
  · cases read

/-- What contains anything but digits is not read. -/
theorem readDigits?_eq_none_of_mem {chars : List Char} {c : Char} (member : c ∈ chars)
    (other : c.isDigit = false) : readDigits? chars = none := by
  refine if_neg fun whole => ?_
  have digit := List.all_eq_true.mp (Bool.and_eq_true_iff.mp whole).2 c member
  rw [other] at digit
  cases digit

/-- A text that starts with no minus sign denotes what its digits denote. -/
theorem decimal?_of_unsigned {chars : List Char} (unsigned : chars.head? ≠ some '-') :
    decimal? (String.ofList chars) = (readDigits? chars).map Int.ofNat := by
  unfold decimal?
  rw [String.toList_ofList]
  split
  · exact absurd rfl unsigned
  · rfl

/-- Digits alone denote their own number. -/
theorem decimal?_of_readDigits? {chars : List Char} {n : Nat} (read : readDigits? chars = some n) :
    decimal? (String.ofList chars) = some (n : Int) := by
  have unsigned : chars.head? ≠ some '-' := by
    intro sign
    obtain ⟨rest, rfl⟩ := List.head?_eq_some_iff.mp sign
    rw [readDigits?_eq_none_of_mem List.mem_cons_self rfl] at read
    cases read
  rw [decimal?_of_unsigned unsigned, read]
  rfl

/-- The padded text is as long as it should be if the text is not longer. -/
theorem length_zeroPadded {width : Nat} {text : String} (fits : text.length ≤ width) :
    (zeroPadded width text).length = width := by
  simp only [zeroPadded, String.length_ofList, List.length_append, List.length_replicate,
    String.length_toList]
  omega

/-- A text that has all places already gets no zeros. -/
theorem zeroPadded_of_full {width : Nat} {text : String} (full : text.length = width) :
    zeroPadded width text = text := by
  simp only [zeroPadded, full, Nat.sub_self, List.replicate_zero, List.nil_append,
    String.ofList_toList]

/-- The numeral of a negative number is a minus sign and the numeral of the number without it. -/
theorem toList_toString_negSucc (n : Nat) :
    (toString (Int.negSucc n)).toList = '-' :: (toString (n + 1)).toList := by
  have minus : toString (Int.negSucc n) = "-" ++ toString (n + 1) := rfl
  rw [minus, String.toList_append]
  rfl

/-- A numeral denotes its number. -/
theorem decimal?_toString (n : Int) : decimal? (toString n) = some n := by
  cases n with
  | ofNat n =>
    have read := decimal?_of_readDigits? (readDigits?_toString n)
    rwa [String.ofList_toList] at read
  | negSucc n =>
    simp only [decimal?, toList_toString_negSucc, readDigits?_toString, Option.map_some]
    rfl

/-- A numeral without a sign denotes its number with zeros in front. -/
theorem decimal?_zeroPadded_ofNat (width n : Nat) :
    decimal? (zeroPadded width (toString (n : Int))) = some (n : Int) :=
  decimal?_of_readDigits? (readDigits?_zeros _ (readDigits?_toString n))

/-- A numeral with a minus sign denotes nothing with zeros in front. -/
theorem decimal?_zeroPadded_negSucc {width n : Nat}
    (shorter : (toString (Int.negSucc n)).length < width) :
    decimal? (zeroPadded width (toString (Int.negSucc n))) = none := by
  obtain ⟨count, zeros⟩ : ∃ count, width - (toString (Int.negSucc n)).length = count + 1 :=
    ⟨width - (toString (Int.negSucc n)).length - 1, by omega⟩
  have sign : '-' ∈ List.replicate (count + 1) '0' ++ '-' :: (toString (n + 1)).toList := by simp
  have unsigned :
      (List.replicate (count + 1) '0' ++ '-' :: (toString (n + 1)).toList).head? ≠ some '-' := by
    rw [List.replicate_succ, List.cons_append, List.head?_cons]
    decide
  rw [zeroPadded, zeros, toList_toString_negSucc, decimal?_of_unsigned unsigned,
    readDigits?_eq_none_of_mem sign rfl, Option.map_none]

/-- A numeral that is filled up with zeros denotes its number exactly if no zero comes before a
minus sign. -/
theorem decimal?_zeroPadded {width : Nat} {n : Int} (fits : (toString n).length ≤ width) :
    decimal? (zeroPadded width (toString n)) =
      if 0 ≤ n ∨ (toString n).length = width then some n else none := by
  by_cases full : (toString n).length = width
  · rw [zeroPadded_of_full full, if_pos (.inr full), decimal?_toString]
  · cases n with
    | ofNat n =>
      rw [if_pos (.inl (Int.natCast_nonneg n))]
      exact decimal?_zeroPadded_ofNat width n
    | negSucc n =>
      have negative : ¬ (0 ≤ Int.negSucc n ∨ (toString (Int.negSucc n)).length = width) :=
        fun either => either.elim (Int.negSucc_not_nonneg n).mp full
      rw [if_neg negative]
      exact decimal?_zeroPadded_negSucc (Nat.lt_of_le_of_ne fits full)

end Text

namespace Value

/-- A whole number of fixed length that has room for its numeral is written in exactly as many
places as its type has. Read as a decimal number, the text denotes the number if it is not negative
or the numeral has all places, and nothing otherwise. If there are more places than a text can be
filled up to, writing it is a crash. Without padding, the text is the numeral. -/
theorem toText_fixed_length {base : Base} {width : Nat} {n : Int}
    (whole : base = .numericText ∨ base = .packed) (fits : (toString n).length ≤ width) :
    (width ≤ Text.maxWidth → ∃ text,
      (Value.number (.elementary base (some width)) n).toText false = .ok text ∧
        text.length = width ∧
        Text.decimal? text =
          if 0 ≤ n ∨ (toString n).length = width then some n else none) ∧
    (Text.maxWidth < width →
      (Value.number (.elementary base (some width)) n).toText false =
        .error (.widthOutOfRange width)) ∧
    (Value.number (.elementary base (some width)) n).toText true = .ok (toString n) ∧
    Text.decimal? (toString n) = some n := by
  have numeric : (Value.number (.elementary base (some width)) n).isNumeric = true := by
    rcases whole with rfl | rfl
    · rfl
    · rfl
  have padded : (Value.number (.elementary base (some width)) n).toText false =
      Text.zeroFilled width (toString n) := by
    simp only [toText, ty, Ty.length?, numeric, Bool.not_false, Bool.and_self, if_true, asText]
  have plain : (Value.number (.elementary base (some width)) n).toText true =
      .ok (toString n) := by
    simp [toText, ty, Ty.length?, asText]
  refine ⟨fun inside => ?_, fun outside => ?_, plain, Text.decimal?_toString n⟩
  · refine ⟨Text.zeroPadded width (toString n), ?_, Text.length_zeroPadded fits,
      Text.decimal?_zeroPadded fits⟩
    rw [padded, Text.zeroFilled, if_pos inside]
  · rw [padded, Text.zeroFilled, if_neg (Nat.not_le.mpr outside)]

/-- A packed number of five places shows 42 as `00042` and -1234 as `-1234`, which are read back. -/
theorem toText_fixed_length_five :
    (Value.number (.elementary .packed (some 5)) 42).toText false = .ok "00042" ∧
    Text.decimal? "00042" = some 42 ∧
    (Value.number (.elementary .packed (some 5)) (-1234)).toText false = .ok "-1234" ∧
    Text.decimal? "-1234" = some (-1234) := by
  obtain ⟨positive, _⟩ := @toText_fixed_length .packed 5 42 (.inr rfl) (by decide)
  obtain ⟨negative, _⟩ := @toText_fixed_length .packed 5 (-1234) (.inr rfl) (by decide)
  have forty : (Value.number (.elementary .packed (some 5)) 42).toText false = .ok "00042" := by
    rfl
  have minus : (Value.number (.elementary .packed (some 5)) (-1234)).toText false =
      .ok "-1234" := by rfl
  obtain ⟨text, same, _, read⟩ := positive (by decide)
  obtain ⟨other, equal, _, denoted⟩ := negative (by decide)
  rw [forty] at same
  rw [minus] at equal
  obtain rfl := Except.ok.inj same
  obtain rfl := Except.ok.inj equal
  exact ⟨forty, read, minus, denoted⟩

/-- The number -5 can be stored in four places, but what is written for it is no decimal number. The
number 5 can be stored in 65536 places, but writing it is a crash. -/
theorem toText_sign_after_zeros :
    (Value.ofInteger (-5)).convert (.elementary .numericText (some 4)) false =
      .ok (.number (.elementary .numericText (some 4)) (-5)) ∧
    (toString (-5 : Int)).length ≤ 4 ∧
    (Value.number (.elementary .numericText (some 4)) (-5)).toText false = .ok "00-5" ∧
    Text.decimal? "00-5" = none ∧
    (Value.ofInteger 5).convert (.elementary .numericText (some 65536)) false =
      .ok (.number (.elementary .numericText (some 65536)) 5) ∧
    (Value.number (.elementary .numericText (some 65536)) 5).toText false =
      .error (.widthOutOfRange 65536) := by
  refine ⟨rfl, by decide, by rfl, by decide, rfl, rfl⟩

end Value

end ReportLang
