import ReportLang.Proofs.Text.Delimiter
import ReportLang.Proofs.Text.LetterCase
import ReportLang.Session.Operand

/-!
# Paths in lower case

A name with fields after it is cut at hyphens, and its parts are lower-cased one by one.
Lower-casing the whole first comes to the same: a hyphen is no letter, so that the sigma at the end
of a part is final in both cases, and no other character has a hyphen in its lower-case form.
-/

namespace ReportLang

namespace Text

/-- A separator at the start ends an empty part. -/
theorem splitParts_separator (separator : Char) (rest : List Char) :
    splitParts separator (separator :: rest) =
      ([], (splitParts separator rest).1 :: (splitParts separator rest).2) := by
  simp [splitParts]

/-- What stands before a separator stays together. -/
theorem splitParts_append {separator : Char} {chars : List Char} (absent : separator ∉ chars)
    (rest : List Char) :
    splitParts separator (chars ++ rest) =
      (chars ++ (splitParts separator rest).1, (splitParts separator rest).2) := by
  induction chars with
  | nil => rfl
  | cons c chars ih =>
    simp only [List.mem_cons, not_or] at absent
    simp [splitParts, ih absent.2, Ne.symm absent.1]

/-- A first character that is no separator belongs to the first part. -/
theorem splitParts_cons {separator c : Char} (other : c ≠ separator) (rest : List Char) :
    splitParts separator (c :: rest) =
      (c :: (splitParts separator rest).1, (splitParts separator rest).2) := by
  have absent : separator ∉ [c] := by simp [other.symm]
  exact splitParts_append absent rest

/-- Whether a text starts with a character that has case is seen from its first character, unless
that is passed over. -/
theorem startsCased_cons (c : Char) (rest : List Char) :
    startsCased (c :: rest) = if isCaseIgnorable c then startsCased rest else isCased c := by
  unfold startsCased
  cases ignorable : isCaseIgnorable c with
  | true => rw [List.dropWhile_cons_of_pos ignorable, if_pos rfl]
  | false => rw [List.dropWhile_cons_of_neg (by simp [ignorable]), if_neg (by simp)]

/-- A hyphen has no case and is not passed over. -/
theorem startsCased_fieldMark (rest : List Char) : startsCased (fieldMark :: rest) = false :=
  startsCased_cons fieldMark rest

/-- Nothing behind a hyphen matters for whether a text starts with case. -/
theorem startsCased_append_fieldMark (chars more : List Char) :
    startsCased (chars ++ fieldMark :: more) = startsCased chars := by
  induction chars with
  | nil => exact startsCased_fieldMark more
  | cons c chars ih => rw [List.cons_append, startsCased_cons, startsCased_cons, ih]

/-- Only the part before the first hyphen matters for whether a text starts with case. -/
theorem startsCased_splitParts (chars : List Char) :
    startsCased (splitParts fieldMark chars).1 = startsCased chars := by
  induction chars with
  | nil => rfl
  | cons c rest ih =>
    by_cases hyphen : c = fieldMark
    · subst hyphen
      rw [splitParts_separator, startsCased_fieldMark]
      rfl
    · rw [splitParts_cons hyphen, startsCased_cons, startsCased_cons, ih]

/-- Nothing before a hyphen matters for the characters after it. -/
theorem lowerAfter_append_fieldMark (before more chars : List Char) :
    lowerAfter (before ++ fieldMark :: more) chars = lowerAfter before chars := by
  induction chars generalizing before with
  | nil => rfl
  | cons c rest ih =>
    rw [lowerAfter, lowerAfter, lowerBetween, lowerBetween, startsCased_append_fieldMark,
      ← List.cons_append, ih]

/-- A hyphen is its own lower-case form. -/
theorem lowerBetween_fieldMark (before after : List Char) :
    lowerBetween before fieldMark after = [fieldMark] := rfl

/-- No other character has a hyphen in its lower-case form. -/
theorem fieldMark_not_mem_lowerBetween (before after : List Char) {c : Char}
    (other : c ≠ fieldMark) : fieldMark ∉ lowerBetween before c after := by
  unfold lowerBetween lowerChar
  split
  · split
    · decide
    · decide
  split
  · rename_i ascii
    exact of_ascii (fun c => c ≠ fieldMark → fieldMark ∉ [c.toLower]) (by decide) ascii other
  · split
    · decide
    · split
      · rename_i image sent
        obtain ⟨same, outside⟩ := image_outside_delimiterRanges sent
        have high := outside (0, 0x60) (by decide)
        intro member
        have code : fieldMark.toNat = image := by rw [List.mem_singleton.mp member, same]
        have hyphen : fieldMark.toNat = 0x2D := rfl
        omega
      · simpa using other.symm

/-- The parts of a lower-cased text are the lower-cased parts of the text. -/
theorem splitParts_lowerAfter (before chars : List Char) :
    splitParts fieldMark (lowerAfter before chars) =
      (lowerAfter before (splitParts fieldMark chars).1,
        (splitParts fieldMark chars).2.map (lowerAfter [])) := by
  induction chars generalizing before with
  | nil => rfl
  | cons c rest ih =>
    by_cases hyphen : c = fieldMark
    · subst hyphen
      have afresh : lowerAfter (fieldMark :: before) rest = lowerAfter [] rest :=
        lowerAfter_append_fieldMark [] before rest
      rw [lowerAfter, lowerBetween_fieldMark, List.singleton_append, afresh, splitParts_separator,
        splitParts_separator, ih]
      rfl
    · have absent := fieldMark_not_mem_lowerBetween before rest hyphen
      have form : lowerBetween before c (splitParts fieldMark rest).1 =
          lowerBetween before c rest := by
        rw [lowerBetween, lowerBetween, startsCased_splitParts]
      rw [lowerAfter, splitParts_append absent, splitParts_cons hyphen, ih, lowerAfter, form]

end Text

/-- The parts between the hyphens of a lexeme that is lower-cased first. -/
def Lexeme.lowerParts (lexeme : Lexeme) : String × List String :=
  let (name, fields) := Text.splitParts fieldMark (Text.lower lexeme).toList
  (String.ofList name, fields.map String.ofList)

/-- A path is the same whether lexemes are lower-cased before or after they are cut. -/
theorem Lexeme.path_eq_lowerParts (lexeme : Lexeme) : lexeme.path = lexeme.lowerParts := by
  simp [path, lowerParts, Text.lower, Text.splitParts_lowerAfter, Function.comp_def]

end ReportLang
