import Mathlib.Computability.Language
import ReportLang.Text.Pattern

/-!
# What engines promise

What the documentation of an engine for regular expressions says, as far as patterns rely on it:
which texts a dot takes, a star after a dot and a character that is escaped; that parts in a row
take texts in a row; that anchors at both ends ask for the whole text; and that an expression is
built unless it goes beyond the limit of the engine. Which characters need a backslash is left to
the engine.

The engine of the running program keeps all of it. Its expressions are read as the parts that they
are made of, since every character with a meaning of its own is quoted. Coverage is computed for all
ends of the text at once. What it says about one of them follows equations of its own, one for each
part.
-/

open scoped Computability

namespace ReportLang.Text

/-- How a part of an expression is written. -/
def Wildcard.spelled (engine : Engine) : Wildcard → String
  | .run => ".*"
  | .any => "."
  | .exactly c => engine.escape (String.singleton c)

/-- The texts that a dot takes: one character, whichever it is. -/
def dotLanguage : Language Char :=
  {word | ∃ d, word = [d]}

/-- The texts that a part takes. A star stands for any number of texts of what it follows. -/
def Wildcard.language : Wildcard → Language Char
  | .run => dotLanguage∗
  | .any => dotLanguage
  | .exactly c => {word | ∃ d, word = [d] ∧ sameApartFromCase c d = true}

/-- The texts that parts take, one after the other. -/
def partsLanguage (parts : List Wildcard) : Language Char :=
  (parts.map Wildcard.language).prod

/-- The expression of parts in a row, with anchors at both ends. -/
def Engine.anchored (engine : Engine) (parts : List Wildcard) : String :=
  "^" ++ String.join (parts.map (Wildcard.spelled engine)) ++ "$"

/-- Whether an engine does what is documented, with a limit for the expressions that it builds. -/
structure Engine.Documented (engine : Engine) (withinLimit : String → Prop) : Prop where
  /-- An expression within the limit is built, and matches in the texts that its parts take. -/
  builds : ∀ parts, withinLimit (engine.anchored parts) →
    ∃ isMatch, engine.build (engine.anchored parts) = .ok isMatch ∧
      ∀ text : String, isMatch text = true ↔ text.toList ∈ partsLanguage parts
  /-- An expression beyond the limit is not built. -/
  refuses : ∀ source, ¬ withinLimit source → ∃ why, engine.build source = .error why

section Languages

variable {word : List Char} {parts : List Wildcard} {c : Char}

/-- No parts take only the text without characters. -/
theorem mem_partsLanguage_nil : word ∈ partsLanguage [] ↔ word = [] :=
  Language.mem_one word

/-- A first part takes a text, and the others the one after it. -/
theorem mem_partsLanguage_cons {part : Wildcard} :
    word ∈ partsLanguage (part :: parts) ↔
      ∃ taken ∈ part.language, ∃ later ∈ partsLanguage parts, taken ++ later = word := by
  rw [partsLanguage, List.map_cons, List.prod_cons, Language.mem_mul]
  rfl

/-- A star after a dot takes every text. -/
theorem mem_language_run (word : List Char) : word ∈ Wildcard.run.language := by
  refine Language.mem_kstar.mpr ⟨word.map ([·]), ?_, ?_⟩
  · induction word with
    | nil => rfl
    | cons d rest ih => rw [List.map_cons, List.flatten_cons, ← ih, List.singleton_append]
  · intro piece member
    obtain ⟨d, _, rfl⟩ := List.mem_map.mp member
    exact ⟨d, rfl⟩

/-- A star after a dot takes any run of characters. -/
theorem mem_partsLanguage_run :
    word ∈ partsLanguage (.run :: parts) ↔
      ∃ skipped later, word = skipped ++ later ∧ later ∈ partsLanguage parts := by
  rw [mem_partsLanguage_cons]
  constructor
  · rintro ⟨skipped, _, later, member, rfl⟩
    exact ⟨skipped, later, rfl, member⟩
  · rintro ⟨skipped, later, rfl, member⟩
    exact ⟨skipped, mem_language_run skipped, later, member, rfl⟩

/-- A dot takes the first character. -/
theorem mem_partsLanguage_any :
    word ∈ partsLanguage (.any :: parts) ↔
      ∃ d later, word = d :: later ∧ later ∈ partsLanguage parts := by
  rw [mem_partsLanguage_cons]
  constructor
  · rintro ⟨_, ⟨d, rfl⟩, later, member, rfl⟩
    exact ⟨d, later, rfl, member⟩
  · rintro ⟨d, later, rfl, member⟩
    exact ⟨[d], ⟨d, rfl⟩, later, member, rfl⟩

/-- An escaped character takes the first one if they are equal apart from case. -/
theorem mem_partsLanguage_exactly :
    word ∈ partsLanguage (.exactly c :: parts) ↔
      ∃ d later, word = d :: later ∧ sameApartFromCase c d = true ∧
        later ∈ partsLanguage parts := by
  rw [mem_partsLanguage_cons]
  constructor
  · rintro ⟨_, ⟨d, rfl, same⟩, later, member, rfl⟩
    exact ⟨d, later, rfl, same, member⟩
  · rintro ⟨d, later, rfl, same, member⟩
    exact ⟨[d], ⟨d, rfl, same⟩, later, member, rfl⟩

end Languages

section Reading

/-- Whether an expression does not go on with a star, which would belong to the dot before it. -/
def NoStar (source : List Char) : Prop :=
  ∀ rest, source ≠ '*' :: rest

/-- A star has a meaning of its own, so that no character that stands for itself becomes one. -/
theorem noStar_quoted (c : Char) (rest : List Char) : NoStar (quoted c ++ rest) := by
  intro other same
  unfold quoted at same
  split at same
  · cases same
  · rename_i plain
    obtain ⟨rfl, _⟩ := List.cons.inj same
    exact plain (by decide)

/-- The characters of a part. -/
def partSource : Wildcard → List Char
  | .run => ['.', '*']
  | .any => ['.']
  | .exactly c => quoted c

/-- No part starts with a star, nor does the anchor at the end. -/
theorem noStar_parts (parts : List Wildcard) : NoStar (parts.flatMap partSource ++ ['$']) := by
  cases parts with
  | nil => nofun
  | cons part rest =>
    rw [List.flatMap_cons, List.append_assoc]
    cases part with
    | run => nofun
    | any => nofun
    | exactly c => exact noStar_quoted c _

/-- A character that stands for itself is read as one, whatever it is. -/
theorem readParts_quoted (c : Char) (rest : List Char) :
    readParts (quoted c ++ rest) = (readParts rest).map (.exactly c :: ·) := by
  unfold quoted
  cases meaning : hasMeaning c with
  | true =>
    show readParts ('\\' :: c :: rest) = _
    rw [readParts, if_pos meaning]
  | false =>
    have dollar : c ≠ '$' := by
      rintro rfl
      cases meaning
    have dot : c ≠ '.' := by
      rintro rfl
      cases meaning
    have backslash : c ≠ '\\' := by
      rintro rfl
      cases meaning
    show readParts (c :: rest) = _
    rw [readParts]
    · simp [meaning]
    · simp [dollar]
    · simp [dot]
    · simp [dot]
    · simp [backslash]

/-- An expression is read as the parts that it is made of. -/
theorem readParts_parts (parts : List Wildcard) :
    readParts (parts.flatMap partSource ++ ['$']) = some parts := by
  induction parts with
  | nil => rfl
  | cons part rest ih =>
    rw [List.flatMap_cons, List.append_assoc]
    cases part with
    | run =>
      show (readParts (rest.flatMap partSource ++ ['$'])).map _ = _
      rw [ih]
      rfl
    | any =>
      show readParts ('.' :: (rest.flatMap partSource ++ ['$'])) = _
      rw [readParts, ih]
      · rfl
      · exact noStar_parts rest
    | exactly c =>
      show readParts (quoted c ++ _) = _
      rw [readParts_quoted, ih]
      rfl

/-- The parts of an expression, character by character. -/
theorem toList_spelled (part : Wildcard) :
    (part.spelled patternEngine).toList = partSource part := by
  cases part with
  | run => rfl
  | any => rfl
  | exactly c => simp [Wildcard.spelled, patternEngine, partSource]

/-- An anchored expression is read as the parts that it is made of. -/
theorem readExpression_anchored (parts : List Wildcard) :
    readExpression (patternEngine.anchored parts) = some parts := by
  have chars : (patternEngine.anchored parts).toList =
      '^' :: (parts.flatMap partSource ++ ['$']) := by
    simp [Engine.anchored, String.toList_join, List.flatMap_map, toList_spelled]
  rw [readExpression, chars]
  exact readParts_parts parts

end Reading

section Coverage

/-- There is an answer for each end. -/
theorem length_trueFromHere (answers : List Bool) :
    (trueFromHere answers).length = answers.length := by
  induction answers with
  | nil => rfl
  | cons b later ih => simp [trueFromHere, ih]

/-- A text has one end more than characters. -/
theorem length_coverage (text : List Char) (parts : List Wildcard) :
    (coverage text parts).length = text.length + 1 := by
  induction parts with
  | nil => simp [coverage]
  | cons part rest ih =>
    cases part with
    | run => rw [coverage, length_trueFromHere, ih]
    | any => simp [coverage, ih]
    | exactly c => simp [coverage, ih]

/-- Whether the parts of an expression cover characters. -/
def coversAll (text : List Char) (parts : List Wildcard) : Bool :=
  (coverage text parts).headD false

/-- The first end is that of the whole text. -/
theorem exists_coverage_eq (text : List Char) (parts : List Wildcard) :
    ∃ later, coverage text parts = coversAll text parts :: later := by
  have positive : 0 < (coverage text parts).length := by
    rw [length_coverage]
    omega
  obtain ⟨first, later, shape⟩ := List.length_pos_iff_exists_cons.mp positive
  exact ⟨later, by rw [coversAll, shape, List.headD_cons]⟩

/-- A text without characters has one end. -/
theorem coverage_nil (parts : List Wildcard) : coverage [] parts = [coversAll [] parts] := by
  obtain ⟨later, shape⟩ := exists_coverage_eq [] parts
  have count := length_coverage [] parts
  rw [shape] at count ⊢
  simpa using count

/-- A character in front is a further end, and changes nothing for the others. -/
theorem coverage_cons (d : Char) (text : List Char) (parts : List Wildcard) :
    coverage (d :: text) parts = coversAll (d :: text) parts :: coverage text parts := by
  induction parts with
  | nil => rfl
  | cons part rest ih =>
    obtain ⟨later, shape⟩ := exists_coverage_eq text rest
    cases part with
    | run => rw [coversAll, coverage, coverage, ih]; rfl
    | any => rw [coversAll, coverage, coverage, ih, shape]; rfl
    | exactly c => rw [coversAll, coverage, coverage, ih, shape]; rfl

/-- Without parts only the text without characters is covered. -/
theorem coversAll_nil (text : List Char) : coversAll text [] = text.isEmpty := by
  cases text with
  | nil => rfl
  | cons d text => rfl

/-- A run that has nothing to take takes nothing. -/
theorem coversAll_nil_run (rest : List Wildcard) :
    coversAll [] (.run :: rest) = coversAll [] rest := by
  rw [coversAll, coverage, coverage_nil]
  simp [trueFromHere]

/-- A run takes nothing, or the first character and goes on. -/
theorem coversAll_cons_run (d : Char) (text : List Char) (rest : List Wildcard) :
    coversAll (d :: text) (.run :: rest) =
      (coversAll (d :: text) rest || coversAll text (.run :: rest)) := by
  rw [coversAll, coverage, coverage_cons]
  rfl

/-- A dot has to take something. -/
theorem coversAll_nil_any (rest : List Wildcard) : coversAll [] (.any :: rest) = false := by
  rw [coversAll, coverage, coverage_nil]
  rfl

/-- A dot takes the first character. -/
theorem coversAll_cons_any (d : Char) (text : List Char) (rest : List Wildcard) :
    coversAll (d :: text) (.any :: rest) = coversAll text rest := by
  obtain ⟨later, shape⟩ := exists_coverage_eq text rest
  rw [coversAll, coverage, coverage_cons, shape]
  rfl

/-- A character has to take something. -/
theorem coversAll_nil_exactly (c : Char) (rest : List Wildcard) :
    coversAll [] (.exactly c :: rest) = false := rfl

/-- A character takes the first one if it equals it apart from case. -/
theorem coversAll_cons_exactly (c d : Char) (text : List Char) (rest : List Wildcard) :
    coversAll (d :: text) (.exactly c :: rest) =
      (sameApartFromCase c d && coversAll text rest) := by
  obtain ⟨later, shape⟩ := exists_coverage_eq text rest
  rw [coversAll, coverage, coverage_cons, shape]
  rfl

/-- A run takes the characters up to any end from which on the rest is covered. -/
theorem coversAll_run_iff {text : List Char} {rest : List Wildcard} :
    coversAll text (.run :: rest) = true ↔
      ∃ skipped later, text = skipped ++ later ∧ coversAll later rest = true := by
  induction text with
  | nil =>
    rw [coversAll_nil_run]
    constructor
    · intro covered
      exact ⟨[], [], rfl, covered⟩
    · rintro ⟨skipped, later, whole, covered⟩
      obtain ⟨rfl, rfl⟩ := List.append_eq_nil_iff.mp whole.symm
      exact covered
  | cons d text ih =>
    rw [coversAll_cons_run, Bool.or_eq_true, ih]
    constructor
    · rintro (covered | ⟨skipped, later, rfl, covered⟩)
      · exact ⟨[], d :: text, rfl, covered⟩
      · exact ⟨d :: skipped, later, rfl, covered⟩
    · rintro ⟨skipped, later, whole, covered⟩
      cases skipped with
      | nil =>
        obtain rfl : d :: text = later := whole
        exact .inl covered
      | cons e skipped =>
        obtain ⟨rfl, rfl⟩ := List.cons.inj whole
        exact .inr ⟨skipped, later, rfl, covered⟩

/-- Parts cover the characters of the texts that they take. -/
theorem coversAll_iff (parts : List Wildcard) (text : List Char) :
    coversAll text parts = true ↔ text ∈ partsLanguage parts := by
  induction parts generalizing text with
  | nil => rw [coversAll_nil, List.isEmpty_iff, mem_partsLanguage_nil]
  | cons part rest ih =>
    cases part with
    | run => simp only [coversAll_run_iff, mem_partsLanguage_run, ih]
    | any =>
      rw [mem_partsLanguage_any]
      cases text with
      | nil => simp [coversAll_nil_any]
      | cons d text => simp [coversAll_cons_any, ih]
    | exactly c =>
      rw [mem_partsLanguage_exactly]
      cases text with
      | nil => simp [coversAll_nil_exactly]
      | cons d text => simp [coversAll_cons_exactly, ih]

end Coverage

/-- Whether the automata of an expression are small enough for the engine of the running program. -/
def IsWithinLimit (source : String) : Prop :=
  ∀ parts, readExpression source = some parts → areTooLarge parts = false

/-- Expressions with few parts are small enough. -/
theorem isWithinLimit_anchored {parts : List Wildcard} (few : parts.length ≤ freeParts) :
    IsWithinLimit (patternEngine.anchored parts) := by
  intro found read
  obtain rfl : parts = found := Option.some.inj ((readExpression_anchored parts).symm.trans read)
  simp [areTooLarge, Nat.not_lt.mpr few]

/-- The engine of the running program does what is documented. -/
theorem patternEngine_documented : patternEngine.Documented IsWithinLimit where
  builds parts small := by
    have read := readExpression_anchored parts
    refine ⟨fun text => coversAll text.toList parts, ?_,
      fun text => coversAll_iff parts text.toList⟩
    simp only [patternEngine] at read ⊢
    rw [read]
    simp only [small parts read, Bool.false_eq_true, if_false]
    rfl
  refuses source large := by
    obtain ⟨parts, read, tooLarge⟩ : ∃ parts, readExpression source = some parts ∧
        areTooLarge parts = true := by
      simpa [IsWithinLimit] using large
    exact ⟨tooLargeText, by simp [patternEngine, read, tooLarge]⟩

end ReportLang.Text
