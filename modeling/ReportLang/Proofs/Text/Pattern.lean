import ReportLang.Comparison
import ReportLang.Proofs.Result
import ReportLang.Proofs.Text.Engine
import ReportLang.Proofs.Text.LetterCase
import ReportLang.Proofs.Text.LowerCase

/-!
# What patterns cover

A pattern covers a text exactly if the text can be cut to fit the pattern, read from left to right:
an asterisk takes any run of characters, a plus sign exactly one, and any other character one that
equals it apart from case; a number sign takes the meaning from the character after it, and stands
for itself at the end. That is so with every engine that does what is documented. The expression of
a pattern is made of the parts that the pattern spells, and what these take is what fits the
pattern.
-/

namespace ReportLang

namespace Text

/-- Whether characters can be cut to fit a pattern, which is read from left to right. -/
inductive FitsPattern : (pattern text : List Char) → Prop where
  /-- Nothing is left of the pattern, and nothing of the text. -/
  | done : FitsPattern [] []
  /-- An asterisk takes any run of characters. -/
  | run {pattern text : List Char} (skipped : List Char) (rest : FitsPattern pattern text) :
    FitsPattern ('*' :: pattern) (skipped ++ text)
  /-- A plus sign takes exactly one character. -/
  | any {pattern text : List Char} (d : Char) (rest : FitsPattern pattern text) :
    FitsPattern ('+' :: pattern) (d :: text)
  /-- A character after a number sign takes one that equals it apart from case. -/
  | escaped {pattern text : List Char} {c d : Char} (same : sameApartFromCase c d = true)
    (rest : FitsPattern pattern text) : FitsPattern ('#' :: c :: pattern) (d :: text)
  /-- A number sign at the end takes a number sign. -/
  | mark : FitsPattern ['#'] ['#']
  /-- Any other character takes one that equals it apart from case. -/
  | plain {pattern text : List Char} {c d : Char} (ordinary : c ≠ '*' ∧ c ≠ '+' ∧ c ≠ '#')
    (same : sameApartFromCase c d = true) (rest : FitsPattern pattern text) :
    FitsPattern (c :: pattern) (d :: text)

variable {engine : Engine} {withinLimit : String → Prop} {pattern text : List Char}
  {parts : List Wildcard} {c d : Char}

section Translation

/-- The part of an expression that an unescaped character of a pattern spells. -/
def wildcardOf (c : Char) : Wildcard :=
  if c = '*' then .run else if c = '+' then .any else .exactly c

/-- The parts that a pattern spells; an escape mark at the end stands for itself. -/
def wildcards : List Char → List Wildcard
  | [] => []
  | [c] => [if c = escapeMark then .exactly c else wildcardOf c]
  | c :: next :: rest =>
    if c = escapeMark then .exactly next :: wildcards rest
    else wildcardOf c :: wildcards (next :: rest)

/-- A character that is not escaped is written as the part that it spells. -/
theorem Engine.ofChar_eq_spelled (engine : Engine) (c : Char) :
    engine.ofChar c = (wildcardOf c).spelled engine := by
  unfold Engine.ofChar wildcardOf
  split
  · rfl
  · split
    · rfl
    · rfl

/-- A pattern is translated part by part. -/
theorem Engine.translate_eq_map_spelled (engine : Engine) (pattern : List Char) :
    engine.translate pattern = (wildcards pattern).map (Wildcard.spelled engine) := by
  induction pattern using wildcards.induct with
  | case1 => rfl
  | case2 c =>
    rw [translate, wildcards, ofChar_eq_spelled]
    split
    · rename_i last
      rw [last]
      rfl
    · rfl
  | case3 next rest ih =>
    rw [translate, wildcards, if_pos rfl, if_pos rfl, ih]
    rfl
  | case4 c next rest unescaped ih =>
    rw [translate, wildcards, if_neg unescaped, if_neg unescaped, ih, ofChar_eq_spelled]
    rfl

/-- The expression of a pattern is made of the parts that the pattern spells. -/
theorem Engine.expression_eq_anchored (engine : Engine) (pattern : String) :
    engine.expression pattern = engine.anchored (wildcards pattern.toList) := by
  rw [expression, translate_eq_map_spelled, anchored]

end Translation

section Marks

/-- Nothing beyond ASCII is folded to a number sign or to what stands before it. -/
theorem foldRuns_above_escapeMark :
    (foldRuns.all fun run => Nat.blt escapeMark.toNat run.target) = true := by
  decide

/-- A character has the code point it is made of, or none if that is no character. -/
theorem toNat_ofNat (code : Nat) :
    (Char.ofNat code).toNat = code ∨ (Char.ofNat code).toNat = 0 := by
  by_cases valid : code.isValidChar
  · have own : Char.ofNat code = Char.ofNatAux code valid := dif_pos valid
    rw [own]
    exact .inl rfl
  · have zero : Char.ofNat code = Char.ofNat 0 := (dif_neg valid).trans rfl
    rw [zero]
    exact .inr rfl

/-- No code point that the folding table knows is folded to a number sign. -/
theorem ofNat_ne_escapeMark {code image : Nat}
    (sent : CaseRun.lookup foldRuns code = some image) : Char.ofNat image ≠ escapeMark := by
  obtain ⟨run, member, one⟩ := List.exists_of_findSome?_eq_some sent
  have low := (CaseRun.mem_targets_of_image? one).2.1
  have above : escapeMark.toNat < run.target :=
    Nat.le_of_ble_eq_true (List.all_eq_true.mp foldRuns_above_escapeMark run member)
  intro same
  have code := toNat_ofNat image
  have mark : escapeMark.toNat = 35 := rfl
  rw [same] at code
  omega

/-- Only a number sign equals a number sign apart from case. -/
theorem sameApartFromCase_escapeMark : sameApartFromCase escapeMark d = true ↔ d = escapeMark := by
  have own : foldChar escapeMark = escapeMark := rfl
  rw [sameApartFromCase, decide_eq_true_eq, own]
  constructor
  · intro folded
    unfold foldChar at folded
    split at folded
    · exact (toLower_eq_iff (by decide)).mp folded.symm
    · split at folded
      · rename_i sent
        exact absurd folded.symm (ofNat_ne_escapeMark sent)
      · exact folded.symm
  · rintro rfl
    rfl

end Marks

section Pattern

/-- The part that a character spells takes what the character takes, unless it is a number sign. -/
theorem mem_partsLanguage_wildcardOf (unescaped : c ≠ escapeMark)
    (later : ∀ text, text ∈ partsLanguage parts ↔ FitsPattern pattern text) :
    text ∈ partsLanguage (wildcardOf c :: parts) ↔ FitsPattern (c :: pattern) text := by
  by_cases star : c = '*'
  · subst star
    show text ∈ partsLanguage (.run :: parts) ↔ _
    rw [mem_partsLanguage_run]
    constructor
    · rintro ⟨skipped, remaining, rfl, taken⟩
      exact .run skipped ((later remaining).mp taken)
    · intro fits
      cases fits with
      | run skipped inner => exact ⟨skipped, _, rfl, (later _).mpr inner⟩
      | plain ordinary => exact absurd rfl ordinary.1
  by_cases plus : c = '+'
  · subst plus
    show text ∈ partsLanguage (.any :: parts) ↔ _
    rw [mem_partsLanguage_any]
    constructor
    · rintro ⟨d, remaining, rfl, taken⟩
      exact .any d ((later remaining).mp taken)
    · intro fits
      cases fits with
      | any d inner => exact ⟨d, _, rfl, (later _).mpr inner⟩
      | plain ordinary => exact absurd rfl ordinary.2.1
  have part : wildcardOf c = .exactly c := by rw [wildcardOf, if_neg star, if_neg plus]
  rw [part, mem_partsLanguage_exactly]
  constructor
  · rintro ⟨d, remaining, rfl, same, taken⟩
    exact .plain ⟨star, plus, unescaped⟩ same ((later remaining).mp taken)
  · intro fits
    cases fits with
    | run => exact absurd rfl star
    | any => exact absurd rfl plus
    | escaped => exact absurd rfl unescaped
    | mark => exact absurd rfl unescaped
    | plain ordinary same inner => exact ⟨_, _, rfl, same, (later _).mpr inner⟩

/-- Without a pattern only the text without characters can be cut to fit. -/
theorem mem_partsLanguage_nil_iff (text : List Char) :
    text ∈ partsLanguage [] ↔ FitsPattern [] text := by
  rw [mem_partsLanguage_nil]
  constructor
  · rintro rfl
    exact .done
  · intro fits
    cases fits with
    | done => rfl

/-- The parts that a pattern spells take the characters that can be cut to fit it. -/
theorem mem_partsLanguage_wildcards (pattern text : List Char) :
    text ∈ partsLanguage (wildcards pattern) ↔ FitsPattern pattern text := by
  induction pattern using wildcards.induct generalizing text with
  | case1 => exact mem_partsLanguage_nil_iff text
  | case2 c =>
    by_cases last : c = escapeMark
    · subst last
      show text ∈ partsLanguage [.exactly escapeMark] ↔ _
      rw [mem_partsLanguage_exactly]
      constructor
      · rintro ⟨d, remaining, rfl, same, taken⟩
        obtain rfl := sameApartFromCase_escapeMark.mp same
        obtain rfl := mem_partsLanguage_nil.mp taken
        exact .mark
      · intro fits
        have none : [] ∈ partsLanguage [] := mem_partsLanguage_nil.mpr rfl
        cases fits with
        | mark => exact ⟨_, _, rfl, sameApartFromCase_escapeMark.mpr rfl, none⟩
        | plain ordinary => exact absurd rfl ordinary.2.2
    · rw [wildcards, if_neg last]
      exact mem_partsLanguage_wildcardOf last mem_partsLanguage_nil_iff
  | case3 next rest ih =>
    rw [wildcards, if_pos rfl, mem_partsLanguage_exactly]
    constructor
    · rintro ⟨d, remaining, rfl, same, taken⟩
      exact .escaped same ((ih remaining).mp taken)
    · intro fits
      cases fits with
      | escaped same inner => exact ⟨_, _, rfl, same, (ih _).mpr inner⟩
      | plain ordinary => exact absurd rfl ordinary.2.2
  | case4 c next rest unescaped ih =>
    rw [wildcards, if_neg unescaped]
    exact mem_partsLanguage_wildcardOf unescaped ih

/-- A pattern within the limit of its engine covers the texts that can be cut to fit it. -/
theorem Engine.Documented.covers (documented : engine.Documented withinLimit)
    {pattern : String} (small : withinLimit (engine.expression pattern)) (text : String) :
    ∃ covered, engine.covers pattern text = .ok covered ∧
      (covered = true ↔ FitsPattern pattern.toList text.toList) := by
  have parts := engine.expression_eq_anchored pattern
  rw [parts] at small
  obtain ⟨isMatch, built, decides⟩ := documented.builds _ small
  refine ⟨isMatch text, ?_, (decides text).trans (mem_partsLanguage_wildcards _ _)⟩
  rw [Engine.covers, parts, built]
  rfl

/-- A pattern beyond the limit of its engine is refused. -/
theorem Engine.Documented.covers_of_not_withinLimit (documented : engine.Documented withinLimit)
    {pattern : String} (large : ¬ withinLimit (engine.expression pattern)) :
    ∃ why, ∀ text, engine.covers pattern text = .error why := by
  obtain ⟨why, refused⟩ := documented.refuses _ large
  exact ⟨why, fun text => by rw [Engine.covers, refused]; rfl⟩

end Pattern

end Text

namespace Comparison

variable {engine : Text.Engine} {relation : TextRelation} {left right : Value}
  {leftText rightText : String}

/-- A value that is no record has the text that would be written to a report, if there is one. -/
theorem textOf_eq_ok {value : Value} {text : String} (plain : value.isRecord = false)
    (written : value.toText false = .ok text) : textOf value = .ok text := by
  rw [textOf, if_neg (by simp [plain]), written]
  rfl

/-- A relation of two values is one of their texts. -/
theorem holds_texts (negated : Bool) (first : textOf left = .ok leftText)
    (second : textOf right = .ok rightText) :
    (texts relation negated).holds engine left right =
      (relation.holds engine leftText rightText).map (· != negated) := by
  rw [holds, first, second]
  show (do return (← relation.holds engine leftText rightText) != negated) = _
  cases relation.holds engine leftText rightText with
  | error failure => rfl
  | ok answer => rfl

/-- A relation of texts that is negated fails where it does otherwise, and is the opposite
elsewhere. -/
theorem holds_negated (relation : TextRelation) (left right : Value) :
    (texts relation true).holds engine left right =
      ((texts relation false).holds engine left right).map (!·) := by
  cases first : textOf left with
  | error failure => simp only [holds, first]; rfl
  | ok leftText =>
    cases second : textOf right with
    | error failure => simp only [holds, first, second]; rfl
    | ok rightText =>
      rw [holds_texts true first second, holds_texts false first second]
      cases relation.holds engine leftText rightText with
      | error failure => rfl
      | ok answer => simp [Except.map]

end Comparison

namespace Value

/-- What the operator `CP` asks of two values that are no records is whether the text on the right
covers the one on the left. -/
theorem test_coversPattern {engine : Text.Engine} {operator : String} {left right : Value}
    {leftText rightText : String} (named : Text.lower operator = "cp")
    (first : left.isRecord = false) (leftWritten : left.toText false = .ok leftText)
    (second : right.isRecord = false) (rightWritten : right.toText false = .ok rightText) :
    test engine operator left right =
      (engine.covers rightText leftText).mapError (.badPattern rightText) := by
  simp only [test, named, Comparison.ofOperator?]
  rw [Comparison.holds_texts false (Comparison.textOf_eq_ok first leftWritten)
    (Comparison.textOf_eq_ok second rightWritten), TextRelation.holds]
  cases engine.covers rightText leftText with
  | error why => rfl
  | ok covered => simp [Except.map, Result.mapError_ok]

/-- The operator `CP` reads its right side as a pattern. With every engine that does what is
documented, and a pattern within its limit, a text is covered exactly if it can be cut to fit the
pattern, in which only asterisks, plus signs and number signs have a meaning of their own; between
two values that are no records and have texts it is decided so. A pattern beyond the limit is
refused. `NP` fails where `CP` does, and is its opposite everywhere else. -/
theorem pattern_operators_cut_to_fit {engine : Text.Engine} {withinLimit : String → Prop}
    (documented : engine.Documented withinLimit) :
    (∀ pattern text : String, withinLimit (engine.expression pattern) →
      ∃ covered, engine.covers pattern text = .ok covered ∧
        (covered = true ↔ Text.FitsPattern pattern.toList text.toList)) ∧
    (∀ operator left right leftText rightText, Text.lower operator = "cp" →
      left.isRecord = false → left.toText false = .ok leftText →
      right.isRecord = false → right.toText false = .ok rightText →
      (withinLimit (engine.expression rightText) →
        ∃ covered, test engine operator left right = .ok covered ∧
          (covered = true ↔ Text.FitsPattern rightText.toList leftText.toList)) ∧
      (¬ withinLimit (engine.expression rightText) →
        ∃ why, test engine operator left right = .error (.badPattern rightText why))) ∧
    ∀ operator opposite left right, Text.lower operator = "cp" → Text.lower opposite = "np" →
      test engine opposite left right = (test engine operator left right).map (!·) := by
  refine ⟨fun pattern text small => documented.covers small text, ?_, ?_⟩
  · intro operator left right leftText rightText named first leftWritten second rightWritten
    have asked : test engine operator left right =
        (engine.covers rightText leftText).mapError (.badPattern rightText) :=
      test_coversPattern named first leftWritten second rightWritten
    constructor
    · intro small
      obtain ⟨covered, answered, fits⟩ := documented.covers small leftText
      exact ⟨covered, by rw [asked, answered]; rfl, fits⟩
    · intro large
      obtain ⟨why, refused⟩ := documented.covers_of_not_withinLimit large
      exact ⟨why, by rw [asked, refused]; rfl⟩
  · intro operator opposite left right named other
    simp only [test, named, other, Comparison.ofOperator?]
    exact Comparison.holds_negated .coversPattern left right

/-- A pattern whose run takes the end of a line covers a text; after it come any character, an
asterisk that is escaped, a bracket and a number sign, and case does not count. Without the asterisk
the text is not covered. -/
theorem pattern_operators_cut_to_fit_marks :
    let engine := Text.patternEngine
    let pattern := Value.ofString "a*B+#*[#"
    engine.Documented Text.IsWithinLimit ∧
      Text.IsWithinLimit (engine.expression "a*B+#*[#") ∧
      Text.FitsPattern "a*B+#*[#".toList "A.\nbx*[#".toList ∧
      Value.test engine "CP" (.ofString "A.\nbx*[#") pattern = .ok true ∧
      Value.test engine "cp" (.ofString "A.\nbxx[#") pattern = .ok false ∧
      Value.test engine "Np" (.ofString "A.\nbxx[#") pattern = .ok true := by
  intro engine pattern
  have documented : engine.Documented Text.IsWithinLimit := Text.patternEngine_documented
  obtain ⟨covers, decided, opposite⟩ := pattern_operators_cut_to_fit documented
  have small : Text.IsWithinLimit (engine.expression "a*B+#*[#") := by
    rw [engine.expression_eq_anchored]
    exact Text.isWithinLimit_anchored (by decide)
  have fits : Text.FitsPattern "a*B+#*[#".toList "A.\nbx*[#".toList :=
    .plain (by decide) (by decide) <| .run ['.', '\n'] <|
      .plain (by decide) (by decide) <| .any 'x' <| .escaped (by decide) <|
        .plain (by decide) (by decide) .mark
  have misses : ¬ Text.FitsPattern "a*B+#*[#".toList "A.\nbxx[#".toList := by
    obtain ⟨covered, answered, isCovered⟩ := covers "a*B+#*[#" "A.\nbxx[#" small
    have computed : engine.covers "a*B+#*[#" "A.\nbxx[#" = .ok false := by decide
    rw [← isCovered, Except.ok.inj (answered.symm.trans computed)]
    decide
  obtain ⟨first, tested, isCovered⟩ := (decided "CP" (.ofString "A.\nbx*[#") pattern _ _
    (by decide) rfl rfl rfl rfl).1 small
  obtain rfl : first = true := isCovered.mpr fits
  obtain ⟨second, retested, notCovered⟩ := (decided "cp" (.ofString "A.\nbxx[#") pattern _ _
    (by decide) rfl rfl rfl rfl).1 small
  obtain rfl : second = false := Bool.eq_false_iff.mpr fun held => misses (notCovered.mp held)
  have negated := opposite "cp" "Np" (.ofString "A.\nbxx[#") pattern (by decide)
    (by decide)
  rw [retested] at negated
  exact ⟨documented, small, fits, tested, retested, negated⟩

end Value

end ReportLang
