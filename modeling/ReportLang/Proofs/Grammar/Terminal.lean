import ReportLang.Grammar.Terminal
import ReportLang.Proofs.Text.Split

/-!
# Roles of words

Which words of a grammar description are flags, repetitions, positions and plain words, and which of
them have a capture name of their own. A flag is a plus sign and a name; any other word is cut at
its first colon, and what stands behind it tells the role: the word for a position, a name and a
plus sign, or anything else.
-/

namespace ReportLang

namespace Text

/-- A text that is cut at a separator has none before it. -/
theorem not_mem_of_splitFirst? {separator : Char} {chars before after : List Char}
    (found : splitFirst? separator chars = some (before, after)) : separator ∉ before := by
  induction chars generalizing before with
  | nil => simp [splitFirst?] at found
  | cons c rest ih =>
    rw [splitFirst?] at found
    split at found
    · obtain ⟨rfl, rfl⟩ : [] = before ∧ rest = after := by simpa using found
      exact List.not_mem_nil
    · rename_i other
      obtain ⟨parts, inner, same⟩ := Option.map_eq_some_iff.mp found
      obtain ⟨rfl, rfl⟩ : c :: parts.1 = before ∧ parts.2 = after := by simpa using same
      simpa using ⟨Ne.symm other, ih inner⟩

/-- A text that is not cut has no separator. -/
theorem not_mem_of_splitFirst?_eq_none {separator : Char} {chars : List Char}
    (none : splitFirst? separator chars = none) : separator ∉ chars := by
  intro member
  obtain ⟨before, after, rfl, absent⟩ := List.eq_append_cons_of_mem member
  rw [splitFirst?_append absent] at none
  cases none

end Text

namespace Terminal

/-- Whether a text is a name: letters, numbers and underscores, at least one. -/
structure IsName (text : String) : Prop where
  /-- There is a first character. -/
  nonempty : text.toList ≠ []
  /-- Every character is a letter, a number or an underscore. -/
  each : ∀ c ∈ text.toList, c = '_' ∨ Text.isAlphanumeric c = true

/-- How a target is spelled that has a role, with the name of a match that has no other. -/
inductive IsTarget : (text name target : String) → Role → Prop where
  /-- The word for a position. -/
  | position : IsTarget "<at>" "at" "<at>" .position
  /-- A rule and a plus sign. -/
  | repetition {rule : String} (isName : IsName rule) :
    IsTarget (rule ++ "+") rule rule .repetition
  /-- Anything else. -/
  | word {text : String} (noPosition : text ≠ "<at>")
    (noRepetition : ∀ rule, IsName rule → text ≠ rule ++ "+") : IsTarget text text text .word

/-- How a terminal is spelled. -/
inductive IsSpelled : String → Terminal → Prop where
  /-- A plus sign and a name. -/
  | flag {name : String} (isName : IsName name) :
    IsSpelled ("+" ++ name) ⟨name, name, .flag, false⟩
  /-- A target alone. -/
  | alone {text name target : String} {role : Role} (isTarget : IsTarget text name target role)
    (noFlag : ∀ name, IsName name → text ≠ "+" ++ name) (noColon : ':' ∉ text.toList) :
    IsSpelled text ⟨name, target, role, false⟩
  /-- A target behind the first colon, and the name of a match before it. -/
  | named {capture text name target : String} {role : Role}
    (isTarget : IsTarget text name target role) (noColon : ':' ∉ capture.toList) :
    IsSpelled (capture ++ ":" ++ text) ⟨capture, target, role, true⟩

/-- What is read as a name is one. -/
theorem isIdentifier_iff {text : String} : isIdentifier text.toList = true ↔ IsName text := by
  constructor
  · intro identifier
    obtain ⟨nonempty, each⟩ := Bool.and_eq_true_iff.mp identifier
    exact ⟨by simpa using nonempty, by simpa using each⟩
  · intro isName
    exact Bool.and_eq_true_iff.mpr ⟨by simpa using isName.nonempty, by simpa using isName.each⟩

/-- A word is read as a flag exactly if it is a plus sign and a name. -/
theorem flagName?_eq_some_iff {word name : String} :
    flagName? word = some name ↔ IsName name ∧ word = "+" ++ name := by
  constructor
  · intro found
    unfold flagName? at found
    split at found
    · rename_i chars spelled
      split at found
      · rename_i identifier
        obtain rfl := Option.some.inj found
        refine ⟨isIdentifier_iff.mp (by rwa [String.toList_ofList]), ?_⟩
        rw [← String.toList_inj, spelled, String.toList_append]
        simp
      · cases found
    · cases found
  · rintro ⟨isName, rfl⟩
    have spelled : ("+" ++ name).toList = '+' :: name.toList := by
      rw [String.toList_append]
      rfl
    rw [flagName?, spelled]
    simp [isIdentifier_iff.mpr isName]

/-- A target is read as a repetition exactly if it is a name and a plus sign. -/
theorem repeatedRule?_eq_some_iff {target rule : String} :
    repeatedRule? target = some rule ↔ IsName rule ∧ target = rule ++ "+" := by
  have reversed (chars : List Char) :
      isIdentifier chars.reverse = isIdentifier chars := by
    simp [isIdentifier]
  constructor
  · intro found
    unfold repeatedRule? at found
    split at found
    · rename_i chars spelled
      split at found
      · rename_i identifier
        obtain rfl := Option.some.inj found
        refine ⟨isIdentifier_iff.mp (by rwa [String.toList_ofList, reversed]), ?_⟩
        rw [← String.toList_inj, String.toList_append, String.toList_ofList,
          ← List.reverse_inj, spelled, List.reverse_append, List.reverse_reverse]
        rfl
      · cases found
    · cases found
  · rintro ⟨isName, rfl⟩
    have spelled : (rule ++ "+").toList.reverse = '+' :: rule.toList.reverse := by
      rw [String.toList_append, List.reverse_append]
      rfl
    rw [repeatedRule?, spelled]
    simp [reversed, isIdentifier_iff.mpr isName]

/-- A target is read as it is spelled. -/
theorem ofTarget_of_isTarget {text name target : String} {role : Role}
    (isTarget : IsTarget text name target role) (capture : Option String) :
    ofTarget capture text = ⟨capture.getD name, target, role, capture.isSome⟩ := by
  cases isTarget with
  | position => rfl
  | repetition isName =>
    have noPosition : name ++ "+" ≠ positionWord := by
      intro same
      have last := congrArg (·.toList.getLast?) same
      simp [positionWord] at last
    rw [ofTarget, if_neg noPosition, repeatedRule?_eq_some_iff.mpr ⟨isName, rfl⟩]
  | word noPosition noRepetition =>
    have plain : repeatedRule? text = none := Option.eq_none_iff_forall_ne_some.mpr
      fun rule found => by
        obtain ⟨isName, same⟩ := repeatedRule?_eq_some_iff.mp found
        exact noRepetition rule isName same
    rw [ofTarget, if_neg (by exact noPosition), plain]

/-- Every target is spelled in one of the ways. -/
theorem exists_isTarget (text : String) : ∃ name target role, IsTarget text name target role := by
  by_cases noPosition : text = "<at>"
  · subst noPosition
    exact ⟨_, _, _, .position⟩
  cases found : repeatedRule? text with
  | some rule =>
    obtain ⟨isName, rfl⟩ := repeatedRule?_eq_some_iff.mp found
    exact ⟨_, _, _, .repetition isName⟩
  | none =>
    refine ⟨_, _, _, .word noPosition fun rule isName same => ?_⟩
    rw [repeatedRule?_eq_some_iff.mpr ⟨isName, same⟩] at found
    cases found

/-- A terminal is read from the words that spell it. -/
theorem ofWord_of_isSpelled {word : String} {terminal : Terminal}
    (spelled : IsSpelled word terminal) : ofWord word = terminal := by
  cases spelled with
  | flag isName => rw [ofWord, flagName?_eq_some_iff.mpr ⟨isName, rfl⟩]
  | alone isTarget noFlag noColon =>
    have plain : flagName? word = none := Option.eq_none_iff_forall_ne_some.mpr
      fun name found => by
        obtain ⟨isName, same⟩ := flagName?_eq_some_iff.mp found
        exact noFlag name isName same
    rw [ofWord, plain]
    simp only [Text.splitFirst?_eq_none_of_not_mem noColon]
    exact ofTarget_of_isTarget isTarget none
  | @named capture text _ _ _ isTarget noColon =>
    have chars : (capture ++ ":" ++ text).toList = capture.toList ++ ':' :: text.toList := by
      simp [String.toList_append]
    have plain : flagName? (capture ++ ":" ++ text) = none :=
      Option.eq_none_iff_forall_ne_some.mpr fun name found => by
        obtain ⟨isName, same⟩ := flagName?_eq_some_iff.mp found
        have member : ':' ∈ ("+" ++ name).toList := by rw [← same, chars]; simp
        have inside : ':' ∈ name.toList := by simpa [String.toList_append] using member
        rcases isName.each ':' inside with underscore | alphanumeric
        · cases underscore
        · cases alphanumeric
    rw [ofWord, plain]
    simp only [chars, Text.splitFirst?_append noColon, String.ofList_toList]
    exact ofTarget_of_isTarget isTarget (some capture)

/-- A word is read as the terminal that it spells, and as no other one. So a word is a flag exactly
if it is a plus sign and a name; otherwise it is what stands behind its first colon, if it has one,
that makes it a position, a repetition or a plain word. -/
theorem ofWord_eq_iff {word : String} {terminal : Terminal} :
    ofWord word = terminal ↔ IsSpelled word terminal := by
  refine ⟨?_, ofWord_of_isSpelled⟩
  rintro rfl
  obtain ⟨terminal, spelled⟩ : ∃ terminal, IsSpelled word terminal := by
    cases flag : flagName? word with
    | some name =>
      obtain ⟨isName, rfl⟩ := flagName?_eq_some_iff.mp flag
      exact ⟨_, .flag isName⟩
    | none =>
      cases cut : Text.splitFirst? ':' word.toList with
      | some parts =>
        obtain ⟨capture, text⟩ := parts
        obtain ⟨name, target, role, isTarget⟩ := exists_isTarget (String.ofList text)
        have whole : word = String.ofList capture ++ ":" ++ String.ofList text := by
          rw [← String.toList_inj, Text.eq_of_splitFirst? cut]
          simp
        have noColon : ':' ∉ (String.ofList capture).toList := by
          rw [String.toList_ofList]
          exact Text.not_mem_of_splitFirst? cut
        rw [whole]
        exact ⟨_, .named isTarget noColon⟩
      | none =>
        obtain ⟨name, target, role, isTarget⟩ := exists_isTarget word
        refine ⟨_, .alone isTarget (fun name isName same => ?_)
          (Text.not_mem_of_splitFirst?_eq_none cut)⟩
        rw [flagName?_eq_some_iff.mpr ⟨isName, same⟩] at flag
        cases flag
  rwa [ofWord_of_isSpelled spelled]

end Terminal

end ReportLang
