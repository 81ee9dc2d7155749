import ReportLang.Proofs.Session.Keeps
import ReportLang.Proofs.Session.Rules
import ReportLang.Proofs.Statement.Sentences
import ReportLang.Proofs.Text.Numeral
import ReportLang.Proofs.Text.Split

/-!
# Numbers of fixed length

Declaring a number of fixed length with a value: the variable is there exactly when the value has no
more digits than the length. Writing the variable fills the value up with zeros to the length, or
crashes if the length is too large for that.
-/

namespace ReportLang

open ReportLang.Action ReportLang.Update

/-- The type of numbers of a fixed length. -/
def Ty.numericText (length : Nat) : Ty := .elementary .numericText (some length)

/-- A number of a fixed length that is not zero can be declared. -/
theorem Ty.ofBase_numericText {length : Nat} (positive : 1 ≤ length) :
    Ty.ofBase .numericText (some length) = .ok (Ty.numericText length) := by
  cases length with
  | zero => omega
  | succ length => rfl

/-- An integer is stored as a number of fixed length exactly when it is not longer. -/
theorem Value.convert_numericText (length : Nat) (allowRecords : Bool) (n : Int) :
    (Value.ofInteger n).convert (Ty.numericText length) allowRecords =
      if (toString n).length ≤ length then .ok (.number (Ty.numericText length) n)
      else .error (.tooLong (.ofInteger n) (Ty.numericText length) length) := by
  have own : (Value.ofInteger n).length = (toString n).length := rfl
  by_cases fits : (toString n).length ≤ length
  · have notLonger : (some length).filter (· < (Value.ofInteger n).length) = none := by
      rw [own, Option.filter_some, if_neg (by simpa using fits)]
    rw [if_pos fits]
    simp only [convert, Ty.numericText, notLonger]
    rfl
  · have longer : (some length).filter (· < (Value.ofInteger n).length) = some length := by
      rw [own, Option.filter_some, if_pos (by simpa using fits)]
    rw [if_neg fits]
    simp only [convert, Ty.numericText, longer]

/-- A variable of a fixed length holds an integer exactly when it is not longer. -/
theorem Variable.declare_numericText (name : String) (length : Nat) (n : Int) (isConstant : Bool) :
    Variable.declare name (Ty.numericText length) (some (.ofInteger n)) isConstant =
      if (toString n).length ≤ length then
        .ok ⟨Text.lower name, Ty.numericText length, .number (Ty.numericText length) n, isConstant⟩
      else
        .error (.value (.tooLong (.ofInteger n) (Ty.numericText length) length)) := by
  have stored := Value.convert_numericText length true n
  simp only [declare, startValue, stored]
  split
  · rfl
  · rfl

section Numerals

/-- A numeral consists of ASCII digits. -/
theorem Lexeme.all_isAlphanum_toString (n : Nat) :
    (toString n).toList.all Char.isAlphanum = true := by
  refine List.all_eq_true.mpr fun c member => ?_
  simp [Char.isAlphanum, Text.isDigit_of_mem_toString member]

/-- A numeral is no literal. -/
theorem Lexeme.quote?_toString (n : Nat) : Lexeme.quote? (toString n) = none := by
  have plain := Lexeme.quote?_of_isAlphanum (Lexeme.all_isAlphanum_toString n)
  rwa [String.ofList_toList] at plain

/-- A numeral is its own content. -/
theorem Lexeme.content_toString (n : Nat) : Lexeme.content (toString n) = toString n := by
  rw [Lexeme.content, Lexeme.literalText?, Lexeme.isLiteral, Lexeme.quote?_toString]
  rfl

/-- A numeral is its own source. -/
theorem Lexeme.source_toString (n : Nat) : Lexeme.source (toString n) = toString n := by
  unfold Lexeme.source
  rw [Lexeme.quote?_toString]

/-- A numeral is held as it is written. -/
theorem Lexeme.normal_toString (mode : Mode) (n : Nat) :
    Statement.normal mode (toString n) = toString n := by
  unfold Statement.normal
  rw [Text.lower_toString, ite_self]

/-- A numeral is read wherever it is written. -/
theorem Lexeme.standsAlone_toString (n : Nat) (mode : Mode) :
    Lexeme.StandsAlone mode (toString n) := by
  have stands := Lexeme.standsAlone_word (Text.toList_toString_ne_nil n)
    (Lexeme.all_isAlphanum_toString n) mode
  rwa [String.ofList_toList] at stands

/-- A numeral stands for its number. -/
theorem Session.operand_toString {n : Nat} (below : (n : Int) ≤ Text.integerMax) (host : Host)
    (session : Session) : session.operand host (toString n) = pure (.ofInteger n) := by
  have whole : Lexeme.isInteger (toString n) = true := by
    unfold Lexeme.isInteger
    split
    · rename_i rest same
      exact absurd same (Text.head_toString_ne_sign rfl rest)
    · exact Text.isDigits_toString n
  simp only [operand, Lexeme.quote?_toString, whole, Text.integer?_toString below, if_true]

/-- A numeral spells a length. -/
theorem Session.lengthOf_toString {n : Nat} (below : n < Text.naturalBound) :
    lengthOf (toString n) = .ok n := by
  unfold lengthOf
  rw [Text.trim_toString, Text.natural?_toString below]

end Numerals

namespace Session

variable {host : Host} {session : Session} {name : Lexeme} {length value : Nat}

/-- What the declaration of a number of fixed length captures. -/
def fixedNumber (name : Lexeme) (length value : Nat) : Captures :=
  [("length", .single (toString length)), ("name", .single name), ("type", .single "n"),
    ("value", .single (toString value))]

/-- The declaration of a number of fixed length gives its name and its type. -/
theorem declaration_fixedNumber (plain : '(' ∉ (Text.lower name).toList) (positive : 1 ≤ length)
    (below : length < Text.naturalBound) :
    session.declaration host (fixedNumber name length value) =
      pure (Text.lower name, Ty.numericText length) := by
  have named : (fixedNumber name length value).required "name" = .ok name := rfl
  have alone : nameAndLength (Text.lower name) = .ok (Text.lower name, none) := by
    simp only [nameAndLength, Text.splitFirst?_eq_none_of_not_mem plain]
    rfl
  have sized : declaredLength (fixedNumber name length value) none = .ok (some length) := by
    have single : (fixedNumber name length value).single? "length" = some (toString length) := rfl
    simp only [declaredLength, single, Lexeme.content_toString, lengthOf_toString below, Except.map]
  have typed : session.declaredType host (fixedNumber name length value) (some length) =
      pure (Ty.numericText length) := by
    have single : (fixedNumber name length value).single? "type" = some "n" := rfl
    have base : Base.ofName? "n" = some .numericText := by decide
    simp only [declaredType, single, typeNamed, base, elementaryType,
      Ty.ofBase_numericText positive, Result.mapError_ok]
    rfl
  funext asked
  refine bind_eq_ok.mpr ⟨name, asked, lift_eq_ok.mpr ⟨named, rfl⟩, ?_⟩
  refine bind_eq_ok.mpr ⟨_, asked, lift_eq_ok.mpr ⟨alone, rfl⟩, ?_⟩
  refine bind_eq_ok.mpr ⟨_, asked, lift_eq_ok.mpr ⟨sized, rfl⟩, ?_⟩
  refine bind_eq_ok.mpr ⟨Ty.numericText length, asked, ?_, rfl⟩
  rw [typed]
  rfl

/-- Declaring a number of fixed length adds the variable if the value has no more digits than the
length, and fails otherwise. -/
theorem declare_fixedNumber (plain : '(' ∉ (Text.lower name).toList) (positive : 1 ≤ length)
    (below : length < Text.naturalBound) (inRange : (value : Int) ≤ Text.integerMax) :
    declare host .plain (fixedNumber name length value) session =
      if (toString value).length ≤ length then
        Action.onEnvironment (Environment.define
          ⟨Text.lower name, Ty.numericText length, .number (Ty.numericText length) value, false⟩)
          session
      else
        (.error (.value (.tooLong (.ofInteger value) (Ty.numericText length) length)),
          session) := by
  have declared : session.declaration host (fixedNumber name length value) = _ :=
    declaration_fixedNumber plain positive below
  have given : session.declaredValue host (fixedNumber name length value) =
      pure (some (.ofInteger value)) := by
    have single : (fixedNumber name length value).single? "value" = some (toString value) := rfl
    simp only [declaredValue, single, operand_toString inRange]
    rfl
  have run : declare host .plain (fixedNumber name length value) session =
      defineVariable .plain (Text.lower name) (Ty.numericText length) (some (.ofInteger value))
        session := by
    rw [declare, bind_apply, read_apply, declared]
    show (Action.read _ >>= _) session = _
    rw [bind_apply, read_apply, given]
    rfl
  rw [run, defineVariable, bind_apply, lift_apply, Variable.declare_numericText, Text.lower_lower]
  by_cases fits : (toString value).length ≤ length
  · have same : (toString (value : Int)).length ≤ length := fits
    rw [if_pos fits, if_pos same]
    rfl
  · have same : ¬ (toString (value : Int)).length ≤ length := fits
    rw [if_neg fits, if_neg same]

/-- A lexeme that is the name of a variable stands for its value. -/
theorem operand_variable {lexeme : Lexeme} {held : Variable} (plain : lexeme.quote? = none)
    (word : lexeme.isInteger = false) (path : lexeme.path = (name, []))
    (other : name ≠ Environment.systemName)
    (found : session.environment.find? name = some held) :
    session.operand host lexeme = pure held.value := by
  have root : session.environment.get name = .ok held := by
    rw [Environment.get, found]
  simp only [operand, plain, word, namedValue, path, if_neg other, root]
  rfl

section Output

variable {source : Lexeme} {shown : Value}

/-- A value alone is written at the cursor, with a gap behind it. -/
theorem write_value {text : String} (given : session.operand host source = pure shown)
    (laidOut : shown.toText false = .ok text) :
    write host [("source", .single source)] session =
      (.ok (), { session with screen := (session.screen.write text).advance }) := by
  have noPlace : Captures.single? [("source", .single source)] "at" = none := rfl
  have single : Captures.single? [("source", .single source)] "source" = some source := rfl
  have shows : shown.toText (Captures.flag [("source", .single source)] "no_zero") = .ok text :=
    laidOut
  simp only [write, noPlace, single]
  refine bind_eq_ok.mpr ⟨(), session, rfl, ?_⟩
  refine bind_eq_ok.mpr ⟨shown, session, read_eq_ok.mpr ⟨_, by rw [given]; rfl, rfl⟩, ?_⟩
  exact bind_eq_ok.mpr ⟨text, session, lift_eq_ok.mpr ⟨by rw [shows]; rfl, rfl⟩, rfl⟩

/-- A value alone whose text would be too wide is not written. -/
theorem write_value_of_crash {cause : Crash} (given : session.operand host source = pure shown)
    (crashed : shown.toText false = .error cause) :
    write host [("source", .single source)] session = (.error (.crash cause), session) := by
  have noPlace : Captures.single? [("source", .single source)] "at" = none := rfl
  have single : Captures.single? [("source", .single source)] "source" = some source := rfl
  have shows : shown.toText (Captures.flag [("source", .single source)] "no_zero") =
      .error cause := crashed
  simp only [write, noPlace, single]
  refine bind_eq_error.mpr (.inr ⟨(), session, rfl, ?_⟩)
  refine bind_eq_error.mpr (.inr ⟨shown, session, ?_, ?_⟩)
  · exact read_eq_ok.mpr ⟨_, by rw [given]; rfl, rfl⟩
  · exact bind_eq_error.mpr (.inl (Prod.ext (by rw [lift_apply, shows]; rfl) rfl))

end Output

end Session

end ReportLang
