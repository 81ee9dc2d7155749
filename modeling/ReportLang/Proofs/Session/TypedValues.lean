import ReportLang.Proofs.Environment.Typing
import ReportLang.Proofs.Session.Rules
import ReportLang.Proofs.Text.LowerCase
import ReportLang.Proofs.Text.Split

/-!
# Well-typed operands and declarations

Whatever a lexeme stands for in a session with a well-typed environment is well-typed: a literal has
the type of its length, the system record shows a date and a time of fixed lengths, and a variable
or field fits its type. So the types and fields of declarations obey the rules. The names of fields
are in lower case already, so that a record type has them as they are. Of the host it is relied on
that its clock gives instants of the calendar and that the texts of their dates and times have the
lengths of these types (`Host.IsCivil`).
-/

namespace ReportLang

open Result

namespace Instant

/-- Whether an instant is one of the calendar, in a year of four digits. -/
structure IsCivil (instant : Instant) : Prop where
  /-- The year has at most four digits and no sign. -/
  year : 0 ≤ instant.year ∧ instant.year ≤ 9999
  /-- There are twelve months. -/
  month : instant.month ≤ 12
  /-- A month has at most 31 days. -/
  day : instant.day ≤ 31
  /-- A day has 24 hours. -/
  hour : instant.hour ≤ 23
  /-- An hour has 60 minutes. -/
  minute : instant.minute ≤ 59
  /-- A minute has 60 seconds and may have a leap second. -/
  second : instant.second ≤ 60

/-- A text that is not too long has the width it is filled up to. -/
theorem length_zeroPadded {width n : Nat} (positive : 0 < width) (small : n < 10 ^ width) :
    (Text.zeroPadded width (toString n)).length = width := by
  have short : (toString n).length ≤ width := (Nat.length_repr_le_iff positive).mpr small
  rw [Text.zeroPadded, String.length_ofList, List.length_append, List.length_replicate,
    String.length_toList]
  omega

/-- A number below a hundred has two digits. -/
theorem length_twoDigits {n : Nat} (small : n < 100) : (twoDigits n).length = 2 :=
  length_zeroPadded (by decide) small

variable {now : Instant}

/-- A date has eight characters. -/
theorem IsCivil.length_dateText (civil : now.IsCivil) : now.dateText.length = 8 := by
  have year : (yearText now.year).length = 4 := by
    have small : now.year.natAbs < 10 ^ 4 := by
      have bounds := civil.year
      omega
    rw [yearText, if_pos civil.year]
    exact length_zeroPadded (by decide) small
  have month := length_twoDigits (n := now.month) (by have := civil.month; omega)
  have day := length_twoDigits (n := now.day) (by have := civil.day; omega)
  rw [dateText, String.length_append, String.length_append, year, month, day]

/-- A time of the day has six characters. -/
theorem IsCivil.length_timeText (civil : now.IsCivil) : now.timeText.length = 6 := by
  have hour := length_twoDigits (n := now.hour) (by have := civil.hour; omega)
  have minute := length_twoDigits (n := now.minute) (by have := civil.minute; omega)
  have second := length_twoDigits (n := now.second) (by have := civil.second; omega)
  rw [timeText, String.length_append, String.length_append, hour, minute, second]

end Instant

/-- What is relied on of a host for its dates and times: the clock gives instants of the calendar,
in years of four digits, and the texts of their dates and times have eight and six characters. -/
structure Host.IsCivil (host : Host) : Prop where
  /-- The clock gives instants of the calendar, whenever it is asked. -/
  clock : ∀ asked, (host.clock asked).IsCivil
  /-- The text of a date of the calendar has eight characters. -/
  length_dateText : ∀ now : Instant, now.IsCivil → (host.dateText now).length = 8
  /-- The text of a time of the day has six characters. -/
  length_timeText : ∀ now : Instant, now.IsCivil → (host.timeText now).length = 6

/-- The host of the running program is so on every clock that gives instants of the calendar. -/
theorem Host.isCivil_standard {clock : Nat → Instant} (civil : ∀ asked, (clock asked).IsCivil) :
    (Host.standard clock).IsCivil where
  clock := civil
  length_dateText _ civil := civil.length_dateText
  length_timeText _ civil := civil.length_timeText

namespace Session

open ReportLang.Update

variable {host : Host} {session : Session} {captures : Captures}

/-- The system record is well-typed. -/
theorem yields_system (civil : host.IsCivil) (session : Session) :
    Update.Yields Value.WellTyped (session.system host) := by
  have answered : Update.Yields Instant.IsCivil host.now :=
    fun asked _ => ⟨trivial, ends_ok (civil.clock asked)⟩
  refine answered.bind fun now own => keeps_pure ?_
  refine Value.wellTyped_record ?_ fun field member => ?_
  · simp [systemFields]
  · simp only [systemFields, List.mem_cons, List.not_mem_nil, or_false] at member
    rcases member with rfl | rfl | rfl | rfl | rfl | rfl
    · exact Value.wellTyped_ofInteger _
    · exact Value.wellTyped_ofDate (civil.length_dateText now own)
    · exact Value.wellTyped_ofTime (civil.length_timeText now own)
    · exact Value.wellTyped_ofInteger _
    · exact Value.wellTyped_ofInteger _
    · exact Value.wellTyped_ofInteger _

/-- A literal is well-typed. -/
theorem wellTyped_literalValue (quote : Quote) (text : String) :
    (literalValue quote text).WellTyped := by
  cases quote with
  | character => exact Value.wellTyped_ofCharacters _
  | string => exact Value.wellTyped_ofString text

/-- A variable or field is well-typed. -/
theorem yields_namedValue (civil : host.IsCivil) (typed : session.environment.WellTyped)
    (lexeme : Lexeme) : Update.Yields Value.WellTyped (session.namedValue host lexeme) := by
  unfold namedValue
  obtain ⟨name, fields⟩ := lexeme.path
  have reached {root : Reading Value} (wellTyped : Update.Yields Value.WellTyped root) :
      Update.Yields Value.WellTyped (root >>= fun value =>
        liftM ((value.fieldAt fields).mapError RunError.value)) :=
    wellTyped.bind fun _ own =>
      keeps_lift (Yields.mapError (yields_of_ok fun _ found => own.fieldAt found))
  simp only
  split
  · exact reached (yields_system civil session)
  · have root : Result.Yields Value.WellTyped ((session.environment.get name).map Variable.value) :=
      (session.environment.yields_get name).map fun _ found => (typed.find? found).value
    exact reached (keeps_lift root)

/-- What a lexeme stands for is well-typed. -/
theorem yields_operand (civil : host.IsCivil) (typed : session.environment.WellTyped)
    (lexeme : Lexeme) : Update.Yields Value.WellTyped (session.operand host lexeme) := by
  unfold operand
  split
  · exact keeps_pure (wellTyped_literalValue _ _)
  · split
    · split
      · exact keeps_pure (Value.wellTyped_ofInteger _)
      · exact keeps_throw trivial
    · exact yields_namedValue civil typed lexeme

/-- An elementary type that is made obeys the rules. -/
theorem yields_elementaryType (base : Base) (length : Option Nat) :
    Result.Yields Ty.Valid (elementaryType base length) :=
  Yields.mapError (yields_of_ok fun _ made => Ty.valid_of_ofBase made)

/-- The type of a name obeys the rules. -/
theorem yields_typeNamed (typed : session.environment.WellTyped) (name : Lexeme)
    (length : Option Nat) : Result.Yields Ty.Valid (session.typeNamed name length) := by
  unfold typeNamed
  split
  · exact yields_elementaryType _ length
  · split
    · exact ends_error trivial
    · rename_i ty found
      split
      · exact ends_error trivial
      · exact ends_ok (typed.findType? found)

/-- The type of a declaration obeys the rules. -/
theorem yields_declaredType (civil : host.IsCivil) (typed : session.environment.WellTyped)
    (captures : Captures) (length : Option Nat) :
    Update.Yields Ty.Valid (session.declaredType host captures length) := by
  unfold declaredType
  split
  · exact keeps_lift (yields_typeNamed typed _ length)
  · exact (yields_operand civil typed _).map fun _ wellTyped => wellTyped.valid
  · exact keeps_lift (yields_elementaryType .character length)

/-- The name of a declaration is in lower case, as it is a part of a text in lower case. -/
theorem yields_nameAndLength (text : String) :
    Result.Yields (fun found => Text.lower found.1 = found.1)
      (nameAndLength (Text.lower text)) := by
  unfold nameAndLength
  split
  · rename_i name length split
    have inside : ∀ c ∈ name, c ∈ (Text.lower text).toList := fun c member => by
      rw [Text.eq_of_splitFirst? split]
      exact List.mem_append_left _ member
    have lower : Text.lower (String.ofList name) = String.ofList name :=
      Text.lower_of_isSmall fun c member => Text.isSmall_of_mem_lower (inside c member)
    exact (Result.yields_any _).bind fun _ _ => ends_ok lower
  · exact ends_ok (Text.lower_lower text)

/-- The name of a declaration is in lower case, and its type obeys the rules. -/
theorem yields_declaration (civil : host.IsCivil) (typed : session.environment.WellTyped)
    (captures : Captures) :
    Update.Yields (fun found => Text.lower found.1 = found.1 ∧ found.2.Valid)
      (session.declaration host captures) := by
  refine (keeps_lift (Result.yields_any (captures.required "name"))).bind fun lexeme _ => ?_
  refine (keeps_lift (yields_nameAndLength lexeme)).bind fun found lower => ?_
  refine (keeps_lift (Result.yields_any (declaredLength captures found.2))).bind fun length _ => ?_
  exact (yields_declaredType civil typed captures length).bind fun ty valid =>
    keeps_pure ⟨lower, valid⟩

/-- A value after `VALUE` is well-typed. -/
theorem yields_declaredValue (civil : host.IsCivil) (typed : session.environment.WellTyped)
    (captures : Captures) :
    Update.Yields (fun value => ∀ given, value = some given → given.WellTyped)
      (session.declaredValue host captures) := by
  unfold declaredValue
  split
  · rename_i lexeme _
    refine (yields_operand civil typed lexeme).map fun value wellTyped given same => ?_
    rwa [← Option.some.inj same]
  · exact keeps_pure (by simp)

/-- Whether a field has a name in lower case and a well-typed value. -/
def IsField (field : String × Value) : Prop :=
  Text.lower field.1 = field.1 ∧ field.2.WellTyped

/-- A field that a command declares has a name in lower case and a well-typed value. -/
theorem yields_fieldOf (civil : host.IsCivil) (typed : session.environment.WellTyped)
    (captures : Captures) : Update.Yields IsField (session.fieldOf host captures) := by
  refine (yields_declaration civil typed captures).bind fun found named => ?_
  obtain ⟨name, ty⟩ := found
  obtain ⟨lower, valid⟩ := named
  refine (yields_declaredValue civil typed captures).bind fun value given => ?_
  exact (keeps_lift (Variable.yields_startValue valid given)).bind fun stored fits =>
    keeps_pure ⟨lower, fits.wellTyped valid⟩

/-- A record of such fields is well-typed. -/
theorem yields_recordOf {fields : List (String × Value)} (all : ∀ field ∈ fields, IsField field) :
    Result.Yields Value.WellTyped (recordOf fields) := by
  refine Yields.mapError (yields_of_ok fun value made => ?_)
  exact Value.wellTyped_ofFields (fun field member => (all field member).1)
    (fun field member => (all field member).2) made

/-- The name of a record declaration is in lower case. -/
theorem yields_recordName (captures : Captures) :
    Result.Yields (fun name => Text.lower name = name) (recordName captures) :=
  (Result.yields_any (captures.required "struc")).map fun lexeme _ => Text.lower_lower lexeme

mutual

/-- A field of a record declaration has a name in lower case and a well-typed value, which may be a
record again. -/
theorem yields_fieldValue (civil : host.IsCivil) (typed : session.environment.WellTyped) :
    (instruction : Instruction) → Update.Yields IsField (session.fieldValue host instruction)
  | .simple command => by
    rw [fieldValue]
    split
    · exact yields_fieldOf civil typed command.captures
    · exact keeps_throw trivial
  | .block opener body => by
    rw [fieldValue]
    split
    · refine (keeps_lift (yields_recordName opener.captures)).bind fun name lower => ?_
      refine (yields_fieldValues civil typed body).bind fun fields all => ?_
      exact (keeps_lift (yields_recordOf all)).bind fun value wellTyped =>
        keeps_pure ⟨lower, wellTyped⟩
    · exact keeps_throw trivial
  | .choice branches => by
    rw [fieldValue]
    exact keeps_throw trivial

/-- The fields of a record declaration have names in lower case and well-typed values. -/
theorem yields_fieldValues (civil : host.IsCivil) (typed : session.environment.WellTyped) :
    (body : List Instruction) →
      Update.Yields (fun fields => ∀ field ∈ fields, IsField field) (session.fieldValues host body)
  | [] => by
    rw [fieldValues]
    exact keeps_pure (by simp)
  | instruction :: rest => by
    rw [fieldValues]
    refine (yields_fieldValue civil typed instruction).bind fun field first => ?_
    refine (yields_fieldValues civil typed rest).bind fun fields later => keeps_pure ?_
    exact List.forall_mem_cons.mpr ⟨first, later⟩

end

end Session

end ReportLang
