import ReportLang.Proofs.Environment.Change
import ReportLang.Proofs.Grammar.Supply
import ReportLang.Proofs.Instruction.Grouping
import ReportLang.Proofs.Session.Condition
import ReportLang.Proofs.Session.Rules

/-!
# Execution of supplied commands

A command that has what its execution relies on never fails for the lack of a capture, and neither
do the blocks of a program all of whose commands are so. Every step is shown to end in an expected
failure or in a result, first for values and places, then for conditions, commands and blocks.
-/

namespace ReportLang

/-- Whether a failure is none of those that a grammar has to prevent: a capture that is not there,
or a command for which no execution is defined. -/
def RunError.IsExpected : RunError → Prop
  | .missingCapture _ | .missingOperand _ | .notExecutable _ => False
  | _ => True

/-- Whether a step ends in a result or in an expected failure. -/
abbrev EndsExpected {α : Type} (step : Except RunError α) : Prop :=
  Result.Ends RunError.IsExpected (fun _ => True) step

/-- Whether an update ends in a result or in an expected failure, whatever the state. -/
abbrev Update.IsExpected {σ α : Type} (update : Update σ α) : Prop :=
  update.Keeps (fun _ => True) RunError.IsExpected (fun _ => True)

/-- A result is expected. -/
theorem endsExpected_ok {α : Type} {result : α} : EndsExpected (.ok result) :=
  Result.ends_ok trivial

/-- An expected failure is expected. -/
theorem endsExpected_error {α : Type} {failure : RunError} (expected : failure.IsExpected) :
    EndsExpected (.error failure : Except RunError α) :=
  Result.ends_error expected

/-- A failure of an operation on values is expected. -/
theorem endsExpected_value {α : Type} (step : Except ValueError α) :
    EndsExpected (step.mapError RunError.value) := by
  cases step with
  | ok result => exact endsExpected_ok
  | error failure => exact endsExpected_error trivial

/-- A crash is expected. -/
theorem endsExpected_crash {α : Type} (step : Except Crash α) :
    EndsExpected (step.mapError RunError.crash) := by
  cases step with
  | ok result => exact endsExpected_ok
  | error cause => exact endsExpected_error trivial

/-- A type that does not exist is expected. -/
theorem endsExpected_invalidTy {α : Type} (step : Except TyError α) :
    EndsExpected (step.mapError fun error => RunError.value (.invalidTy error)) := by
  cases step with
  | ok result => exact endsExpected_ok
  | error failure => exact endsExpected_error trivial

namespace Value

open ReportLang.Update

variable {α : Type} {change : Update Value α}

/-- A field may not be there. -/
theorem isExpected_onField (inner : Update.IsExpected change) (name : String) :
    Update.IsExpected (onField name change) := by
  intro value _
  rcases onField_cases change name value with ⟨_, _, same⟩ | ⟨_, _, held, _, _, same⟩
  · rw [same]
    exact ⟨trivial, endsExpected_error trivial⟩
  · rw [same]
    exact ⟨trivial, (inner held trivial).2⟩

/-- A path may lead nowhere. -/
theorem isExpected_onPath (inner : Update.IsExpected change) (path : List String) :
    Update.IsExpected (onPath change path) := by
  induction path with
  | nil => exact inner
  | cons name path ih => exact isExpected_onField ih name

/-- A value may not fit the field it is stored in. -/
theorem isExpected_setField (name : String) (stored : Value) (allowRecords : Bool) :
    Update.IsExpected (setField name stored allowRecords) := by
  refine keeps_get.bind fun container _ => ?_
  split
  · exact keeps_throw trivial
  · exact (keeps_lift (endsExpected_value _)).bind fun _ _ =>
      isExpected_onField (keeps_set trivial) name

/-- A field that is to be cleared may not be there. -/
theorem isExpected_clearField (name : String) : Update.IsExpected (clearField name) := by
  refine keeps_get.bind fun container _ => ?_
  refine (keeps_lift (endsExpected_value _)).bind fun held _ => ?_
  exact (keeps_lift (endsExpected_crash _)).bind
    fun initial _ => isExpected_setField name initial true

end Value

namespace Variable

open ReportLang.Update

/-- A variable may be a constant. -/
theorem endsExpected_checkWritable (held : Variable) : EndsExpected held.checkWritable := by
  unfold checkWritable
  split
  · exact endsExpected_error trivial
  · exact endsExpected_ok

/-- A value may not fit the variable it is stored in. -/
theorem isExpected_assign (value : Value) : Update.IsExpected (assign value) := by
  refine keeps_get.bind fun held _ => ?_
  refine (keeps_lift held.endsExpected_checkWritable).bind fun _ _ => ?_
  exact (keeps_lift (endsExpected_value _)).bind fun _ _ => keeps_set trivial

/-- A variable that is to be cleared may be a constant. -/
theorem isExpected_clear : Update.IsExpected clear := by
  refine keeps_get.bind fun held _ => ?_
  refine (keeps_lift held.endsExpected_checkWritable).bind fun _ _ => ?_
  exact (keeps_lift (endsExpected_crash _)).bind fun _ _ => keeps_set trivial

/-- A variable whose value is to be changed may be a constant. -/
theorem isExpected_onValue {α : Type} {change : Update Value α} (inner : Update.IsExpected change) :
    Update.IsExpected (onValue change) := by
  intro held _
  unfold onValue
  split
  · rename_i failure refused
    obtain ⟨_, rfl⟩ := checkWritable_eq_error.mp refused
    exact ⟨trivial, endsExpected_error trivial⟩
  · exact ⟨trivial, (inner held.value trivial).2⟩

/-- A value may not fit the variable it is declared for. -/
theorem endsExpected_startValue (ty : Ty) (value : Option Value) :
    EndsExpected (startValue ty value) := by
  cases value with
  | some given => exact endsExpected_value _
  | none => exact endsExpected_crash _

end Variable

namespace Environment

open ReportLang.Update

/-- A variable may be undefined. -/
theorem endsExpected_get (environment : Environment) (name : String) :
    EndsExpected (environment.get name) := by
  unfold get
  split
  · exact endsExpected_ok
  · exact endsExpected_error trivial

/-- A name may be declared already. -/
theorem isExpected_define (held : Variable) : Update.IsExpected (define held) := by
  intro environment _
  rw [define_apply]
  split
  · exact ⟨trivial, endsExpected_error trivial⟩
  · exact ⟨trivial, endsExpected_ok⟩

/-- The name of a type may be declared already. -/
theorem isExpected_defineType (name : String) (ty : Ty) :
    Update.IsExpected (defineType name ty) := by
  intro environment _
  rw [defineType_apply]
  split
  · exact ⟨trivial, endsExpected_error trivial⟩
  · exact ⟨trivial, endsExpected_ok⟩

/-- A variable that is to be changed may be undefined. -/
theorem isExpected_onVariable {α : Type} {change : Update Variable α}
    (inner : Update.IsExpected change) (name : String) :
    Update.IsExpected (onVariable name change) := by
  intro environment _
  rcases onVariable_cases name change environment with ⟨_, same⟩ | ⟨_, held, _, _, same⟩
  · rw [same]
    exact ⟨trivial, endsExpected_error trivial⟩
  · rw [same]
    exact ⟨trivial, (inner held trivial).2⟩

end Environment

namespace Reference

/-- A place may be undefined or have no such field. -/
theorem endsExpected_get (environment : Environment) (target : Reference) :
    EndsExpected (target.get environment) := by
  cases target with
  | whole name => exact (environment.endsExpected_get name).bind fun _ _ => endsExpected_ok
  | part name path field =>
    exact (environment.endsExpected_get name).bind fun _ _ => endsExpected_value _

/-- A value may not fit its place. -/
theorem isExpected_set (value : Value) (target : Reference) :
    Update.IsExpected (target.set value) := by
  cases target with
  | whole name =>
    exact Environment.isExpected_onVariable (Variable.isExpected_assign value) name
  | part name path field =>
    exact Environment.isExpected_onVariable (Variable.isExpected_onValue
      (Value.isExpected_onPath (Value.isExpected_setField field value false) path)) name

/-- A place may be undefined. -/
theorem isExpected_clear (target : Reference) : Update.IsExpected target.clear := by
  cases target with
  | whole name => exact Environment.isExpected_onVariable Variable.isExpected_clear name
  | part name path field =>
    exact Environment.isExpected_onVariable (Variable.isExpected_onValue
      (Value.isExpected_onPath (Value.isExpected_clearField field) path)) name

end Reference

namespace Session

open ReportLang.Update

variable (host : Host) (session : Session)

/-- The clock always answers. -/
theorem isExpected_now : Update.IsExpected host.now := fun _ _ => ⟨trivial, endsExpected_ok⟩

/-- A variable may be undefined or have no such field. -/
theorem isExpected_namedValue (lexeme : Lexeme) :
    Update.IsExpected (session.namedValue host lexeme) := by
  unfold namedValue
  obtain ⟨name, fields⟩ := lexeme.path
  simp only
  have reached {root : Reading Value} (ends : Update.IsExpected root) :
      Update.IsExpected (root >>= fun value =>
        liftM ((value.fieldAt fields).mapError RunError.value)) :=
    ends.bind fun _ _ => keeps_lift (endsExpected_value _)
  split
  · exact reached ((isExpected_now host).bind fun _ _ => keeps_pure trivial)
  · exact reached (keeps_lift ((session.environment.endsExpected_get name).map fun _ _ => trivial))

/-- A lexeme may stand for no value. -/
theorem isExpected_operand (lexeme : Lexeme) : Update.IsExpected (session.operand host lexeme) := by
  unfold operand
  split
  · exact keeps_pure trivial
  · split
    · split
      · exact keeps_pure trivial
      · exact keeps_throw trivial
    · exact isExpected_namedValue host session lexeme

/-- A lexeme may stand for no place. -/
theorem endsExpected_reference (lexeme : Lexeme) : EndsExpected (session.reference lexeme) := by
  simp only [reference]
  split
  · exact endsExpected_error trivial
  · split
    · exact endsExpected_error trivial
    · exact (session.environment.endsExpected_get _).bind fun _ _ => endsExpected_ok

/-- A value may count as no number. -/
theorem endsExpected_countOf (value : Value) : EndsExpected (countOf value) := by
  unfold countOf
  split
  · exact endsExpected_ok
  · exact endsExpected_ok
  · split
    · exact endsExpected_ok
    · exact endsExpected_error trivial
  · split
    · exact endsExpected_ok
    · exact endsExpected_error trivial

/-- A lexeme may stand for no number. -/
theorem isExpected_count (lexeme : Lexeme) : Update.IsExpected (session.count host lexeme) :=
  (session.isExpected_operand host lexeme).bind fun value _ =>
    keeps_lift (endsExpected_countOf value)

/-- A record may have no text. -/
theorem endsExpected_textOf (value : Value) : EndsExpected (Comparison.textOf value) := by
  unfold Comparison.textOf
  split
  · exact endsExpected_error trivial
  · exact endsExpected_crash _

/-- Two values may not be comparable. -/
theorem endsExpected_test (engine : Text.Engine) (operator : String) (left right : Value) :
    EndsExpected (left.test engine operator right) := by
  have related (relation : TextRelation) (first second : String) :
      EndsExpected (relation.holds engine first second) := by
    cases relation with
    | containsOnly => exact endsExpected_ok
    | containsAny => exact endsExpected_ok
    | containsString => exact endsExpected_ok
    | coversPattern => exact Result.Ends.mapError (Result.yields_any _) fun _ _ => trivial
  have holds (comparison : Comparison) : EndsExpected (comparison.holds engine left right) := by
    unfold Comparison.holds
    split
    · exact endsExpected_value _
    · exact endsExpected_value _
    · exact (endsExpected_textOf _).bind fun _ _ => (endsExpected_textOf _).bind fun _ _ =>
        (related _ _ _).bind fun _ _ => endsExpected_ok
  simp only [Value.test]
  split
  · exact holds _
  · exact endsExpected_error trivial

end Session

section Captures

variable {captures : Captures} {outline : Outline} {name : String}

open Grammar ReportLang.Update

/-- A listed name is not missed. -/
theorem Captures.endsExpected_required (fits : captures.Fits builtinOutlines outline)
    (listed : outline.lists name .single = true) : EndsExpected (captures.required name) := by
  obtain ⟨lexeme, found⟩ := fits.single? (Outline.lists_iff.mp listed)
  rw [Captures.required, found]
  exact endsExpected_ok

/-- A listed operand is not missed. -/
theorem Session.isExpected_conditionOperand (host : Host) (session : Session)
    (fits : captures.Fits builtinOutlines outline) (listed : outline.lists name .single = true) :
    Update.IsExpected (session.conditionOperand host captures name) := by
  obtain ⟨lexeme, found⟩ := fits.single? (Outline.lists_iff.mp listed)
  rw [Session.conditionOperand, found]
  exact session.isExpected_operand host lexeme

/-- Whatever is nested in a condition is a condition again. -/
theorem Captures.Fits.nestsCondition (fits : captures.Fits builtinOutlines outline)
    (nests : outline.nestsCondition name = true) {inner : Captures}
    (found : captures.nested? name = some inner) :
    ∃ outline, inner.Fits builtinOutlines outline ∧ outline.isCondition = true := by
  obtain ⟨rule, listed, along⟩ := fits.nested? found
  rw [Outline.nestsCondition, listed] at nests
  obtain rfl := of_decide_eq_true nests
  obtain ⟨known, parts⟩ := along
  exact ⟨_, parts, builtin_isCondition _ known⟩

/-- No operand of a clause is missed. -/
theorem Session.isExpected_simpleClause (host : Host) (session : Session)
    (fits : captures.Fits builtinOutlines outline) (ready : outline.isCondition = true)
    (plain : captures.nested? "sub" = none) :
    Update.IsExpected (session.simpleClause host captures) := by
  have noSub : outline.lists "sub" (.nested "cond") = false := by
    refine decide_eq_false fun listed => ?_
    obtain ⟨inner, found⟩ := fits.exists_nested? listed
    simp [plain] at found
  simp only [Outline.isCondition, noSub, Bool.and_eq_true, Bool.false_or] at ready
  obtain ⟨_, operands⟩ := ready
  unfold Session.simpleClause
  split
  · rename_i initial
    have listed := Outline.lists_iff.mpr (fits.flag_iff.mp initial)
    rw [if_pos listed] at operands
    refine (session.isExpected_conditionOperand host fits operands).bind fun value _ => ?_
    exact (keeps_lift (endsExpected_crash _)).bind fun _ _ => keeps_pure trivial
  · rename_i initial
    have unlisted : outline.lists "initial" .flag ≠ true := fun listed =>
      initial (fits.flag_iff.mpr (Outline.lists_iff.mp listed))
    rw [if_neg unlisted] at operands
    split
    · rename_i operator found
      have listed : outline.lists "op" .single = true := by
        refine Outline.lists_iff.mpr (Decidable.not_not.mp fun unlisted => ?_)
        simp [fits.single?_eq_none unlisted] at found
      simp only [listed, Bool.not_true, Bool.false_or, Bool.and_eq_true] at operands
      refine (session.isExpected_conditionOperand host fits operands.1).bind fun left _ => ?_
      refine (session.isExpected_conditionOperand host fits operands.2).bind fun right _ => ?_
      exact keeps_lift (endsExpected_test host.engine operator left right)
    · exact keeps_pure trivial

/-- No operand of a condition is missed, at any depth. -/
theorem Session.isExpected_condition (host : Host) (session : Session) {captures : Captures}
    {outline : Outline} (fits : captures.Fits builtinOutlines outline)
    (ready : outline.isCondition = true) : Update.IsExpected (session.condition host captures) := by
  have nests := ready
  simp only [Outline.isCondition, Bool.and_eq_true] at nests
  have clause : Update.IsExpected (session.clause host captures) := by
    unfold Session.clause
    split
    · rename_i sub found
      obtain ⟨inner, parts, deeper⟩ := fits.nestsCondition nests.1.1 found
      exact Session.isExpected_condition host session parts deeper
    · rename_i plain
      exact session.isExpected_simpleClause host fits ready plain
  rw [Session.condition_eq]
  refine clause.bind fun first _ => ?_
  split
  · rename_i next found
    obtain ⟨inner, parts, deeper⟩ := fits.nestsCondition nests.1.2 found
    exact (Session.isExpected_condition host session parts deeper).map fun _ _ => trivial
  · exact keeps_pure trivial
termination_by sizeOf captures
decreasing_by all_goals exact Captures.sizeOf_nested? (by assumption)

end Captures

namespace Session

open ReportLang.Action ReportLang.Update Grammar

variable (host : Host) {captures : Captures} {outline : Outline}

/-- A computation that ends as expected. -/
theorem isExpected_read {α : Type} {compute : Session → Reading α}
    (ends : ∀ session, Update.IsExpected (compute session)) :
    Update.IsExpected (Action.read compute) :=
  keeps_read (fun _ _ _ => trivial) fun session _ => ends session

/-- A computation without the clock that ends as expected. -/
theorem isExpected_look {α : Type} {compute : Session → Except RunError α}
    (ends : ∀ session, EndsExpected (compute session)) : Update.IsExpected (look compute) :=
  keeps_look fun session _ => ends session

/-- A change of the environment that ends as expected. -/
theorem isExpected_onEnvironment {α : Type} {change : Update Environment α}
    (changed : Update.IsExpected change) : Update.IsExpected (onEnvironment change) :=
  keeps_onEnvironment fun session _ => ⟨trivial, (changed session.environment trivial).2⟩

/-- A value may not fit the place it is stored in. -/
theorem isExpected_assign (dest : Lexeme) (value : Value) :
    Update.IsExpected (assign dest value) := by
  refine (isExpected_look fun session => session.endsExpected_reference dest).bind
    fun target _ => ?_
  exact isExpected_onEnvironment (target.isExpected_set value)

/-- Storing a value misses neither of the two lexemes. -/
theorem isExpected_move (fits : captures.Fits builtinOutlines outline)
    (source : outline.lists "source" .single = true) (dest : outline.lists "dest" .single = true) :
    Update.IsExpected (move host captures) := by
  refine (keeps_lift (captures.endsExpected_required fits source)).bind fun origin _ => ?_
  refine (isExpected_read fun session => session.isExpected_operand host origin).bind
    fun value _ => ?_
  refine (keeps_lift (captures.endsExpected_required fits dest)).bind fun place _ => ?_
  exact isExpected_assign place value

/-- An expression misses neither of its operands. -/
theorem isExpected_computed (session : Session) (fits : captures.Fits builtinOutlines outline)
    (source : outline.lists "source" .single = true)
    (second : outline.lists "operator" .single = true →
      outline.lists "operand" .single = true) :
    Update.IsExpected (session.computed host captures) := by
  refine (keeps_lift (captures.endsExpected_required fits source)).bind fun first _ => ?_
  refine (session.isExpected_operand host first).bind fun value _ => ?_
  split
  · exact keeps_pure trivial
  · rename_i symbol found
    have listed : outline.lists "operator" .single = true := by
      refine Outline.lists_iff.mpr (Decidable.not_not.mp fun unlisted => ?_)
      simp [fits.single?_eq_none unlisted] at found
    split
    · exact keeps_throw trivial
    · refine (keeps_lift (captures.endsExpected_required fits (second listed))).bind
        fun other _ => ?_
      refine (session.isExpected_operand host other).bind fun operand _ => ?_
      exact keeps_lift (endsExpected_value _)

/-- Storing the value of an expression misses no lexeme. -/
theorem isExpected_compute (fits : captures.Fits builtinOutlines outline)
    (source : outline.lists "source" .single = true) (dest : outline.lists "dest" .single = true)
    (second : outline.lists "operator" .single = true →
      outline.lists "operand" .single = true) :
    Update.IsExpected (compute host captures) := by
  refine (isExpected_read fun session =>
    session.isExpected_computed host fits source second).bind fun value _ => ?_
  refine (keeps_lift (captures.endsExpected_required fits dest)).bind fun place _ => ?_
  exact isExpected_assign place value

/-- Changing a number by another one misses neither of the two lexemes. -/
theorem isExpected_changeBy (operation : Operation) (fits : captures.Fits builtinOutlines outline)
    (source : outline.lists "source" .single = true) (dest : outline.lists "dest" .single = true) :
    Update.IsExpected (changeBy host operation captures) := by
  refine (keeps_lift (captures.endsExpected_required fits source)).bind fun origin _ => ?_
  refine (isExpected_read fun session => session.isExpected_operand host origin).bind
    fun value _ => ?_
  refine (keeps_lift (captures.endsExpected_required fits dest)).bind fun place _ => ?_
  refine (isExpected_look fun session => session.endsExpected_reference place).bind
    fun target _ => ?_
  refine (isExpected_look fun session =>
    target.endsExpected_get session.environment).bind fun current _ => ?_
  refine (keeps_lift (endsExpected_value _)).bind fun result _ => ?_
  exact isExpected_onEnvironment (target.isExpected_set result)

/-- Clearing places misses none of their lexemes. -/
theorem isExpected_clearAll (items : List Captures)
    (along : ∀ item ∈ items, item.FitsRule builtinOutlines "target") :
    Update.IsExpected (clearAll items) := by
  induction items with
  | nil => exact keeps_pure trivial
  | cons item rest ih =>
    obtain ⟨known, fits⟩ := along item List.mem_cons_self
    have listed := builtin_target _ known
    have first : Update.IsExpected (clearOne item) := by
      refine (keeps_lift (Captures.endsExpected_required fits listed)).bind fun place _ => ?_
      refine (isExpected_look fun session =>
        session.endsExpected_reference place).bind fun target _ => ?_
      exact isExpected_onEnvironment target.isExpected_clear
    exact first.bind fun _ _ => ih fun other member => along other (List.mem_cons_of_mem _ member)

/-- An asserted condition may not hold. -/
theorem isExpected_assert (fits : captures.Fits builtinOutlines outline)
    (ready : outline.isCondition = true) : Update.IsExpected (Session.assert host captures) := by
  refine (isExpected_read fun session =>
    session.isExpected_condition host fits ready).bind fun holds _ => ?_
  cases holds with
  | true => exact keeps_pure trivial
  | false => exact keeps_throw trivial

/-- The length after a name may be none. -/
theorem endsExpected_lengthOf (text : String) : EndsExpected (lengthOf text) := by
  unfold lengthOf
  split
  · exact endsExpected_ok
  · exact endsExpected_error trivial

/-- A type may be unknown or have no such length. -/
theorem endsExpected_typeNamed (session : Session) (name : Lexeme) (length : Option Nat) :
    EndsExpected (session.typeNamed name length) := by
  unfold typeNamed
  split
  · exact endsExpected_invalidTy _
  · split
    · exact endsExpected_error trivial
    · split
      · exact endsExpected_error trivial
      · exact endsExpected_ok

/-- A declaration does not miss its name. -/
theorem isExpected_declaration (session : Session) (fits : captures.Fits builtinOutlines outline)
    (name : outline.lists "name" .single = true) :
    Update.IsExpected (session.declaration host captures) := by
  have named (declared : String) : EndsExpected (nameAndLength declared) := by
    unfold nameAndLength
    split
    · exact (endsExpected_lengthOf _).bind fun _ _ => endsExpected_ok
    · exact endsExpected_ok
  have measured (suffix : Option Nat) : EndsExpected (declaredLength captures suffix) := by
    unfold declaredLength
    split
    · exact (endsExpected_lengthOf _).map fun _ _ => trivial
    · exact endsExpected_ok
  have typed (length : Option Nat) :
      Update.IsExpected (session.declaredType host captures length) := by
    unfold declaredType
    split
    · exact keeps_lift (session.endsExpected_typeNamed _ length)
    · exact (session.isExpected_operand host _).map fun _ _ => trivial
    · exact keeps_lift (endsExpected_invalidTy _)
  refine (keeps_lift (captures.endsExpected_required fits name)).bind fun lexeme _ => ?_
  refine (keeps_lift (named _)).bind fun found _ => ?_
  refine (keeps_lift (measured found.2)).bind fun length _ => ?_
  exact (typed length).bind fun _ _ => keeps_pure trivial

/-- The value of a declaration may be none. -/
theorem isExpected_declaredValue (session : Session) :
    Update.IsExpected (session.declaredValue host captures) := by
  unfold declaredValue
  split
  · exact (session.isExpected_operand host _).map fun _ _ => trivial
  · exact keeps_pure trivial

/-- A value may not fit the variable it is declared for. -/
theorem isExpected_defineVariable (declared : Declared) (name : String) (ty : Ty)
    (value : Option Value) : Update.IsExpected (defineVariable declared name ty value) := by
  have made : EndsExpected (Variable.declare name ty value (declared = .constant)) :=
    (Variable.endsExpected_startValue ty value).bind fun _ _ => endsExpected_ok
  refine (keeps_lift made).bind fun held _ => ?_
  exact isExpected_onEnvironment (Environment.isExpected_define held)

/-- A declaration does not miss its name. -/
theorem isExpected_declare (declared : Declared) (fits : captures.Fits builtinOutlines outline)
    (name : outline.lists "name" .single = true) :
    Update.IsExpected (declare host declared captures) := by
  refine (isExpected_read fun session =>
    session.isExpected_declaration host fits name).bind fun found _ => ?_
  obtain ⟨name, ty⟩ := found
  simp only
  split
  · exact isExpected_onEnvironment (Environment.isExpected_defineType name ty)
  · refine (isExpected_read fun session =>
      session.isExpected_declaredValue host).bind fun value _ => ?_
    exact isExpected_defineVariable declared name ty value

/-- A declaration that opens and closes no record has a name. -/
theorem lists_name_of_plain {command : Command}
    (fits : command.captures.Fits builtinOutlines outline) (plain : command.role = .plain)
    (listed : (outline.lists "begin" .flag || outline.lists "end" .flag ||
      outline.lists "name" .single) = true) : outline.lists "name" .single = true := by
  obtain ⟨_, opens, closes⟩ := Command.role_eq_plain_iff.mp plain
  have noBegin : outline.lists "begin" .flag = false := by
    refine Bool.eq_false_iff.mpr fun begins => ?_
    simp [fits.flag_iff.mpr (Outline.lists_iff.mp begins)] at opens
  have noEnd : outline.lists "end" .flag = false := by
    refine Bool.eq_false_iff.mpr fun ends => ?_
    simp [fits.flag_iff.mpr (Outline.lists_iff.mp ends)] at closes
  simpa [noBegin, noEnd] using listed

/-- A plain command with what it relies on ends as expected. -/
theorem isExpected_executeCommand {command : Command} (supplied : command.Supplied)
    (plain : command.role = .plain) : Update.IsExpected (executeCommand host command) := by
  obtain ⟨outline, fits, supplies⟩ := supplied
  have proceeds {action : Action Unit} (expected : Update.IsExpected action) :
      Update.IsExpected (do action; return Signal.proceed) :=
    expected.bind fun _ _ => keeps_pure trivial
  have notBlock := (Command.role_eq_plain_iff.mp plain).1
  simp only [Outline.supplies, Bool.and_eq_true] at supplies
  replace supplies := supplies.2
  unfold executeCommand
  split
  · rename_i keyword
    simp only [keyword] at supplies
    exact proceeds (keeps_giveTitle (keptByWriting_satisfies fun _ => True) trivial
      (fun _ => trivial) (Captures.endsExpected_required fits supplies) fun session lexeme _ =>
        session.isExpected_count host lexeme)
  · rename_i keyword
    simp only [keyword] at supplies
    exact proceeds (isExpected_declare host .plain fits (lists_name_of_plain fits plain supplies))
  · rename_i keyword
    simp only [keyword] at supplies
    exact proceeds (isExpected_declare host .constant fits
      (lists_name_of_plain fits plain supplies))
  · rename_i keyword
    simp only [keyword] at supplies
    exact proceeds (isExpected_declare host .type fits (lists_name_of_plain fits plain supplies))
  · rename_i keyword
    simp only [keyword, Bool.and_eq_true] at supplies
    exact proceeds (isExpected_move host fits supplies.1 supplies.2)
  · rename_i keyword
    simp only [keyword, Bool.and_eq_true] at supplies
    refine proceeds (isExpected_compute host fits supplies.1.1 supplies.1.2 fun listed => ?_)
    simpa [listed] using supplies.2
  · rename_i keyword
    simp only [keyword, Bool.and_eq_true] at supplies
    exact proceeds (isExpected_changeBy host .add fits supplies.1 supplies.2)
  · rename_i keyword
    simp only [keyword, Bool.and_eq_true] at supplies
    exact proceeds (isExpected_changeBy host .subtract fits supplies.1 supplies.2)
  · rename_i keyword
    simp only [keyword, Bool.and_eq_true] at supplies
    exact proceeds (isExpected_changeBy host .multiply fits supplies.1 supplies.2)
  · rename_i keyword
    simp only [keyword, Bool.and_eq_true] at supplies
    exact proceeds (isExpected_changeBy host .divide fits supplies.1 supplies.2)
  · rename_i keyword
    simp only [keyword] at supplies
    exact proceeds (isExpected_clearAll _ fun item member =>
      fits.repeated (Outline.lists_iff.mp supplies) member)
  · exact proceeds (keeps_write (keptByWriting_satisfies fun _ => True) (fun _ => trivial)
      fun session lexeme _ => session.isExpected_operand host lexeme)
  · exact proceeds (keeps_onScreen fun _ _ => trivial)
  · exact proceeds (keeps_onScreen fun _ _ => trivial)
  · exact proceeds (keeps_skip (keptByWriting_satisfies fun _ => True) trivial (fun _ => trivial)
      fun session lexeme _ => session.isExpected_count host lexeme)
  · exact keeps_pure trivial
  · exact keeps_pure trivial
  · rename_i keyword
    simp only [keyword] at supplies
    exact proceeds (isExpected_assert host fits supplies)
  · -- The keywords that are left are those of blocks.
    exfalso
    simp only [blockKeywords, List.mem_cons, List.not_mem_nil, or_false, not_or] at notBlock
    obtain ⟨notIf, notElseif, notElse, notEndif, notWhile, notDo, notEndwhile, notEnddo⟩ := notBlock
    split at supplies
    all_goals contradiction

end Session

/-- Whether every command, apart from those that close a block, has what it relies on. -/
def Command.AllSupplied (commands : List Command) : Prop :=
  ∀ command ∈ commands, command.role.closes = false → command.Supplied

namespace Command.AllSupplied

variable {first later : List Command} {command : Command}

/-- The first command has what it relies on. -/
theorem head (all : AllSupplied (command :: later)) (opens : command.role.closes = false) :
    command.Supplied :=
  all command List.mem_cons_self opens

/-- So have the commands after the first. -/
theorem tail (all : AllSupplied (command :: later)) : AllSupplied later :=
  fun other member => all other (List.mem_cons_of_mem _ member)

/-- So have the commands of the first part. -/
theorem left (all : AllSupplied (first ++ later)) : AllSupplied first :=
  fun other member => all other (List.mem_append_left _ member)

/-- So have the commands of the second part. -/
theorem right (all : AllSupplied (first ++ later)) : AllSupplied later :=
  fun other member => all other (List.mem_append_right _ member)

end Command.AllSupplied

/-- A command that opens a record has a name for it. -/
theorem Command.Supplied.endsExpected_recordName {opener : Command} (supplied : opener.Supplied)
    (opens : opener.captures.flag "begin" = true) :
    EndsExpected (Session.recordName opener.captures) := by
  obtain ⟨outline, fits, supplies⟩ := supplied
  simp only [Outline.supplies, Bool.and_eq_true] at supplies
  have begins := Outline.lists_iff.mpr (fits.flag_iff.mp opens)
  have listed : outline.lists "struc" .single = true := by simpa [begins] using supplies.1
  exact (Captures.endsExpected_required fits listed).map fun _ _ => trivial

/-- A command that governs a block with a condition has one that can be evaluated. -/
theorem Command.Supplied.isExpected_condition {command : Command} (supplied : command.Supplied)
    (governs : command.keyword ∈ ["if", "elseif", "else", "while"]) (host : Host)
    (session : Session) : Update.IsExpected (session.condition host command.captures) := by
  obtain ⟨outline, fits, supplies⟩ := supplied
  simp only [Outline.supplies, Bool.and_eq_true] at supplies
  simp only [List.mem_cons, List.not_mem_nil, or_false] at governs
  refine session.isExpected_condition host fits ?_
  rcases governs with same | same | same | same
  all_goals
    rw [same] at supplies
    exact supplies.2

namespace Session

open ReportLang.Action ReportLang.Update Instruction

/-- The keywords of records and fields declare something. -/
theorem declares_of_isSome {keyword : String}
    (declares : (Declared.ofKeyword? keyword).isSome = true) :
    keyword = "data" ∨ keyword = "constants" ∨ keyword = "types" := by
  unfold Declared.ofKeyword? at declares
  split at declares
  · exact .inl rfl
  · exact .inr (.inl rfl)
  · exact .inr (.inr rfl)
  · simp at declares

/-- A command that declares a field does not miss its name. -/
theorem isExpected_fieldOf (host : Host) (session : Session) {command : Command}
    (supplied : command.Supplied) (plain : command.role = .plain)
    (declares : (Declared.ofKeyword? command.keyword).isSome = true) :
    Update.IsExpected (session.fieldOf host command.captures) := by
  obtain ⟨outline, fits, supplies⟩ := supplied
  simp only [Outline.supplies, Bool.and_eq_true] at supplies
  have name : outline.lists "name" .single = true := by
    refine lists_name_of_plain fits plain ?_
    rcases declares_of_isSome declares with same | same | same
    all_goals
      rw [same] at supplies
      exact supplies.2
  refine (session.isExpected_declaration host fits name).bind fun found _ => ?_
  refine (session.isExpected_declaredValue host).bind fun value _ => ?_
  exact (keeps_lift (Variable.endsExpected_startValue _ _)).bind fun _ _ => keeps_pure trivial

mutual

/-- A field of a record misses nothing. -/
theorem isExpected_fieldValue (host : Host) (session : Session) (instruction : Instruction)
    (wellFormed : instruction.WellFormed) (all : Command.AllSupplied instruction.flatten) :
    Update.IsExpected (fieldValue host session instruction) := by
  cases instruction with
  | simple command =>
    have plain := Command.role_eq_plain_iff.mpr wellFormed
    have supplied := all.head (by rw [plain]; rfl)
    rw [fieldValue]
    split
    · rename_i declares
      exact session.isExpected_fieldOf host supplied plain declares
    · exact keeps_throw trivial
  | choice branches => exact keeps_throw trivial
  | block opener body =>
    rw [fieldValue]
    split
    · rename_i declares
      have opens : opener.keyword ∉ blockKeywords ∧ opener.captures.flag "begin" = true := by
        rcases wellFormed.1 with loop | loop | record
        · simp [loop, Declared.ofKeyword?] at declares
        · simp [loop, Declared.ofKeyword?] at declares
        · exact record
      have role := Command.role_eq_opensRecord_iff.mpr opens
      have supplied := all.head (by rw [role]; rfl)
      refine (keeps_lift (supplied.endsExpected_recordName opens.2)).bind fun name _ => ?_
      refine (isExpected_fieldValues host session body wellFormed.2 all.tail.left).bind
        fun fields _ => ?_
      exact (keeps_lift (endsExpected_invalidTy _)).bind fun _ _ => keeps_pure trivial
    · exact keeps_throw trivial

/-- The fields of a record miss nothing. -/
theorem isExpected_fieldValues (host : Host) (session : Session) (body : List Instruction)
    (wellFormed : WellFormedAll body) (all : Command.AllSupplied (flattenAll body)) :
    Update.IsExpected (fieldValues host session body) := by
  cases body with
  | nil => exact keeps_pure trivial
  | cons instruction rest =>
    rw [fieldValues]
    refine (isExpected_fieldValue host session instruction wellFormed.1 all.left).bind
      fun field _ => ?_
    exact (isExpected_fieldValues host session rest wellFormed.2 all.right).bind
      fun _ _ => keeps_pure trivial

end

/-- A record declaration misses nothing. -/
theorem isExpected_declareRecord (host : Host) {opener : Command} {body : List Instruction}
    (supplied : opener.Supplied) (opens : opener.captures.flag "begin" = true)
    (wellFormed : WellFormedAll body) (all : Command.AllSupplied (flattenAll body)) :
    Update.IsExpected (declareRecord host opener body) := by
  refine (keeps_lift (supplied.endsExpected_recordName opens)).bind fun name _ => ?_
  refine Keeps.bind (isExpected_read fun session =>
    (isExpected_fieldValues host session body wellFormed all).bind fun fields _ =>
      keeps_lift (endsExpected_invalidTy _)) fun value _ => ?_
  simp only
  split
  · exact isExpected_onEnvironment (Environment.isExpected_defineType _ _)
  · exact isExpected_defineVariable _ _ _ _

/-- A command that starts a branch closes nothing. -/
theorem closes_of_branch {command : Command}
    (governs : command.keyword ∈ ["if", "elseif", "else"]) : command.role.closes = false := by
  simp only [List.mem_cons, List.not_mem_nil, or_false] at governs
  rcases governs with first | later
  · rw [Command.role_eq_opensChoice_iff.mpr first]
    rfl
  · rw [Command.role_eq_continuesChoice_iff.mpr later]
    rfl

mutual

/-- An instruction whose blocks are in order ends as expected. -/
theorem isExpected_execute (host : Host) (instruction : Instruction)
    (wellFormed : instruction.WellFormed) (all : Command.AllSupplied instruction.flatten) :
    Update.IsExpected (execute host instruction) := by
  cases instruction with
  | simple command =>
    have plain := Command.role_eq_plain_iff.mpr wellFormed
    have supplied := all.head (by rw [plain]; rfl)
    rw [execute]
    exact isExpected_executeCommand host supplied plain
  | choice branches =>
    rw [execute]
    refine isExpected_executeFirst host branches wellFormed.2 all.left fun branch member => ?_
    exact wellFormed.1.mem (List.mem_map_of_mem member)
  | block opener body =>
    have inner := isExpected_executeAll host body wellFormed.2 all.tail.left
    rw [execute]
    split
    · rename_i keyword
      have role := Command.role_eq_opensLoop_iff.mpr (.inl keyword)
      have supplied := all.head (by rw [role]; rfl)
      exact keeps_whileLoop (keptByOutput_satisfies fun _ => True) trivial (fun session _ =>
        supplied.isExpected_condition (by simp [keyword]) host session) inner
    · split
      · exact keeps_doLoop (keptByOutput_satisfies fun _ => True) trivial (fun session lexeme _ =>
          session.isExpected_count host lexeme) inner
      · rename_i notWhile notDo
        have opens : opener.keyword ∉ blockKeywords ∧ opener.captures.flag "begin" = true := by
          rcases wellFormed.1 with loop | loop | record
          · exact absurd loop notWhile
          · exact absurd loop notDo
          · exact record
        have role := Command.role_eq_opensRecord_iff.mpr opens
        have supplied := all.head (by rw [role]; rfl)
        exact (isExpected_declareRecord host supplied opens.2 wellFormed.2 all.tail.left).bind
          fun _ _ => keeps_pure trivial

/-- Instructions whose blocks are in order end as expected. -/
theorem isExpected_executeAll (host : Host) (program : List Instruction)
    (wellFormed : WellFormedAll program) (all : Command.AllSupplied (flattenAll program)) :
    Update.IsExpected (executeAll host program) := by
  cases program with
  | nil => exact keeps_pure trivial
  | cons instruction rest =>
    rw [executeAll]
    refine (isExpected_execute host instruction wellFormed.1 all.left).bind fun signal _ => ?_
    cases signal with
    | proceed => exact isExpected_executeAll host rest wellFormed.2 all.right
    | leaveLoop => exact keeps_pure trivial
    | nextPass => exact keeps_pure trivial

/-- Branches whose blocks are in order end as expected. -/
theorem isExpected_executeFirst (host : Host) (branches : List (Command × List Instruction))
    (wellFormed : WellFormedBranches branches)
    (all : Command.AllSupplied (flattenBranches branches))
    (governs : ∀ branch ∈ branches, branch.1.keyword ∈ ["if", "elseif", "else"]) :
    Update.IsExpected (executeFirst host branches) := by
  cases branches with
  | nil => exact keeps_pure trivial
  | cons branch rest =>
    obtain ⟨command, body⟩ := branch
    have keyword := governs _ List.mem_cons_self
    have supplied := all.head (closes_of_branch keyword)
    rw [executeFirst]
    refine Keeps.bind (isExpected_read fun session => supplied.isExpected_condition
      (List.mem_append_left ["while"] keyword) host session) fun holds _ => ?_
    cases holds with
    | true => exact isExpected_executeAll host body wellFormed.1 all.tail.left
    | false =>
      exact isExpected_executeFirst host rest wellFormed.2 all.tail.right
        fun other member => governs other (List.mem_cons_of_mem _ member)

end

end Session

end ReportLang
