import ReportLang.Proofs.Session.TypedValues

/-!
# Runs keep variables well-typed

Every action of a run keeps the environment well-typed, whether it succeeds or fails: the values it
stores come from well-typed operands, calculations and initial values, and are converted to the type
of their place. By induction over instructions and over the steps of a run, every session that can
be reached has a well-typed environment.
-/

namespace ReportLang

open Result ReportLang.Action ReportLang.Update

/-- Whether an action keeps the environment well-typed and ends with one of the given results if it
succeeds. -/
abbrev Action.KeepsTypes {α : Type} (value : α → Prop) (action : Action α) : Prop :=
  action.Keeps (Session.Satisfies Environment.WellTyped) (fun _ => True) value

namespace Session

variable {host : Host}

/-- A step that does not look at the session keeps types. -/
theorem keepsTypes_lift {α : Type} (step : Except RunError α) :
    KeepsTypes (fun _ => True) (liftM step : Action α) :=
  keeps_lift (Result.yields_any step)

/-- A computation from the session whose results are among given ones keeps types. -/
theorem keepsTypes_read {α : Type} {value : α → Prop} {compute : Session → Reading α}
    (ends : ∀ session : Session, session.environment.WellTyped →
      Update.Yields value (compute session)) : KeepsTypes value (Action.read compute) :=
  keeps_read (fun _ _ typed => typed) ends

/-- A computation without the clock of which nothing matters keeps types. -/
theorem keepsTypes_look {α : Type} (compute : Session → Except RunError α) :
    KeepsTypes (fun _ => True) (look compute) :=
  keeps_look fun session _ => Result.yields_any (compute session)

/-- A change of the environment that keeps it well-typed. -/
theorem keepsTypes_onEnvironment {α : Type} {change : Update Environment α}
    (changed : ∀ environment : Environment, environment.WellTyped →
      (change environment).2.WellTyped) :
    KeepsTypes (fun _ => True) (onEnvironment change) :=
  keeps_onEnvironment fun session typed =>
    ⟨changed session.environment typed, Result.yields_any _⟩

/-- Reading what a lexeme stands for yields a well-typed value. -/
theorem keepsTypes_operand (civil : host.IsCivil) (lexeme : Lexeme) :
    KeepsTypes Value.WellTyped (Action.read (·.operand host lexeme)) :=
  keepsTypes_read fun _ typed => yields_operand civil typed lexeme

/-- Storing a well-typed value keeps types. -/
theorem keepsTypes_assign (dest : Lexeme) {value : Value} (wellTyped : value.WellTyped) :
    KeepsTypes (fun _ => True) (assign dest value) := by
  refine (keepsTypes_look (·.reference dest)).bind fun target _ => ?_
  exact keepsTypes_onEnvironment fun _ typed => Reference.wellTyped_set typed wellTyped target

/-- Storing the value of a lexeme keeps types. -/
theorem keepsTypes_move (civil : host.IsCivil) (captures : Captures) :
    KeepsTypes (fun _ => True) (move host captures) := by
  refine (keepsTypes_lift (captures.required "source")).bind fun source _ => ?_
  refine (keepsTypes_operand civil source).bind fun value wellTyped => ?_
  refine (keepsTypes_lift (captures.required "dest")).bind fun dest _ => ?_
  exact keepsTypes_assign dest wellTyped

/-- The result of a calculation is well-typed, with the type of the left operand. -/
theorem yields_calculate {left : Value} (wellTyped : left.WellTyped) (operation : Operation)
    (right : Value) :
    Result.Yields Value.WellTyped ((left.calculate operation right).mapError RunError.value) := by
  refine Yields.mapError (yields_of_ok fun stored calculated => ?_)
  exact (Value.fits_calculate calculated).wellTyped wellTyped.valid

/-- The value of an expression is well-typed. -/
theorem yields_computed (civil : host.IsCivil) {session : Session}
    (typed : session.environment.WellTyped) (captures : Captures) :
    Update.Yields Value.WellTyped (session.computed host captures) := by
  refine (keeps_lift (Result.yields_any (captures.required "source"))).bind fun source _ => ?_
  refine (yields_operand civil typed source).bind fun value wellTyped => ?_
  split
  · exact keeps_pure wellTyped
  · split
    · exact keeps_throw trivial
    · refine (keeps_lift (Result.yields_any (captures.required "operand"))).bind fun other _ => ?_
      refine (yields_operand civil typed other).bind fun second _ => ?_
      exact keeps_lift (yields_calculate wellTyped _ second)

/-- Storing the value of an expression keeps types. -/
theorem keepsTypes_compute (civil : host.IsCivil) (captures : Captures) :
    KeepsTypes (fun _ => True) (compute host captures) := by
  refine (keepsTypes_read fun _ typed => yields_computed civil typed captures).bind
    fun value wellTyped => ?_
  refine (keepsTypes_lift (captures.required "dest")).bind fun dest _ => ?_
  exact keepsTypes_assign dest wellTyped

/-- Changing a number by another one keeps types. -/
theorem keepsTypes_changeBy (civil : host.IsCivil) (operation : Operation) (captures : Captures) :
    KeepsTypes (fun _ => True) (changeBy host operation captures) := by
  refine (keepsTypes_lift (captures.required "source")).bind fun source _ => ?_
  refine (keepsTypes_operand civil source).bind fun value _ => ?_
  refine (keepsTypes_lift (captures.required "dest")).bind fun dest _ => ?_
  refine (keepsTypes_look (·.reference dest)).bind fun target _ => ?_
  refine Keeps.bind (keeps_look fun _ typed => Reference.yields_get typed target)
    fun current wellTyped => ?_
  refine (keeps_lift (yields_calculate wellTyped operation value)).bind fun result fits => ?_
  exact keepsTypes_onEnvironment fun _ typed => Reference.wellTyped_set typed fits target

/-- Clearing places keeps types. -/
theorem keepsTypes_clearAll (targets : List Captures) :
    KeepsTypes (fun _ => True) (clearAll targets) := by
  induction targets with
  | nil => exact keeps_pure trivial
  | cons captures rest ih =>
    have first : KeepsTypes (fun _ => True) (clearOne captures) := by
      refine (keepsTypes_lift (captures.required "dest")).bind fun dest _ => ?_
      refine (keepsTypes_look (·.reference dest)).bind fun target _ => ?_
      exact keepsTypes_onEnvironment fun _ typed => Reference.wellTyped_clear typed target
    exact first.bind fun _ _ => ih

/-- A test that a condition holds keeps types. -/
theorem keepsTypes_assert (captures : Captures) :
    KeepsTypes (fun _ => True) (assert host captures) := by
  refine (keepsTypes_read fun session _ => Update.yields_any (session.condition host captures)).bind
    fun holds _ => ?_
  cases holds with
  | true => exact keeps_pure trivial
  | false => exact keeps_throw trivial

/-- Adding a variable of a type that obeys the rules keeps types. -/
theorem keepsTypes_defineVariable (declared : Declared) (name : String) {ty : Ty}
    {value : Option Value} (valid : ty.Valid)
    (typed : ∀ given, value = some given → given.WellTyped) :
    KeepsTypes (fun _ => True) (defineVariable declared name ty value) := by
  refine (keeps_lift (Variable.yields_declare name _ valid typed)).bind fun held added => ?_
  exact keepsTypes_onEnvironment fun _ before => before.define added

/-- A declaration keeps types. -/
theorem keepsTypes_declare (civil : host.IsCivil) (declared : Declared) (captures : Captures) :
    KeepsTypes (fun _ => True) (declare host declared captures) := by
  refine (keepsTypes_read fun _ typed => yields_declaration civil typed captures).bind
    fun found named => ?_
  obtain ⟨name, ty⟩ := found
  simp only
  split
  · exact keepsTypes_onEnvironment fun _ typed => typed.defineType named.2 name
  · refine (keepsTypes_read fun _ typed => yields_declaredValue civil typed captures).bind
      fun value given => ?_
    exact keepsTypes_defineVariable declared name named.2 given

/-- A declaration of a record keeps types. -/
theorem keepsTypes_declareRecord (civil : host.IsCivil) (opener : Command)
    (body : List Instruction) : KeepsTypes (fun _ => True) (declareRecord host opener body) := by
  refine (keepsTypes_lift (recordName opener.captures)).bind fun name _ => ?_
  have record (session : Session) (typed : session.environment.WellTyped) :
      Update.Yields Value.WellTyped (session.recordValue host body) :=
    (yields_fieldValues civil typed body).bind fun _ all => keeps_lift (yields_recordOf all)
  refine (keepsTypes_read record).bind fun value wellTyped => ?_
  simp only
  split
  · exact keepsTypes_onEnvironment fun _ typed => typed.defineType wellTyped.valid name
  · refine keepsTypes_defineVariable _ name wellTyped.valid fun given same => ?_
    rwa [← Option.some.inj same]

/-- A command that governs no block keeps types. -/
theorem keepsTypes_executeCommand (civil : host.IsCivil) (command : Command) :
    KeepsTypes (fun _ => True) (executeCommand host command) := by
  have proceeds {action : Action Unit} (keeps : KeepsTypes (fun _ => True) action) :
      KeepsTypes (fun _ => True) (do action; return Signal.proceed) :=
    keeps.bind fun _ _ => keeps_pure trivial
  have output := keptByWriting_satisfies Environment.WellTyped
  unfold executeCommand
  split
  · exact proceeds (keeps_giveTitle output trivial (fun _ => trivial) (Result.yields_any _)
      fun _ _ _ => Update.yields_any _)
  · exact proceeds (keepsTypes_declare civil .plain _)
  · exact proceeds (keepsTypes_declare civil .constant _)
  · exact proceeds (keepsTypes_declare civil .type _)
  · exact proceeds (keepsTypes_move civil _)
  · exact proceeds (keepsTypes_compute civil _)
  · exact proceeds (keepsTypes_changeBy civil .add _)
  · exact proceeds (keepsTypes_changeBy civil .subtract _)
  · exact proceeds (keepsTypes_changeBy civil .multiply _)
  · exact proceeds (keepsTypes_changeBy civil .divide _)
  · exact proceeds (keepsTypes_clearAll _)
  · exact proceeds (keeps_write output (fun _ => trivial) fun _ _ _ => Update.yields_any _)
  · exact proceeds (keeps_onScreen fun _ typed => typed)
  · exact proceeds (keeps_onScreen fun _ typed => typed)
  · exact proceeds (keeps_skip output trivial (fun _ => trivial)
      fun _ _ _ => Update.yields_any _)
  · exact keeps_pure trivial
  · exact keeps_pure trivial
  · exact proceeds (keepsTypes_assert _)
  · exact keeps_throw trivial

mutual

/-- An instruction keeps types. -/
theorem keepsTypes_execute (civil : host.IsCivil) :
    (instruction : Instruction) → KeepsTypes (fun _ => True) (execute host instruction)
  | .simple command => by
    rw [execute]
    exact keepsTypes_executeCommand civil command
  | .choice branches => by
    rw [execute]
    exact keepsTypes_executeFirst civil branches
  | .block opener body => by
    have inner := keepsTypes_executeAll civil body
    rw [execute]
    split
    · exact keeps_whileLoop (keptByOutput_satisfies _) trivial (fun _ _ => Update.yields_any _)
        inner
    · split
      · exact keeps_doLoop (keptByOutput_satisfies _) trivial
          (fun _ _ _ => Update.yields_any _) inner
      · exact (keepsTypes_declareRecord civil opener body).bind fun _ _ => keeps_pure trivial

/-- Instructions in order keep types. -/
theorem keepsTypes_executeAll (civil : host.IsCivil) :
    (program : List Instruction) → KeepsTypes (fun _ => True) (executeAll host program)
  | [] => by
    rw [executeAll]
    exact keeps_pure trivial
  | instruction :: rest => by
    rw [executeAll]
    refine (keepsTypes_execute civil instruction).bind fun signal _ => ?_
    cases signal with
    | proceed => exact keepsTypes_executeAll civil rest
    | leaveLoop => exact keeps_pure trivial
    | nextPass => exact keeps_pure trivial

/-- The first branch whose condition holds keeps types. -/
theorem keepsTypes_executeFirst (civil : host.IsCivil) :
    (branches : List (Command × List Instruction)) →
      KeepsTypes (fun _ => True) (executeFirst host branches)
  | [] => by
    rw [executeFirst]
    exact keeps_pure trivial
  | (command, body) :: rest => by
    rw [executeFirst]
    refine (keepsTypes_read fun session _ =>
      Update.yields_any (session.condition host command.captures)).bind fun holds _ => ?_
    cases holds with
    | true => exact keepsTypes_executeAll civil body
    | false => exact keepsTypes_executeFirst civil rest

end

/-- The sessions that a run can reach by executing instructions, each on a host of its own and
whether it succeeds or fails. -/
inductive Reachable : Session → Prop where
  /-- A session in which nothing has happened. -/
  | start (width height : Nat) : Reachable (start width height)
  /-- The session that an instruction leaves behind. -/
  | step {session : Session} {host : Host} (reached : Reachable session) (civil : host.IsCivil)
    (instruction : Instruction) : Reachable (execute host instruction session).2

/-- Every session that can be reached has a well-typed environment. -/
theorem Reachable.wellTyped {session : Session} (reached : session.Reachable) :
    session.environment.WellTyped := by
  induction reached with
  | start width height => exact Environment.wellTyped_empty
  | @step session host _ civil instruction ih =>
    exact (keepsTypes_execute civil instruction session ih).1

/-- In every session that can be reached, each variable holds a value of the type it was declared
with; the type obeys the rules for lengths and fields, and the value fits it at every depth. -/
theorem Reachable.variable_fits {session : Session} (reached : session.Reachable) :
    ∀ held ∈ session.environment.bindings,
      held.value.ty = held.ty ∧ held.ty.Valid ∧ held.value.Fits held.ty := by
  intro held member
  obtain ⟨valid, fits⟩ := reached.wellTyped.bindings held member
  exact ⟨fits.ty_eq, valid, fits⟩

/-- A record with a text of three characters and a number keeps what was stored in it when a longer
text is refused. -/
theorem Reachable.variable_fits_refused :
    ∃ session : Session, session.Reachable ∧
      session.environment.bindings.map (fun held => (held.name, held.value.asText)) =
        [("item", "abc 0")] ∧
      ∀ held ∈ session.environment.bindings,
        held.value.ty = held.ty ∧ held.ty.Valid ∧ held.value.Fits held.ty := by
  have civil : (Host.standard fun asked => ⟨2024, 2, 29, 12, 0, asked % 60⟩).IsCivil := by
    refine Host.isCivil_standard fun asked =>
      ⟨⟨by simp, by simp⟩, by simp, by simp, by simp, by simp, ?_⟩
    show asked % 60 ≤ 60
    omega
  have declared := (Reachable.start 40 20).step civil
    (.block ⟨"data", [("begin", .flag true), ("struc", .single "item")]⟩
      [.simple ⟨"data", [("length", .single "3"), ("name", .single "code"), ("type", .single "c")]⟩,
        .simple ⟨"data", [("name", .single "price(5)"), ("type", .single "p")]⟩])
  have stored := declared.step civil
    (.simple ⟨"move", [("dest", .single "item-code"), ("source", .single "'abc")]⟩)
  have refused := stored.step civil
    (.simple ⟨"move", [("dest", .single "item-code"), ("source", .single "'abcd")]⟩)
  exact ⟨_, refused, by decide +kernel, refused.variable_fits⟩

end Session

end ReportLang
