import ReportLang.Proofs.Environment.Place
import ReportLang.Proofs.Session.Failure

/-!
# Reading and storing through references

A lexeme can be read as an operand and be resolved to a reference, which is a way of its own to the
same place: what is stored or cleared through the reference is read as the operand, other operands
are read as before, and a record around the place changes in this component alone. All of this holds
at any depth.
-/

namespace ReportLang

open Result ReportLang.Action ReportLang.Update

namespace Reference

variable {name : String} {path : List String}

/-- A reference that is made of names has the first one as its variable. -/
theorem root_ofNames : (ofNames name path).root = name := by
  unfold ofNames
  split
  · rfl
  · rfl

/-- A reference that is made of names leads along the later ones. -/
theorem fields_ofNames : (ofNames name path).fields = path := by
  unfold ofNames
  split
  · rename_i none
    exact (List.getLast?_eq_none_iff.mp none).symm
  · rename_i field last
    exact List.dropLast_append_getLast? field last

end Reference

namespace Session

variable {host : Host} {session before after : Session} {lexeme dest : Lexeme}
  {target : Reference}

/-- Resolving a lexeme depends on which variables there are, and on nothing else of the session. -/
theorem reference_eq (session : Session) (lexeme : Lexeme) :
    session.reference lexeme =
      if lexeme.isLiteral || lexeme.isInteger then .error (.literalTarget lexeme)
      else if lexeme.path.1 = Environment.systemName then .error (.systemTarget lexeme)
      else if (session.environment.find? lexeme.path.1).isSome then
        .ok (.ofNames lexeme.path.1 lexeme.path.2)
      else .error (.undefinedVariable lexeme.path.1) := by
  rw [reference]
  split
  · rfl
  · obtain ⟨name, fields⟩ := lexeme.path
    simp only [Environment.get]
    split
    · rfl
    · cases session.environment.find? name with
      | some held => rfl
      | none => rfl

/-- A lexeme resolves to a reference if it is neither a literal nor a number nor a part of the
system record, and there is a variable of its first name. -/
theorem reference_eq_ok_iff :
    session.reference lexeme = .ok target ↔
      lexeme.isLiteral = false ∧ lexeme.isInteger = false ∧
        lexeme.path.1 ≠ Environment.systemName ∧
        (session.environment.find? lexeme.path.1).isSome = true ∧
        target = .ofNames lexeme.path.1 lexeme.path.2 := by
  rw [reference_eq]
  cases lexeme.isLiteral with
  | true => simp
  | false =>
    cases lexeme.isInteger with
    | true => simp
    | false =>
      by_cases system : lexeme.path.1 = Environment.systemName
      · simp [system]
      · cases (session.environment.find? lexeme.path.1).isSome with
        | true => simp [system, eq_comm]
        | false => simp [system]

/-- The variable of a reference has its name in lower case. -/
theorem lower_root_of_reference (resolved : session.reference lexeme = .ok target) :
    Text.lower target.root = target.root := by
  obtain ⟨_, _, _, _, rfl⟩ := reference_eq_ok_iff.mp resolved
  rw [Reference.root_ofNames]
  exact Text.lower_lower _

/-- A lexeme that resolves to a reference is read as the reference is, and the clock is not
asked. -/
theorem operand_eq_get (host : Host) (resolved : session.reference lexeme = .ok target) :
    session.operand host lexeme = liftM (target.get session.environment) := by
  obtain ⟨notLiteral, notInteger, notSystem, declared, rfl⟩ := reference_eq_ok_iff.mp resolved
  obtain ⟨held, found⟩ := Option.isSome_iff_exists.mp declared
  have noQuote : lexeme.quote? = none := by
    simpa [Lexeme.isLiteral] using notLiteral
  rw [Reference.get_eq, Reference.root_ofNames, Reference.fields_ofNames]
  simp only [operand, noQuote, notInteger, namedValue_of_ne notSystem, Bool.false_eq_true, if_false]

/-- What it means for operands that a value is stored in the place of one of them. An operand is
read as `pure value` if it stands for the value and the clock is not asked. -/
structure Wrote (host : Host) (before after : Session) (dest : Lexeme) (target : Reference)
    (new : Value) : Prop where
  /-- Lexemes refer to the same places. -/
  resolves : ∀ lexeme, after.reference lexeme = before.reference lexeme
  /-- The value is read there. -/
  own : after.operand host dest = pure new
  /-- What is neither inside of the place nor around it is read as before, or fails as before. -/
  apart : ∀ lexeme other, before.reference lexeme = .ok other →
    ¬ target.names <+: other.names → ¬ other.names <+: target.names →
    after.operand host lexeme = before.operand host lexeme
  /-- A record around the place is read with this component changed alone. -/
  around : ∀ lexeme other rest, before.reference lexeme = .ok other →
    target.names = other.names ++ rest →
    ∃ old held changed, before.operand host dest = pure old ∧
      before.operand host lexeme = pure held ∧ after.operand host lexeme = pure changed ∧
      Value.ChangedAt old new rest held changed

/-- Where a component of the environment is replaced, operands tell so. -/
theorem wrote_of_stored {old new : Value} {environment : Environment}
    (indexed : session.environment.Indexed) (resolved : session.reference dest = .ok target)
    (stored : target.Stored old new session.environment environment) :
    Wrote host session { session with environment } dest target new := by
  have resolves (lexeme : Lexeme) :
      reference { session with environment } lexeme = session.reference lexeme := by
    rw [reference_eq, reference_eq, stored.isSome_find? indexed]
  have later {lexeme : Lexeme} {other : Reference} (same : session.reference lexeme = .ok other) :
      operand host { session with environment } lexeme = liftM (other.get environment) :=
    operand_eq_get host ((resolves lexeme).trans same)
  refine ⟨resolves, ?_, fun lexeme other same notBelow notAbove => ?_,
    fun lexeme other rest same names => ?_⟩
  · rw [later resolved, stored.get.2]
    rfl
  · rw [later same, operand_eq_get host same, stored.get_apart indexed
      (lower_root_of_reference resolved) (lower_root_of_reference same) notBelow notAbove]
  · obtain ⟨held, changed, reads, rereads, changes⟩ := stored.get_above names
    rw [later same, operand_eq_get host same, operand_eq_get host resolved, stored.get.1, reads,
      rereads]
    exact ⟨old, held, changed, rfl, rfl, rfl, changes⟩

/-- In a well-typed environment whose index is in step, as that of every run is, a lexeme that
resolves to a reference is read as the reference is, or fails in the same way. If a value is stored
in its place, the lexeme is then read as the value converted to the declared type of the place;
after the place is cleared, as the initial value of this type. Other operands are read as before,
and records around the place have changed in this component alone. An environment in which a value
could not be stored, or the place could not be cleared, is left as it was. -/
theorem references_obey_laws (host : Host) (typed : session.environment.WellTyped)
    (indexed : session.environment.Indexed) (resolved : session.reference dest = .ok target) :
    session.operand host dest = liftM (target.get session.environment) ∧
    (∀ value environment, target.set value session.environment = (.ok (), environment) →
      ∃ ty new, target.ty? session.environment = some ty ∧ value.convert ty false = .ok new ∧
        Wrote host session { session with environment } dest target new) ∧
    (∀ environment, target.clear session.environment = (.ok (), environment) →
      ∃ ty, target.ty? session.environment = some ty ∧
        Wrote host session { session with environment } dest target (Value.initial ty)) ∧
    (∀ value failure environment,
      target.set value session.environment = (.error failure, environment) →
      environment = session.environment) ∧
    ∀ failure environment,
      target.clear session.environment = (.error failure, environment) →
      environment = session.environment := by
  refine ⟨operand_eq_get host resolved, fun value environment set => ?_,
    fun environment cleared => ?_, fun value => target.atomic_set value session.environment,
    target.atomic_clear session.environment⟩
  · obtain ⟨old, new, converted, stored⟩ := (Reference.set_eq_ok_iff typed).mp set
    exact ⟨old.ty, new, Reference.ty?_of_get typed stored.get.1, converted,
      wrote_of_stored indexed resolved stored⟩
  · obtain ⟨old, new, made, stored⟩ := (Reference.clear_eq_ok_iff typed).mp cleared
    obtain rfl := Value.eq_initial_of_makeInitial made
    exact ⟨old.ty, Reference.ty?_of_get typed stored.get.1, wrote_of_stored indexed resolved stored⟩

/-- A text is stored in a field of a record inside of another record. It is read there with the type
of the field, and the other field of the outer record is read as before, in either case. A text that
is too long for the field is refused, and the environment is left as it was. -/
theorem references_obey_laws_nested :
    let host := Host.standard fun asked => ⟨2024, 2, 29, 12, 0, asked⟩
    let ty : Ty := .record [("a", .integer), ("b", .record [("c", .character 3)])]
    let session : Session :=
      { Session.start 40 20 with
        environment := ⟨[⟨"r", ty, Value.initial ty, false⟩], [("r", 0)], []⟩ }
    let target : Reference := .part "r" ["b"] "c"
    (∃ environment,
      target.set (.ofCharacters "xy") session.environment = (.ok (), environment) ∧
      operand host { session with environment } "r-b-c" = pure (.text (.character 3) "xy") ∧
      operand host { session with environment } "R-A" = session.operand host "R-A") ∧
    ∃ failure environment,
      target.set (.ofCharacters "wxyz") session.environment = (.error failure, environment) ∧
      environment = session.environment := by
  intro host ty session target
  have valid : ty.Valid := by
    refine ⟨by decide, rfl, ⟨by decide, ⟨3, rfl, by decide⟩, trivial⟩, trivial⟩
  have typed : session.environment.WellTyped := by
    refine ⟨fun held member => ?_, by simp [session]⟩
    obtain rfl := List.mem_singleton.mp member
    exact ⟨valid, Value.fits_initial ty valid⟩
  let held : Variable := ⟨"r", ty, Value.initial ty, false⟩
  have lower : Text.lower held.name = held.name := by decide
  have indexed : session.environment.Indexed := Environment.indexed_empty.define lower
  have resolved : session.reference "r-b-c" = .ok target := eq_ok_of_toOption (by decide)
  have other : session.reference "R-A" = .ok (.part "r" [] "a") :=
    eq_ok_of_toOption (by decide)
  have listed : target.ty? session.environment = some (.character 3) := by decide
  obtain ⟨_, writes, _, refuses, _⟩ := references_obey_laws host typed indexed resolved
  constructor
  · obtain ⟨environment, set⟩ : ∃ environment,
        target.set (.ofCharacters "xy") session.environment = (.ok (), environment) := ⟨_, rfl⟩
    obtain ⟨ty, new, declared, converted, wrote⟩ := writes _ environment set
    obtain rfl : Ty.character 3 = ty := Option.some.inj (listed.symm.trans declared)
    obtain rfl : Value.text (.character 3) "xy" = new := Except.ok.inj converted
    exact ⟨environment, set, wrote.own, wrote.apart _ _ other (by decide) (by decide)⟩
  · obtain ⟨failure, environment, refused⟩ : ∃ failure environment,
        target.set (.ofCharacters "wxyz") session.environment = (.error failure, environment) :=
      ⟨_, _, rfl⟩
    exact ⟨failure, environment, refused, refuses _ failure environment refused⟩

end Session

end ReportLang
