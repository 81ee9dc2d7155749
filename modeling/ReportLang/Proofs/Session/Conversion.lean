import ReportLang.Proofs.Session.Display
import ReportLang.Proofs.Session.FixedNumber
import ReportLang.Proofs.Session.Path
import ReportLang.Proofs.Session.References
import ReportLang.Proofs.Session.TypedValues
import ReportLang.Proofs.Value.Conversion

/-!
# Conversion never alters contents

What values keep when they are converted, and what this means for two instructions: a value that is
stored where it comes from changes nothing, and a variable that is declared with the type and the
value of an operand equals the operand, for records as well. Such a declaration reads the operand
twice: of a part of the system record, for which the clock is asked again, the value that is read
second counts.
-/

namespace ReportLang

open ReportLang.Action ReportLang.Update

/-- A component that is replaced by itself changes nothing. -/
theorem Value.ChangedAt.eq_self {value held changed : Value} {path : List String}
    (changes : ChangedAt value value path held changed) : changed = held := by
  induction path generalizing held changed with
  | nil =>
    cases changes with
    | here => rfl
  | cons name path ih =>
    cases changes with
    | inside first inner => rw [ih inner]

/-- A place in which the value is stored that it holds already changes nothing. -/
theorem Reference.Stored.eq_self {target : Reference} {value : Value} {before after : Environment}
    (stored : target.Stored value value before after) : after = before := by
  cases stored with
  | @intro position held changed indexed here writable changes =>
    obtain ⟨inside, found⟩ := List.getElem?_eq_some_iff.mp here
    have same : before.bindings.set position held = before.bindings := by
      rw [← found]
      exact List.set_getElem_self inside
    rw [changes.eq_self, same]

namespace Environment

variable {before after : Environment} {name : String} {held other : Variable}

/-- A variable that is added is found under its name. -/
theorem find?_of_define (lower : Text.lower name = held.name)
    (defined : define held before = (.ok (), after)) : after.find? name = some held := by
  obtain ⟨_, free, rfl⟩ := define_eq_ok_iff.mp defined
  refine find?_eq_some_iff.mpr ⟨before.bindings.length, ?_, List.getElem?_concat_length⟩
  simp [position?, List.lookup_append, lower, free]

/-- All other variables are found as before. -/
theorem find?_define_of_eq_some (defined : define held before = (.ok (), after))
    (found : before.find? name = some other) : after.find? name = some other := by
  obtain ⟨_, _, rfl⟩ := define_eq_ok_iff.mp defined
  obtain ⟨position, indexed, here⟩ := find?_eq_some_iff.mp found
  have inside : position < before.bindings.length := (List.getElem?_eq_some_iff.mp here).1
  refine find?_eq_some_iff.mpr ⟨position, lookup_append_of_eq_some indexed _, ?_⟩
  show (before.bindings ++ [held])[position]? = some other
  rwa [List.getElem?_append_left inside]

end Environment

namespace Session

variable {host : Host} {session : Session} {name source place : Lexeme} {value : Value}
  {captures : Captures} {target : Reference} {environment : Environment}

section Storing

/-- An elementary value that is stored where it is read changes nothing. -/
theorem assign_self (typed : session.environment.WellTyped)
    (resolved : session.reference place = .ok target)
    (writable : ∀ held, session.environment.find? target.root = some held →
      held.isConstant = false)
    (read : session.operand host place = pure value) (elementary : value.isRecord = false) :
    assign place value session = (.ok (), session) := by
  have reads : target.get session.environment = .ok value := by
    rw [operand_eq_get host resolved] at read
    exact lift_eq_pure.mp read
  have wellTyped : value.WellTyped := (Reference.yields_get typed target).ok value reads
  have converted := Value.convert_own_of_elementary wellTyped elementary false
  obtain ⟨held, found, _⟩ := Result.bind_eq_ok.mp (Reference.get_eq _ target ▸ reads)
  have listed := Environment.get_eq_ok_iff.mp found
  obtain ⟨environment, set⟩ := (Reference.exists_set_iff typed).mpr
    ⟨held, value, value, listed, writable held listed, reads, converted⟩
  obtain ⟨old, new, converts, stored⟩ := (Reference.set_eq_ok_iff typed).mp set
  obtain rfl : old = value := Except.ok.inj (stored.get.1.symm.trans reads)
  obtain rfl : new = old := Except.ok.inj (converts.symm.trans converted)
  obtain rfl := stored.eq_self
  refine bind_eq_ok.mpr ⟨target, session, look_eq_ok.mpr ⟨resolved, rfl⟩, ?_⟩
  exact onEnvironment_eq_ok.mpr ⟨_, set, rfl⟩

/-- An elementary value that is moved to its own place changes nothing, however the place is
written. -/
theorem execute_move_self (typed : session.environment.WellTyped)
    (taken : captures.single? "source" = some source)
    (stored : captures.single? "dest" = some place)
    (origin : session.reference source = .ok target)
    (resolved : session.reference place = .ok target)
    (writable : ∀ held, session.environment.find? target.root = some held →
      held.isConstant = false)
    (read : session.operand host source = pure value) (elementary : value.isRecord = false) :
    execute host (.simple ⟨"move", captures⟩) session = (.ok .proceed, session) := by
  have here : session.operand host place = pure value := by
    rw [operand_eq_get host resolved, ← operand_eq_get host origin, read]
  have assigned := assign_self typed resolved writable here elementary
  have moved : move host captures session = (.ok (), session) := by
    refine bind_eq_ok.mpr ⟨source, session, lift_eq_ok.mpr ⟨?_, rfl⟩, ?_⟩
    · exact Captures.required_eq_ok.mpr taken
    · have taken : session.operand host source session.asked = (.ok value, session.asked) :=
        congrFun read _
      refine bind_eq_ok.mpr ⟨value, session, read_eq_ok.mpr ⟨_, taken, rfl⟩, ?_⟩
      refine bind_eq_ok.mpr ⟨place, session, lift_eq_ok.mpr ⟨?_, rfl⟩, assigned⟩
      exact Captures.required_eq_ok.mpr stored
  exact bind_eq_ok.mpr ⟨(), session, moved, rfl⟩

end Storing

section Declaring

/-- What `DATA b LIKE a VALUE a` captures. -/
structure IsLikeItself (captures : Captures) (name source : Lexeme) : Prop where
  /-- The name is that of the new variable. -/
  name : captures.single? "name" = some name
  /-- The type is that of the source. -/
  like : captures.single? "like" = some source
  /-- The value is that of the source. -/
  value : captures.single? "value" = some source
  /-- No type is written. -/
  type : captures.single? "type" = none
  /-- No length is written. -/
  length : captures.single? "length" = none

/-- What a lexeme stands for is found without the clock, or it is a part of the system record, for
which the clock is asked. -/
theorem operand_cases (host : Host) (session : Session) (lexeme : Lexeme) :
    (∃ found : Except RunError Value, session.operand host lexeme = liftM found) ∨
      lexeme.path.1 = Environment.systemName ∧ session.operand host lexeme =
        session.system host >>= fun root =>
          liftM ((root.fieldAt lexeme.path.2).mapError RunError.value) := by
  unfold operand
  split
  · exact .inl ⟨.ok _, rfl⟩
  · split
    · split
      · exact .inl ⟨.ok _, rfl⟩
      · exact .inl ⟨.error _, rfl⟩
    · by_cases system : lexeme.path.1 = Environment.systemName
      · refine .inr ⟨system, ?_⟩
        simp only [namedValue, if_pos system]
      · exact .inl ⟨_, namedValue_of_ne system host session⟩

/-- An operand that is read once more is there again, with the same type. Outside of the system
record it has the same value. -/
theorem operand_again (civil : host.IsCivil) {asked between : Nat} {first : Value}
    (read : session.operand host source asked = (.ok first, between)) :
    ∃ value after, session.operand host source between = (.ok value, after) ∧
      value.ty = first.ty ∧ (source.path.1 ≠ Environment.systemName → value = first) := by
  rcases operand_cases host session source with ⟨found, same⟩ | ⟨system, same⟩
  · rw [same] at read ⊢
    obtain ⟨rfl, _⟩ := lift_eq_ok.mp read
    exact ⟨first, between, rfl, rfl, fun _ => rfl⟩
  · have typed (now : Nat) : (session.systemAt host (host.clock now)).WellTyped :=
      (yields_system civil session now trivial).2.ok _ rfl
    have answered (now : Nat) : session.system host now =
        (.ok (session.systemAt host (host.clock now)), now + 1) := rfl
    rw [same, bind_apply, answered] at read
    obtain ⟨found, rfl⟩ := lift_eq_ok.mp read
    have reads := Result.mapError_eq_ok.mp found
    have listed : (session.systemAt host (host.clock (asked + 1))).ty.fieldAt? source.path.2 =
        some first.ty := (typed asked).fieldAt?_ty reads
    obtain ⟨value, later⟩ := (typed (asked + 1)).exists_fieldAt listed
    have own := (typed (asked + 1)).fieldAt?_ty later
    refine ⟨value, asked + 1 + 1, ?_, Option.some.inj (own.symm.trans listed),
      fun other => absurd system other⟩
    rw [same, bind_apply, answered]
    exact lift_eq_ok.mpr ⟨Result.mapError_eq_ok.mpr later, rfl⟩

/-- A declaration like an operand gives its type. -/
theorem declaration_like (shape : IsLikeItself captures name source)
    (plain : '(' ∉ (Text.lower name).toList) {asked between : Nat}
    (read : session.operand host source asked = (.ok value, between)) :
    session.declaration host captures asked = (.ok (Text.lower name, value.ty), between) := by
  have named := Captures.required_eq_ok.mpr shape.name
  have alone : nameAndLength (Text.lower name) = .ok (Text.lower name, none) := by
    simp only [nameAndLength, Text.splitFirst?_eq_none_of_not_mem plain]
    rfl
  have sized : declaredLength captures none = .ok none := by
    simp only [declaredLength, shape.length]
  have typed : session.declaredType host captures none asked = (.ok value.ty, between) := by
    simp only [declaredType, shape.type, shape.like]
    exact bind_eq_ok.mpr ⟨value, between, read, rfl⟩
  refine bind_eq_ok.mpr ⟨name, asked, lift_eq_ok.mpr ⟨named, rfl⟩, ?_⟩
  refine bind_eq_ok.mpr ⟨_, asked, lift_eq_ok.mpr ⟨alone, rfl⟩, ?_⟩
  refine bind_eq_ok.mpr ⟨_, asked, lift_eq_ok.mpr ⟨sized, rfl⟩, ?_⟩
  exact bind_eq_ok.mpr ⟨value.ty, between, typed, rfl⟩

/-- A variable that is declared like an operand with its value holds this value. -/
theorem declare_like (shape : IsLikeItself captures name source)
    (plain : '(' ∉ (Text.lower name).toList) {first : Value} {between after : Nat}
    (read : session.operand host source session.asked = (.ok first, between))
    (again : session.operand host source between = (.ok value, after))
    (same : value.ty = first.ty) (wellTyped : value.WellTyped)
    (defined : Environment.define ⟨Text.lower name, value.ty, value, false⟩ session.environment =
      (.ok (), environment)) :
    execute host (.simple ⟨"data", captures⟩) session =
      (.ok .proceed, { session with environment, asked := after }) := by
  have declared := declaration_like shape plain read
  rw [← same] at declared
  have given : session.declaredValue host captures between = (.ok (some value), after) := by
    simp only [declaredValue, shape.value]
    exact bind_eq_ok.mpr ⟨value, after, again, rfl⟩
  have converted := Value.convert_of_fits wellTyped.fits
  have held : Variable.declare (Text.lower name) value.ty (some value) false =
      .ok ⟨Text.lower name, value.ty, value, false⟩ := by
    refine Result.bind_eq_ok.mpr ⟨value, Result.mapError_eq_ok.mpr converted, ?_⟩
    rw [Text.lower_lower]
    rfl
  have added : defineVariable .plain (Text.lower name) value.ty (some value)
      { session with asked := after } =
        (.ok (), { session with environment, asked := after }) := by
    refine bind_eq_ok.mpr ⟨_, _, lift_eq_ok.mpr ⟨held, rfl⟩, ?_⟩
    exact onEnvironment_eq_ok.mpr ⟨_, defined, rfl⟩
  have done : declare host .plain captures session =
      (.ok (), { session with environment, asked := after }) := by
    refine bind_eq_ok.mpr ⟨_, _, read_eq_ok.mpr ⟨between, declared, rfl⟩, ?_⟩
    exact bind_eq_ok.mpr ⟨_, _, read_eq_ok.mpr ⟨after, given, rfl⟩, added⟩
  exact bind_eq_ok.mpr ⟨(), _, done, rfl⟩

/-- Operands outside of the system record that can be read are read as before where more variables
are found. -/
theorem operand_of_find? (kept : ∀ name held, session.environment.find? name = some held →
      environment.find? name = some held) (other : source.path.1 ≠ Environment.systemName)
    {asked between : Nat} (read : session.operand host source asked = (.ok value, between))
    (later : Nat) :
    operand host { session with environment, asked := later } source = pure value := by
  unfold operand at read ⊢
  split
  · rename_i quote literal
    simp only [literal] at read
    exact congrArg pure (Except.ok.inj (Prod.mk.inj read).1)
  · rename_i plain
    simp only [plain] at read
    split
    · rename_i whole
      rw [if_pos whole] at read
      split
      · rename_i n spelt
        simp only [spelt] at read
        exact congrArg pure (Except.ok.inj (Prod.mk.inj read).1)
      · rename_i unspelt
        simp only [unspelt] at read
        cases (Prod.mk.inj read).1
    · rename_i word
      rw [if_neg word, namedValue_of_ne other] at read
      rw [namedValue_of_ne other]
      obtain ⟨found, _⟩ := lift_eq_ok.mp read
      obtain ⟨held, got, reached⟩ := Result.bind_eq_ok.mp found
      have there := kept _ held (Environment.get_eq_ok_iff.mp got)
      exact lift_eq_pure.mpr
        (Result.bind_eq_ok.mpr ⟨held, Environment.get_eq_ok_iff.mpr there, reached⟩)

/-- A lexeme without a hyphen is the name of a variable. -/
theorem path_of_not_mem (plain : fieldMark ∉ name.toList) : name.path = (Text.lower name, []) := by
  have whole := Text.splitParts_append plain []
  rw [List.append_nil] at whole
  simp [Lexeme.path, whole, Text.splitParts]

end Declaring

/-- What conversions keep, of values alone and in a session. -/
structure KeepsContents (host : Host) (session : Session) : Prop where
  /-- After a chain of conversions in which no floating-point number is involved, the value has the
  last type and the payload it had at first. -/
  chain : ∀ (types : List Ty) (value result : Value) (allowRecords : Bool), value.FloatFree →
    (∀ ty ∈ types, ty.shape ≠ .elementary .float) →
    types.foldlM (fun held ty => held.convert ty allowRecords) value = .ok result →
    result = value.withTy (types.getLast?.getD value.ty)
  /-- If the last type is the one it had at first, the value is the same. -/
  round_trip : ∀ (types : List Ty) (value result : Value) (allowRecords : Bool), value.FloatFree →
    (∀ ty ∈ types, ty.shape ≠ .elementary .float) → types.getLast? = some value.ty →
    types.foldlM (fun held ty => held.convert ty allowRecords) value = .ok result → result = value
  /-- Every value is converted to its own type as it is. -/
  own : ∀ value : Value, value.WellTyped → value.convert value.ty true = .ok value
  /-- For an elementary value, records need not be allowed. -/
  own_elementary : ∀ (value : Value) (allowRecords : Bool), value.WellTyped →
    value.isRecord = false → value.convert value.ty allowRecords = .ok value
  /-- A conversion to a record type fails exactly if records are not allowed or the type is
  another one. -/
  record_error : ∀ (fields : List (String × Ty)) (value : Value) (allowRecords : Bool),
    (∃ failure, value.convert (.record fields) allowRecords = .error failure) ↔
      allowRecords = false ∨ value.ty ≠ .record fields
  /-- A conversion to an elementary type fails exactly if the value is longer than the type admits,
  or the types are neither both numbers, nor both texts, nor the same apart from the length. -/
  elementary_error : ∀ (base : Base) (length : Option Nat) (value : Value) (allowRecords : Bool),
    value.FloatFree →
    ((∃ failure, value.convert (.elementary base length) allowRecords = .error failure) ↔
      (∃ limit, length = some limit ∧ limit < value.length) ∨ ¬ Value.SameKind base value.ty)
  /-- A floating-point number can also have no whole number in range next to it. -/
  float_error : ∀ (base : Base) (length : Option Nat) (value : Value) (allowRecords : Bool),
    (∃ failure, value.convert (.elementary base length) allowRecords = .error failure) ↔
      (∃ limit, length = some limit ∧ limit < value.length) ∨ ¬ Value.SameKind base value.ty ∨
        value.IsOutOfRange base
  /-- An elementary value of a variable that is no constant, or of a field of one, can be moved to
  its own place, in either case of letters, and nothing changes. -/
  move : ∀ (captures : Captures) (source dest : Lexeme) (target : Reference) (value : Value),
    captures.single? "source" = some source → captures.single? "dest" = some dest →
    session.reference source = .ok target → session.reference dest = .ok target →
    (∀ held, session.environment.find? target.root = some held → held.isConstant = false) →
    session.operand host source = pure value → value.isRecord = false →
    execute host (.simple ⟨"move", captures⟩) session = (.ok .proceed, session)
  /-- A variable of a new name can be declared with the type and the value of an operand. It holds
  the value that is read of the operand once its type is, which is the same one outside of the
  system record, and both are read so. -/
  like : ∀ (captures : Captures) (name source : Lexeme) (first : Value) (between : Nat),
    IsLikeItself captures name source → '(' ∉ (Text.lower name).toList →
    Text.lower name ≠ Environment.systemName → session.environment.position? name = none →
    session.operand host source session.asked = (.ok first, between) →
    ∃ value after environment,
      session.operand host source between = (.ok value, after) ∧ value.ty = first.ty ∧
      execute host (.simple ⟨"data", captures⟩) session =
        (.ok .proceed, { session with environment, asked := after }) ∧
      environment.find? name = some ⟨Text.lower name, value.ty, value, false⟩ ∧
      (source.path.1 ≠ Environment.systemName → value = first ∧
        operand host { session with environment, asked := after } source = pure value) ∧
      (name.isLiteral = false → name.isInteger = false → fieldMark ∉ name.toList →
        operand host { session with environment, asked := after } name = pure value)

/-- Conversions never alter the contents of values, in any session whose environment is well-typed,
as that of every run is. -/
theorem conversion_keeps_contents (civil : host.IsCivil) (typed : session.environment.WellTyped) :
    KeepsContents host session where
  chain _ _ _ _ free whole converted := free.foldlM_convert whole converted
  round_trip types value result allowRecords free whole last converted := by
    have kept := free.foldlM_convert whole converted
    rwa [last, Option.getD_some, Value.withTy_ty] at kept
  own _ wellTyped := Value.convert_of_fits wellTyped.fits
  own_elementary _ allowRecords wellTyped elementary :=
    Value.convert_own_of_elementary wellTyped elementary allowRecords
  record_error _ _ _ := Value.exists_convert_record_error_iff
  elementary_error base length value allowRecords free := by
    have inRange := free.not_isOutOfRange base
    rw [Value.exists_convert_elementary_error_iff, or_iff_left inRange]
  float_error _ _ _ _ := Value.exists_convert_elementary_error_iff
  move _ _ _ _ _ taken stored origin resolved writable read elementary :=
    execute_move_self typed taken stored origin resolved writable read elementary
  like captures name source first between shape plain other new read := by
    obtain ⟨value, after, again, same, equal⟩ := operand_again civil read
    have wellTyped : value.WellTyped :=
      (yields_operand civil typed source between trivial).2.ok value (by rw [again])
    obtain ⟨environment, defined⟩ : ∃ environment, Environment.define
        ⟨Text.lower name, value.ty, value, false⟩ session.environment = (.ok (), environment) :=
      ⟨_, Environment.define_eq_ok_iff.mpr ⟨other, new, rfl⟩⟩
    have found : environment.find? name = some ⟨Text.lower name, value.ty, value, false⟩ :=
      Environment.find?_of_define rfl defined
    refine ⟨value, after, environment, again, same,
      declare_like shape plain read again same wellTyped defined, found, fun outside => ?_, ?_⟩
    · exact ⟨equal outside, operand_of_find? (fun _ _ before =>
        Environment.find?_define_of_eq_some defined before) outside again after⟩
    · intro notLiteral word whole
      have noQuote : name.quote? = none := by simpa [Lexeme.isLiteral] using notLiteral
      have lowerFound := Environment.find?_of_define (Text.lower_lower name) defined
      exact @operand_variable host { session with environment, asked := after } _ name _ noQuote
        word (path_of_not_mem whole) other lowerFound

/-- A number in a record is moved to its own place, the record with another one inside of it is
declared again under a new name, and a text comes back from longer types. -/
theorem conversion_keeps_contents_nested :
    let host := Host.standard fun asked => ⟨2024, 2, 29, 12, 0, asked % 60⟩
    let packed : Ty := .elementary .packed (some 5)
    let inner : Ty := .record [("c", .character 3)]
    let ty : Ty := .record [("a", packed), ("b", inner)]
    let value : Value := .record ty
      [("a", .number packed 42), ("b", .record inner [("c", .text (.character 3) "xyz")])]
    let session : Session :=
      { Session.start 40 20 with environment := ⟨[⟨"r", ty, value, false⟩], [("r", 0)], []⟩ }
    let abc : Value := .text (.character 3) "abc"
    KeepsContents host session ∧
      execute host
          (.simple ⟨"move", [("dest", .single "r-a"), ("source", .single "R-A")]⟩) session =
        (.ok .proceed, session) ∧
      (∃ environment,
        execute host (.simple ⟨"data",
          [("like", .single "r"), ("name", .single "s"), ("value", .single "r")]⟩) session =
            (.ok .proceed, { session with environment }) ∧
        operand host { session with environment } "s" = pure value) ∧
      ∃ result, [.character 5, .string, .character 3].foldlM (fun held ty => held.convert ty false)
        abc = .ok result ∧ result = abc := by
  intro host packed inner ty value session abc
  have valid : ty.Valid := by
    refine ⟨by decide, ⟨5, rfl, by decide⟩, ⟨by decide, ⟨3, rfl, by decide⟩, trivial⟩, trivial⟩
  have fits : value.Fits ty := by
    refine .record (.cons (.number rfl ?_) (.cons (.record (.cons (.text rfl ?_) .nil)) .nil))
    · simp only [Option.some.injEq, forall_eq']
      decide
    · simp only [Option.some.injEq, forall_eq']
      decide
  have typed : session.environment.WellTyped := by
    refine ⟨fun held member => ?_, by simp [session]⟩
    obtain rfl := List.mem_singleton.mp member
    exact ⟨valid, fits⟩
  have civil : host.IsCivil := by
    refine Host.isCivil_standard fun asked =>
      ⟨⟨by simp, by simp⟩, by simp, by simp, by simp, by simp, ?_⟩
    show asked % 60 ≤ 60
    omega
  have keeps := conversion_keeps_contents civil typed
  have upper : session.reference "R-A" = .ok (.part "r" [] "a") :=
    Result.eq_ok_of_toOption (by decide)
  have lower : session.reference "r-a" = .ok (.part "r" [] "a") :=
    Result.eq_ok_of_toOption (by decide)
  have moved := keeps.move [("dest", .single "r-a"), ("source", .single "R-A")] "R-A" "r-a" _
    (.number packed 42) rfl rfl upper lower
    (by
      intro held found
      obtain rfl : Variable.mk "r" ty value false = held := Option.some.inj found
      rfl)
    rfl rfl
  obtain ⟨stored, after, environment, again, _, declared, _, _, reads⟩ := keeps.like
    [("like", .single "r"), ("name", .single "s"), ("value", .single "r")] "s" "r" value 0
    ⟨rfl, rfl, rfl, rfl, rfl⟩ (by decide) (by decide) (by decide) rfl
  obtain ⟨rfl, rfl⟩ : value = stored ∧ 0 = after := by
    obtain ⟨same, asked⟩ := Prod.mk.inj again
    exact ⟨Except.ok.inj same, asked⟩
  have whole : ∀ ty ∈ [Ty.character 5, .string, .character 3], ty.shape ≠ .elementary .float := by
    decide
  obtain ⟨result, converted⟩ : ∃ result, [.character 5, .string, .character 3].foldlM
      (fun held ty => held.convert ty false) abc = .ok result := ⟨_, rfl⟩
  have same := keeps.round_trip _ abc result false trivial whole rfl converted
  exact ⟨keeps, moved, ⟨environment, declared, reads (by decide) (by decide) (by decide)⟩,
    result, converted, same⟩

end Session

end ReportLang
