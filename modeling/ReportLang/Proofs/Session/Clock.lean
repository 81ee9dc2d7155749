import ReportLang.Proofs.Session.Condition
import ReportLang.Proofs.Session.Path
import ReportLang.Proofs.Session.Rules

/-!
# The clock

A run reads the clock through two fields of the system record and in no other way. A lexeme that
names neither of them nor the whole record stands for the same value whatever the clock answers,
although the clock is asked, and the record with both fields in it made anew, for every read; so a
program all of whose captured lexemes are such runs alike on all clocks, down to the failures it
ends with. Everything that execution evaluates is followed from the lexemes of the captures, which
`Captures.lexemes` lists at every depth.
-/

namespace ReportLang

/-- Whether a lexeme, in lower case and cut at hyphens, names a system field other than the date and
the time, or no part of the system record at all. The whole record has both of them in it. -/
def Lexeme.IsTimeless (lexeme : Lexeme) : Prop :=
  lexeme.lowerParts.1 = "sy" →
    ∃ field, lexeme.lowerParts.2.head? = some field ∧ field ≠ "datum" ∧ field ≠ "uzeit"

/-- Whether a lexeme is timeless can be decided. -/
instance (lexeme : Lexeme) : Decidable lexeme.IsTimeless :=
  inferInstanceAs (Decidable (lexeme.lowerParts.1 = "sy" →
    ∃ field, lexeme.lowerParts.2.head? = some field ∧ field ≠ "datum" ∧ field ≠ "uzeit"))

/-- A timeless lexeme reaches into the system record through one of its other fields. -/
theorem Lexeme.IsTimeless.path {lexeme : Lexeme} (timeless : lexeme.IsTimeless)
    (isSystem : lexeme.path.1 = Environment.systemName) :
    ∃ field rest, lexeme.path.2 = field :: rest ∧ field ≠ "datum" ∧ field ≠ "uzeit" := by
  rw [path_eq_lowerParts] at isSystem ⊢
  obtain ⟨field, head, notDate, notTime⟩ := timeless isSystem
  obtain ⟨rest, fields⟩ := List.head?_eq_some_iff.mp head
  exact ⟨field, rest, fields, notDate, notTime⟩

mutual

/-- The lexemes in a capture, at every depth. -/
def Capture.lexemes : Capture → List Lexeme
  | .single lexeme => [lexeme]
  | .flag _ => []
  | .nested entries => Captures.lexemes entries
  | .repeated items => Captures.lexemesOfAll items

/-- The lexemes in captures, at every depth. -/
def Captures.lexemes : List (String × Capture) → List Lexeme
  | [] => []
  | (_, capture) :: rest => capture.lexemes ++ Captures.lexemes rest

/-- The lexemes in several captures, at every depth. -/
def Captures.lexemesOfAll : List (List (String × Capture)) → List Lexeme
  | [] => []
  | entries :: rest => Captures.lexemes entries ++ Captures.lexemesOfAll rest

end

namespace Instruction

mutual

/-- The lexemes in the captures of an instruction and of all instructions inside it. -/
def lexemes : Instruction → List Lexeme
  | .simple command => Captures.lexemes command.captures
  | .block opener body => Captures.lexemes opener.captures ++ lexemesOfAll body
  | .choice branches => lexemesOfBranches branches

/-- The lexemes in the captures of instructions and of all instructions inside them. -/
def lexemesOfAll : List Instruction → List Lexeme
  | [] => []
  | instruction :: rest => lexemes instruction ++ lexemesOfAll rest

/-- The lexemes in the captures of branches and of all instructions inside them. -/
def lexemesOfBranches : List (Command × List Instruction) → List Lexeme
  | [] => []
  | (command, body) :: rest =>
    Captures.lexemes command.captures ++ lexemesOfAll body ++ lexemesOfBranches rest

end

end Instruction

namespace Captures

variable {captures inner : Captures} {name : String}

/-- What is found under a name has lexemes of the captures only. -/
theorem lexemes_subset_of_get? {capture : Capture} (found : captures.get? name = some capture) :
    capture.lexemes ⊆ lexemes captures := by
  induction captures with
  | nil => simp [get?] at found
  | cons entry rest ih =>
    obtain ⟨other, held⟩ := entry
    rw [get?, List.lookup_cons] at found
    rw [lexemes]
    split at found
    · obtain rfl := Option.some.inj found
      exact List.subset_append_left _ _
    · exact fun lexeme member => List.mem_append_right _ (ih found member)

/-- A lexeme that is found under a name is one of the captures. -/
theorem mem_lexemes_of_single? {lexeme : Lexeme} (found : captures.single? name = some lexeme) :
    lexeme ∈ lexemes captures := by
  unfold single? at found
  split at found
  · rename_i held present
    obtain rfl := Option.some.inj found
    exact lexemes_subset_of_get? present (by simp [Capture.lexemes])
  · simp at found

/-- Nested captures have lexemes of the captures around them only. -/
theorem lexemes_subset_of_nested? (found : captures.nested? name = some inner) :
    lexemes inner ⊆ lexemes captures := by
  unfold nested? at found
  split at found
  · rename_i entries present
    obtain rfl := Option.some.inj found
    have within := lexemes_subset_of_get? present
    rwa [Capture.lexemes] at within
  · simp at found

end Captures

/-- Whether all of several lexemes are timeless. -/
def Lexeme.AreTimeless (lexemes : List Lexeme) : Prop :=
  ∀ lexeme ∈ lexemes, Lexeme.IsTimeless lexeme

/-- Whether lexemes are timeless can be decided. -/
instance (lexemes : List Lexeme) : Decidable (Lexeme.AreTimeless lexemes) :=
  inferInstanceAs (Decidable (∀ lexeme ∈ lexemes, Lexeme.IsTimeless lexeme))

namespace Lexeme.AreTimeless

variable {captures inner : Captures} {name : String} {first later : List Lexeme}

/-- A captured lexeme is timeless if all lexemes of the captures are. -/
theorem single (timeless : AreTimeless (Captures.lexemes captures)) {lexeme : Lexeme}
    (found : captures.single? name = some lexeme) : lexeme.IsTimeless :=
  timeless lexeme (Captures.mem_lexemes_of_single? found)

/-- Nested captures have timeless lexemes if the captures around them have. -/
theorem nested (timeless : AreTimeless (Captures.lexemes captures))
    (found : captures.nested? name = some inner) : AreTimeless (Captures.lexemes inner) :=
  fun lexeme member => timeless lexeme (Captures.lexemes_subset_of_nested? found member)

/-- Lexemes are timeless if they are so in both parts of a list. -/
theorem append_iff : AreTimeless (first ++ later) ↔ AreTimeless first ∧ AreTimeless later := by
  simp only [AreTimeless, List.mem_append, or_imp, forall_and]

end Lexeme.AreTimeless

namespace Captures

variable {α : Type} {captures : Captures} {name : String}

/-- What follows a captured lexeme matters for that lexeme only. -/
theorem required_bind_congr {σ : Type} {next other : Lexeme → Update σ α}
    (same : ∀ lexeme, captures.single? name = some lexeme → next lexeme = other lexeme) :
    (liftM (captures.required name) : Update σ Lexeme) >>= next =
      (liftM (captures.required name) : Update σ Lexeme) >>= other := by
  unfold required
  cases found : captures.single? name with
  | some lexeme => exact same lexeme found
  | none => rfl

end Captures

/-- A host with another clock. -/
def Host.withClock (host : Host) (clock : Nat → Instant) : Host :=
  { host with clock }

/-- The engine of a host does not depend on the clock. -/
@[simp] theorem Host.engine_withClock (host : Host) (clock : Nat → Instant) :
    (host.withClock clock).engine = host.engine := rfl

namespace Session

open Lexeme (AreTimeless)

variable {captures : Captures} {lexeme : Lexeme}

section Values

variable (host : Host) (clock : Nat → Instant) (session : Session)

/-- The types of the fields of the system record do not depend on the instant. -/
theorem fieldTypes_systemFields (now later : Instant) :
    (session.systemFields host now).map (fun field => (field.1, field.2.ty)) =
      (session.systemFields host later).map fun field => (field.1, field.2.ty) := by
  simp only [systemFields, List.map, Value.ofDate, Value.ofTime, Value.ty]

/-- Fields of the system record other than the date and the time do not depend on the instant, and
neither does the failure to find one. -/
theorem field_systemAt (now later : Instant) {name : String} (notDate : name ≠ "datum")
    (notTime : name ≠ "uzeit") :
    (session.systemAt host now).field name = (session.systemAt host later).field name := by
  have noDate : (name == "datum") = false := by simpa using notDate
  have noTime : (name == "uzeit") = false := by simpa using notTime
  have found : (session.systemFields host now).lookup name =
      (session.systemFields host later).lookup name := by
    simp only [systemFields, List.lookup_cons, noDate, noTime]
  simp only [systemAt, Value.field, found, fieldTypes_systemFields host session now later]

/-- A timeless path into the system record leads to the same value at every instant. -/
theorem fieldAt_systemAt (now later : Instant) {lexeme : Lexeme} (timeless : lexeme.IsTimeless)
    (isSystem : lexeme.path.1 = Environment.systemName) :
    (session.systemAt host now).fieldAt lexeme.path.2 =
      (session.systemAt host later).fieldAt lexeme.path.2 := by
  obtain ⟨field, rest, path, notDate, notTime⟩ := timeless.path isSystem
  have first := field_systemAt host session now later notDate notTime
  simp only [path, Value.fieldAt, List.foldlM_cons, first]

/-- The value of a timeless lexeme that is a name does not depend on the clock. -/
theorem namedValue_timeless (timeless : lexeme.IsTimeless) :
    session.namedValue host lexeme = session.namedValue (host.withClock clock) lexeme := by
  unfold namedValue
  by_cases isSystem : lexeme.path.1 = Environment.systemName
  · -- The clock is asked once on either side, and its answer is not looked at any more.
    funext asked
    have value := fieldAt_systemAt host session (host.clock asked) (clock asked) timeless isSystem
    simp only [isSystem, if_true]
    exact congrArg (fun found => (Except.mapError RunError.value found, asked + 1)) value
  · simp only [isSystem, if_false]

/-- The value of a timeless lexeme does not depend on the clock. -/
theorem operand_timeless (timeless : lexeme.IsTimeless) :
    session.operand host lexeme = session.operand (host.withClock clock) lexeme := by
  simp only [operand, namedValue_timeless host clock session timeless]

/-- The whole number that a timeless lexeme stands for does not depend on the clock. -/
theorem count_timeless (timeless : lexeme.IsTimeless) :
    session.count host lexeme = session.count (host.withClock clock) lexeme := by
  simp only [count, operand_timeless host clock session timeless]

/-- The operand of a condition does not depend on the clock. -/
theorem conditionOperand_timeless (timeless : AreTimeless (Captures.lexemes captures))
    (name : String) :
    session.conditionOperand host captures name =
      session.conditionOperand (host.withClock clock) captures name := by
  unfold conditionOperand
  split
  · rename_i lexeme found
    exact operand_timeless host clock session (timeless.single found)
  · rfl

/-- The truth value of a clause that is not in parentheses does not depend on the clock. -/
theorem simpleClause_timeless (timeless : AreTimeless (Captures.lexemes captures)) :
    session.simpleClause host captures = session.simpleClause (host.withClock clock) captures := by
  simp only [simpleClause, conditionOperand_timeless host clock session timeless,
    Host.engine_withClock]

/-- The truth value of a condition does not depend on the clock. -/
theorem condition_timeless {captures : Captures}
    (timeless : AreTimeless (Captures.lexemes captures)) :
    session.condition host captures = session.condition (host.withClock clock) captures := by
  have clause : session.clause host captures = session.clause (host.withClock clock) captures := by
    unfold clause
    split
    · rename_i sub found
      exact condition_timeless (timeless.nested found)
    · exact simpleClause_timeless host clock session timeless
  rw [condition_eq, condition_eq, clause]
  cases found : captures.nested? "next" with
  | some next => simp only [condition_timeless (timeless.nested found)]
  | none => rfl
termination_by sizeOf captures
decreasing_by all_goals exact Captures.sizeOf_nested? (by assumption)

/-- The value on the right of an assignment does not depend on the clock. -/
theorem computed_timeless (timeless : AreTimeless (Captures.lexemes captures)) :
    session.computed host captures = session.computed (host.withClock clock) captures := by
  unfold computed
  refine Captures.required_bind_congr fun source found => ?_
  rw [operand_timeless host clock session (timeless.single found)]
  refine bind_congr fun value => ?_
  split
  · rfl
  · split
    · rfl
    · refine Captures.required_bind_congr fun operand found => ?_
      rw [operand_timeless host clock session (timeless.single found)]

/-- The name and the type of a declaration do not depend on the clock. -/
theorem declaration_timeless (timeless : AreTimeless (Captures.lexemes captures)) :
    session.declaration host captures = session.declaration (host.withClock clock) captures := by
  have ty (length : Option Nat) :
      session.declaredType host captures length =
        session.declaredType (host.withClock clock) captures length := by
    unfold declaredType
    split
    · rfl
    · rename_i like found
      rw [operand_timeless host clock session (timeless.single found)]
    · rfl
  simp only [declaration, ty]

/-- The value of a declaration does not depend on the clock. -/
theorem declaredValue_timeless (timeless : AreTimeless (Captures.lexemes captures)) :
    session.declaredValue host captures =
      session.declaredValue (host.withClock clock) captures := by
  unfold declaredValue
  split
  · rename_i value found
    rw [operand_timeless host clock session (timeless.single found)]
  · rfl

/-- A field that a command declares does not depend on the clock. -/
theorem fieldOf_timeless (timeless : AreTimeless (Captures.lexemes captures)) :
    session.fieldOf host captures = session.fieldOf (host.withClock clock) captures := by
  simp only [fieldOf, declaration_timeless host clock session timeless,
    declaredValue_timeless host clock session timeless]

mutual

/-- A field of a record declaration does not depend on the clock. -/
theorem fieldValue_timeless (instruction : Instruction)
    (timeless : AreTimeless instruction.lexemes) :
    session.fieldValue host instruction =
      session.fieldValue (host.withClock clock) instruction := by
  match instruction with
  | .simple command =>
    rw [Instruction.lexemes] at timeless
    simp only [fieldValue, fieldOf_timeless host clock session timeless]
  | .block opener body =>
    rw [Instruction.lexemes, Lexeme.AreTimeless.append_iff] at timeless
    simp only [fieldValue, fieldValues_timeless body timeless.2]
  | .choice branches => rfl

/-- The fields of a record declaration do not depend on the clock. -/
theorem fieldValues_timeless (body : List Instruction)
    (timeless : AreTimeless (Instruction.lexemesOfAll body)) :
    session.fieldValues host body = session.fieldValues (host.withClock clock) body := by
  match body with
  | [] => rfl
  | instruction :: rest =>
    rw [Instruction.lexemesOfAll, Lexeme.AreTimeless.append_iff] at timeless
    simp only [fieldValues, fieldValue_timeless instruction timeless.1,
      fieldValues_timeless rest timeless.2]

end

end Values

section Actions

variable (host : Host) (clock : Nat → Instant)

/-- Moving a value does not depend on the clock. -/
theorem move_timeless (timeless : AreTimeless (Captures.lexemes captures)) :
    move host captures = move (host.withClock clock) captures := by
  unfold move
  refine Captures.required_bind_congr fun source found => ?_
  simp only [fun session => operand_timeless host clock session (timeless.single found)]

/-- Storing the value of an expression does not depend on the clock. -/
theorem compute_timeless (timeless : AreTimeless (Captures.lexemes captures)) :
    compute host captures = compute (host.withClock clock) captures := by
  simp only [compute, fun session => computed_timeless host clock session timeless]

/-- Changing a number does not depend on the clock. -/
theorem changeBy_timeless (timeless : AreTimeless (Captures.lexemes captures))
    (operation : Operation) :
    changeBy host operation captures = changeBy (host.withClock clock) operation captures := by
  unfold changeBy
  refine Captures.required_bind_congr fun source found => ?_
  simp only [fun session => operand_timeless host clock session (timeless.single found)]

/-- Testing a condition does not depend on the clock. -/
theorem assert_timeless (timeless : AreTimeless (Captures.lexemes captures)) :
    assert host captures = assert (host.withClock clock) captures := by
  simp only [assert, fun session => condition_timeless host clock session timeless]

/-- Giving the report its title does not depend on the clock. -/
theorem giveTitle_timeless (timeless : AreTimeless (Captures.lexemes captures)) :
    giveTitle host captures = giveTitle (host.withClock clock) captures := by
  unfold giveTitle
  cases found : captures.single? "width" with
  | none => rfl
  | some lexeme =>
    simp only [fun session => count_timeless host clock session (timeless.single found)]

/-- Writing does not depend on the clock. -/
theorem write_timeless (timeless : AreTimeless (Captures.lexemes captures)) :
    write host captures = write (host.withClock clock) captures := by
  unfold write
  cases found : captures.single? "source" with
  | none => rfl
  | some lexeme =>
    simp only [fun session => operand_timeless host clock session (timeless.single found)]

/-- Skipping lines does not depend on the clock. -/
theorem skip_timeless (timeless : AreTimeless (Captures.lexemes captures)) :
    skip host captures = skip (host.withClock clock) captures := by
  unfold skip
  cases found : captures.single? "lines" with
  | none => rfl
  | some lexeme =>
    simp only [fun session => count_timeless host clock session (timeless.single found)]

/-- A declaration does not depend on the clock. -/
theorem declare_timeless (timeless : AreTimeless (Captures.lexemes captures))
    (declared : Declared) :
    declare host declared captures = declare (host.withClock clock) declared captures := by
  simp only [declare, fun session => declaration_timeless host clock session timeless,
    fun session => declaredValue_timeless host clock session timeless]

/-- The declaration of a record does not depend on the clock. -/
theorem declareRecord_timeless (opener : Command) {body : List Instruction}
    (timeless : AreTimeless (Instruction.lexemesOfAll body)) :
    declareRecord host opener body = declareRecord (host.withClock clock) opener body := by
  simp only [declareRecord, recordValue,
    fun session => fieldValues_timeless host clock session body timeless]

/-- A command that governs no block does not depend on the clock. -/
theorem executeCommand_timeless {command : Command}
    (timeless : AreTimeless (Captures.lexemes command.captures)) :
    executeCommand host command = executeCommand (host.withClock clock) command := by
  simp only [executeCommand, giveTitle_timeless host clock timeless,
    declare_timeless host clock timeless, move_timeless host clock timeless,
    compute_timeless host clock timeless, changeBy_timeless host clock timeless,
    write_timeless host clock timeless, skip_timeless host clock timeless,
    assert_timeless host clock timeless]

/-- A loop with a condition does not depend on the clock. -/
theorem whileLoop_timeless (timeless : AreTimeless (Captures.lexemes captures))
    (body : Action Signal) :
    whileLoop host captures body = whileLoop (host.withClock clock) captures body := by
  simp only [whileLoop, fun session => condition_timeless host clock session timeless]

/-- A loop with a number of passes does not depend on the clock. -/
theorem doLoop_timeless (timeless : AreTimeless (Captures.lexemes captures))
    (body : Action Signal) :
    doLoop host captures body = doLoop (host.withClock clock) captures body := by
  unfold doLoop
  split
  · rfl
  · rename_i lexeme found
    simp only [fun session => count_timeless host clock session (timeless.single found)]

mutual

/-- An instruction does not depend on the clock. -/
theorem execute_timeless (instruction : Instruction) (timeless : AreTimeless instruction.lexemes) :
    execute host instruction = execute (host.withClock clock) instruction := by
  match instruction with
  | .simple command =>
    rw [Instruction.lexemes] at timeless
    simp only [execute, executeCommand_timeless host clock timeless]
  | .block opener body =>
    rw [Instruction.lexemes, Lexeme.AreTimeless.append_iff] at timeless
    obtain ⟨head, inside⟩ := timeless
    simp only [execute, executeBody_timeless body inside, whileLoop_timeless host clock head,
      doLoop_timeless host clock head, declareRecord_timeless host clock opener inside]
  | .choice branches =>
    rw [Instruction.lexemes] at timeless
    simp only [execute, executeFirst_timeless branches timeless]

/-- Instructions in order do not depend on the clock. -/
theorem executeBody_timeless (body : List Instruction)
    (timeless : AreTimeless (Instruction.lexemesOfAll body)) :
    executeAll host body = executeAll (host.withClock clock) body := by
  match body with
  | [] => rfl
  | instruction :: rest =>
    rw [Instruction.lexemesOfAll, Lexeme.AreTimeless.append_iff] at timeless
    simp only [executeAll, execute_timeless instruction timeless.1,
      executeBody_timeless rest timeless.2]

/-- A choice between branches does not depend on the clock. -/
theorem executeFirst_timeless (branches : List (Command × List Instruction))
    (timeless : AreTimeless (Instruction.lexemesOfBranches branches)) :
    executeFirst host branches = executeFirst (host.withClock clock) branches := by
  match branches with
  | [] => rfl
  | (command, body) :: rest =>
    simp only [Instruction.lexemesOfBranches, Lexeme.AreTimeless.append_iff] at timeless
    obtain ⟨⟨test, inside⟩, others⟩ := timeless
    simp only [executeFirst, fun session => condition_timeless host clock session test,
      executeBody_timeless body inside, executeFirst_timeless rest others]

end

end Actions

/-- The clock influences a run only through the date and the time of the system record: a program
that names neither of them, and not the whole record, ends from every session in the same result and
the same session on every two clocks, whatever either of them answers each time that it is asked. -/
theorem executeAll_eq_of_timeless {program : List Instruction}
    (timeless : AreTimeless (Instruction.lexemesOfAll program)) (host : Host)
    (now later : Nat → Instant) (session : Session) :
    executeAll (host.withClock now) program session =
      executeAll (host.withClock later) program session :=
  congrFun (executeBody_timeless (host.withClock now) later program timeless) session

/-- A loop that reads the number of its pass and the column of the cursor, and then a field that the
system record does not have, on a clock that goes forward and on one that goes back. -/
theorem executeAll_eq_of_timeless_loop :
    let program : List Instruction :=
      [.block ⟨"do", [("count", .single "2")]⟩
        [.simple ⟨"write", [("source", .single "SY-INDEX")]⟩,
          .choice [(⟨"if", [("left", .single "sy-colno"), ("op", .single ">"),
            ("right", .single "2")]⟩, [.simple ⟨"write", [("source", .single "sy-subrc")]⟩])]]]
    let host := Host.standard fun _ => ⟨1999, 12, 1, 0, 0, 0⟩
    let forward := fun asked => ⟨2024, 1, 31, 23, 59, asked⟩
    let back := fun asked => ⟨1999, 12, 1, 0, 59 - asked, 0⟩
    AreTimeless (Instruction.lexemesOfAll program) ∧
      executeAll (host.withClock forward) program (.start 80 24) =
        executeAll (host.withClock back) program (.start 80 24) := by
  intro program host forward back
  have timeless : AreTimeless (Instruction.lexemesOfAll program) := by decide
  exact ⟨timeless, executeAll_eq_of_timeless timeless host forward back _⟩

end Session

end ReportLang
