import ReportLang.Proofs.Session.Run

/-!
# Declarations are permanent

Whatever a run does, and however it ends, variables and types stay declared as they are, and a
constant keeps its value with all the fields in it. In every session that can be reached the index
of the environment is in step with the variables.
-/

namespace ReportLang.Session

open ReportLang.Action ReportLang.Update

variable {host : Host} {session after : Session}

/-- A run loses no declaration and touches no constant. -/
theorem keptByRun_extends (origin : Environment) : KeptByRun (Satisfies origin.Extends) where
  clock _ _ kept := kept
  loops _ _ kept := kept
  title _ _ kept := kept
  edit _ _ kept := kept
  environment _ _ change kept := kept.trans change.extends

/-- A run keeps the index in step with the variables. -/
theorem keptByRun_indexed : KeptByRun (Satisfies Environment.Indexed) where
  clock _ _ kept := kept
  loops _ _ kept := kept
  title _ _ kept := kept
  edit _ _ kept := kept
  environment _ _ change kept := change.indexed kept

/-- Instructions in order lose no declaration and touch no constant. -/
theorem extends_executeAll (host : Host) (program : List Instruction) (session : Session) :
    session.environment.Extends (executeAll host program session).2.environment :=
  ((keptByRun_extends session.environment).executeAll program session
    (Environment.Extends.refl session.environment)).1

/-- A variable that is added is a constant exactly if it is declared as one. -/
theorem binding_of_defineVariable {declared : Declared} {name : String} {ty : Ty}
    {value : Option Value} {ended : Unit}
    (done : defineVariable declared name ty value session = (.ok ended, after)) :
    ∃ held, held.isConstant = decide (declared = .constant) ∧
      after.environment.bindings = session.environment.bindings ++ [held] := by
  obtain ⟨held, between, made, added⟩ := bind_eq_ok.mp done
  obtain ⟨created, rfl⟩ := lift_eq_ok.mp made
  obtain ⟨environment, defined, rfl⟩ := onEnvironment_eq_ok.mp added
  obtain ⟨_, _, rfl⟩ := Environment.define_eq_ok_iff.mp defined
  exact ⟨held, (Variable.of_declare created).2, rfl⟩

/-- What is declared with the keyword of constants is added as a constant, alone or as a record. -/
theorem binding_of_constants {instruction : Instruction} {signal : Signal}
    (keyword : instruction.keyword = "constants")
    (done : execute host instruction session = (.ok signal, after)) :
    ∃ held, held.isConstant = true ∧
      after.environment.bindings = session.environment.bindings ++ [held] := by
  cases instruction with
  | simple command =>
    obtain ⟨word, captures⟩ := command
    obtain rfl : word = "constants" := keyword
    obtain ⟨_, between, declared, ended⟩ := bind_eq_ok.mp done
    obtain ⟨found, here, read, later⟩ := bind_eq_ok.mp declared
    obtain ⟨_, _, rfl⟩ := read_eq_ok.mp read
    obtain ⟨value, there, given, added⟩ := bind_eq_ok.mp later
    obtain ⟨_, _, rfl⟩ := read_eq_ok.mp given
    cases ended
    exact binding_of_defineVariable added
  | block opener body =>
    obtain ⟨word, captures⟩ := opener
    obtain rfl : word = "constants" := keyword
    obtain ⟨_, between, declared, ended⟩ := bind_eq_ok.mp done
    obtain ⟨name, here, named, later⟩ := bind_eq_ok.mp declared
    obtain ⟨_, rfl⟩ := lift_eq_ok.mp named
    obtain ⟨value, there, built, added⟩ := bind_eq_ok.mp later
    obtain ⟨_, _, rfl⟩ := read_eq_ok.mp built
    cases ended
    exact binding_of_defineVariable added
  | choice branches => simp [Instruction.keyword] at keyword

/-- In every session that can be reached the index has each name, in lower case, at the position of
the one variable of that name; names are different, and none is that of the system record. What is
declared with `CONSTANTS` is a constant. After any instructions, however they end, every variable is
where it was, with its name, its type and whether it is a constant, every name has its position,
every named type is what it was, and every constant is found with the value it had. -/
theorem Reaches.declarations_permanent {width height : Nat} {session : Session}
    (reached : (start width height).Reaches session) :
    (session.environment.Indexed ∧ session.environment.names.Nodup) ∧
    (∀ host instruction signal after, instruction.keyword = "constants" →
      execute host instruction session = (.ok signal, after) →
      ∃ held, held.isConstant = true ∧
        after.environment.bindings = session.environment.bindings ++ [held]) ∧
    ∀ host program,
      session.environment.Extends (executeAll host program session).2.environment ∧
      ∀ name held, session.environment.find? name = some held → held.isConstant = true →
        (executeAll host program session).2.environment.find? name = some held := by
  have indexed : session.environment.Indexed :=
    reached.keeps keptByRun_indexed Environment.indexed_empty
  refine ⟨⟨indexed, indexed.nodup⟩, fun host instruction signal after keyword done => ?_, ?_⟩
  · exact binding_of_constants keyword done
  · intro host program
    have kept := extends_executeAll host program session
    exact ⟨kept, fun name held found fixed => kept.find?_constant found fixed⟩

/-- A constant record is declared beside a variable. A program that stores something in the variable
and then in a field of the constant fails, and leaves the constant as it was. -/
theorem Reaches.declarations_permanent_refused :
    let host : Host := .standard fun _ => ⟨2024, 2, 29, 12, 0, 0⟩
    ∃ session : Session, (start 40 20).Reaches session ∧
      session.environment.index = [("limits", 0), ("n", 1)] ∧
      (executeAll host
          [.simple ⟨"move", [("dest", .single "N"), ("source", .single "7")]⟩,
            .simple ⟨"move", [("dest", .single "Limits-top"), ("source", .single "6")]⟩]
          session).2.environment.bindings.map
        (fun held => (held.name, held.isConstant, held.value.asText)) =
        [("limits", true, "5"), ("n", false, "7")] ∧
      session.environment.Indexed ∧
      session.environment.Extends (executeAll host
          [.simple ⟨"move", [("dest", .single "N"), ("source", .single "7")]⟩,
            .simple ⟨"move", [("dest", .single "Limits-top"), ("source", .single "6")]⟩]
          session).2.environment := by
  intro host
  have constant : (start 40 20).Reaches _ := Reaches.refl.step host
    (.block ⟨"constants", [("begin", .flag true), ("struc", .single "limits")]⟩
      [.simple ⟨"constants", [("name", .single "top"), ("type", .single "i"),
        ("value", .single "5")]⟩])
  have both := constant.step host
    (.simple ⟨"data", [("name", .single "n"), ("type", .single "i")]⟩)
  obtain ⟨⟨indexed, _⟩, _, permanent⟩ := both.declarations_permanent
  exact ⟨_, both, by decide, rfl, indexed, (permanent _ _).1⟩

end ReportLang.Session
