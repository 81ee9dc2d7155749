import ReportLang.Proofs.Condition.Reading

/-!
# Reading written commands

The grammar of report programs reads a title, a typed declaration with a length and a value, and a
value to be written as what they are.
-/

namespace ReportLang

namespace Grammar

/-- The rule for declarations. -/
theorem rule?_decl : builtin.rule? "decl" = some decl.2.node := by
  rfl

/-- The rule for types. -/
theorem rule?_typing : builtin.rule? "typing" = some typing.2.node := by
  rfl

/-- The names under which lexemes of titles, declarations and outputs are captured. -/
def captureNames : List String := ["title", "name", "type", "length", "value", "source"]

/-- The names of what is captured are those of no rule. -/
theorem rule?_capture : ∀ name ∈ captureNames, builtin.rule? name = none := by
  decide

/-- The rule of `report`. -/
theorem find?_report : builtin.find? "report" = some report.2 := by
  rfl

/-- The rule of `data`. -/
theorem find?_data : builtin.find? "data" = some (declarations "data" "DATA").2 := by
  rfl

/-- The rule of `write`. -/
theorem find?_write : builtin.find? "write" = some (command "write" [word "WRITE", written,
    maybe [word "NO-ZERO", flag "no_zero"], maybe [word "NO-GAP", flag "no_gap"]] []).2 := by
  rfl

end Grammar

namespace Node

open Grammar

variable {rule? : String → Option Matcher}

/-- A type with a length is read. -/
theorem matches?_typing (unknown : ∀ name ∈ captureNames, rule? name = none)
    (ty length : Lexeme) (rest : List Lexeme) :
    typing.2.node.matches? rule? ("type" :: ty :: "length" :: length :: rest) =
      some ⟨[("length", .single length), ("type", .single ty)], rest⟩ := by
  have typeKeyword : Text.upper "TYPE" = "TYPE" := by decide
  have typeSpells : Text.upper "type" = "TYPE" := by decide
  have lengthKeyword : Text.upper "LENGTH" = "LENGTH" := by decide
  have lengthSpells : Text.upper "length" = "LENGTH" := by decide
  have typeName : Text.upper "type" ≠ "type" := by decide
  have lengthName : Text.upper "length" ≠ "length" := by decide
  have node : typing.2.node = .alternation
      (.sequence [word "TYPE", word "type", maybe [word "LENGTH", word "length"]])
      (.sequence [word "LIKE", word "like"]) := rfl
  rw [node]
  refine matches?_alternation ?_
  have sized : (maybe [word "LENGTH", word "length"]).matches? rule? ("length" :: length :: rest) =
      some ⟨[("length", .single length)], rest⟩ := by
    refine matches?_maybe ?_
    rw [matchesAll?_of_some (matches?_keyword lengthKeyword _ lengthSpells _),
      matchesAll?_of_some (matches?_lexeme lengthName (unknown "length" (by decide)) _ _)]
    rfl
  rw [matches?, matchesAll?_of_some (matches?_keyword typeKeyword _ typeSpells _),
    matchesAll?_of_some (matches?_lexeme typeName (unknown "type" (by decide)) _ _),
    matchesAll?_of_some sized]
  simp +decide only [matchesAll?, Captures.merge, Captures.insert, Captures.empty,
    Captures.singleton, List.foldl_cons, List.foldl_nil, if_true, if_false]

/-- A declaration with a type, a length and a value is read. -/
theorem matches?_decl {types : Matcher} (known : rule? "typing" = some types)
    (unknown : ∀ name ∈ captureNames, rule? name = none) (name ty length value : Lexeme)
    (read : ∀ rest, types ("type" :: ty :: "length" :: length :: rest) =
      some ⟨[("length", .single length), ("type", .single ty)], rest⟩) :
    decl.2.node.matches? rule? [name, "type", ty, "length", length, "value", value] =
      some ⟨[("length", .single length), ("name", .single name), ("type", .single ty),
        ("value", .single value)], []⟩ := by
  have valueKeyword : Text.upper "VALUE" = "VALUE" := by decide
  have valueSpells : Text.upper "value" = "VALUE" := by decide
  have nameName : Text.upper "name" ≠ "name" := by decide
  have valueName : Text.upper "value" ≠ "value" := by decide
  have typingName : Text.upper "typing" ≠ "typing" := by decide
  have node : decl.2.node = .sequence
      [word "name", maybe [word "typing"], maybe [word "VALUE", word "value"]] := rfl
  have typed : (maybe [word "typing"]).matches? rule?
      ["type", ty, "length", length, "value", value] =
      some ⟨[("length", .single length), ("type", .single ty)], ["value", value]⟩ := by
    refine matches?_maybe ?_
    rw [matchesAll?_of_some ((matches?_rule typingName known).trans (read _))]
    simp +decide only [matchesAll?, Captures.merge, Captures.insert, Captures.empty,
      List.foldl_cons, List.foldl_nil, if_false]
  have valued : (maybe [word "VALUE", word "value"]).matches? rule? ["value", value] =
      some ⟨[("value", .single value)], []⟩ := by
    refine matches?_maybe ?_
    rw [matchesAll?_of_some (matches?_keyword valueKeyword _ valueSpells _),
      matchesAll?_of_some (matches?_lexeme valueName (unknown "value" (by decide)) _ _)]
    rfl
  rw [node, matches?,
    matchesAll?_of_some (matches?_lexeme nameName (unknown "name" (by decide)) _ _),
    matchesAll?_of_some typed, matchesAll?_of_some valued]
  simp +decide only [matchesAll?, Captures.merge, Captures.insert, Captures.empty,
    Captures.singleton, List.foldl_cons, List.foldl_nil, if_true, if_false]

/-- A declaration that begins or ends no record is read after its keyword. -/
theorem matches?_declarations {keyword : String} (upper : Text.upper keyword = keyword)
    {lexeme name : Lexeme} (spells : Text.upper lexeme = keyword)
    (plain : Text.upper name ∉ ["BEGIN", "END"]) {decls : Matcher} {rest : List Lexeme}
    (known : rule? "decl" = some decls) {captures : Captures}
    (read : decls (name :: rest) = some ⟨captures, []⟩) (ordered : captures.Ordered) :
    (declarations lexeme keyword).2.node.matches? rule? (lexeme :: name :: rest) =
      some ⟨captures, []⟩ := by
  have declName : Text.upper "decl" ≠ "decl" := by decide
  simp only [List.mem_cons, List.not_mem_nil, or_false, not_or] at plain
  have node : (declarations lexeme keyword).2.node = .alternation
      (.alternation
        (.sequence [word keyword, word "BEGIN", word "OF", flag "begin", word "struc"])
        (.sequence [word keyword, word "END", word "OF", flag "end", word "struc"]))
      (.sequence [word keyword, word "decl"]) := rfl
  have noRecord {mark : String} (other : Text.upper mark = mark) (differ : Text.upper name ≠ mark)
      (nodes : List Node) : (Node.sequence (word keyword :: word mark :: nodes)).matches? rule?
        (lexeme :: name :: rest) = none := by
    rw [matches?, matchesAll?_of_some (matches?_keyword upper _ spells _)]
    exact matchesAll?_of_none (matches?_keyword_of_ne other (by simpa using differ))
  have noBegin := noRecord (by decide) plain.1 [word "OF", flag "begin", word "struc"]
  have noEnd := noRecord (by decide) plain.2 [word "OF", flag "end", word "struc"]
  rw [node, matches?_alternation_of_none ((matches?_alternation_of_none noBegin).trans noEnd),
    matches?, matchesAll?_of_some (matches?_keyword upper _ spells _),
    matchesAll?_of_some ((matches?_rule declName known).trans read)]
  exact congrArg (fun captures => some (Match.mk captures [])) (Captures.merge_empty_left ordered)

/-- A title is read. -/
theorem matches?_report (unknown : ∀ name ∈ captureNames, rule? name = none) (title : Lexeme) :
    report.2.node.matches? rule? ["report", title] = some ⟨[("title", .single title)], []⟩ := by
  have keyword : Text.upper "REPORT" = "REPORT" := by decide
  have spells : Text.upper "report" = "REPORT" := by decide
  have titleName : Text.upper "title" ≠ "title" := by decide
  have sizeKeyword : Text.upper "LINE-SIZE" = "LINE-SIZE" := by decide
  have node : report.2.node = .sequence [word "REPORT", word "title",
      maybe [word "LINE-SIZE", word "width"]] := rfl
  have noSize : (maybe [word "LINE-SIZE", word "width"]).matches? rule? [] = some ⟨.empty, []⟩ :=
    matches?_maybe_of_none (matchesAll?_of_none (matches?_keyword_of_ne sizeKeyword (by simp)))
  rw [node, matches?, matchesAll?_of_some (matches?_keyword keyword _ spells _),
    matchesAll?_of_some (matches?_lexeme titleName (unknown "title" (by decide)) _ _),
    matchesAll?_of_some noSize]
  rfl

/-- A value that does not look like a position is read as what is to be written. -/
theorem matches?_write (unknown : ∀ name ∈ captureNames, rule? name = none) {source : Lexeme}
    (noPosition : Position.isPosition source = false) :
    (command "write" [word "WRITE", written, maybe [word "NO-ZERO", flag "no_zero"],
        maybe [word "NO-GAP", flag "no_gap"]] []).2.node.matches? rule? ["write", source] =
      some ⟨[("source", .single source)], []⟩ := by
  have keyword : Text.upper "WRITE" = "WRITE" := by decide
  have spells : Text.upper "write" = "WRITE" := by decide
  have sourceName : Text.upper "source" ≠ "source" := by decide
  have node : (command "write" [word "WRITE", written, maybe [word "NO-ZERO", flag "no_zero"],
      maybe [word "NO-GAP", flag "no_gap"]] []).2.node = .sequence [word "WRITE", written,
        maybe [word "NO-ZERO", flag "no_zero"], maybe [word "NO-GAP", flag "no_gap"]] := rfl
  have noPlace : (Node.sequence [positionUnder "at", maybe [word "source"]]).matches? rule?
      [source] = none := by
    have missed : (positionUnder "at").matches? rule? [source] = none := by
      simp [positionUnder, matches?, Terminal.matches?, Match.capture, noPosition]
    rw [matches?, matchesAll?_of_none missed]
  have value : written.matches? rule? [source] = some ⟨[("source", .single source)], []⟩ := by
    rw [written, matches?_alternation_of_none noPlace,
      matches?_lexeme sourceName (unknown "source" (by decide))]
    rfl
  have absent {mark name : String} (upper : Text.upper mark = mark) :
      (maybe [word mark, flag name]).matches? rule? [] = some ⟨.empty, []⟩ :=
    matches?_maybe_of_none (matchesAll?_of_none (matches?_keyword_of_ne upper (by simp)))
  rw [node, matches?, matchesAll?_of_some (matches?_keyword keyword _ spells _),
    matchesAll?_of_some value, matchesAll?_of_some (absent (by decide)),
    matchesAll?_of_some (absent (by decide))]
  rfl

end Node

namespace Statement

/-- A statement is parsed with its own first lexeme unless the second is an equals sign. -/
theorem fullLexemes_of_ne {first second : Lexeme} {rest : List Lexeme} (plain : second ≠ "=") :
    fullLexemes ⟨first :: second :: rest⟩ = first :: second :: rest := by
  unfold fullLexemes
  split
  · rename_i same
    obtain ⟨_, tail⟩ := List.cons.inj same
    exact absurd (List.cons.inj tail).1 plain
  · rfl

/-- A statement of the language is parsed if the rule of its keyword reads it, where the rule may
refer to rules that refer to others. -/
theorem parse_of_read {keyword second : Lexeme} {rest : List Lexeme} {rule : Rule}
    {captures : Captures} (lower : Text.lower keyword = keyword) (plain : second ≠ "=")
    (found : Grammar.builtin.find? keyword = some rule) (isStatement : rule.isStatement = true)
    (read : ∀ depth, rule.node.matches?
      (fun name => (Grammar.builtin.rule? name).map (Grammar.builtin.matchesWithin? (depth + 2)))
      (keyword :: second :: rest) = some ⟨captures, []⟩) :
    parse Grammar.builtin ⟨keyword :: second :: rest⟩ = .ok ⟨keyword, captures⟩ := by
  have full := @fullLexemes_of_ne keyword second rest plain
  refine parse_eq_ok_iff.mpr ⟨keyword, rule, captures, ?_, ?_, isStatement, ?_, ?_⟩
  · rw [full, List.head?_cons]
  · rw [lower, found]
  · obtain ⟨depth, bound⟩ : ∃ depth,
        Grammar.builtin.depthBound (keyword :: second :: rest).length = depth + 2 + 1 :=
      ⟨_, rfl⟩
    rw [full, Grammar.matches?, bound, Grammar.matchesWithin?, read]
  · rw [lower]

/-- No lookup of a name that is captured finds a rule. -/
theorem unknown_capture (depth : Nat) : ∀ name ∈ Grammar.captureNames,
    (Grammar.builtin.rule? name).map (Grammar.builtin.matchesWithin? depth) = none := by
  intro name member
  rw [Grammar.rule?_capture name member, Option.map_none]

/-- A title is parsed. -/
theorem parse_report {title : Lexeme} (plain : title ≠ "=") :
    parse Grammar.builtin ⟨["report", title]⟩ = .ok ⟨"report", [("title", .single title)]⟩ :=
  parse_of_read (by decide) plain Grammar.find?_report rfl fun _ =>
    Node.matches?_report (unknown_capture _) title

/-- A value to be written is parsed, unless it looks like a position. -/
theorem parse_write {source : Lexeme} (plain : source ≠ "=")
    (noPosition : Position.isPosition source = false) :
    parse Grammar.builtin ⟨["write", source]⟩ = .ok ⟨"write", [("source", .single source)]⟩ :=
  parse_of_read (by decide) plain Grammar.find?_write rfl fun _ =>
    Node.matches?_write (unknown_capture _) noPosition

/-- A variable with a type, a length and a value is parsed as its declaration. -/
theorem parse_data {name : Lexeme} (plain : name ≠ "=")
    (noRecord : Text.upper name ∉ ["BEGIN", "END"]) (ty length value : Lexeme) :
    parse Grammar.builtin ⟨["data", name, "type", ty, "length", length, "value", value]⟩ =
      .ok ⟨"data", [("length", .single length), ("name", .single name), ("type", .single ty),
        ("value", .single value)]⟩ := by
  refine parse_of_read (by decide) plain Grammar.find?_data rfl fun depth => ?_
  have decls : (Grammar.builtin.rule? "decl").map (Grammar.builtin.matchesWithin? (depth + 2)) =
      some (Grammar.builtin.matchesWithin? (depth + 2) Grammar.decl.2.node) := by
    rw [Grammar.rule?_decl, Option.map_some]
  have types : (Grammar.builtin.rule? "typing").map (Grammar.builtin.matchesWithin? (depth + 1)) =
      some (Grammar.builtin.matchesWithin? (depth + 1) Grammar.typing.2.node) := by
    rw [Grammar.rule?_typing, Option.map_some]
  have typed (rest : List Lexeme) : Grammar.builtin.matchesWithin? (depth + 1)
      Grammar.typing.2.node ("type" :: ty :: "length" :: length :: rest) = some _ :=
    Node.matches?_typing (unknown_capture depth) ty length rest
  have declared : Grammar.builtin.matchesWithin? (depth + 2) Grammar.decl.2.node
      [name, "type", ty, "length", length, "value", value] = some _ :=
    Node.matches?_decl types (unknown_capture _) name ty length value typed
  exact Node.matches?_declarations (by decide) (by decide) noRecord decls declared
    (List.pairwise_map.mp (by decide : ["length", "name", "type", "value"].Pairwise (· < ·)))

end Statement

end ReportLang
