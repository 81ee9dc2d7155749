import ReportLang.Grammar

/-!
# The grammar of report programs

The statements of the language. Each rule is given with the description that spells it: words in
upper case are keywords, brackets enclose what may be left out, a plus sign before a name notes a
flag, and `name:rule` keeps the captures of a rule under a name. Where a rule has several
definitions, they are alternatives, the first one first.
-/

namespace ReportLang.Grammar

/-- A keyword, a rule or a capture by its name alone. -/
def word (name : String) : Node := .terminal ⟨name, name, .word, false⟩

/-- A flag. -/
def flag (name : String) : Node := .terminal ⟨name, name, .flag, false⟩

/-- The captures of a rule under a name. -/
def under (capture rule : String) : Node := .terminal ⟨capture, rule, .word, true⟩

/-- Any number of matches of a rule under a name. -/
def manyUnder (capture rule : String) : Node := .terminal ⟨capture, rule, .repetition, true⟩

/-- A write position under a name. -/
def positionUnder (capture : String) : Node :=
  .terminal ⟨capture, Terminal.positionWord, .position, true⟩

/-- Parts that may be left out. -/
def maybe (nodes : List Node) : Node := .optional (.sequence nodes)

/-- Definitions of one rule, each an alternative to those before it. -/
def anyOf (first : List Node) (others : List (List Node)) : Node :=
  others.foldl (fun node other => .alternation node (.sequence other)) (.sequence first)

/-- A rule that others refer to. -/
def helper (name : String) (first : List Node) (others : List (List Node)) : String × Rule :=
  (name, ⟨anyOf first others, false⟩)

/-- A rule that may start a statement. -/
def command (name : String) (first : List Node) (others : List (List Node)) : String × Rule :=
  (name, ⟨anyOf first others, true⟩)

/-- The type of a declaration: `TYPE type [ LENGTH length ]` or `LIKE like`. -/
def typing : String × Rule :=
  helper "typing" [word "TYPE", word "type", maybe [word "LENGTH", word "length"]]
    [[word "LIKE", word "like"]]

/-- A declaration: `name [ typing ] [ VALUE value ]`. -/
def decl : String × Rule :=
  helper "decl" [word "name", maybe [word "typing"], maybe [word "VALUE", word "value"]] []

/-- The title of a report: `REPORT title [ LINE-SIZE width ]`. -/
def report : String × Rule :=
  command "report" [word "REPORT", word "title", maybe [word "LINE-SIZE", word "width"]] []

/-- Declarations of one kind: `BEGIN OF +begin struc`, `END OF +end struc` or `decl` after their
keyword. -/
def declarations (name keyword : String) : String × Rule :=
  command name [word keyword, word "BEGIN", word "OF", flag "begin", word "struc"]
    [[word keyword, word "END", word "OF", flag "end", word "struc"],
      [word keyword, word "decl"]]

/-- Declarations of types, variables and constants. -/
def declarationRules : List (String × Rule) :=
  [typing, decl, report, declarations "data" "DATA", declarations "constants" "CONSTANTS",
    declarations "types" "TYPES"]

/-- Assignment and arithmetic, such as `COMPUTE dest '=' source [ operator operand ]` and
`CLEAR targets:target+`. -/
def assignmentRules : List (String × Rule) :=
  [command "move" [word "MOVE", word "source", word "TO", word "dest"] [],
    command "compute" [word "COMPUTE", word "dest", .literal "=", word "source",
      maybe [word "operator", word "operand"]] [],
    command "add" [word "ADD", word "source", word "TO", word "dest"] [],
    command "subtract" [word "SUBTRACT", word "source", word "FROM", word "dest"] [],
    command "multiply" [word "MULTIPLY", word "dest", word "BY", word "source"] [],
    command "divide" [word "DIVIDE", word "dest", word "BY", word "source"] [],
    helper "target" [word "dest"] [],
    command "clear" [word "CLEAR", manyUnder "targets" "target"] []]

/-- What is written: a position with or without a value, or a value alone. -/
def written : Node :=
  .alternation (.sequence [positionUnder "at", maybe [word "source"]]) (word "source")

/-- List output, such as `SKIP TO LINE +to_line line` and `SKIP [ lines ]`. -/
def outputRules : List (String × Rule) :=
  [command "write" [word "WRITE", written, maybe [word "NO-ZERO", flag "no_zero"],
      maybe [word "NO-GAP", flag "no_gap"]] [],
    command "uline" [word "ULINE"] [],
    command "skip" [word "SKIP", word "TO", word "LINE", flag "to_line", word "line"]
      [[word "SKIP", maybe [word "lines"]]],
    command "new-line" [word "NEW-LINE"] []]

/-- A condition: `[ NOT +negate ] clause [ logic ]`. -/
def cond : String × Rule :=
  helper "cond" [maybe [word "NOT", flag "negate"], word "clause", maybe [word "logic"]] []

/-- A clause: `'(' sub:cond ')'`, `left IS [ NOT +not_initial ] INITIAL +initial` or
`left op right`. -/
def clause : String × Rule :=
  helper "clause" [.literal "(", under "sub" "cond", .literal ")"]
    [[word "left", word "IS", maybe [word "NOT", flag "not_initial"], word "INITIAL",
        flag "initial"],
      [word "left", word "op", word "right"]]

/-- A connective: `AND +and next:cond`, `OR +or next:cond` or `EQUIV +equiv next:cond`. -/
def logic : String × Rule :=
  helper "logic" [word "AND", flag "and", under "next" "cond"]
    [[word "OR", flag "or", under "next" "cond"],
      [word "EQUIV", flag "equiv", under "next" "cond"]]

/-- A statement of a keyword alone. -/
def bare (name keyword : String) : String × Rule :=
  command name [word keyword] []

/-- A statement of a keyword and a condition. -/
def conditional (name keyword : String) : String × Rule :=
  command name [word keyword, word "cond"] []

/-- Control structures, such as `DO [ count TIMES ]`. -/
def controlRules : List (String × Rule) :=
  [conditional "if" "IF", conditional "elseif" "ELSEIF", bare "else" "ELSE", bare "endif" "ENDIF",
    conditional "while" "WHILE", bare "endwhile" "ENDWHILE",
    command "do" [word "DO", maybe [word "count", word "TIMES"]] [], bare "enddo" "ENDDO",
    bare "exit" "EXIT", bare "continue" "CONTINUE", conditional "assert" "ASSERT"]

/-- The grammar of report programs. -/
def builtin : Grammar :=
  ofRules (declarationRules ++ assignmentRules ++ outputRules ++ [cond, clause, logic] ++
    controlRules)

end ReportLang.Grammar
