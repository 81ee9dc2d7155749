import ReportLang.Text.Case
import ReportLang.Text.Class
import ReportLang.Text.Split

/-!
# Terminals

The bare words of a grammar description. The spelling of a word alone decides its role; whether a
plain word stands for a rule, a keyword or a captured lexeme depends on the grammar around it.
-/

namespace ReportLang

/-- How a terminal takes part in matching. -/
inductive Terminal.Role where
  /-- `+name` notes the name and reads nothing. -/
  | flag
  /-- `name` or `capture:rule`. -/
  | word
  /-- `rule+` or `capture:rule+`, any number of matches of a rule. -/
  | repetition
  /-- `<at>` or `capture:<at>`, a write position. -/
  | position
deriving DecidableEq

/-- A bare word of a grammar description. -/
structure Terminal where
  /-- The name under which a match is kept. -/
  capture : String
  /-- The rule, keyword or capture that is meant. -/
  target : String
  /-- How it takes part in matching. -/
  role : Terminal.Role
  /-- Whether it is written as `capture:target`. -/
  named : Bool
deriving DecidableEq

namespace Terminal

/-- The word that stands for a write position. -/
def positionWord : String := "<at>"

/-- Whether characters form a name: letters, numbers and underscores, at least one. -/
def isIdentifier (chars : List Char) : Bool :=
  !chars.isEmpty && chars.all fun c => c == '_' || Text.isAlphanumeric c

/-- The name after a plus sign, if a word is a flag. -/
def flagName? (word : String) : Option String :=
  match word.toList with
  | '+' :: name => if isIdentifier name then some (String.ofList name) else none
  | _ => none

/-- The rule before a plus sign, if a target is a repetition. -/
def repeatedRule? (target : String) : Option String :=
  match target.toList.reverse with
  | '+' :: name => if isIdentifier name then some (String.ofList name.reverse) else none
  | _ => none

/-- The terminal for a target, under a capture name if one is written. -/
def ofTarget (capture : Option String) (target : String) : Terminal :=
  if target = positionWord then
    ⟨capture.getD "at", target, .position, capture.isSome⟩
  else
    match repeatedRule? target with
    | some rule => ⟨capture.getD rule, rule, .repetition, capture.isSome⟩
    | none => ⟨capture.getD target, target, .word, capture.isSome⟩

/-- The terminal that a word spells. -/
def ofWord (word : String) : Terminal :=
  match flagName? word with
  | some name => ⟨name, name, .flag, false⟩
  | none =>
    match Text.splitFirst? ':' word.toList with
    | some (capture, target) => ofTarget (some (String.ofList capture)) (String.ofList target)
    | none => ofTarget none word

/-- Whether a terminal is a required keyword: a plain word in upper case. -/
def isKeyword (terminal : Terminal) : Bool :=
  terminal.role = .word && Text.upper terminal.target = terminal.target

/-- Whether a terminal has to name a rule of the grammar. -/
def isReference (terminal : Terminal) : Bool :=
  match terminal.role with
  | .repetition => true
  | .word => terminal.named && !terminal.isKeyword
  | .flag | .position => false

/-- The word that spells a terminal. -/
def spelling (terminal : Terminal) : String :=
  let capture := if terminal.named then terminal.capture ++ ":" else ""
  let target := capture ++ terminal.target
  match terminal.role with
  | .flag => "+" ++ terminal.capture
  | .repetition => target ++ "+"
  | .word | .position => target

end Terminal

end ReportLang
