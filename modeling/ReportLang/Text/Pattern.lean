import ReportLang.Text.Automaton
import ReportLang.Text.Case
import ReportLang.Text.Engine
import ReportLang.Text.Expression

/-!
# An engine for patterns

The engine that the running program has. It builds the expressions that patterns are translated to
and no others. Case does not count.

An expression can be too large to be built. What counts are the two automata that decide it, one
that reads a text forward and one that reads it backward: neither may take more than a fixed number
of bytes.
-/

namespace ReportLang.Text

/-- Whether two characters differ at most in case. -/
def sameApartFromCase (c d : Char) : Bool :=
  foldChar c = foldChar d

/-- For each entry whether it or a later one is true. -/
def trueFromHere : List Bool → List Bool
  | [] => []
  | b :: rest =>
    let later := trueFromHere rest
    (b || later.headD false) :: later

/-- For each end of the text, the longest first, whether the pattern covers it. There is one end
more than there are characters. -/
def coverage (text : List Char) : List Wildcard → List Bool
  | [] => text.map (fun _ => false) ++ [true]
  | .run :: rest => trueFromHere (coverage text rest)
  | .any :: rest => (coverage text rest).tail ++ [false]
  | .exactly c :: rest =>
    List.zipWith (fun d covered => sameApartFromCase c d && covered) text
      (coverage text rest).tail ++ [false]

/-- Adds to an automaton the states that read a part of a pattern. A character that has no variants
is read byte by byte, variants within ASCII by one branch. -/
def Wildcard.extend (part : Wildcard) (direction : Direction) (extent : Extent) : Extent :=
  match part with
  | .run => ((extent.addStates 1).addSequences ByteSequence.ofAnyChar direction).addChoices 2
  | .any => extent.addSequences ByteSequence.ofAnyChar direction
  | .exactly c =>
    let variants := caseVariants c
    let sequences := ByteSequence.ofChars variants
    if variants.length = 1 then extent.addStates c.utf8Size
    else if variants.all (·.toNat < 128) then (extent.addStates 1).addBranch sequences.length
    else extent.addSequences sequences direction

/-- The states of an automaton before those of the pattern: its entry and the end of the text where
it starts, and for reading forward one that notes where the text was entered. -/
def Direction.openingStates : Direction → Nat
  | .forward => 3
  | .backward => 2

/-- The states of an automaton after those of the pattern: the other end of the text and
acceptance, and for reading forward one that notes where the text was left. -/
def Direction.closingStates : Direction → Nat
  | .forward => 3
  | .backward => 2

/-- The most bytes that an automaton can take. -/
def maxAutomatonSize : Nat := 10485760

/-- Whether an automaton stays within its limit when it goes on with the given parts. -/
def fitsWith (direction : Direction) (extent : Extent) : List Wildcard → Bool
  | [] => (extent.addStates direction.closingStates).bytes ≤ maxAutomatonSize
  | part :: rest =>
    extent.bytes ≤ maxAutomatonSize && fitsWith direction (part.extend direction extent) rest

/-- How many parts a pattern can have whatever they are. The largest part is a run, which takes
1004 bytes in an automaton that reads backward. -/
def freeParts : Nat := 10000

/-- Whether parts make automata that are too large. -/
def areTooLarge (parts : List Wildcard) : Bool :=
  freeParts < parts.length &&
    !(fitsWith .forward ⟨Direction.forward.openingStates, 0⟩ parts &&
      fitsWith .backward ⟨Direction.backward.openingStates, 0⟩ parts.reverse)

/-- What is wrong with an expression that is too large. -/
def tooLargeText : String :=
  "Compiled regex exceeds size limit of " ++ toString maxAutomatonSize ++ " bytes."

/-- The engine for the expressions of patterns. -/
def patternEngine : Engine where
  escape text := String.ofList (text.toList.flatMap quoted)
  build source :=
    match readExpression source with
    | some parts =>
      if areTooLarge parts then .error tooLargeText
      else .ok fun text => (coverage text.toList parts).headD false
    | none => .error "unsupported expression"

end ReportLang.Text
