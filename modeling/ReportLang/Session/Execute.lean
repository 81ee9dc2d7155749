import ReportLang.Session.Condition
import ReportLang.Session.Declare
import ReportLang.Session.Output

/-!
# Execution

Executing instructions. `EXIT` leaves the innermost loop and `CONTINUE` starts its next pass. A loop
notes the number of its current pass, and takes it away when it ends, however it ends.
-/

namespace ReportLang.Session

/-- Stores a value in the place that a lexeme stands for. -/
def assign (dest : Lexeme) (value : Value) : Action Unit := do
  let target ← Action.look (·.reference dest)
  Action.onEnvironment (target.set value)

/-- Stores the value of one lexeme in the place of another. -/
def move (host : Host) (captures : Captures) : Action Unit := do
  let source ← captures.required "source"
  let value ← Action.read (·.operand host source)
  assign (← captures.required "dest") value

/-- The value on the right of an assignment: one operand, or two joined by an operation. -/
def computed (host : Host) (session : Session) (captures : Captures) : Reading Value := do
  let value ← session.operand host (← captures.required "source")
  match captures.single? "operator" with
  | none => return value
  | some symbol =>
    match Operation.ofSymbol? symbol with
    | none => throw (.unknownOperation symbol)
    | some operation =>
      let second ← session.operand host (← captures.required "operand")
      (value.calculate operation second).mapError RunError.value

/-- Stores the value of an expression. -/
def compute (host : Host) (captures : Captures) : Action Unit := do
  let value ← Action.read (·.computed host captures)
  assign (← captures.required "dest") value

/-- Changes a number by another one. -/
def changeBy (host : Host) (operation : Operation) (captures : Captures) : Action Unit := do
  let source ← captures.required "source"
  let value ← Action.read (·.operand host source)
  let dest ← captures.required "dest"
  let target ← Action.look (·.reference dest)
  let current ← Action.look fun session => target.get session.environment
  let result ← (current.calculate operation value).mapError RunError.value
  Action.onEnvironment (target.set result)

/-- Clears one place. -/
def clearOne (captures : Captures) : Action Unit := do
  let dest ← captures.required "dest"
  let target ← Action.look (·.reference dest)
  Action.onEnvironment target.clear

/-- Clears places one after the other. -/
def clearAll : List Captures → Action Unit
  | [] => return
  | captures :: rest => do
    clearOne captures
    clearAll rest

/-- Fails unless a condition holds. -/
def assert (host : Host) (captures : Captures) : Action Unit := do
  if !(← Action.read (·.condition host captures)) then
    throw (.assertionFailed captures)

/-- Executes a command that governs no block. -/
def executeCommand (host : Host) (command : Command) : Action Signal :=
  let captures := command.captures
  let proceed (action : Action Unit) : Action Signal := do
    action
    return .proceed
  match command.keyword with
  | "report" => proceed (giveTitle host captures)
  | "data" => proceed (declare host .plain captures)
  | "constants" => proceed (declare host .constant captures)
  | "types" => proceed (declare host .type captures)
  | "move" => proceed (move host captures)
  | "compute" => proceed (compute host captures)
  | "add" => proceed (changeBy host .add captures)
  | "subtract" => proceed (changeBy host .subtract captures)
  | "multiply" => proceed (changeBy host .multiply captures)
  | "divide" => proceed (changeBy host .divide captures)
  | "clear" => proceed (clearAll (captures.repeated "targets"))
  | "write" => proceed (write host captures)
  | "uline" => proceed (Action.onScreen Screen.underline)
  | "new-line" => proceed (Action.onScreen Screen.endLine)
  | "skip" => proceed (skip host captures)
  | "exit" => return .leaveLoop
  | "continue" => return .nextPass
  | "assert" => proceed (assert host captures)
  | other => throw (.notExecutable other)

/-- Notes the number of the current pass of the innermost loop. -/
def setPass (pass : Nat) (session : Session) : Session :=
  { session with loops := pass :: session.loops.tail }

/-- Runs a pass of a loop with the given number, and says whether the loop goes on. -/
def runPass (body : Action Signal) (pass : Nat) : Action Bool := do
  modify (setPass pass)
  return (← body) != .leaveLoop

/-- Runs a number of passes, numbered from `pass` on. -/
def countedPasses (body : Action Signal) : (left : Nat) → (pass : Nat) → Action Unit
  | 0, _ => return
  | left + 1, pass => do
    if ← runPass body pass then
      countedPasses body left (pass + 1)

/-- Runs passes for as long as a test holds, numbered from `pass` on and at most `left` of them. -/
def testedPasses (test : Action Bool) (body : Action Signal) :
    (left : Nat) → (pass : Nat) → Action Unit
  | 0, _ => do
    if ← test then
      throw (.crash .counterOverflow)
  | left + 1, pass => do
    if ← test then
      if ← runPass body pass then
        testedPasses test body left (pass + 1)

/-- The number of passes that can be counted: the counter has 64 bits, and the pass after the last
one would make it overflow. -/
def maxPasses : Nat := Text.integerMax.toNat

/-- Runs the passes of a loop, which has its own pass number for as long as it runs. -/
def withinLoop (passes : Action Unit) : Action Signal := fun session =>
  let (result, ended) := passes { session with loops := 0 :: session.loops }
  (result.map fun _ => .proceed, { ended with loops := ended.loops.tail })

/-- Runs a loop for as long as a condition holds. -/
def whileLoop (host : Host) (captures : Captures) (body : Action Signal) : Action Signal :=
  withinLoop (testedPasses (Action.read (·.condition host captures)) body maxPasses 1)

/-- Runs a loop a number of times, or until it is left if no number is written. -/
def doLoop (host : Host) (captures : Captures) (body : Action Signal) : Action Signal :=
  match captures.single? "count" with
  | none => withinLoop (testedPasses (pure true) body maxPasses 1)
  | some lexeme => do
    let times ← Action.read (·.count host lexeme)
    withinLoop (countedPasses body times.toNat 1)

mutual

/-- Executes an instruction. -/
def execute (host : Host) : Instruction → Action Signal
  | .simple command => executeCommand host command
  | .choice branches => executeFirst host branches
  | .block opener body =>
    if opener.keyword = "while" then whileLoop host opener.captures (executeAll host body)
    else if opener.keyword = "do" then doLoop host opener.captures (executeAll host body)
    else do
      declareRecord host opener body
      return .proceed

/-- Executes instructions in order, until one of them ends otherwise than by proceeding. -/
def executeAll (host : Host) : List Instruction → Action Signal
  | [] => return .proceed
  | instruction :: rest => do
    match ← execute host instruction with
    | .proceed => executeAll host rest
    | signal => return signal

/-- Executes the first branch whose condition holds. -/
def executeFirst (host : Host) : List (Command × List Instruction) → Action Signal
  | [] => return .proceed
  | (command, body) :: rest => do
    if ← Action.read (·.condition host command.captures) then
      executeAll host body
    else
      executeFirst host rest

end

end ReportLang.Session
