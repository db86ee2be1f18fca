import Calculator.Evaluation.Basic
import Calculator.Grouping
import Calculator.Node.Basic
import Calculator.Number.Read

/-! The evaluation of nodes. The operands of a chain are evaluated from left to right, each when the operators around it
    need it. An evaluation has room for so many levels, one inside the other, and no more. -/

namespace Calculator

/-! ### Literals -/

/-- How many digits the greatest integer has. No integer in range has more. -/
def integerDigits : Nat := 39

/-- The value of an integer literal. Minus signs and zeros in front are no digits that count; a number of too many
    digits is out of range, whatever they are. -/
def integerLiteral (text : String) : Except Fault Value :=
  let digits := (text.toList.dropWhile (· == '-')).dropWhile (· == '0')
  if integerDigits < digits.length then .ok (.error .integerOverflow)
  else
    match if digits.isEmpty then some 0 else natural? digits with
    | some n => .ok (.ofExact (if text.toList.head? = some '-' then -(n : Int) else n))
    | none => .error (.malformed text)

/-- The value of a floating-point literal. -/
def floatLiteral (text : String) : Except Fault Value :=
  match float? text with
  | some x => .ok (.float x)
  | none => .error (.malformed text)

/-! ### Room -/

/-- An evaluation that depends on how many levels there is room for. -/
abbrev Action := Nat → Evaluation Value

/-- How many levels there are for a whole statement. Of a stack of 1000 frames, three are taken above the statement, and
    six are left free below every level, for what an operand without brackets calls. -/
def fullRoom : Nat := 991

/-- How many levels a chain takes for itself: the frames of its node, of its climb, and of the call for an operand. -/
def chainLevels : Nat := 3

namespace Action

/-- An action that takes a level. -/
def within (action : Action) : Action := fun room => if room = 0 then .fail .tooDeep else action room

/-- An operand that is not there. -/
def missing : Action := fun _ => .fail .missing

/-- A chain's operators, each with the operand behind it. -/
def links : List Operator → List Action → List (Link Action)
  | [], _ => []
  | op :: operators, action :: actions => ⟨op, action⟩ :: links operators actions
  | op :: operators, [] => ⟨op, missing⟩ :: links operators []

/-- A chain's operands, grouped. -/
def group : List Action → List Operator → Grouping Action
  | [], operators => Grouping.ofChain missing (links operators [])
  | action :: actions, operators => Grouping.ofChain action (links operators actions)

end Action

/-- Evaluates the operands of a grouping from left to right, and each operator as soon as both its sides have a value.
    The first operand stands at the level `own` and the left side's other operands at the level `inner`, as the operator
    does; so does the first operand of the right side, whose other operands stand one level deeper. A level is the frame of
    one climb inside the other. -/
def Grouping.evaluate : Grouping Action → (own inner room : Nat) → Evaluation Value
  | .operand action, own, _, room => action (room - chainLevels - own)
  | .binary op left right, own, inner, room => do
    let x ← left.evaluate own inner room
    let y ← right.evaluate inner (inner + 1) room
    Evaluation.operation op x y (room - chainLevels - inner)

/-! ### Nodes -/

namespace Node

mutual

/-- The evaluation of a node. -/
def action : Node → Action
  | .integer text => Action.within fun _ => .ofExcept (integerLiteral text)
  | .float text => Action.within fun _ => .ofExcept (floatLiteral text)
  | .rational _ => Action.within fun _ => pure (.error .rationalNumber)
  | .symbol name => Action.within fun _ => .lookup name
  | .chain operands operators => Action.within fun room => (Action.group (actions operands) operators).evaluate 0 1 room
  | .assignment target value => Action.within fun room => do
    let x ← action value (room - 1)
    .assign target x
    pure .nil
  | .help => Action.within fun _ => pure (.info .help)
  | .about => Action.within fun _ => pure (.info .about)
  | .foreign description => Action.within fun _ => .fail (.foreignNode description)

/-- The evaluations of a list of nodes. -/
def actions : List Node → List Action
  | [] => []
  | node :: more => action node :: actions more

end

/-- The evaluation of a node, with room for a whole statement. -/
def evaluation (node : Node) : Evaluation Value := node.action fullRoom

end Node

end Calculator
