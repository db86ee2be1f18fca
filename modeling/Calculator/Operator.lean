/-! The six binary operators and how tightly they bind: remainder before powers, powers before products and
    quotients, these before sums and differences. Powers group from the right, all others from the left. -/

namespace Calculator

/-- A binary operator. -/
inductive Operator where
  | add
  | sub
  | mul
  | div
  | pow
  | rem
  deriving DecidableEq, Repr

namespace Operator

/-- The short name of an operator. -/
def name : Operator → String
  | add => "ADD"
  | sub => "SUB"
  | mul => "MUL"
  | div => "DIV"
  | pow => "POW"
  | rem => "REM"

/-- The noun for what an operator does. -/
def title : Operator → String
  | add => "Addition"
  | sub => "Subtraction"
  | mul => "Multiplication"
  | div => "Division"
  | pow => "Power"
  | rem => "Remainder"

/-- How tightly an operator binds. -/
def precedence : Operator → Nat
  | add | sub => 1
  | mul | div => 2
  | pow => 3
  | rem => 4

/-- Whether a run of the operator groups from the right. -/
def groupsRight : Operator → Bool
  | pow => true
  | _ => false

/-- Whether the operand between `op` and the operator `next` behind it belongs to `next`. -/
def bindsTighter (next op : Operator) : Bool :=
  if next.precedence = op.precedence then next.groupsRight else op.precedence < next.precedence

end Operator

end Calculator
