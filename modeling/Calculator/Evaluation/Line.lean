import Calculator.Evaluation.Node
import Calculator.Node.Parse
import Calculator.Token.Scan

/-! The evaluation of a line. What is wrong with the line as a text is a failure like any other, and so is a statement
    that goes too deep. -/

namespace Calculator

/-- The evaluation of a statement; one that goes too deep fails. -/
def evaluateStatement (node : Node) : Evaluation Value :=
  node.evaluation.recover fun fault =>
    match fault with
    | .tooDeep => .ok (.error .tooDeep)
    | fault => .error fault

/-- The evaluation of a line that is no statement, with a remark on why. -/
def rejectLine (reason : Remark) : Evaluation Value := do
  .remark reason fullRoom
  pure (.error .notAStatement)

/-- The evaluation of a line's tokens. -/
def evaluateTokens (line : String) (tokens : List Token) : Evaluation Value :=
  match Node.ofTokens tokens with
  | .ok node => evaluateStatement node
  | .error (.rejected cause rest) => rejectLine (.rejected line (ParseError.locate cause tokens rest).message)
  | .error .tooDeep => rejectLine (.rejectedTooDeep line)
  | .error .ranOut => .fail .missing

/-- The evaluation of a line. A blank one fails. -/
def evaluateLine (line : String) : Evaluation Value :=
  match Token.scan line with
  | .error e => rejectLine (.rejected line e.message)
  | .ok [] => pure (.error .blank)
  | .ok tokens => evaluateTokens line tokens

end Calculator
