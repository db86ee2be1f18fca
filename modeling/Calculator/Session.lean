import Calculator.Evaluation.Line
import Calculator.History
import Calculator.Value.Shown

/-! A session: lines are entered one after the other. Each is kept in the history and evaluated, and the last number
    that came out is kept in a variable. Blank lines do nothing but end a walk through the history. -/

namespace Calculator

/-- The variable that holds the last number. -/
def answerName : String := "ans"

/-- Keeps a value as the last number, if it is one. -/
def Evaluation.keepAnswer (value : Value) : Evaluation Unit :=
  if value.isNumeric then .assign answerName value else pure ()

/-- The variables and the history of a session. -/
structure Session where
  bindings : Bindings
  history : History
  deriving DecidableEq

/-- What comes of something that is done in a session. -/
structure Reply (α : Type) where
  result : Except Fault α
  session : Session
  remarks : List Remark

namespace Session

/-- A new session. -/
def start : Session := ⟨.initial, .empty⟩

/-- Runs an evaluation on the variables of a session, with a log or without. -/
def runIn {α : Type} (verbose : Bool) (s : Session) (evaluation : Evaluation α) : Reply α :=
  let o := evaluation.runIn verbose s.bindings
  ⟨o.result, { s with bindings := o.bindings }, o.remarks⟩

/-- Runs an evaluation without a log. -/
def run {α : Type} (s : Session) (evaluation : Evaluation α) : Reply α := s.runIn false evaluation

/-- The evaluation of an entered line. -/
def entered (line : String) : Evaluation (Option Value) := do
  let value ← evaluateLine line
  .keepAnswer value
  pure (some value)

/-- Enters a line, with a log or without. A blank line has no value. -/
def submitIn (verbose : Bool) (s : Session) (line : String) : Reply (Option Value) :=
  let history := s.history.reset
  if isBlankText line then ⟨.ok none, { s with history := history }, []⟩
  else ({ s with history := history.add line } : Session).runIn verbose (entered line)

/-- Enters a line without a log. -/
def submit (s : Session) (line : String) : Reply (Option Value) := s.submitIn false line

end Session

end Calculator
