import Calculator.Value.Apply

/-! Remarks: what a session tells, besides its results, to whoever wants to know why. -/

namespace Calculator

/-- Something worth telling that happens during an evaluation. -/
inductive Remark where
  /-- A line is no statement; the message says why. -/
  | rejected (line message : String)
  /-- A line opens too many brackets. -/
  | rejectedTooDeep (line : String)
  /-- A number is too great; the words say which. -/
  | overflowed (op : Operator) (a b : Value) (words : String)
  /-- An operation has no value at its operands. -/
  | outsideDomain (op : Operator) (a b : Value) (words : String)
  /-- An operation has no value at operands of these types. -/
  | undefined (op : Operator) (a b : Value)
  /-- A variable takes a value. -/
  | assigned (name : String) (value : Value)
  deriving DecidableEq

namespace Remark

/-- The remark on an operation, if what comes of it calls for one. A failure that passes through does not, and neither
    does a division by zero. -/
def onOperation? (op : Operator) (a b : Value) : Option Remark :=
  match a, b, op.attempt a b with
  | .error _, _, _ => none
  | _, .error _, _ => none
  | _, _, .error (.overflow words) => some (.overflowed op a b words)
  | _, _, .error (.domain words) => some (.outsideDomain op a b words)
  | _, _, .ok (.error .notSupported) => some (.undefined op a b)
  | _, _, _ => none

/-- The part of the calculator that a remark comes from. -/
def source : Remark → String
  | .assigned _ _ => "linecalc.environment"
  | _ => "linecalc.runtime"

/-- What a remark says. -/
def message : Remark → String
  | rejected line message => "Rejected " ++ quoted line ++ ":\n" ++ message
  | rejectedTooDeep line => "Rejected " ++ quoted line ++ ": brackets nested too deeply"
  | overflowed op a b words => op.title ++ " of " ++ a.described ++ " and " ++ b.described ++ " overflowed: " ++ words
  | outsideDomain op a b words =>
    op.title ++ " of " ++ a.described ++ " and " ++ b.described ++ " is outside the domain: " ++ words
  | undefined op a b => op.title ++ " is not defined for " ++ a.typeName ++ " and " ++ b.typeName
  | assigned name value => name ++ " = " ++ value.described

/-- A remark as a log shows it. -/
def text (r : Remark) : String := "DEBUG " ++ r.source ++ ": " ++ r.message

end Remark

end Calculator
