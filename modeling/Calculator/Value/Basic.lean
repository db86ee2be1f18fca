import Calculator.Number.Written
import Calculator.Text.Digits
import Calculator.Text.Quoted

/-! Values: what a line evaluates to and what a variable holds. A failure is a value too; it passes through later
    operations and can be stored. -/

namespace Calculator

/-- What an informational query asks for. -/
inductive Topic where
  | help
  | about
  deriving DecidableEq, Repr

/-- Why there is no number. -/
inductive Failure where
  /-- There is nothing to evaluate. -/
  | blank
  | notAStatement
  | notSupported
  | rationalNumber
  | divisionByZero
  | integerOverflow
  | numericOverflow
  | outsideDomain
  | tooDeep
  | unbound (name : String)
  /-- Any other failure, told in its own words. -/
  | told (message : String)
  deriving DecidableEq, Repr

/-- The words for a failure. -/
def Failure.message : Failure → String
  | blank => ""
  | notAStatement => "parsing error"
  | notSupported => "that operation isn't supported"
  | rationalNumber => "rational numbers aren't supported yet"
  | divisionByZero => "division by zero"
  | integerOverflow => "integer overflow"
  | numericOverflow => "numeric overflow"
  | outsideDomain => "math domain error"
  | tooDeep => "expression is nested too deeply"
  | unbound name => "no variable named " ++ name
  | told message => message

/-- What stops an operation on numbers, with the words for it where it has some of its own. -/
inductive Raised where
  | zeroDivision
  | overflow (words : String)
  | domain (words : String)
  deriving DecidableEq, Repr

/-- The failure that stands for what stopped an operation. -/
def Raised.failure : Raised → Failure
  | zeroDivision => .divisionByZero
  | overflow _ => .numericOverflow
  | domain _ => .outsideDomain

/-- A value. -/
inductive Value where
  | integer (v : Int)
  | float (x : Float)
  | error (cause : Failure)
  | info (topic : Topic)
  /-- What an assignment evaluates to. -/
  | nil
  /-- A value of a type that the calculator does not know. -/
  | foreign (typeName : String)
  deriving DecidableEq

namespace Value

/-- The name of a value's type. -/
def typeName : Value → String
  | integer _ => "Integer"
  | float _ => "Float"
  | error _ => "Error"
  | info _ => "Info"
  | nil => "Nil"
  | foreign name => name

/-- Whether a value is a number. -/
def isNumeric : Value → Bool
  | integer _ | float _ => true
  | _ => false

end Value

/-- The name of a topic. -/
def Topic.name : Topic → String
  | help => "HELP"
  | about => "ABOUT"

/-- A value in constructor form: the name of its type, then its fields. -/
def Value.described : Value → String
  | integer v => "Integer(v=" ++ integerText v ++ ")"
  | float x => "Float(v=" ++ floatText x ++ ")"
  | error cause => "Error(message=" ++ quoted cause.message ++ ")"
  | info topic => "Info(kind=" ++ topic.name ++ ")"
  | nil => "Nil()"
  | foreign name => name ++ "()"

end Calculator
