import Calculator.Value.Floats
import Calculator.Value.Integers

/-! Operators on values of any kind. -/

namespace Calculator

/-- The value of an attempt. What stops it is caught as a failure. -/
def Value.ofAttempt : Except Raised Value → Value
  | .ok value => value
  | .error raised => .error raised.failure

namespace Operator

/-- What an operator makes of two values, or what stops it. Two integers give an integer; with one floating-point number
    the other operand is widened to one. Nothing else has a value. -/
def attempt (op : Operator) (a b : Value) : Except Raised Value :=
  match a, b with
  | .integer x, .integer y => Value.integers op x y
  | .integer x, .float y => Value.widen? x >>= fun x => Value.floats op x y
  | .float x, .integer y => Value.widen? y >>= fun y => Value.floats op x y
  | .float x, .float y => Value.floats op x y
  | _, _ => .ok (.error .notSupported)

/-- The value of an operator on two values. A failure passes through, the left one first. -/
def apply (op : Operator) (a b : Value) : Value :=
  match a, b with
  | .error cause, _ => .error cause
  | _, .error cause => .error cause
  | a, b => .ofAttempt (op.attempt a b)

theorem attempt_integer_float (op : Operator) (x : Int) (y : Float) :
    op.attempt (.integer x) (.float y) = Value.widen? x >>= fun x => Value.floats op x y := rfl

theorem attempt_float_integer (op : Operator) (x : Float) (y : Int) :
    op.attempt (.float x) (.integer y) = Value.widen? y >>= fun y => Value.floats op x y := rfl

end Operator

end Calculator
