import Calculator.Operator
import Calculator.Number.Binary
import Calculator.Value.Basic

/-! Arithmetic on floating-point numbers. A division by zero stops an operation and gives no infinity; so does a power or
    a remainder of finite numbers that has no finite value. -/

namespace Calculator

/-- The remainder of two magnitudes. It is exact: both are multiples of the smaller unit, and so is the remainder. -/
def Binary.remainder (a b : Binary) : Binary :=
  let e := min a.exponent b.exponent
  ⟨a.atExponent e % b.atExponent e, e⟩

namespace Value

/-- The remainder of a division whose quotient is truncated toward zero, by a divisor other than zero. It has the sign
    of the dividend. No infinite number has a remainder, and an infinite divisor leaves a finite number as it is. -/
def floatRemainder (a b : Float) : Except Raised Value :=
  if a.isNaN || b.isNaN then .ok (.float (0.0 / 0.0))
  else if a.isInf then .error (.domain "math domain error")
  else if b.isInf then .ok (.float a)
  else .ok (.float (((Binary.ofFloat a).remainder (Binary.ofFloat b)).toFloat (Binary.isNegative a)))

/-- A power. Of finite numbers it is a finite number or none; infinite numbers and what is not a number have their limits
    as powers. -/
def floatPower (a b : Float) : Except Raised Value :=
  let r := Float.pow a b
  if a.isFinite && b.isFinite then
    if r.isNaN then .error (.domain "math domain error")
    else if r.isInf then .error (.overflow "math range error")
    else .ok (.float r)
  else .ok (.float r)

/-- An operator on two floating-point numbers. -/
def floats (op : Operator) (a b : Float) : Except Raised Value :=
  match op with
  | .add => .ok (.float (a + b))
  | .sub => .ok (.float (a - b))
  | .mul => .ok (.float (a * b))
  | .div => if b == 0 then .error .zeroDivision else .ok (.float (a / b))
  | .rem => if b == 0 then .error .zeroDivision else floatRemainder a b
  | .pow => if a == 0 && b < 0 then .error .zeroDivision else floatPower a b

end Value

end Calculator
