import Calculator.Operator
import Calculator.Value.Basic

/-! Arithmetic on integers: exact, and within the signed range of 128 bits. A result outside the range is a failure; a
    division by zero, and an integer that is too great to leave the integers, stop the operation. -/

namespace Calculator

/-- The least integer. -/
def leastInteger : Int := -Int.pow 2 127

/-- The greatest integer. -/
def greatestInteger : Int := Int.pow 2 127 - 1

/-- Whether an integer is in range. -/
def InRange (v : Int) : Prop := leastInteger ≤ v ∧ v ≤ greatestInteger

instance (v : Int) : Decidable (InRange v) := by unfold InRange; infer_instance

namespace Value

/-- An integer, if it is in range. -/
def ofExact (v : Int) : Value := if InRange v then .integer v else .error .integerOverflow

/-- The floating-point number nearest to an integer. -/
def widen (v : Int) : Float := Float.ofInt v

/-- The least magnitude that is too great for a floating-point number. It lies halfway between the greatest of them and
    the power of two above it. -/
def wideningLimit : Nat := (Nat.pow 2 54 - 1) * Nat.pow 2 970

/-- An integer as a floating-point number, unless it is too great for one. -/
def widen? (v : Int) : Except Raised Float :=
  if v.natAbs < wideningLimit then .ok (widen v) else .error (.overflow "int too large to convert to float")

/-- A power of `-1`, `0` or `1`, told from the exponent's parity. -/
def unitPower (a : Int) (n : Nat) : Int :=
  if n = 0 then 1 else if n % 2 = 0 then a * a else a

/-- A power of integers whose exponent is negative. It leaves the integers, so both are widened first. -/
def negativePower (a b : Int) : Except Raised Value := do
  let x ← widen? a
  let y ← widen? b
  if a = 0 then .error .zeroDivision else .ok (.float (Float.pow x y))

/-- A power of integers. The powers of any other base than `-1`, `0` and `1` leave the range before the exponent reaches
    128. -/
def integerPower (a b : Int) : Except Raised Value :=
  if b < 0 then negativePower a b
  else if a.natAbs ≤ 1 then .ok (.integer (unitPower a b.toNat))
  else if 127 < b then .ok (.error .integerOverflow)
  else .ok (ofExact (a.pow b.toNat))

/-- An operator on two integers. Quotients are truncated toward zero, and a remainder has the sign of the dividend. -/
def integers (op : Operator) (a b : Int) : Except Raised Value :=
  match op with
  | .add => .ok (ofExact (a + b))
  | .sub => .ok (ofExact (a - b))
  | .mul => .ok (ofExact (a * b))
  | .div => if b = 0 then .error .zeroDivision else .ok (ofExact (a.tdiv b))
  | .rem => if b = 0 then .error .zeroDivision else .ok (ofExact (a.tmod b))
  | .pow => integerPower a b

end Value

end Calculator
