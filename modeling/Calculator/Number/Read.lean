import Calculator.Number.Shortest
import Calculator.Text.Digits

/-! Reading floating-point numbers: the number nearest to a decimal text, the even one of two as near. -/

namespace Calculator

namespace Decimal

/-- Every decimal from this power of ten on is too great for a finite number. -/
def overflowPower : Int := 310

/-- Every decimal below this power of ten is too small to be told from zero. -/
def underflowPower : Int := -330

/-- The number nearest to a decimal. The powers of ten far outside the range of finite numbers are never formed. -/
def toFloat (d : Decimal) : Float :=
  let size := d.exponent + (Nat.toDigits 10 d.coefficient).length
  if d.coefficient = 0 ∨ size < underflowPower then 0.0
  else if overflowPower < size then 1.0 / 0.0
  else if d.exponent < 0 then Float.ofScientific d.coefficient true d.exponent.natAbs
  else Float.ofScientific d.coefficient false d.exponent.natAbs

/-- Whether a character separates the digits of a decimal from its exponent. -/
def isExponentMark (c : Char) : Bool := c == 'e' || c == 'E'

/-- The decimal that a text without a sign spells: digits, with at most one point among or around them, and an
    exponent that may be missing. -/
def read? (cs : List Char) : Option Decimal := do
  let mantissa := cs.takeWhile (!isExponentMark ·)
  let whole := mantissa.takeWhile (· != '.')
  let fraction := (mantissa.dropWhile (· != '.')).drop 1
  let coefficient ← natural? (whole ++ fraction)
  let exponent ← match cs.dropWhile (!isExponentMark ·) with
    | [] => some 0
    | _ :: power => integer? power
  some ⟨coefficient, exponent - fraction.length⟩

end Decimal

/-- The number that a text without a sign spells. -/
def magnitude? (cs : List Char) : Option Float :=
  if cs = ['i', 'n', 'f'] then some (1.0 / 0.0)
  else if cs = ['n', 'a', 'n'] then some (0.0 / 0.0)
  else (Decimal.read? cs).map Decimal.toFloat

/-- The number that a text spells, if it spells one. -/
def float? (text : String) : Option Float :=
  let (negative, body) := sign text.toList
  (magnitude? body).map fun x => if negative then -x else x

end Calculator
