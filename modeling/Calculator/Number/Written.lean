import Calculator.Number.Shortest

/-! How floating-point numbers are written: the digits of the shortest decimal, either with a point at its place or
    with an exponent. -/

namespace Calculator

/-- The choices of a way to write floating-point numbers. -/
structure FloatStyle where
  /-- The least power of ten of a leading digit that is written without an exponent. -/
  pointFrom : Int
  /-- The power of ten of a leading digit from which on an exponent is written. -/
  exponentFrom : Int
  /-- The least number of digits of an exponent. -/
  exponentWidth : Nat

namespace FloatStyle

/-- Digits with a point before the power of ten `-1`; whole numbers keep one zero behind the point. -/
def withPoint (digits : List Char) (exponent : Int) : List Char :=
  let lead := exponent + digits.length
  if 0 ≤ exponent then digits ++ List.replicate exponent.toNat '0' ++ ['.', '0']
  else if 0 < lead then digits.take lead.toNat ++ '.' :: digits.drop lead.toNat
  else '0' :: '.' :: List.replicate (-lead).toNat '0' ++ digits

/-- Digits with a point behind the first, unless it stands alone, and the power of ten of the first. -/
def withExponent (width : Nat) (digits : List Char) (lead : Int) : List Char :=
  let power := Nat.toDigits 10 lead.natAbs
  let fraction := digits.drop 1
  digits.take 1 ++ (if fraction.isEmpty then [] else '.' :: fraction) ++
    ['e', if lead < 0 then '-' else '+'] ++ List.replicate (width - power.length) '0' ++ power

/-- A magnitude in decimal digits. -/
def magnitude (style : FloatStyle) (d : Decimal) : List Char :=
  let digits := Nat.toDigits 10 d.coefficient
  let lead := d.exponent + digits.length - 1
  if style.pointFrom ≤ lead ∧ lead < style.exponentFrom then withPoint digits d.exponent
  else withExponent style.exponentWidth digits lead

/-- A number as text. Zero keeps its sign; what is not a number has none. -/
def write (style : FloatStyle) (x : Float) : String :=
  if x.isNaN then "nan"
  else
    let b := Binary.ofFloat x
    let sign := if Binary.isNegative x then ['-'] else []
    let body :=
      if x.isInf then ['i', 'n', 'f']
      else if b.significand = 0 then style.magnitude ⟨0, 0⟩
      else style.magnitude (Shortest.decimal b)
    String.ofList (sign ++ body)

end FloatStyle

/-- The calculator writes numbers from a ten-thousandth up to ten quadrillions without an exponent, and exponents
    with a sign and at least two digits. -/
def floatStyle : FloatStyle := ⟨-4, 16, 2⟩

/-- A number as the calculator writes it. -/
def floatText (x : Float) : String := floatStyle.write x

end Calculator
