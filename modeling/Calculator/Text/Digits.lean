/-! Runs of decimal digits, and the integers they stand for. Only the ten ASCII digits are digits of a number. -/

namespace Calculator

/-- The digits that a text starts with, if it starts with any, and what follows them. -/
def digits? (cs : List Char) : Option (List Char × List Char) :=
  match cs.takeWhile Char.isDigit with
  | [] => none
  | d :: ds => some (d :: ds, cs.dropWhile Char.isDigit)

/-- The number that a run of digits stands for; a text with anything else in it stands for none. -/
def natural? (cs : List Char) : Option Nat :=
  if cs.isEmpty || !cs.all Char.isDigit then none else some (Nat.ofDigitChars 10 cs 0)

/-- The sign that a text starts with (`true` for a minus) and what follows it. A missing sign is a plus. -/
def sign : List Char → Bool × List Char
  | '-' :: cs => (true, cs)
  | '+' :: cs => (false, cs)
  | cs => (false, cs)

/-- The integer that a run of digits with an optional sign stands for. -/
def integer? (cs : List Char) : Option Int :=
  let (negative, digits) := sign cs
  (natural? digits).map fun n => if negative then -(n : Int) else n

/-- An integer in decimal digits, with a minus sign where it is negative. -/
def integerText (v : Int) : String :=
  String.ofList ((if v < 0 then ['-'] else []) ++ Nat.toDigits 10 v.natAbs)

end Calculator
