import Calculator.Text.Visible

/-! Quoted text: a text between quotes, on one line and with every character visible. A backslash, the quote in use
    and every character without a visible form are written as escapes. -/

namespace Calculator.Quoted

/-- The quote around a text: a single one, unless that would need escapes which a double one does not. -/
def mark (cs : List Char) : Char :=
  if cs.contains '\'' && !cs.contains '"' then '"' else '\''

/-- A number in lower-case hexadecimal digits, filled up with zeros to a width. -/
def hexadecimal (width n : Nat) : List Char :=
  let digits := Nat.toDigits 16 n
  List.replicate (width - digits.length) '0' ++ digits

/-- The escape that names a character by its code point, in the narrowest of the three forms that holds it. -/
def codePoint (c : Char) : List Char :=
  if c.toNat < 0x100 then '\\' :: 'x' :: hexadecimal 2 c.toNat
  else if c.toNat < 0x10000 then '\\' :: 'u' :: hexadecimal 4 c.toNat
  else '\\' :: 'U' :: hexadecimal 8 c.toNat

/-- How a character stands between two quotes `q`. -/
def escape (q c : Char) : List Char :=
  if c = q ∨ c = '\\' then ['\\', c]
  else if c = '\n' then ['\\', 'n']
  else if c = '\r' then ['\\', 'r']
  else if c = '\t' then ['\\', 't']
  else if isVisible c then [c]
  else codePoint c

end Quoted

/-- A text in quotes. -/
def quoted (text : String) : String :=
  let q := Quoted.mark text.toList
  String.ofList (q :: text.toList.flatMap (Quoted.escape q) ++ [q])

end Calculator
