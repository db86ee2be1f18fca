import Calculator.Text.CharClass

/-! White space: what separates tokens and is never part of one. -/

namespace Calculator.CharClass

/-- The spaces of every width, tabs, line ends and the four separator control characters. -/
def blank : CharClass where
  ranges := [
    (0x9, 0xd), (0x1c, 0x20), (0x85, 0x85), (0xa0, 0xa0), (0x1680, 0x1680), (0x2000, 0x200a), (0x2028, 0x2029),
    (0x202f, 0x202f), (0x205f, 0x205f), (0x3000, 0x3000)]

end Calculator.CharClass

namespace Calculator

/-- Whether a character is white space. -/
def isBlank (c : Char) : Bool := CharClass.blank.has c

/-- Whether a text holds nothing but white space. -/
def isBlankText (text : String) : Bool := text.toList.all isBlank

/-- A text without the white space at its end. -/
def dropBlankEnd (cs : List Char) : List Char := (cs.reverse.dropWhile isBlank).reverse

end Calculator
