/-! The part of a line that an error message shows, and the pointer under it. -/

namespace Calculator

/-- A line that points at a column of the line above it. -/
def pointer (column : Nat) : String := String.ofList (List.replicate column ' ' ++ ['^'])

/-- A piece of a line and a column in it. -/
structure Excerpt where
  line : String
  column : Nat
  deriving DecidableEq, Repr

namespace Excerpt

/-- How many characters are shown on either side. -/
def reach : Nat := 10

/-- What stands for the part of a line that is left out. -/
def ellipsis : List Char := ['.', '.', '.']

/-- The neighbourhood of a position: the characters within reach on both sides, with an ellipsis where the line goes
    on, and the position's column in this piece. -/
def around (line : String) (position : Nat) : Excerpt :=
  let cs := line.toList
  let start := position - reach
  let stop := min cs.length (position + reach)
  let head := if 0 < start then ellipsis else []
  let tail := if stop < cs.length then ellipsis else []
  ⟨String.ofList (head ++ (cs.take stop).drop start ++ tail), position - start + head.length⟩

end Excerpt

end Calculator
