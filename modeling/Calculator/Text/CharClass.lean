/-! Classes of characters, given by the ranges of their code points. The classes that text is read by (blanks,
    letters, what goes on a name, what has no visible form) are all values of `CharClass`. -/

namespace Calculator

/-- A set of characters: the code points of `ranges`, each with its first and last member, in ascending order. -/
structure CharClass where
  ranges : List (Nat × Nat)

namespace CharClass

/-- The first range that does not end before `n` decides whether `n` is covered. -/
def covers : List (Nat × Nat) → Nat → Bool
  | [], _ => false
  | (first, last) :: more, n => if n ≤ last then first ≤ n else covers more n

/-- Whether a character belongs to a class. -/
def has (k : CharClass) (c : Char) : Bool := covers k.ranges c.toNat

end CharClass

end Calculator
