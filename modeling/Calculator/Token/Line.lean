import Calculator.Token.Basic
import Calculator.Text.Blank

/-! Tokens written as a line: one space between neighbours, but none inside a bracket's edges and none around a
    caret. -/

namespace Calculator.Token

/-- A text without the blanks that follow an opening bracket. -/
def tightenOpen : List Char → List Char
  | [] => []
  | c :: cs => c :: tightenOpen (if c = '(' then cs.dropWhile isBlank else cs)
termination_by cs => cs.length
decreasing_by
  split
  · exact Nat.lt_succ_of_le (List.dropWhile_sublist _).length_le
  · exact Nat.lt_succ_self _

/-- Whether the blanks at the start of a text, if any, are followed by a closing bracket. -/
def closesNext (cs : List Char) : Bool := (cs.dropWhile isBlank).head? == some ')'

/-- A text without the blanks that precede a closing bracket. -/
def tightenClose : List Char → List Char
  | [] => []
  | c :: cs => if isBlank c && closesNext cs then tightenClose cs else c :: tightenClose cs

/-- What follows the blanks around a caret, where the blanks at the start of a text lead to a caret with more blanks
    behind it. -/
def afterCaret? (cs : List Char) : Option (List Char) :=
  match cs.dropWhile isBlank with
  | '^' :: b :: rest => if isBlank b then some (rest.dropWhile isBlank) else none
  | _ => none

theorem length_of_afterCaret? {cs rest : List Char} (h : afterCaret? cs = some rest) : rest.length ≤ cs.length := by
  have whole := (List.dropWhile_sublist (p := isBlank) (l := cs)).length_le
  unfold afterCaret? at h
  split at h
  · rename_i b tail split
    have part := (List.dropWhile_sublist (p := isBlank) (l := tail)).length_le
    rw [split] at whole
    simp only [List.length_cons] at whole
    split at h
    · cases h
      omega
    · cases h
  · cases h

/-- A text without the blanks around a caret that has them on both sides. Blanks between two carets belong to the
    first. -/
def tightenCaret : List Char → List Char
  | [] => []
  | c :: cs =>
    if isBlank c then
      match h : afterCaret? cs with
      | some rest =>
        have : rest.length ≤ cs.length := length_of_afterCaret? h
        '^' :: tightenCaret rest
      | none => c :: tightenCaret cs
    else c :: tightenCaret cs
termination_by cs => cs.length

/-- Lexemes with a space between neighbours. -/
def spaced (ts : List Token) : List Char := [' '].intercalate (ts.map fun t => t.lexeme.toList)

/-- The line that tokens are written as. -/
def line (ts : List Token) : String :=
  String.ofList (tightenCaret (tightenClose (tightenOpen (dropBlankEnd (spaced ts)))))

/-- The column of the token at a position, in the line that all tokens are written as. -/
def column (ts : List Token) (position : Nat) : Nat :=
  match ts.take position with
  | [] => 0
  | before => (line before).length + 1

end Calculator.Token
