import Calculator.Operator

/-! Tokens: the words that a line is made of. -/

namespace Calculator

/-- The kind of a token. `endOfLine` closes every line that holds anything. -/
inductive Kind where
  | integer
  | float
  | rational
  | identifier
  | help
  | about
  | plus
  | minus
  | star
  | slash
  | caret
  | percent
  | equal
  | bracketOpen
  | bracketClose
  | endOfLine
  deriving DecidableEq, Repr

namespace Kind

/-- Every kind, in the order of their declaration. -/
def all : List Kind :=
  [integer, float, rational, identifier, help, about, plus, minus, star, slash, caret, percent, equal, bracketOpen,
    bracketClose, endOfLine]

/-- The name of a kind, as messages show it. -/
def name : Kind → String
  | integer => "INTEGER"
  | float => "FLOAT"
  | rational => "RATIONAL"
  | identifier => "IDENTIFIER"
  | help => "HELP"
  | about => "ABOUT"
  | plus => "PLUS"
  | minus => "MINUS"
  | star => "STAR"
  | slash => "SLASH"
  | caret => "CARET"
  | percent => "PERCENT"
  | equal => "EQUAL"
  | bracketOpen => "BRACKET_OPEN"
  | bracketClose => "BRACKET_CLOSE"
  | endOfLine => "EXPR_END"

/-- The kind of a token that is one character. -/
def ofChar? : Char → Option Kind
  | '+' => some plus
  | '-' => some minus
  | '*' => some star
  | '/' => some slash
  | '^' => some caret
  | '%' => some percent
  | '=' => some equal
  | '(' => some bracketOpen
  | ')' => some bracketClose
  | _ => none

/-- The kind of a reserved word, which is a query and stands only before an empty pair of brackets. -/
def reserved? (word : List Char) : Option Kind :=
  if word = ['h', 'e', 'l', 'p'] then some help
  else if word = ['a', 'b', 'o', 'u', 't'] then some about
  else none

/-- Whether an operand may end with a token of this kind, so that an operator has to follow. -/
def endsOperand : Kind → Bool
  | integer | float | rational | identifier | help | about | bracketClose => true
  | _ => false

/-- The operator that a kind stands for. -/
def operator? : Kind → Option Operator
  | plus => some .add
  | minus => some .sub
  | star => some .mul
  | slash => some .div
  | caret => some .pow
  | percent => some .rem
  | _ => none

end Kind

/-- A token: its kind and the text it is written as. -/
structure Token where
  kind : Kind
  lexeme : String
  deriving DecidableEq, Repr

namespace Token

/-- The token that closes a line. -/
def closing : Token := ⟨.endOfLine, ""⟩

/-- A token with its kind in front. -/
def shown (t : Token) : String := "<" ++ t.kind.name ++ ">" ++ t.lexeme

end Token

namespace Operator

/-- The kind of the token that an operator is written as. -/
def kind : Operator → Kind
  | add => .plus
  | sub => .minus
  | mul => .star
  | div => .slash
  | pow => .caret
  | rem => .percent

/-- The character that an operator is written as. -/
def char : Operator → Char
  | add => '+'
  | sub => '-'
  | mul => '*'
  | div => '/'
  | pow => '^'
  | rem => '%'

/-- The token that an operator is written as. -/
def token (op : Operator) : Token := ⟨op.kind, String.ofList [op.char]⟩

@[simp] theorem operator?_kind (op : Operator) : op.kind.operator? = some op := by cases op <;> rfl

@[simp] theorem ofChar?_char (op : Operator) : Kind.ofChar? op.char = some op.kind := by cases op <;> rfl

end Operator

theorem Kind.operator?_eq_some_iff {k : Kind} {op : Operator} : k.operator? = some op ↔ k = op.kind := by
  constructor
  · intro h
    cases k <;> simp only [Kind.operator?, reduceCtorEq, Option.some.injEq] at h <;> subst h <;> rfl
  · rintro rfl
    exact op.operator?_kind

end Calculator
