import Calculator.Node.Basic
import Calculator.Token.Line
import Calculator.Excerpt

/-! Reading a statement from the tokens of a line. The reader goes through the tokens once, from left to right. It keeps
    the chain that it is reading and the chains that are interrupted by an open bracket, and it knows whether an operand
    or an operator has to come next. -/

namespace Calculator

/-- Why a token cannot stand where it does. -/
inductive ParseCause where
  | emptyStatement
  | operatorExpected (found : Kind)
  | operandExpected (found : Kind)
  | emptyBrackets
  | unclosedBracket
  deriving DecidableEq, Repr

/-- Why tokens are no statement. -/
inductive Refusal where
  /-- The first token of `rest` cannot stand where it does. -/
  | rejected (cause : ParseCause) (rest : List Token)
  /-- The tokens end before the statement does, with no token that closes the line. -/
  | ranOut
  /-- More brackets are open than the reader keeps track of. -/
  | tooDeep
  deriving DecidableEq, Repr

/-- Tokens that are no statement, and the position of the token that cannot stand where it does. -/
structure ParseError where
  cause : ParseCause
  tokens : List Token
  position : Nat
  deriving DecidableEq, Repr

/-- How many brackets may be open at once. Of a stack of 1000 frames, reading takes two for each of them. -/
def bracketLimit : Nat := 495

/-- A chain as far as it is read, latest part first. -/
structure Pending where
  operands : List Node
  operators : List Operator
  deriving Repr

namespace Pending

/-- A chain of which nothing is read. -/
def empty : Pending := ⟨[], []⟩

/-- A chain with one operand more. -/
def operand (p : Pending) (node : Node) : Pending := { p with operands := node :: p.operands }

/-- A chain with one operator more. -/
def operator (p : Pending) (op : Operator) : Pending := { p with operators := op :: p.operators }

/-- The chain that is read. -/
def chain (p : Pending) : Node := .chain p.operands.reverse p.operators.reverse

end Pending

/-- What has to come next. -/
inductive Expected where
  /-- The first operand of a bracket. -/
  | firstOperand
  /-- Another operand. -/
  | operand
  /-- An operator, or what ends the chain. -/
  | operator
  deriving DecidableEq, Repr

/-- Where a reader stands: what it expects, the chain it reads, and the chains around that, innermost first. -/
structure Place where
  expected : Expected
  inner : Pending
  outer : List Pending
  deriving Repr

/-- What a token does to a reader. -/
inductive Move where
  | goOn (place : Place)
  | done (node : Node)
  | refuse (cause : ParseCause)
  | tooDeep

namespace Node

/-- The operand that a single token stands for. -/
def ofToken? (t : Token) : Option Node :=
  match t.kind with
  | .integer => some (.integer t.lexeme)
  | .float => some (.float t.lexeme)
  | .rational => some (.rational t.lexeme)
  | .identifier => some (.symbol t.lexeme)
  | _ => none

end Node

namespace Place

/-- The place before an expression. -/
def start : Place := ⟨.operand, .empty, []⟩

/-- A place where a chain goes on behind one more operand. -/
def afterOperand (inner : Pending) (outer : List Pending) (node : Node) : Place :=
  ⟨.operator, inner.operand node, outer⟩

/-- A token where an operand has to start. -/
def takeOperand (p : Place) (t : Token) : Move :=
  if t.kind = .bracketOpen then .goOn ⟨.firstOperand, .empty, p.inner :: p.outer⟩
  else
    match Node.ofToken? t with
    | some node => .goOn (afterOperand p.inner p.outer node)
    | none => .refuse (.operandExpected t.kind)

/-- A token where an operand has just ended. -/
def takeOperator (p : Place) (t : Token) : Move :=
  match t.kind.operator? with
  | some op => .goOn ⟨.operand, p.inner.operator op, p.outer⟩
  | none =>
    match p.outer with
    | [] => if t.kind = .endOfLine then .done p.inner.chain else .refuse (.operatorExpected t.kind)
    | around :: outer =>
      if t.kind = .bracketClose then .goOn (afterOperand around outer p.inner.chain) else .refuse .unclosedBracket

/-- What a token does at a place. Nothing at all between two brackets is a cause of its own, and is noticed before the
    brackets are counted. -/
def step (p : Place) (t : Token) : Move :=
  match p.expected with
  | .firstOperand =>
    if t.kind = .bracketClose then .refuse .emptyBrackets
    else if bracketLimit < p.outer.length then .tooDeep
    else p.takeOperand t
  | .operand => p.takeOperand t
  | .operator => p.takeOperator t

/-- The expression that tokens go on with from a place. -/
def read (p : Place) : List Token → Except Refusal Node
  | [] => .error .ranOut
  | t :: ts =>
    match p.step t with
    | .goOn next => next.read ts
    | .done node => .ok node
    | .refuse cause => .error (.rejected cause (t :: ts))
    | .tooDeep => .error .tooDeep

end Place

namespace Node

/-- A statement that is complete, if the line ends here. -/
def only (node : Node) : List Token → Except Refusal Node
  | [] => .error .ranOut
  | t :: ts => if t.kind = .endOfLine then .ok node else .error (.rejected (.operatorExpected t.kind) (t :: ts))

/-- The statement that tokens spell. A name with an equals sign behind it is the target of an assignment. -/
def ofTokens : List Token → Except Refusal Node
  | [] => .error (.rejected .emptyStatement [])
  | t :: ts =>
    match t.kind, ts with
    | .help, ts => Node.help.only ts
    | .about, ts => Node.about.only ts
    | .identifier, [] => .error .ranOut
    | .identifier, u :: rest =>
      if u.kind = .equal then (Place.start.read rest).map (.assignment t.lexeme) else Place.start.read (t :: u :: rest)
    | _, ts => Place.start.read (t :: ts)

end Node

/-! ### Messages -/

/-- What is wrong, in one line. -/
def ParseCause.headline : ParseCause → String
  | .emptyStatement => "Empty statement"
  | .operatorExpected found => "Binary operator expected, found " ++ found.name
  | .operandExpected found => "Operand expected, found " ++ found.name
  | .emptyBrackets => "Empty parenthesis"
  | .unclosedBracket => "Unclosed bracket"

/-- The error of a token that cannot stand where it does, among all tokens of the line. -/
def ParseError.locate (cause : ParseCause) (tokens rest : List Token) : ParseError :=
  ⟨cause, tokens, tokens.length - rest.length⟩

/-- A message about a position in tokens: what is wrong, the line of the tokens, a pointer to the position. -/
def ParseError.report (headline : String) (tokens : List Token) (position : Nat) : String :=
  "Parser error: " ++ headline ++ "\n" ++ Token.line tokens ++ "\n" ++ pointer (Token.column tokens position)

/-- The message of an error. -/
def ParseError.message (e : ParseError) : String := ParseError.report e.cause.headline e.tokens e.position

end Calculator
