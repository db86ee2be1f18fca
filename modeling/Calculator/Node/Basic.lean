import Calculator.Operator
import Calculator.Text.Quoted

/-! Statements as trees. A chain is flat: its operands in the order of the line, and the operators between them; how it
    groups is settled when it is evaluated. -/

namespace Calculator

/-- A node of a statement. What a line can be read as is narrower: there a chain has one operand more than operators,
    and an assignment or a query stands only at the root. -/
inductive Node where
  | integer (text : String)
  | float (text : String)
  | rational (text : String)
  | symbol (name : String)
  | chain (operands : List Node) (operators : List Operator)
  | assignment (target : String) (value : Node)
  | help
  | about
  /-- Anything that is no node of a statement. -/
  | foreign (description : String)
  deriving Repr, Inhabited

namespace Node

/-- Texts with a comma between neighbours, in square brackets. -/
def bracketed (texts : List String) : String := "[" ++ ", ".intercalate texts ++ "]"

mutual

/-- A node in constructor form: the name of its kind, then its fields. -/
def described : Node → String
  | integer text => "IntLiteral(text=" ++ quoted text ++ ")"
  | float text => "FloatLiteral(text=" ++ quoted text ++ ")"
  | rational text => "RationalLiteral(text=" ++ quoted text ++ ")"
  | symbol name => "Symbol(name=" ++ quoted name ++ ")"
  | chain operands operators =>
    "Expr(operands=" ++ bracketed (describedAll operands) ++ ", operators=" ++ bracketed (operators.map (·.name)) ++ ")"
  | assignment target value => "Assignment(target=Symbol(name=" ++ quoted target ++ "), value=" ++ described value ++ ")"
  | help => "HelpQuery()"
  | about => "AboutQuery()"
  | foreign description => description

/-- The constructor forms of a list of nodes. -/
def describedAll : List Node → List String
  | [] => []
  | node :: more => described node :: describedAll more

end

/-! ### Deep nodes -/

mutual

/-- How many chains stand one inside the other. -/
def depth : Node → Nat
  | chain operands _ => greatestDepth operands + 1
  | assignment _ value => depth value
  | _ => 0

/-- The depth of the deepest of several nodes. -/
def greatestDepth : List Node → Nat
  | [] => 0
  | node :: more => max (depth node) (greatestDepth more)

end

/-- How deep a node may be that is described. Of a stack of 1000 frames, the description takes four for each bracket. -/
def descriptionLimit : Nat := 247

/-- The constructor form of a node that is not too deep for one. -/
def described? (node : Node) : Option String := if node.depth ≤ descriptionLimit then some node.described else none

end Node

end Calculator
