import Calculator.Node.Parse

/-! The grammar of statements: which nodes are statements, and the tokens that a statement is written as. A chain that
    is an operand is written in brackets. -/

namespace Calculator.Node

/-! ### Statements -/

mutual

/-- Whether a node can be an operand: a literal, a name, or a chain with one operand more than operators. -/
def isOperand : Node → Bool
  | .integer _ | .float _ | .rational _ | .symbol _ => true
  | .chain operands operators => operands.length == operators.length + 1 && areOperands operands
  | .assignment _ _ | .help | .about | .foreign _ => false

/-- Whether all of several nodes can be operands. -/
def areOperands : List Node → Bool
  | [] => true
  | node :: more => isOperand node && areOperands more

end

/-- Whether a node is an expression: a chain, at the root or in brackets. -/
def isExpression : Node → Bool
  | .chain operands operators => (chain operands operators).isOperand
  | _ => false

/-- Whether a node is a statement. -/
def isStatement : Node → Bool
  | .assignment _ value => value.isExpression
  | .help | .about => true
  | node => node.isExpression

theorem areOperands_eq_all (nodes : List Node) : areOperands nodes = nodes.all isOperand := by
  induction nodes with
  | nil => rfl
  | cons node nodes ih => rw [areOperands, ih, List.all_cons]

theorem isOperand_chain {operands : List Node} {operators : List Operator} :
    (chain operands operators).isOperand = true ↔
      operands.length = operators.length + 1 ∧ areOperands operands = true := by
  rw [isOperand, Bool.and_eq_true, beq_iff_eq]

theorem isExpression_iff {node : Node} :
    node.isExpression = true ↔
      ∃ operands operators, node = chain operands operators ∧ (chain operands operators).isOperand = true := by
  constructor
  · intro h
    cases node with
    | chain operands operators => exact ⟨operands, operators, rfl, h⟩
    | _ => cases h
  · rintro ⟨operands, operators, rfl, h⟩
    exact h

/-! ### Their tokens -/

mutual

/-- The tokens that an operand is written as. -/
def operandTokens : Node → List Token
  | .integer text => [⟨.integer, text⟩]
  | .float text => [⟨.float, text⟩]
  | .rational text => [⟨.rational, text⟩]
  | .symbol name => [⟨.identifier, name⟩]
  | .chain operands operators => ⟨.bracketOpen, "("⟩ :: chainTokens operands operators ++ [⟨.bracketClose, ")"⟩]
  | .assignment _ _ | .help | .about | .foreign _ => []

/-- The tokens of operands with operators between them, one behind each operand as far as there are any. -/
def chainTokens : List Node → List Operator → List Token
  | [], _ => []
  | node :: more, [] => operandTokens node ++ chainTokens more []
  | node :: more, op :: operators => operandTokens node ++ op.token :: chainTokens more operators

end

/-- The tokens that a statement is written as, without the one that closes the line. -/
def tokens : Node → List Token
  | .chain operands operators => chainTokens operands operators
  | .assignment target value => ⟨.identifier, target⟩ :: ⟨.equal, "="⟩ :: tokens value
  | .help => [⟨.help, "help()"⟩]
  | .about => [⟨.about, "about()"⟩]
  | node => operandTokens node

theorem chainTokens_append_operand {nodes : List Node} {operators : List Operator}
    (h : nodes.length = operators.length) (node : Node) :
    chainTokens (nodes ++ [node]) operators = chainTokens nodes operators ++ operandTokens node := by
  induction nodes generalizing operators with
  | nil =>
    obtain rfl := List.length_eq_zero_iff.mp h.symm
    simp [chainTokens]
  | cons n nodes ih =>
    obtain ⟨op, operators, rfl⟩ := List.exists_cons_of_length_eq_add_one h.symm
    rw [List.cons_append, chainTokens, chainTokens, ih (Nat.succ.inj h), List.append_assoc, List.cons_append]

theorem chainTokens_append_operator {nodes : List Node} {operators : List Operator}
    (h : nodes.length = operators.length + 1) (op : Operator) :
    chainTokens nodes (operators ++ [op]) = chainTokens nodes operators ++ [op.token] := by
  induction nodes generalizing operators with
  | nil => cases h
  | cons n nodes ih =>
    cases operators with
    | nil =>
      obtain rfl := List.length_eq_zero_iff.mp (Nat.succ.inj h)
      simp [chainTokens]
    | cons o operators =>
      rw [List.cons_append, chainTokens, chainTokens, ih (Nat.succ.inj h), List.append_assoc, List.cons_append]

theorem operandTokens_of_ofToken? {t : Token} {node : Node} (h : ofToken? t = some node) :
    node.isOperand = true ∧ node.operandTokens = [t] := by
  obtain ⟨kind, lexeme⟩ := t
  unfold ofToken? at h
  split at h <;> cases h <;> simp_all [isOperand, operandTokens]

end Calculator.Node
