import Calculator.Proofs.Node.Reading
import Calculator.Value.Basic

/-! What a line is read as. It is blank, it is rejected, or it is a statement (`line_cases`). A statement of a
    line has all its operands, and its tokens are formed as their kinds are (`Node.OfLine.statement`). -/

namespace Calculator

/-- A line that is read as a statement. -/
def Node.OfLine (line : String) (node : Node) : Prop :=
  ∃ ts, Token.scan line = .ok ts ∧ Node.ofTokens ts = .ok node

/-- A line that is not blank and no statement, even if only for its many brackets. -/
def Rejected (line : String) : Prop :=
  (∃ e, Token.scan line = .error e) ∨
    ∃ ts refusal, Token.scan line = .ok ts ∧ ts ≠ [] ∧ Node.ofTokens ts = .error refusal

/-- An expression that can stand in a line. -/
structure Node.Written (node : Node) : Prop where
  expression : node.isExpression = true
  formed : ∀ t ∈ node.tokens, t.Formed

/-- The query for a topic. -/
def Topic.query : Topic → Node
  | .help => .help
  | .about => .about

theorem line_cases (line : String) : Token.scan line = .ok [] ∨ Rejected line ∨ ∃ node, Node.OfLine line node := by
  cases scanned : Token.scan line with
  | error e => exact Or.inr (Or.inl (Or.inl ⟨e, scanned⟩))
  | ok ts =>
    cases ts with
    | nil => exact Or.inl rfl
    | cons t ts =>
      cases read : Node.ofTokens (t :: ts) with
      | ok node => exact Or.inr (Or.inr ⟨node, _, scanned, read⟩)
      | error refusal => exact Or.inr (Or.inl (Or.inr ⟨_, refusal, scanned, List.cons_ne_nil t ts, read⟩))

theorem Rejected.scan_ne {line : String} (h : Rejected line) : Token.scan line ≠ .ok [] := by
  intro blank
  rcases h with ⟨e, scanned⟩ | ⟨ts, refusal, scanned, hne, -⟩
  · rw [scanned] at blank
    cases blank
  · rw [scanned] at blank
    cases blank
    exact hne rfl

namespace Node.OfLine
variable {line : String} {node : Node}

theorem scan_ne (h : OfLine line node) : Token.scan line ≠ .ok [] := by
  obtain ⟨ts, scanned, read⟩ := h
  intro blank
  obtain rfl := Except.ok.inj (scanned.symm.trans blank)
  cases read

/-- A line is read in one way. -/
theorem unique {node' : Node} (h : OfLine line node) (h' : OfLine line node') : node = node' := by
  obtain ⟨ts, scanned, read⟩ := h
  obtain ⟨ts', scanned', read'⟩ := h'
  obtain rfl := Except.ok.inj (scanned.symm.trans scanned')
  exact Except.ok.inj (read.symm.trans read')

theorem statement (h : OfLine line node) : node.isStatement = true ∧ ∀ t ∈ node.tokens, t.Formed := by
  obtain ⟨ts, scanned, read⟩ := h
  obtain ⟨body, fit, rfl⟩ := Token.wellFormed_of_scan scanned
  cases body with
  | nil => cases read
  | cons t body =>
    obtain ⟨statement, tokens⟩ := statement_of_ofTokens fit.formed read
    exact ⟨statement, tokens ▸ fit.formed⟩

/-- The tokens of a line are those of its statement. -/
theorem scan_eq (h : OfLine line node) : Token.scan line = .ok (node.tokens ++ [Token.closing]) := by
  obtain ⟨ts, scanned, read⟩ := h
  obtain ⟨body, fit, rfl⟩ := Token.wellFormed_of_scan scanned
  cases body with
  | nil => cases read
  | cons t body =>
    rw [scanned, ← (statement_of_ofTokens fit.formed read).2]
    rfl

theorem written (h : OfLine line node) (he : node.isExpression = true) : node.Written := ⟨he, h.statement.2⟩

theorem written_value {target : String} {value : Node} (h : OfLine line (.assignment target value)) : value.Written := by
  obtain ⟨statement, formed⟩ := h.statement
  exact ⟨statement, fun t ht => formed t (List.mem_cons_of_mem _ (List.mem_cons_of_mem _ ht))⟩

/-- A statement is a query, an expression, or an assignment of one. -/
theorem cases (h : OfLine line node) :
    (∃ topic : Topic, node = topic.query) ∨ node.Written ∨
      ∃ target value, node = .assignment target value ∧ value.Written := by
  have statement := h.statement.1
  cases node with
  | help => exact Or.inl ⟨.help, rfl⟩
  | about => exact Or.inl ⟨.about, rfl⟩
  | chain operands operators => exact Or.inr (Or.inl (h.written statement))
  | assignment target value => exact Or.inr (Or.inr ⟨target, value, rfl, h.written_value⟩)
  | _ => cases statement

end Node.OfLine

end Calculator
