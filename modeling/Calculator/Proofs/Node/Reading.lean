import Calculator.Proofs.Node.Grammar
import Calculator.Proofs.Token.Scanned

/-! The reader of statements accepts exactly their tokens. What it keeps is a record of what it has read: written out
    again, the chains it reads and the brackets around them are the tokens behind it (`Place.consumed`). In the other
    direction it goes from one end of a written operand to the other, whatever comes behind. -/

namespace Calculator

namespace Place

/-! ### What a token does -/

/-- A token that takes the reader from one place to the next. -/
inductive Takes : Place → Token → Place → Prop where
  | operand {e : Expected} {inner : Pending} {outer : List Pending} {t : Token} {node : Node} (he : e ≠ .operator)
      (ht : Node.ofToken? t = some node) : Takes ⟨e, inner, outer⟩ t (afterOperand inner outer node)
  | opens {e : Expected} {inner : Pending} {outer : List Pending} {t : Token} (he : e ≠ .operator)
      (ht : t.kind = .bracketOpen) : Takes ⟨e, inner, outer⟩ t ⟨.firstOperand, .empty, inner :: outer⟩
  | operator {inner : Pending} {outer : List Pending} {t : Token} {op : Operator} (ht : t.kind.operator? = some op) :
      Takes ⟨.operator, inner, outer⟩ t ⟨.operand, inner.operator op, outer⟩
  | closes {inner around : Pending} {outer : List Pending} {t : Token} (ht : t.kind = .bracketClose) :
      Takes ⟨.operator, inner, around :: outer⟩ t (afterOperand around outer inner.chain)

/-- What a token may do to a reader: it takes it to another place, it ends a chain outside all brackets, it is refused,
    or too many brackets are open. -/
inductive Answers : Place → Token → Move → Prop where
  | goOn {p q : Place} {t : Token} (h : Takes p t q) : Answers p t (.goOn q)
  | done {inner : Pending} {t : Token} (ht : t.kind = .endOfLine) : Answers ⟨.operator, inner, []⟩ t (.done inner.chain)
  | refuse (p : Place) (t : Token) (cause : ParseCause) : Answers p t (.refuse cause)
  | tooDeep {p : Place} (t : Token) (h : bracketLimit < p.outer.length) : Answers p t .tooDeep

theorem answers_takeOperand {e : Expected} (he : e ≠ .operator) (inner : Pending) (outer : List Pending) (t : Token) :
    Answers ⟨e, inner, outer⟩ t ((⟨e, inner, outer⟩ : Place).takeOperand t) := by
  unfold takeOperand
  split
  · rename_i hk
    exact .goOn (.opens he hk)
  · split
    · rename_i node hn
      exact .goOn (.operand he hn)
    · exact .refuse _ _ _

theorem answers_takeOperator (inner : Pending) (outer : List Pending) (t : Token) :
    Answers ⟨.operator, inner, outer⟩ t ((⟨.operator, inner, outer⟩ : Place).takeOperator t) := by
  unfold takeOperator
  split
  · rename_i op hop
    exact .goOn (.operator hop)
  · cases outer with
    | nil =>
      dsimp only
      split
      · rename_i hk
        exact .done hk
      · exact .refuse _ _ _
    | cons around outer =>
      dsimp only
      split
      · rename_i hk
        exact .goOn (.closes hk)
      · exact .refuse _ _ _

theorem answers_step (p : Place) (t : Token) : Answers p t (p.step t) := by
  obtain ⟨expected, inner, outer⟩ := p
  cases expected with
  | firstOperand =>
    simp only [step]
    split
    · exact .refuse _ _ _
    · split
      · rename_i limit
        exact .tooDeep t limit
      · exact answers_takeOperand (by simp) inner outer t
  | operand => exact answers_takeOperand (by simp) inner outer t
  | operator => exact answers_takeOperator inner outer t

theorem takes_of_step {p q : Place} {t : Token} (h : p.step t = .goOn q) : Takes p t q := by
  have answer := answers_step p t
  rw [h] at answer
  cases answer with
  | goOn h => exact h

theorem bracketLimit_lt_of_step {p : Place} {t : Token} (h : p.step t = .tooDeep) : bracketLimit < p.outer.length := by
  have answer := answers_step p t
  rw [h] at answer
  cases answer with
  | tooDeep _ h => exact h

theorem step_eq_done {p : Place} {t : Token} {node : Node} (h : p.step t = .done node) :
    p.expected = .operator ∧ p.outer = [] ∧ t.kind = .endOfLine ∧ node = p.inner.chain := by
  have answer := answers_step p t
  rw [h] at answer
  cases answer with
  | done ht => exact ⟨rfl, rfl, ht, rfl⟩

theorem step_of_takeOperand {e : Expected} {inner : Pending} {outer : List Pending} {t : Token} {q : Place}
    (he : e ≠ .operator) (ht : t.kind ≠ .bracketClose) (h : (⟨e, inner, outer⟩ : Place).takeOperand t = .goOn q) :
    (⟨e, inner, outer⟩ : Place).step t = .goOn q ∨ (⟨e, inner, outer⟩ : Place).step t = .tooDeep := by
  cases e with
  | firstOperand =>
    simp only [step, if_neg ht]
    split
    · exact Or.inr rfl
    · exact Or.inl h
  | operand => exact Or.inl h
  | operator => exact absurd rfl he

/-- A token that takes the reader to a place is taken, unless that goes too deep. -/
theorem step_of_takes {p q : Place} {t : Token} (h : Takes p t q) : p.step t = .goOn q ∨ p.step t = .tooDeep := by
  cases h with
  | @operand e inner outer t node he ht =>
    have close : t.kind ≠ .bracketClose := fun hk => by simp [Node.ofToken?, hk] at ht
    have opens : t.kind ≠ .bracketOpen := fun hk => by simp [Node.ofToken?, hk] at ht
    refine step_of_takeOperand he close ?_
    simp only [takeOperand, if_neg opens, ht]
  | opens he ht =>
    refine step_of_takeOperand he (by simp [ht]) ?_
    simp only [takeOperand, if_pos ht]
  | operator ht =>
    refine Or.inl ?_
    simp only [step, takeOperator, ht]
  | @closes inner around outer t ht =>
    refine Or.inl ?_
    have none : t.kind.operator? = none := by rw [ht]; rfl
    simp only [step, takeOperator, none, if_pos ht]

/-- The token that closes a line takes the reader nowhere. -/
theorem not_takes_of_endOfLine {p q : Place} {t : Token} (ht : t.kind = .endOfLine) : ¬Takes p t q := by
  rintro (⟨-, h⟩ | ⟨-, h⟩ | h | h)
  · simp [Node.ofToken?, ht] at h
  · simp [ht] at h
  · simp [Kind.operator?, ht] at h
  · simp [ht] at h

end Place

/-! ### Chains as far as they are read -/

namespace Pending

/-- A chain with an operator behind each operand. -/
def Waits (c : Pending) : Prop := Node.areOperands c.operands = true ∧ c.operands.length = c.operators.length

/-- A chain with operators between its operands. -/
def Whole (c : Pending) : Prop := Node.areOperands c.operands = true ∧ c.operands.length = c.operators.length + 1

/-- The tokens that a chain has been read from. -/
def tokens (c : Pending) : List Token := Node.chainTokens c.operands.reverse c.operators.reverse

variable {c : Pending}

theorem waits_empty : Waits empty := ⟨rfl, rfl⟩

theorem Waits.operand (h : c.Waits) {node : Node} (hn : node.isOperand = true) : (c.operand node).Whole := by
  obtain ⟨operands, lengths⟩ := h
  refine ⟨?_, congrArg Nat.succ lengths⟩
  rw [Pending.operand, Node.areOperands, hn, operands]
  rfl

theorem Whole.operator (h : c.Whole) (op : Operator) : (c.operator op).Waits := h

theorem Whole.isOperand_chain (h : c.Whole) : c.chain.isOperand = true := by
  obtain ⟨operands, lengths⟩ := h
  rw [chain, Node.isOperand_chain, List.length_reverse, List.length_reverse, Node.areOperands_eq_all, List.all_reverse,
    ← Node.areOperands_eq_all]
  exact ⟨lengths, operands⟩

theorem Waits.tokens_operand (h : c.Waits) (node : Node) :
    (c.operand node).tokens = c.tokens ++ node.operandTokens := by
  rw [tokens, Pending.operand, List.reverse_cons]
  exact Node.chainTokens_append_operand (by simpa using h.2) node

theorem Whole.tokens_operator (h : c.Whole) (op : Operator) : (c.operator op).tokens = c.tokens ++ [op.token] := by
  rw [tokens, Pending.operator, List.reverse_cons]
  exact Node.chainTokens_append_operator (by simpa using h.2) op

end Pending

namespace Place

/-! ### What a reader has read -/

/-- What holds of the chains that a reader keeps. -/
structure Balanced (p : Place) : Prop where
  inner : if p.expected = .operator then p.inner.Whole else p.inner.Waits
  outer : ∀ c ∈ p.outer, c.Waits

theorem balanced_start : start.Balanced := ⟨Pending.waits_empty, by simp [start]⟩

theorem Balanced.next {p q : Place} {t : Token} (h : p.Balanced) (ht : Takes p t q) : q.Balanced := by
  obtain ⟨inner, outer⟩ := h
  cases ht with
  | operand he ht =>
    rw [if_neg he] at inner
    exact ⟨inner.operand (Node.operandTokens_of_ofToken? ht).1, outer⟩
  | opens he ht =>
    rw [if_neg he] at inner
    exact ⟨Pending.waits_empty, List.forall_mem_cons.mpr ⟨inner, outer⟩⟩
  | operator ht => exact ⟨inner.operator _, outer⟩
  | closes ht =>
    obtain ⟨around, outer⟩ := List.forall_mem_cons.mp outer
    exact ⟨around.operand inner.isOperand_chain, outer⟩

/-- The tokens that a reader has read. -/
def consumed (p : Place) : List Token :=
  (p.outer.reverse.flatMap fun c => c.tokens ++ [⟨.bracketOpen, "("⟩]) ++ p.inner.tokens

theorem Balanced.consumed_next {p q : Place} {t : Token} (h : p.Balanced) (formed : t.Formed) (ht : Takes p t q) :
    q.consumed = p.consumed ++ [t] := by
  obtain ⟨inner, outer⟩ := h
  cases ht with
  | operand he ht =>
    rw [if_neg he] at inner
    rw [consumed, consumed, afterOperand, inner.tokens_operand, (Node.operandTokens_of_ofToken? ht).2, List.append_assoc]
  | opens he ht =>
    have same : t = ⟨.bracketOpen, "("⟩ := formed.eq_of_text? ht rfl
    rw [same, consumed, consumed, List.reverse_cons, List.flatMap_append]
    simp [Pending.tokens, Pending.empty, Node.chainTokens]
  | @operator _ _ _ op ht =>
    have same : t = op.token := by
      have kind := Kind.operator?_eq_some_iff.mp ht
      exact formed.eq_of_text? kind (by cases op <;> rfl)
    rw [same, consumed, consumed, Pending.Whole.tokens_operator inner, List.append_assoc]
  | closes ht =>
    obtain ⟨around, outer⟩ := List.forall_mem_cons.mp outer
    have same : t = ⟨.bracketClose, ")"⟩ := formed.eq_of_text? ht rfl
    rw [same, consumed, consumed, afterOperand, around.tokens_operand, List.reverse_cons, List.flatMap_append]
    simp [Pending.chain, Node.operandTokens, Pending.tokens]

theorem Balanced.of_done {p : Place} {t : Token} {node : Node} (h : p.Balanced) (done : p.step t = .done node) :
    node.isExpression = true ∧ p.consumed = node.tokens := by
  obtain ⟨expected, outer, -, rfl⟩ := step_eq_done done
  have whole := h.inner
  rw [if_pos expected] at whole
  refine ⟨whole.isOperand_chain, ?_⟩
  rw [consumed, outer]
  rfl

theorem Balanced.isExpression_of_read {p : Place} {ts : List Token} {node : Node} (h : p.Balanced)
    (read : p.read ts = .ok node) : node.isExpression = true := by
  induction ts generalizing p with
  | nil => cases read
  | cons t ts ih =>
    rw [Place.read] at read
    split at read
    · rename_i next goOn
      exact ih (h.next (takes_of_step goOn)) read
    · rename_i done
      cases read
      exact (h.of_done done).1
    · cases read
    · cases read

theorem Balanced.of_read {p : Place} {body : List Token} {node : Node} (h : p.Balanced)
    (formed : ∀ t ∈ body, t.Formed) (read : p.read (body ++ [.closing]) = .ok node) :
    node.isExpression = true ∧ p.consumed ++ body = node.tokens := by
  refine ⟨h.isExpression_of_read read, ?_⟩
  -- The reader moves one token at a time from `body` to what is consumed, so that both together stay the same.
  induction body generalizing p with
  | nil =>
    rw [List.nil_append, Place.read] at read
    split at read
    · cases read
    · rename_i done
      cases read
      rw [List.append_nil, (h.of_done done).2]
    · cases read
    · cases read
  | cons t body ih =>
    obtain ⟨ht, formed⟩ := List.forall_mem_cons.mp formed
    rw [List.cons_append, Place.read] at read
    split at read
    · rename_i next goOn
      have taken := takes_of_step goOn
      rw [← ih (h.next taken) formed read, h.consumed_next ht taken, List.append_assoc, List.singleton_append]
    · rename_i done
      exact absurd (step_eq_done done).2.2.1 ht.kind_ne
    · cases read
    · cases read

/-! ### Written tokens are read -/

/-- Tokens that take the reader from one place to another, unless they go too deep. -/
def Follows (p q : Place) (ts : List Token) : Prop :=
  ∀ rest, p.read (ts ++ rest) = q.read rest ∨ p.read (ts ++ rest) = .error .tooDeep

theorem Takes.follows {p q : Place} {t : Token} (h : Takes p t q) : Follows p q [t] := by
  intro rest
  rw [List.singleton_append, Place.read]
  rcases step_of_takes h with step | step
  · exact Or.inl (by rw [step])
  · exact Or.inr (by rw [step])

theorem Follows.trans {p q r : Place} {ts us : List Token} (h : Follows p q ts) (h' : Follows q r us) :
    Follows p r (ts ++ us) := by
  intro rest
  rw [List.append_assoc]
  rcases h (us ++ rest) with read | read
  · rw [read]
    exact h' rest
  · exact Or.inr read

end Place

namespace Node

theorem follows_of_token {e : Expected} {inner : Pending} {outer : List Pending} {t : Token} {node : Node}
    (he : e ≠ .operator) (ht : ofToken? t = some node) :
    Place.Follows ⟨e, inner, outer⟩ (.afterOperand inner outer node) [t] :=
  (Place.Takes.operand he ht).follows

mutual

/-- A written operand is read where an operand has to come. -/
theorem operand_follows : (node : Node) → node.isOperand = true → ∀ (inner : Pending) (outer : List Pending)
    {e : Expected}, e ≠ .operator → Place.Follows ⟨e, inner, outer⟩ (.afterOperand inner outer node) node.operandTokens
  | .integer _, _, _, _, _, he => follows_of_token he rfl
  | .float _, _, _, _, _, he => follows_of_token he rfl
  | .rational _, _, _, _, _, he => follows_of_token he rfl
  | .symbol _, _, _, _, _, he => follows_of_token he rfl
  | .chain operands operators, h, inner, outer, e, he => by
    obtain ⟨lengths, operands_ok⟩ := isOperand_chain.mp h
    have opens : Place.Follows ⟨e, inner, outer⟩ ⟨.firstOperand, .empty, inner :: outer⟩ [⟨.bracketOpen, "("⟩] :=
      (Place.Takes.opens he rfl).follows
    have within := chain_follows operands operands_ok operators lengths .empty (inner :: outer)
      (show Expected.firstOperand ≠ .operator by simp)
    have closes : Place.Follows ⟨.operator, ⟨operands.reverse, operators.reverse⟩, inner :: outer⟩
        (.afterOperand inner outer (.chain operands operators)) [⟨.bracketClose, ")"⟩] := by
      have taken : Place.Takes ⟨.operator, ⟨operands.reverse, operators.reverse⟩, inner :: outer⟩ ⟨.bracketClose, ")"⟩
        (.afterOperand inner outer (Pending.chain ⟨operands.reverse, operators.reverse⟩)) := .closes rfl
      rw [Pending.chain, List.reverse_reverse, List.reverse_reverse] at taken
      exact taken.follows
    simp only [Pending.empty, List.append_nil] at within
    exact (opens.trans within).trans closes

/-- Written operands with operators between them are read where an operand has to come. -/
theorem chain_follows : (nodes : List Node) → areOperands nodes = true → ∀ operators : List Operator,
    nodes.length = operators.length + 1 → ∀ (inner : Pending) (outer : List Pending) {e : Expected}, e ≠ .operator →
    Place.Follows ⟨e, inner, outer⟩
      ⟨.operator, ⟨nodes.reverse ++ inner.operands, operators.reverse ++ inner.operators⟩, outer⟩
      (chainTokens nodes operators)
  | [], _, _, lengths, _, _, _, _ => by cases lengths
  | node :: more, h, operators, lengths, inner, outer, e, he => by
    rw [areOperands, Bool.and_eq_true] at h
    obtain ⟨operand, more_ok⟩ := h
    have first := operand_follows node operand inner outer he
    cases operators with
    | nil =>
      obtain rfl := List.length_eq_zero_iff.mp (Nat.succ.inj lengths)
      rw [chainTokens, chainTokens, List.append_nil]
      exact first
    | cons op operators =>
      have joins : Place.Follows (.afterOperand inner outer node)
          ⟨.operand, (inner.operand node).operator op, outer⟩ [op.token] :=
        (Place.Takes.operator op.operator?_kind).follows
      have rest := chain_follows more more_ok operators (Nat.succ.inj lengths) ((inner.operand node).operator op) outer
        (show Expected.operand ≠ .operator by simp)
      simp only [chainTokens, List.reverse_cons, List.append_assoc, List.singleton_append]
      exact first.trans (joins.trans rest)

end

/-! ### Statements -/

theorem read_of_expression {node : Node} (h : node.isExpression = true) (rest : List Token) :
    Place.start.read (node.tokens ++ Token.closing :: rest) = .ok node ∨
      Place.start.read (node.tokens ++ Token.closing :: rest) = .error .tooDeep := by
  obtain ⟨operands, operators, rfl, hc⟩ := isExpression_iff.mp h
  obtain ⟨lengths, operands_ok⟩ := isOperand_chain.mp hc
  have follows := chain_follows operands operands_ok operators lengths .empty []
    (show Expected.operand ≠ .operator by simp)
  simp only [Pending.empty, List.append_nil] at follows
  rcases follows (Token.closing :: rest) with read | read
  · refine Or.inl (read.trans ?_)
    simp [Place.read, Place.step, Place.takeOperator, Token.closing, Kind.operator?, Pending.chain]
  · exact Or.inr read

/-- What a statement can start with: a query, the target of an assignment, or an expression. -/
theorem ofTokens_cons (t : Token) (ts : List Token) :
    (∃ query, (t.kind = .help ∧ query = help ∨ t.kind = .about ∧ query = about) ∧
        ofTokens (t :: ts) = query.only ts) ∨
      (t.kind = .identifier ∧ ts = [] ∧ ofTokens (t :: ts) = .error .ranOut) ∨
      (∃ u rest, t.kind = .identifier ∧ u.kind = .equal ∧ ts = u :: rest ∧
        ofTokens (t :: ts) = (Place.start.read rest).map (.assignment t.lexeme)) ∨
      ofTokens (t :: ts) = Place.start.read (t :: ts) := by
  unfold ofTokens
  dsimp only
  split
  · rename_i hk
    exact Or.inl ⟨help, Or.inl ⟨hk, rfl⟩, rfl⟩
  · rename_i hk
    exact Or.inl ⟨about, Or.inr ⟨hk, rfl⟩, rfl⟩
  · rename_i hk
    exact Or.inr (Or.inl ⟨hk, rfl, rfl⟩)
  · rename_i u rest hk
    split
    · rename_i hu
      exact Or.inr (Or.inr (Or.inl ⟨u, rest, hk, hu, rfl, rfl⟩))
    · exact Or.inr (Or.inr (Or.inr rfl))
  · exact Or.inr (Or.inr (Or.inr rfl))

/-- Tokens that the reader of expressions does not stop at are read as an expression: they start with no query and no
    assignment. -/
theorem ofTokens_eq_read {t : Token} {ts : List Token}
    (rejected : ∀ cause rest, Place.start.read (t :: ts) ≠ .error (.rejected cause rest))
    (ranOut : Place.start.read (t :: ts) ≠ .error .ranOut) : ofTokens (t :: ts) = Place.start.read (t :: ts) := by
  rcases ofTokens_cons t ts with ⟨-, ⟨hk, -⟩ | ⟨hk, -⟩, -⟩ | ⟨hk, rfl, -⟩ | ⟨u, rest, hk, hu, rfl, -⟩ | same
  · refine absurd ?_ (rejected (.operandExpected t.kind) (t :: ts))
    simp [Place.read, Place.start, Place.step, Place.takeOperand, ofToken?, hk]
  · refine absurd ?_ (rejected (.operandExpected t.kind) (t :: ts))
    simp [Place.read, Place.start, Place.step, Place.takeOperand, ofToken?, hk]
  · refine absurd ?_ ranOut
    simp [Place.read, Place.start, Place.step, Place.takeOperand, ofToken?, hk]
  · refine absurd ?_ (rejected (.operatorExpected u.kind) (u :: rest))
    simp [Place.read, Place.start, Place.step, Place.takeOperand, Place.takeOperator, Place.afterOperand, ofToken?,
      Kind.operator?, hk, hu]
  · exact same

theorem ofTokens_of_statement {node : Node} (h : node.isStatement = true) :
    ofTokens (node.tokens ++ [Token.closing]) = .ok node ∨
      ofTokens (node.tokens ++ [Token.closing]) = .error .tooDeep := by
  cases node with
  | help => exact Or.inl rfl
  | about => exact Or.inl rfl
  | assignment target value =>
    rcases read_of_expression (show value.isExpression = true from h) [] with read | read
    · refine Or.inl ?_
      simp [tokens, ofTokens, read, Except.map]
    · refine Or.inr ?_
      simp [tokens, ofTokens, read, Except.map]
  | chain operands operators =>
    have expression : (chain operands operators).isExpression = true := h
    have read := read_of_expression expression []
    obtain ⟨t, ts, hts⟩ : ∃ t ts, (chain operands operators).tokens ++ [Token.closing] = t :: ts :=
      List.exists_cons_of_ne_nil (by simp)
    rw [hts] at read ⊢
    rcases read with read | read
    · exact Or.inl ((ofTokens_eq_read (by simp [read]) (by simp [read])).trans read)
    · exact Or.inr ((ofTokens_eq_read (by simp [read]) (by simp [read])).trans read)
  | _ => cases h

theorem only_eq_ok {query node : Node} {body : List Token} (formed : ∀ t ∈ body, t.Formed)
    (h : query.only (body ++ [Token.closing]) = .ok node) : body = [] ∧ node = query := by
  cases body with
  | nil =>
    cases h
    exact ⟨rfl, rfl⟩
  | cons t body =>
    have ht := (formed t (List.mem_cons_self ..)).kind_ne
    rw [List.cons_append, only, if_neg ht] at h
    cases h

/-- A node that is read from tokens is a statement, and the tokens are its own. -/
theorem statement_of_ofTokens {t : Token} {body : List Token} {node : Node} (formed : ∀ u ∈ t :: body, u.Formed)
    (read : ofTokens (t :: body ++ [Token.closing]) = .ok node) :
    node.isStatement = true ∧ t :: body = node.tokens := by
  obtain ⟨ht, formed'⟩ := List.forall_mem_cons.mp formed
  rw [List.cons_append] at read
  rcases ofTokens_cons t (body ++ [Token.closing]) with
    ⟨query, hq, same⟩ | ⟨-, none, -⟩ | ⟨u, rest, hk, hu, hrest, same⟩ | same
  · obtain ⟨rfl, rfl⟩ := only_eq_ok formed' (same.symm.trans read)
    rcases hq with ⟨hk, rfl⟩ | ⟨hk, rfl⟩
    · exact ⟨rfl, congrArg (· :: []) (ht.eq_of_text? hk rfl)⟩
    · exact ⟨rfl, congrArg (· :: []) (ht.eq_of_text? hk rfl)⟩
  · simp at none
  · cases body with
    | nil =>
      cases hrest
      cases hu
    | cons v body =>
      obtain rfl : v = u := (List.cons.inj hrest).1
      obtain rfl : body ++ [Token.closing] = rest := (List.cons.inj hrest).2
      obtain ⟨hv, formed'⟩ := List.forall_mem_cons.mp formed'
      rw [same] at read
      cases hvalue : Place.start.read (body ++ [Token.closing]) with
      | error refusal =>
        rw [hvalue] at read
        cases read
      | ok value =>
        rw [hvalue] at read
        cases read
        obtain ⟨expression, hbody⟩ := Place.balanced_start.of_read formed' hvalue
        refine ⟨expression, ?_⟩
        rw [tokens, ← hbody, ← hv.eq_of_text? hu rfl, ← hk]
        rfl
  · obtain ⟨expression, tokens⟩ := Place.balanced_start.of_read formed (same.symm.trans read)
    obtain ⟨operands, operators, rfl, h⟩ := isExpression_iff.mp expression
    exact ⟨h, tokens⟩

/-! ### A line that is closed does not run out -/

theorem read_ne_ranOut {p : Place} {ts : List Token} (h : ∃ t ∈ ts, t.kind = .endOfLine) :
    p.read ts ≠ .error .ranOut := by
  induction ts generalizing p with
  | nil => simp at h
  | cons t ts ih =>
    intro hr
    rw [Place.read] at hr
    split at hr
    · rename_i next goOn
      obtain ⟨u, hu, hk⟩ := h
      rcases List.mem_cons.mp hu with rfl | hu
      · exact Place.not_takes_of_endOfLine hk (Place.takes_of_step goOn)
      · exact ih ⟨u, hu, hk⟩ hr
    · cases hr
    · cases hr
    · cases hr

theorem ofTokens_ne_ranOut {ts : List Token} (h : ∃ t ∈ ts, t.kind = .endOfLine) :
    ofTokens ts ≠ .error .ranOut := by
  cases ts with
  | nil => simp at h
  | cons t ts =>
    have behind : t.kind ≠ .endOfLine → ∃ u ∈ ts, u.kind = .endOfLine := by
      obtain ⟨u, hu, hk⟩ := h
      intro ht
      rcases List.mem_cons.mp hu with rfl | hu
      · exact absurd hk ht
      · exact ⟨u, hu, hk⟩
    rcases ofTokens_cons t ts with ⟨query, hq, same⟩ | ⟨hk, rfl, -⟩ | ⟨u, rest, hk, hu, rfl, same⟩ | same
    · obtain ⟨u, hu, -⟩ := behind (by rcases hq with ⟨hk, -⟩ | ⟨hk, -⟩ <;> simp [hk])
      obtain ⟨v, rest, rfl⟩ := List.exists_cons_of_ne_nil (List.ne_nil_of_mem hu)
      rw [same, only]
      split <;> simp
    · obtain ⟨u, hu, -⟩ := behind (by simp [hk])
      cases hu
    · obtain ⟨v, hv, hkv⟩ := behind (by simp [hk])
      rcases List.mem_cons.mp hv with rfl | hv
      · rw [hu] at hkv
        cases hkv
      · have read : Place.start.read rest ≠ .error .ranOut := read_ne_ranOut ⟨v, hv, hkv⟩
        rw [same]
        intro he
        cases hr : Place.start.read rest with
        | ok value =>
          rw [hr] at he
          cases he
        | error refusal =>
          rw [hr] at he
          cases he
          exact read hr
    · rw [same]
      exact read_ne_ranOut h

/-! ### Only many brackets are too deep -/

theorem length_outer_of_takes {p q : Place} {t : Token} (h : Place.Takes p t q) :
    q.outer.length ≤ p.outer.length + [t].countP (·.kind == .bracketOpen) := by
  cases h with
  | opens he ht => simp [ht]
  | operand | operator => exact Nat.le_add_right _ _
  | closes => exact Nat.le_trans (Nat.le_succ _) (Nat.le_add_right _ _)

theorem bracketLimit_lt_of_read {p : Place} {ts : List Token} (h : p.read ts = .error .tooDeep) :
    bracketLimit < p.outer.length + ts.countP (·.kind == .bracketOpen) := by
  induction ts generalizing p with
  | nil => cases h
  | cons t ts ih =>
    rw [Place.read] at h
    split at h
    · rename_i next goOn
      have brackets := length_outer_of_takes (Place.takes_of_step goOn)
      have limit := ih h
      rw [← List.singleton_append, List.countP_append]
      omega
    · cases h
    · cases h
    · rename_i deep
      exact Nat.lt_add_right _ (Place.bracketLimit_lt_of_step deep)

theorem bracketLimit_lt_of_ofTokens {ts : List Token} (h : ofTokens ts = .error .tooDeep) :
    bracketLimit < ts.countP (·.kind == .bracketOpen) := by
  cases ts with
  | nil => cases h
  | cons t ts =>
    rcases ofTokens_cons t ts with ⟨query, -, same⟩ | ⟨-, -, same⟩ | ⟨u, rest, hk, hu, rfl, same⟩ | same
    · rw [same] at h
      cases ts with
      | nil => cases h
      | cons u ts =>
        rw [only] at h
        split at h <;> cases h
    · rw [same] at h
      cases h
    · rw [same] at h
      cases read : Place.start.read rest with
      | ok value =>
        rw [read] at h
        cases h
      | error refusal =>
        rw [read] at h
        cases h
        have limit := bracketLimit_lt_of_read read
        simpa [Place.start, hk, hu] using limit
    · rw [same] at h
      have limit := bracketLimit_lt_of_read h
      simpa [Place.start] using limit

/-- The tokens of a line are read as a statement exactly where they are its own tokens, and all others are rejected at
    one of them, unless they open too many brackets. So no tokens can be read in two ways. -/
theorem ofTokens_eq_ok_iff {text : String} {ts : List Token} (scanned : Token.scan text = .ok ts) :
    (ofTokens ts = .error .tooDeep → bracketLimit < ts.countP (·.kind == .bracketOpen)) ∧
      (ofTokens ts ≠ .error .tooDeep →
        (∀ s, ofTokens ts = .ok s ↔ s.isStatement = true ∧ ts = s.tokens ++ [Token.closing]) ∧
          ((∀ s : Node, s.isStatement = true → ts ≠ s.tokens ++ [Token.closing]) →
            ∃ cause rest, ofTokens ts = .error (.rejected cause rest))) := by
  obtain ⟨body, fit, rfl⟩ := Token.wellFormed_of_scan scanned
  refine ⟨bracketLimit_lt_of_ofTokens, fun shallow => ?_⟩
  have accepted : ∀ s, ofTokens (Token.close body) = .ok s ↔
      s.isStatement = true ∧ Token.close body = s.tokens ++ [Token.closing] := by
    intro s
    constructor
    · intro read
      cases body with
      | nil => cases read
      | cons t body =>
        obtain ⟨statement, tokens⟩ := statement_of_ofTokens fit.formed read
        exact ⟨statement, congrArg (· ++ [Token.closing]) tokens⟩
    · rintro ⟨statement, tokens⟩
      rw [tokens] at shallow ⊢
      exact (ofTokens_of_statement statement).resolve_right shallow
  refine ⟨accepted, fun others => ?_⟩
  cases read : ofTokens (Token.close body) with
  | ok s =>
    obtain ⟨statement, tokens⟩ := (accepted s).mp read
    exact absurd tokens (others s statement)
  | error refusal =>
    cases refusal with
    | rejected cause rest => exact ⟨cause, rest, rfl⟩
    | tooDeep => exact absurd read shallow
    | ranOut =>
      cases body with
      | nil => cases read
      | cons t body => exact absurd read (ofTokens_ne_ranOut ⟨Token.closing, by simp [Token.close], rfl⟩)

theorem ofTokens_eq_ok_iff_of_assignment :
    let ts : List Token := [⟨.identifier, "x"⟩, ⟨.equal, "="⟩, ⟨.bracketOpen, "("⟩, ⟨.integer, "1"⟩, ⟨.minus, "-"⟩,
      ⟨.identifier, "y"⟩, ⟨.bracketClose, ")"⟩, ⟨.caret, "^"⟩, ⟨.integer, "-2"⟩, Token.closing]
    Token.scan "x = (1 -y)^ -2" = .ok ts ∧ ofTokens ts ≠ .error .tooDeep ∧
      (∀ s, ofTokens ts = .ok s ↔ s.isStatement = true ∧ ts = s.tokens ++ [Token.closing]) ∧
      ((∀ s : Node, s.isStatement = true → ts ≠ s.tokens ++ [Token.closing]) →
        ∃ cause rest, ofTokens ts = .error (.rejected cause rest)) := by
  intro ts
  have scanned : Token.scan "x = (1 -y)^ -2" = .ok ts := by decide +kernel
  have shallow : ofTokens ts ≠ .error .tooDeep := nofun
  exact ⟨scanned, shallow, (ofTokens_eq_ok_iff scanned).2 shallow⟩

end Node

end Calculator
