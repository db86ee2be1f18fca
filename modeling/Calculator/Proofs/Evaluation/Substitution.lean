import Calculator.Proofs.Evaluation.Statement

/-! Names stand for expressions. To evaluate an expression after a name has been given the value of another is to
    evaluate the expression in which the other one, in brackets, stands in the place of the name
    (`Node.run_subst`). -/

namespace Calculator.Node

/-! ### Replacing a name -/

mutual

/-- A node with an expression in the place of each operand that is a given name. -/
def subst (node : Node) (name : String) (e : Node) : Node :=
  match node with
  | .symbol other => if other = name then e else .symbol other
  | .chain operands operators => .chain (substAll operands name e) operators
  | .assignment target value => .assignment target (value.subst name e)
  | node => node

/-- Several nodes with an expression in the place of each operand that is a given name. -/
def substAll (nodes : List Node) (name : String) (e : Node) : List Node :=
  match nodes with
  | [] => []
  | node :: more => node.subst name e :: substAll more name e

end

/-- What a token is replaced by where an expression in brackets is put in the place of a name. -/
def bracketedFor (name : String) (e : Node) (t : Token) : List Token :=
  if t = ⟨.identifier, name⟩ then ⟨.bracketOpen, "("⟩ :: e.tokens ++ [⟨.bracketClose, ")"⟩] else [t]

variable {name : String} {e : Node}

theorem length_substAll (nodes : List Node) : (substAll nodes name e).length = nodes.length := by
  induction nodes with
  | nil => rfl
  | cons node nodes ih => rw [substAll, List.length_cons, List.length_cons, ih]

mutual

theorem isOperand_subst (he : e.isOperand = true) : (node : Node) → node.isOperand = true →
    (node.subst name e).isOperand = true
  | .integer _, _ | .float _, _ | .rational _, _ => rfl
  | .symbol other, _ => by
    rw [subst]
    split
    · exact he
    · rfl
  | .chain operands operators, h => by
    obtain ⟨lengths, operands_ok⟩ := isOperand_chain.mp h
    rw [subst, isOperand_chain, length_substAll]
    exact ⟨lengths, areOperands_substAll he operands operands_ok⟩

theorem areOperands_substAll (he : e.isOperand = true) : (nodes : List Node) → areOperands nodes = true →
    areOperands (substAll nodes name e) = true
  | [], _ => rfl
  | node :: more, h => by
    rw [areOperands, Bool.and_eq_true] at h
    rw [substAll, areOperands, isOperand_subst he node h.1, areOperands_substAll he more h.2]
    rfl

end

theorem bracketedFor_of_ne {t : Token} (h : t.kind ≠ .identifier) : bracketedFor name e t = [t] := by
  rw [bracketedFor, if_neg]
  rintro rfl
  exact h rfl

mutual

theorem operandTokens_subst (he : e.isExpression = true) : (node : Node) → node.isOperand = true →
    (node.subst name e).operandTokens = node.operandTokens.flatMap (bracketedFor name e)
  | .integer _, _ | .float _, _ | .rational _, _ => by
    simp [subst, operandTokens, bracketedFor_of_ne]
  | .symbol other, _ => by
    obtain ⟨operands, operators, rfl, -⟩ := isExpression_iff.mp he
    by_cases h : other = name
    · simp [subst, operandTokens, bracketedFor, tokens, h]
    · simp [subst, operandTokens, bracketedFor, h]
  | .chain operands operators, h => by
    have inside := chainTokens_substAll he operands (isOperand_chain.mp h).2 operators
    simp [subst, operandTokens, inside, bracketedFor_of_ne]

theorem chainTokens_substAll (he : e.isExpression = true) : (nodes : List Node) → areOperands nodes = true →
    ∀ operators : List Operator,
      chainTokens (substAll nodes name e) operators = (chainTokens nodes operators).flatMap (bracketedFor name e)
  | [], _, _ => by simp [substAll, chainTokens]
  | node :: more, h, operators => by
    rw [areOperands, Bool.and_eq_true] at h
    have first := operandTokens_subst he node h.1
    have rest := chainTokens_substAll he more h.2
    cases operators with
    | nil => simp [substAll, chainTokens, first, rest]
    | cons op operators =>
      have joins : bracketedFor name e op.token = [op.token] :=
        bracketedFor_of_ne (by cases op <;> simp [Operator.token, Operator.kind])
      simp [substAll, chainTokens, first, rest, joins]

end

/-! ### Meanings -/

variable {b : Bindings} {v : Value}

mutual

/-- What a name stands for may be put in its place. -/
theorem meaning_subst (he : e.meaning b = .ok v) : (node : Node) →
    (node.subst name e).meaning b = node.meaning (b.assign name v)
  | .integer _ | .float _ | .rational _ | .help | .about | .foreign _ => rfl
  | .symbol other => by
    rw [subst, meaning, Bindings.lookup_assign]
    split
    · exact he
    · rw [meaning]
  | .chain operands operators => by
    rw [subst, meaning, meaning, meanings_substAll he operands]
  | .assignment target value => by
    rw [subst, meaning, meaning, meaning_subst he value]

theorem meanings_substAll (he : e.meaning b = .ok v) : (nodes : List Node) →
    meanings b (substAll nodes name e) = meanings (b.assign name v) nodes
  | [] => rfl
  | node :: more => by
    rw [substAll, meanings, meanings, meaning_subst he node, meanings_substAll he more]

end

/-! ### Evaluations -/

theorem isExpression_subst (he : e.isExpression = true) {f : Node} (hf : f.isExpression = true) :
    (f.subst name e).isExpression = true := by
  obtain ⟨operands, operators, rfl, hc⟩ := isExpression_iff.mp hf
  obtain ⟨_, _, rfl, hc'⟩ := isExpression_iff.mp he
  exact isOperand_subst hc' (.chain operands operators) hc

theorem tokens_subst (he : e.isExpression = true) {f : Node} (hf : f.isExpression = true) :
    (f.subst name e).tokens = f.tokens.flatMap (bracketedFor name e) := by
  obtain ⟨operands, operators, rfl, hc⟩ := isExpression_iff.mp hf
  exact chainTokens_substAll he operands (isOperand_chain.mp hc).2 operators

theorem Written.subst (he : e.Written) {f : Node} (hf : f.Written) : (f.subst name e).Written := by
  refine ⟨isExpression_subst he.expression hf.expression, fun t ht => ?_⟩
  rw [tokens_subst he.expression hf.expression] at ht
  obtain ⟨u, hu, ht⟩ := List.mem_flatMap.mp ht
  rw [bracketedFor] at ht
  split at ht
  · rcases List.mem_append.mp ht with ht | ht
    · rcases List.mem_cons.mp ht with rfl | ht
      · exact .fixed rfl
      · exact he.formed t ht
    · rw [List.mem_singleton.mp ht]
      exact .fixed rfl
  · rw [List.mem_singleton.mp ht]
    exact hf.formed u hu

/-- An expression in which a name stands for the value of another one has the value that it has with the other one, in
    brackets, in the place of the name. -/
theorem run_subst {name : String} {e f : Node} (he : e.Written) (hf : f.Written) {b : Bindings} {v : Value}
    (value : (e.evaluation.run b).result = .ok v)
    (shallow : (f.evaluation.run (b.assign name v)).result ≠ .error .tooDeep)
    (shallow' : ((f.subst name e).evaluation.run b).result ≠ .error .tooDeep) :
    (f.subst name e).tokens = f.tokens.flatMap (bracketedFor name e) ∧
      ∃ w, (f.evaluation.run (b.assign name v)).result = .ok w ∧
        ((f.subst name e).evaluation.run b).result = .ok w := by
  refine ⟨tokens_subst he.expression hf.expression, ?_⟩
  obtain ⟨w, hw⟩ := ((he.subst hf).result_cases fullRoom b).resolve_right shallow'
  refine ⟨w, ?_, hw⟩
  -- What an expression means does not depend on how deep it is, so the levels that `e` adds do not matter.
  calc (f.evaluation.run (b.assign name v)).result
      = f.meaning (b.assign name v) := hf.settles fullRoom _ shallow
    _ = (f.subst name e).meaning b := (meaning_subst (he.meaning_eq value) f).symm
    _ = .ok w := (he.subst hf).meaning_eq hw

/-- In `10 - x * (x % y)` the name stands for `x + 1`, which uses what it stood for before; `y` has no value. -/
theorem run_subst_of_self :
    let e := chain [symbol "x", integer "1"] [.add]
    let f := chain [integer "10", symbol "x", chain [symbol "x", symbol "y"] [.rem]] [.sub, .mul]
    let b := Bindings.initial.assign "x" (.integer 3)
    e.Written ∧ f.Written ∧ (e.evaluation.run b).result = .ok (.integer 4) ∧
      (f.evaluation.run (b.assign "x" (.integer 4))).result ≠ .error .tooDeep ∧
      ((f.subst "x" e).evaluation.run b).result ≠ .error .tooDeep ∧
      (f.subst "x" e).tokens = f.tokens.flatMap (bracketedFor "x" e) ∧
      ∃ w, (f.evaluation.run (b.assign "x" (.integer 4))).result = .ok w ∧
        ((f.subst "x" e).evaluation.run b).result = .ok w := by
  intro e f b
  have he : OfLine "x + 1" e :=
    ⟨[⟨.identifier, "x"⟩, ⟨.plus, "+"⟩, ⟨.integer, "1"⟩, Token.closing], by decide +kernel, rfl⟩
  have hf : OfLine "10 - x * (x % y)" f :=
    ⟨[⟨.integer, "10"⟩, ⟨.minus, "-"⟩, ⟨.identifier, "x"⟩, ⟨.star, "*"⟩, ⟨.bracketOpen, "("⟩, ⟨.identifier, "x"⟩,
      ⟨.percent, "%"⟩, ⟨.identifier, "y"⟩, ⟨.bracketClose, ")"⟩, Token.closing], by decide +kernel, rfl⟩
  have value : (e.evaluation.run b).result = .ok (.integer 4) := by decide +kernel
  have shallow : (f.evaluation.run (b.assign "x" (.integer 4))).result ≠ .error .tooDeep := by decide +kernel
  have shallow' : ((f.subst "x" e).evaluation.run b).result ≠ .error .tooDeep := by decide +kernel
  exact ⟨he.written rfl, hf.written rfl, value, shallow, shallow',
    run_subst (he.written rfl) (hf.written rfl) value shallow shallow'⟩

end Calculator.Node
