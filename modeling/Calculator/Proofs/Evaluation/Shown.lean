import Calculator.Proofs.Evaluation.Literal
import Calculator.Proofs.Evaluation.Statement
import Calculator.Proofs.Token.Layout
import Calculator.Value.Shown

/-! What is shown for an integer can be typed again, as any operand of a line. A chain of integers is typed as what is
    shown for each, with the characters of the operators between them and a space between all of these. Such a line is
    read as the chain of the literals (`Chain.ofLine_typed`): a minus behind an operator is a sign, and one behind an
    operand is not. So its value is what the tiers read the integers as (`Chain.run_typed`). -/

namespace Calculator

/-- The text that is shown for a value. It is empty where nothing is shown. -/
def Value.shownText (v : Value) : String :=
  match v.shown with
  | .text text => text
  | .nothing | .unknown _ => ""

/-- A statement that is written with few brackets is read from each text that spells its tokens. -/
theorem Node.OfLine.of_spelled {line : String} {node : Node} (h : node.isStatement = true)
    (fit : Token.Fitting false node.tokens) (spelled : Token.Spelled node.tokens line.toList)
    (brackets : node.tokens.countP (·.kind == .bracketOpen) ≤ bracketLimit) : OfLine line node := by
  obtain ⟨t, ts, hts⟩ : ∃ t ts, node.tokens = t :: ts := by
    generalize node.tokens = body, line.toList = text at spelled
    cases spelled with
    | single t => exact ⟨t, [], rfl⟩
    | cons => exact ⟨_, _, rfl⟩
  refine ⟨node.tokens ++ [Token.closing], ?_, (ofTokens_of_statement h).resolve_right fun deep => ?_⟩
  · rw [Token.scan, Token.scanFrom_of_spelled fit spelled, hts]
    rfl
  · have limit := bracketLimit_lt_of_ofTokens deep
    rw [List.countP_append] at limit
    exact absurd limit (Nat.not_lt.mpr brackets)

namespace Chain

/-! ### Chains as they are typed -/

/-- The words of a chain: what is shown for each operand, and the characters of the operators between them. -/
def words (c : Chain Value) : List String :=
  c.first.shownText :: c.links.flatMap fun l => [String.singleton l.op.char, l.operand.shownText]

/-- The line that a chain is typed as, with a space between its words. -/
def typed (c : Chain Value) : String := " ".intercalate c.words

/-- The operands of a chain, in order. -/
def operands {α : Type} (c : Chain α) : List α := c.first :: c.links.map (·.operand)

/-- The node of a chain of integers, each a literal. -/
def literals (c : Chain Int) : Node := .chain (c.operands.map fun n => .integer (integerText n)) c.ops

variable {c : Chain Int}

theorem tokens_literals (c : Chain Int) :
    c.literals.tokens = ⟨.integer, integerText c.first⟩ ::
      c.links.flatMap fun l => [l.op.token, ⟨.integer, integerText l.operand⟩] := by
  obtain ⟨n, links⟩ := c
  simp only [literals, operands, ops, Node.tokens, List.map_cons]
  induction links generalizing n with
  | nil => rfl
  | cons l links ih =>
    rw [List.map_cons, List.map_cons, List.map_cons, Node.chainTokens, ih]
    rfl

theorem map_lexeme_literals (c : Chain Int) : c.literals.tokens.map (·.lexeme) = (c.map .integer).words := by
  rw [tokens_literals, List.map_cons, List.map_flatMap, words, map, List.flatMap_map]
  rfl

theorem fitting_literals (c : Chain Int) : Token.Fitting false c.literals.tokens := by
  rw [tokens_literals]
  obtain ⟨n, links⟩ := c
  dsimp only
  induction links generalizing n with
  | nil => exact ⟨lexeme_integerText n, fun _ => rfl, trivial⟩
  | cons l links ih =>
    have text : l.op.token.kind.text? = some [l.op.char] := by cases l.op <;> rfl
    have unsigned : l.op.token.signed = false := Token.signed_of_text? text
    have opens : l.op.token.kind.endsOperand = false := by cases l.op <;> rfl
    have formed : l.op.token.Formed := .fixed (by rw [text, Operator.token, String.toList_ofList])
    refine ⟨lexeme_integerText n, fun _ => rfl, formed, fun signed => ?_, ?_⟩
    · rw [unsigned] at signed
      cases signed
    · rw [opens]
      exact ih l.operand

theorem isOperand_literals (c : Chain Int) : c.literals.isOperand = true := by
  refine Node.isOperand_chain.mpr ⟨by simp [operands, ops], ?_⟩
  rw [Node.areOperands_eq_all, List.all_map, List.all_eq_true]
  exact fun n _ => rfl

/-- A typed chain is read as the chain of its literals. -/
theorem ofLine_typed (c : Chain Int) : Node.OfLine (c.map .integer).typed c.literals := by
  refine .of_spelled (isOperand_literals c) (fitting_literals c) ?_ ?_
  · have text : (c.map .integer).typed.toList = Token.spaced c.literals.tokens := by
      rw [typed, ← map_lexeme_literals, String.toList_intercalate, List.map_map]
      rfl
    rw [text, tokens_literals]
    exact Token.spelled_spaced _ _
  · have none : c.literals.tokens.countP (·.kind == .bracketOpen) = 0 := by
      rw [tokens_literals, List.countP_eq_zero]
      intro t ht
      rcases List.mem_cons.mp ht with rfl | ht
      · simp
      · obtain ⟨l, -, ht⟩ := List.mem_flatMap.mp ht
        rcases List.mem_cons.mp ht with rfl | ht
        · cases l.op <;> decide
        · rw [List.mem_singleton.mp ht]
          simp
    rw [none]
    exact Nat.zero_le _

theorem written_literals (c : Chain Int) : c.literals.Written := (ofLine_typed c).written (isOperand_literals c)

/-! ### What they mean -/

theorem meanings_literals {ns : List Int} (inRange : ∀ n ∈ ns, InRange n) (b : Bindings) :
    Node.meanings b (ns.map fun n => .integer (integerText n)) = .ok (ns.map .integer) := by
  induction ns with
  | nil => rfl
  | cons n ns ih =>
    obtain ⟨hn, hns⟩ := List.forall_mem_cons.mp inRange
    rw [List.map_cons, Node.meanings, Node.meaning, integerLiteral_integerText hn, ih hns]
    rfl

theorem meaning_literals (inRange : ∀ n ∈ c.operands, InRange n) (b : Bindings) :
    c.literals.meaning b = .ok ((c.map .integer).reading Operator.apply) := by
  have chain : ofLists (Value.integer c.first) c.ops ((c.links.map (·.operand)).map .integer) = c.map .integer := by
    simp [ofLists, map, ops, List.zipWith_map, List.zipWith_self]
  rw [literals, Node.meaning, meanings_literals inRange, ← chain]
  rfl

theorem sure_literals (inRange : ∀ n ∈ c.operands, InRange n) :
    ∀ node ∈ c.operands.map (fun n => Node.integer (integerText n)), node.action.Sure := by
  intro node literal
  obtain ⟨n, hn, rfl⟩ := List.mem_map.mp literal
  rw [Node.action]
  exact Action.sure_within (integerLiteral_integerText (inRange n hn))

theorem exists_value_literals (inRange : ∀ n ∈ c.operands, InRange n) (short : c.links.length < fullRoom - chainLevels)
    (b : Bindings) : ∃ v, (c.literals.evaluation.run b).result = .ok v := by
  refine Node.exists_value_of_chain (by simp [ops]) (sure_literals inRange) ?_ b
  rw [List.length_map, List.length_map]
  omega

theorem result_typed_of_ok (inRange : ∀ n ∈ c.operands, InRange n) {b : Bindings} {v : Value}
    (hv : (c.literals.evaluation.run b).result = .ok v) :
    ((evaluateLine (c.map .integer).typed).run b).result = .ok ((c.map .integer).reading Operator.apply) := by
  rw [run_line_of_ok (ofLine_typed c) hv, hv, ← (written_literals c).meaning_eq hv, meaning_literals inRange]

theorem result_typed_of_short (inRange : ∀ n ∈ c.operands, InRange n)
    (short : c.links.length < fullRoom - chainLevels) (b : Bindings) :
    ((evaluateLine (c.map .integer).typed).run b).result = .ok ((c.map .integer).reading Operator.apply) := by
  obtain ⟨v, hv⟩ := exists_value_literals inRange short b
  exact result_typed_of_ok inRange hv

/-- A chain of integers that is typed as what is shown for them has the value that the tiers read the integers as,
    unless the line goes too deep. With fewer operators than there are levels it does not; and so each integer alone is
    typed as what is shown for it. -/
theorem run_typed (inRange : ∀ n ∈ c.operands, InRange n) (b : Bindings) :
    (((evaluateLine (c.map .integer).typed).run b).result ≠ .ok (.error .tooDeep) →
      ((evaluateLine (c.map .integer).typed).run b).result = .ok ((c.map .integer).reading Operator.apply)) ∧
    (c.links.length < fullRoom - chainLevels →
      ((evaluateLine (c.map .integer).typed).run b).result = .ok ((c.map .integer).reading Operator.apply)) ∧
    ∀ n ∈ c.operands, ((evaluateLine (Value.integer n).shownText).run b).result = .ok (.integer n) := by
  refine ⟨fun shallow => ?_, fun short => result_typed_of_short inRange short b, fun n hn => ?_⟩
  · rcases (written_literals c).result_cases fullRoom b with ⟨v, hv⟩ | deep
    · exact result_typed_of_ok inRange hv
    · exact absurd (run_line_of_tooDeep (ofLine_typed c) deep).1 shallow
  · have alone : ∀ m ∈ (single n).operands, InRange m := List.forall_mem_singleton.mpr (inRange n hn)
    exact result_typed_of_short alone (show 0 < fullRoom - chainLevels by decide) b

/-- From `-7 / -2 ^ 2 - -170141183460469231731687303715884105728`, with a sign behind each operator but one, comes the
    greatest integer. -/
theorem run_typed_of_signs :
    let c : Chain Int := ⟨-7, [⟨.div, -2⟩, ⟨.pow, 2⟩, ⟨.sub, leastInteger⟩]⟩
    (∀ n ∈ c.operands, InRange n) ∧ (c.map .integer).typed = "-7 / -2 ^ 2 - -170141183460469231731687303715884105728" ∧
      ((evaluateLine (c.map .integer).typed).run .initial).result ≠ .ok (.error .tooDeep) ∧
      c.links.length < fullRoom - chainLevels ∧
      ((evaluateLine (c.map .integer).typed).run .initial).result = .ok (.integer greatestInteger) ∧
      ((evaluateLine (Value.integer leastInteger).shownText).run .initial).result = .ok (.integer leastInteger) := by
  intro c
  have inRange : ∀ n ∈ c.operands, InRange n := by decide
  have short : c.links.length < fullRoom - chainLevels := by decide
  have value : (c.map .integer).reading Operator.apply = .integer greatestInteger := by decide +kernel
  obtain ⟨whole, enough, alone⟩ := run_typed inRange .initial
  have result := enough short
  have shallow : ((evaluateLine (c.map .integer).typed).run .initial).result ≠ .ok (.error .tooDeep) := by
    rw [result, value]
    nofun
  refine ⟨inRange, by decide +kernel, shallow, short, ?_, alone leastInteger (by decide)⟩
  rw [whole shallow, value]

end Chain

end Calculator
