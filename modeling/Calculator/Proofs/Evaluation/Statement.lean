import Calculator.Proofs.Evaluation.Operand
import Calculator.Proofs.Evaluation.Total
import Calculator.Proofs.Node.Line

/-! What a line does. There are six things that can come of a line (`Effect`), and one of them does
    (`effect_iff`). Only an assignment that is carried out changes the bindings, and only that of its target
    (`bindings_of_line`). -/

namespace Calculator

/-! ### Expressions -/

namespace Node.Written
variable {node : Node} {room : Nat} {b : Bindings}

theorem keeps (h : node.Written) (room : Nat) : (node.action room).Keeps := by
  obtain ⟨operands, operators, rfl, hc⟩ := isExpression_iff.mp h.expression
  exact action_keeps hc room

theorem settles (h : node.Written) (room : Nat) (b : Bindings) :
    Settles ((node.action room).run b).result (node.meaning b) := by
  obtain ⟨operands, operators, rfl, hc⟩ := isExpression_iff.mp h.expression
  exact settles_action _ hc room b

/-- An expression has a value, or its evaluation goes too deep. -/
theorem result_cases (h : node.Written) (room : Nat) (b : Bindings) :
    (∃ v, ((node.action room).run b).result = .ok v) ∨ ((node.action room).run b).result = .error .tooDeep := by
  cases result : ((node.action room).run b).result with
  | ok v => exact Or.inl ⟨v, rfl⟩
  | error fault =>
    obtain rfl := expression_faultless h.expression h.formed room false b fault result
    exact Or.inr rfl

theorem meaning_eq (h : node.Written) {v : Value} (hv : ((node.action room).run b).result = .ok v) :
    node.meaning b = .ok v := by
  rw [← h.settles room b (by simp [hv]), hv]

end Node.Written

/-! ### Statements -/

theorem evaluation_query (topic : Topic) : topic.query.evaluation = pure (.info topic) := by
  cases topic <;> rfl

theorem evaluation_assignment (target : String) (value : Node) :
    (Node.assignment target value).evaluation = (do
      let x ← value.action (fullRoom - 1)
      .assign target x
      pure .nil) := by
  rw [Node.evaluation, Node.action]
  rfl

theorem run_assignment_of_ok (target : String) {value : Node} (hw : value.Written) {b : Bindings} {v : Value}
    (hv : ((value.action (fullRoom - 1)).run b).result = .ok v) :
    ((Node.assignment target value).evaluation.run b).result = .ok .nil ∧
      ((Node.assignment target value).evaluation.run b).bindings = b.assign target v := by
  rw [evaluation_assignment, Evaluation.run_bind_of_ok hv, hw.keeps]
  exact ⟨rfl, rfl⟩

theorem run_assignment_of_tooDeep (target : String) {value : Node} (hw : value.Written) {b : Bindings}
    (deep : ((value.action (fullRoom - 1)).run b).result = .error .tooDeep) :
    ((Node.assignment target value).evaluation.run b).result = .error .tooDeep ∧
      ((Node.assignment target value).evaluation.run b).bindings = b := by
  rw [evaluation_assignment, Evaluation.run_bind_of_error deep, hw.keeps]
  exact ⟨rfl, rfl⟩

/-- A statement that goes too deep has not changed the bindings. -/
theorem Node.OfLine.bindings_of_tooDeep {line : String} {node : Node} (h : OfLine line node) {b : Bindings}
    (deep : (node.evaluation.run b).result = .error .tooDeep) : (node.evaluation.run b).bindings = b := by
  rcases h.cases with ⟨topic, rfl⟩ | hw | ⟨target, value, rfl, hw⟩
  · rw [evaluation_query] at deep
    cases deep
  · exact hw.keeps fullRoom b
  · rcases hw.result_cases (fullRoom - 1) b with ⟨v, hv⟩ | deep'
    · rw [(run_assignment_of_ok target hw hv).1] at deep
      cases deep
    · exact (run_assignment_of_tooDeep target hw deep').2

/-! ### Lines -/

theorem evaluateLine_of_blank {line : String} (h : Token.scan line = .ok []) :
    evaluateLine line = pure (.error .blank) := by
  rw [evaluateLine, h]

theorem evaluateLine_of_rejected {line : String} (h : Rejected line) : ∃ reason, evaluateLine line = rejectLine reason := by
  rw [evaluateLine]
  rcases h with ⟨e, scanned⟩ | ⟨ts, refusal, scanned, hne, read⟩
  · rw [scanned]
    exact ⟨_, rfl⟩
  · obtain ⟨t, ts, rfl⟩ := List.exists_cons_of_ne_nil hne
    have complete := (faultless_of_scan scanned hne).1
    rw [scanned]
    dsimp only
    rw [evaluateTokens, read]
    cases refusal with
    | rejected cause rest => exact ⟨_, rfl⟩
    | tooDeep => exact ⟨_, rfl⟩
    | ranOut => exact absurd read complete

theorem evaluateLine_of_ofLine {line : String} {node : Node} (h : Node.OfLine line node) :
    evaluateLine line = evaluateStatement node := by
  have hne := h.scan_ne
  obtain ⟨ts, scanned, read⟩ := h
  rw [evaluateLine, scanned]
  cases ts with
  | nil => exact absurd scanned hne
  | cons t ts =>
    dsimp only
    rw [evaluateTokens, read]

theorem run_line_of_ok {line : String} {node : Node} (h : Node.OfLine line node) {b : Bindings} {v : Value}
    (hv : (node.evaluation.run b).result = .ok v) : (evaluateLine line).run b = node.evaluation.run b := by
  rw [evaluateLine_of_ofLine h, evaluateStatement]
  exact Evaluation.runIn_recover_of_ok hv

theorem run_line_of_tooDeep {line : String} {node : Node} (h : Node.OfLine line node) {b : Bindings}
    (deep : (node.evaluation.run b).result = .error .tooDeep) :
    ((evaluateLine line).run b).result = .ok (.error .tooDeep) ∧ ((evaluateLine line).run b).bindings = b := by
  have recovered : (evaluateLine line).run b = { node.evaluation.run b with result := .ok (.error .tooDeep) } := by
    rw [evaluateLine_of_ofLine h, evaluateStatement]
    exact Evaluation.runIn_recover_of_error deep
  rw [recovered]
  exact ⟨rfl, h.bindings_of_tooDeep deep⟩

/-- What can come of a line on given bindings: its value, and the bindings behind it. -/
inductive Effect (line : String) (b : Bindings) : Value → Bindings → Prop where
  | blank (h : Token.scan line = .ok []) : Effect line b (.error .blank) b
  | rejected (h : Rejected line) : Effect line b (.error .notAStatement) b
  | query {topic : Topic} (h : topic.query.OfLine line) : Effect line b (.info topic) b
  | expression {node : Node} {v : Value} (h : Node.OfLine line node) (hw : node.Written)
      (hv : (node.evaluation.run b).result = .ok v) : Effect line b v b
  | assignment {target : String} {value : Node} {v : Value} (h : Node.OfLine line (.assignment target value))
      (hw : value.Written) (hv : ((value.action (fullRoom - 1)).run b).result = .ok v) :
      Effect line b .nil (b.assign target v)
  | tooDeep {node : Node} (h : Node.OfLine line node) (deep : (node.evaluation.run b).result = .error .tooDeep) :
      Effect line b (.error .tooDeep) b

theorem Effect.run {line : String} {b after : Bindings} {v : Value} (h : Effect line b v after) :
    ((evaluateLine line).run b).result = .ok v ∧ ((evaluateLine line).run b).bindings = after := by
  cases h with
  | blank h =>
    rw [evaluateLine_of_blank h]
    exact ⟨rfl, rfl⟩
  | rejected h =>
    obtain ⟨reason, same⟩ := evaluateLine_of_rejected h
    rw [same]
    exact ⟨rfl, rfl⟩
  | @query topic h =>
    have run : topic.query.evaluation.run b = ⟨.ok (.info topic), b, []⟩ := by
      rw [evaluation_query]
      rfl
    rw [run_line_of_ok h (congrArg Outcome.result run), run]
    exact ⟨rfl, rfl⟩
  | expression h hw hv =>
    rw [run_line_of_ok h hv]
    exact ⟨hv, hw.keeps fullRoom b⟩
  | assignment h hw hv =>
    obtain ⟨result, bindings⟩ := run_assignment_of_ok _ hw hv
    rw [run_line_of_ok h result]
    exact ⟨result, bindings⟩
  | tooDeep h deep => exact run_line_of_tooDeep h deep

theorem exists_effect (line : String) (b : Bindings) : ∃ v after, Effect line b v after := by
  rcases line_cases line with blank | rejected | ⟨node, h⟩
  · exact ⟨_, _, .blank blank⟩
  · exact ⟨_, _, .rejected rejected⟩
  · rcases h.cases with ⟨topic, rfl⟩ | hw | ⟨target, value, rfl, hw⟩
    · exact ⟨_, _, .query h⟩
    · rcases hw.result_cases fullRoom b with ⟨v, hv⟩ | deep
      · exact ⟨_, _, .expression h hw hv⟩
      · exact ⟨_, _, .tooDeep h deep⟩
    · rcases hw.result_cases (fullRoom - 1) b with ⟨v, hv⟩ | deep
      · exact ⟨_, _, .assignment h hw hv⟩
      · exact ⟨_, _, .tooDeep h (run_assignment_of_tooDeep target hw deep).1⟩

theorem Effect.unique {line : String} {b after after' : Bindings} {v v' : Value} (effect : Effect line b v after)
    (effect' : Effect line b v' after') : v = v' ∧ after = after' := by
  obtain ⟨result, bindings⟩ := effect.run
  obtain ⟨result', bindings'⟩ := effect'.run
  exact ⟨Except.ok.inj (result.symm.trans result'), bindings.symm.trans bindings'⟩

/-- A line has exactly one effect, which is what its evaluation does. -/
theorem effect_iff {line : String} {b after : Bindings} {v : Value} :
    Effect line b v after ↔
      ((evaluateLine line).run b).result = .ok v ∧ ((evaluateLine line).run b).bindings = after := by
  refine ⟨Effect.run, ?_⟩
  rintro ⟨result, rfl⟩
  obtain ⟨v', after', effect⟩ := exists_effect line b
  obtain ⟨result', rfl⟩ := effect.run
  obtain rfl := Except.ok.inj (result.symm.trans result')
  exact effect

/-- A line changes the bindings only where it is an assignment whose right side does not go too deep. Then its target
    has the value that the right side had before, and all other names have what they had. -/
theorem bindings_of_line (line : String) (b : Bindings) :
    (∀ target value, Node.OfLine line (.assignment target value) →
      ((value.action (fullRoom - 1)).run b).result ≠ .error .tooDeep →
        ∃ v, (value.evaluation.run b).result = .ok v ∧ ((evaluateLine line).run b).result = .ok .nil ∧
          ((evaluateLine line).run b).bindings.lookup target = some v ∧
          ∀ other, other ≠ target → ((evaluateLine line).run b).bindings.lookup other = b.lookup other) ∧
    ((∀ target value, Node.OfLine line (.assignment target value) →
      ((value.action (fullRoom - 1)).run b).result = .error .tooDeep) →
        ((evaluateLine line).run b).bindings = b) := by
  constructor
  · intro target value h shallow
    have hw : value.Written := h.written_value
    obtain ⟨v, hv⟩ := (hw.result_cases (fullRoom - 1) b).resolve_right shallow
    have whole := Node.action_steady value (Nat.sub_le fullRoom 1) b shallow
    obtain ⟨result, bindings⟩ := (Effect.assignment h hw hv).run
    rw [bindings]
    refine ⟨v, ?_, result, b.lookup_assign_self target v, fun other hne => b.lookup_assign_of_ne v hne⟩
    rw [Node.evaluation, whole, hv]
  · intro others
    obtain ⟨v, after, effect⟩ := exists_effect line b
    rw [effect.run.2]
    cases effect with
    | assignment h hw hv =>
      rw [others _ _ h] at hv
      cases hv
    | _ => rfl

end Calculator
