import Calculator.Evaluation.Line
import Calculator.Proofs.Evaluation.Literal
import Calculator.Proofs.Evaluation.Operand
import Calculator.Proofs.Node.Reading
import Calculator.Proofs.Value.Caught

/-! Every line has a value, whether there is a log or not. A statement that is read from a line has all its operands, is
    made of nodes that have an evaluation, and its literals spell numbers; what stops an operation is caught where it is
    done. So the one fault that is left is that an evaluation goes too deep, and this fault is made a failure. -/

namespace Calculator

/-! ### Evaluations without other faults -/

namespace Evaluation
variable {α β : Type}

/-- An evaluation that has no other fault than that it goes too deep. -/
def Faultless (x : Evaluation α) : Prop :=
  ∀ verbose b fault, (x.runIn verbose b).result = .error fault → fault = .tooDeep

theorem faultless_ok (a : α) : Faultless (ofExcept (.ok a)) := nofun

theorem faultless_pure (a : α) : Faultless (pure a) := nofun

theorem faultless_lookup (name : String) : Faultless (lookup name) := nofun

theorem faultless_assign (name : String) (value : Value) : Faultless (assign name value) := nofun

theorem Faultless.bind {x : Evaluation α} {f : α → Evaluation β} (h : x.Faultless) (h' : ∀ a, (f a).Faultless) :
    (x >>= f).Faultless := by
  intro verbose b fault hr
  cases result : (x.runIn verbose b).result with
  | ok a =>
    rw [runIn_bind_of_ok result] at hr
    exact h' a verbose _ fault hr
  | error fault' =>
    rw [runIn_bind_of_error result] at hr
    cases hr
    exact h verbose b fault result

theorem faultless_remark (r : Remark) (room : Nat) : Faultless (remark r room) := by
  intro verbose b fault hr
  rw [remark] at hr
  dsimp only at hr
  split at hr
  · cases hr
    rfl
  · cases hr

theorem faultless_operation (op : Operator) (x y : Value) (room : Nat) : Faultless (operation op x y room) := by
  rw [operation]
  cases Remark.onOperation? op x y with
  | some r => exact (faultless_remark r room).bind fun _ => faultless_pure _
  | none => exact faultless_pure _

end Evaluation

/-- An action that has no other fault than that it goes too deep, with any room. -/
def Action.Faultless (action : Action) : Prop := ∀ room, (action room).Faultless

theorem Action.Faultless.within {action : Action} (h : action.Faultless) : action.within.Faultless := by
  intro room verbose b fault hr
  rw [Action.within] at hr
  split at hr
  · cases hr
    rfl
  · exact h room verbose b fault hr

/-! ### Statements -/

namespace Node

theorem faultless_hereditary : Hereditary Evaluation.Faultless Token.Formed where
  deep := by
    rintro verbose b fault ⟨⟩
    rfl
  join := fun room op _ _ hx hy => hx.bind fun a => hy.bind fun c => Evaluation.faultless_operation op a c room
  integer := by
    intro text formed
    obtain ⟨v, hv⟩ := integerLiteral_of_lexeme formed
    rw [hv]
    exact Evaluation.faultless_ok v
  float := by
    intro text formed
    obtain ⟨x, hx⟩ := floatLiteral_of_lexeme formed
    rw [hx]
    exact Evaluation.faultless_ok _
  rational := fun _ _ => Evaluation.faultless_pure _
  symbol := fun name _ => Evaluation.faultless_lookup name

theorem expression_faultless {node : Node} (h : node.isExpression = true) (formed : ∀ t ∈ node.tokens, t.Formed) :
    node.action.Faultless :=
  expression_induction faultless_hereditary (.fixed rfl) (.fixed rfl) h formed

theorem statement_faultless {node : Node} (h : node.isStatement = true) (formed : ∀ t ∈ node.tokens, t.Formed) :
    node.action.Faultless := by
  cases node with
  | assignment target value =>
    have faultless := expression_faultless (show value.isExpression = true from h) fun t ht =>
      formed t (List.mem_cons_of_mem _ (List.mem_cons_of_mem _ ht))
    rw [action]
    exact Action.Faultless.within fun room => (faultless _).bind fun v =>
      (Evaluation.faultless_assign target v).bind fun _ => Evaluation.faultless_pure _
  | help | about =>
    rw [action]
    exact Action.Faultless.within fun _ => Evaluation.faultless_pure _
  | chain operands operators => exact expression_faultless h formed
  | _ => cases h

end Node

/-! ### Lines -/

/-- A failure with the given words. -/
def Value.FailsWith (v : Value) (message : String) : Prop := ∃ cause, v = .error cause ∧ cause.message = message

/-- A line that is no statement is remarked on where there is room for it. -/
theorem runIn_rejectLine (reason : Remark) (verbose : Bool) (b : Bindings) :
    (rejectLine reason).runIn verbose b = ⟨.ok (.error .notAStatement), b, [reason]⟩ := by
  cases verbose <;> rfl

theorem result_of_rejectLine (reason : Remark) (verbose : Bool) (b : Bindings) :
    ∃ v, ((rejectLine reason).runIn verbose b).result = .ok v ∧ v.FailsWith "parsing error" := by
  rw [runIn_rejectLine]
  exact ⟨_, rfl, .notAStatement, rfl, rfl⟩

/-- A statement without other faults has a value, which is a failure where it goes too deep. -/
theorem result_of_evaluateStatement {node : Node} (h : node.action.Faultless) (verbose : Bool) (b : Bindings) :
    ∃ v, ((evaluateStatement node).runIn verbose b).result = .ok v ∧
      ((node.evaluation.runIn verbose b).result = .ok v ∨
        (node.evaluation.runIn verbose b).result = .error .tooDeep ∧ v.FailsWith "expression is nested too deeply") := by
  rw [evaluateStatement]
  cases result : (node.evaluation.runIn verbose b).result with
  | ok v =>
    rw [Evaluation.runIn_recover_of_ok result]
    exact ⟨v, result, Or.inl rfl⟩
  | error fault =>
    obtain rfl := h fullRoom verbose b fault result
    rw [Evaluation.runIn_recover_of_error result]
    exact ⟨.error .tooDeep, rfl, Or.inr ⟨rfl, .tooDeep, rfl, rfl⟩⟩

/-- The tokens of a line do not end before the statement does, and a statement that is read from them has no other
    faults. -/
theorem faultless_of_scan {text : String} {ts : List Token} (scanned : Token.scan text = .ok ts) (hne : ts ≠ []) :
    Node.ofTokens ts ≠ .error .ranOut ∧ ∀ node, Node.ofTokens ts = .ok node → node.action.Faultless := by
  obtain ⟨body, fit, rfl⟩ := Token.wellFormed_of_scan scanned
  cases body with
  | nil => exact absurd rfl hne
  | cons t body =>
    refine ⟨Node.ofTokens_ne_ranOut ⟨Token.closing, by simp [Token.close], rfl⟩, fun node read => ?_⟩
    obtain ⟨statement, tokens⟩ := Node.statement_of_ofTokens fit.formed read
    exact Node.statement_faultless statement (tokens ▸ fit.formed)

/-- Wherever a number may start, one is read; whatever stops an operation, on numbers of any size, becomes a failure; and
    every line has a value, from any bindings, with a log and without. A line that is no statement, even if only for its
    many brackets, and a statement whose evaluation goes too deep, each have a failure of their own. -/
theorem exists_value_of_line :
    (∀ sign cs, (sign = [] ∨ sign = ['-']) → Token.startsDigit cs = true →
      (Token.number sign cs).1.Formed ∧
        sign ++ cs = (Token.number sign cs).1.lexeme.toList ++ (Token.number sign cs).2) ∧
    (∀ (op : Operator) (a b : Value) (raised : Raised), op.attempt a b = .error raised →
      op.apply a b = .error raised.failure ∧
        raised.failure.message ∈ ["division by zero", "numeric overflow", "math domain error"]) ∧
    ∀ (text : String) (verbose : Bool) (b : Bindings), ∃ v, ((evaluateLine text).runIn verbose b).result = .ok v ∧
      match Token.scan text with
      | .error _ => v.FailsWith "parsing error"
      | .ok [] => v.FailsWith ""
      | .ok ts =>
        match Node.ofTokens ts with
        | .error refusal => refusal ≠ .ranOut ∧ v.FailsWith "parsing error"
        | .ok node =>
          (node.evaluation.runIn verbose b).result = .ok v ∨
            (node.evaluation.runIn verbose b).result = .error .tooDeep ∧
              v.FailsWith "expression is nested too deeply" := by
  refine ⟨fun sign cs hs hd => Token.of_number hs hd,
    fun op a b raised stopped => ⟨Operator.apply_of_raised stopped, raised.message_failure_mem⟩, fun text verbose b => ?_⟩
  have rejected : ∀ reason refusal, refusal ≠ Refusal.ranOut →
      ∃ v, ((rejectLine reason).runIn verbose b).result = .ok v ∧ refusal ≠ .ranOut ∧ v.FailsWith "parsing error" := by
    intro reason refusal hr
    obtain ⟨v, hv, fails⟩ := result_of_rejectLine reason verbose b
    exact ⟨v, hv, hr, fails⟩
  rw [evaluateLine]
  cases scanned : Token.scan text with
  | error e => exact result_of_rejectLine _ verbose b
  | ok ts =>
    cases ts with
    | nil => exact ⟨_, rfl, .blank, rfl, rfl⟩
    | cons t ts =>
      obtain ⟨complete, faultless⟩ := faultless_of_scan scanned (List.cons_ne_nil t ts)
      dsimp only
      rw [evaluateTokens]
      cases read : Node.ofTokens (t :: ts) with
      | ok node => exact result_of_evaluateStatement (faultless node read) verbose b
      | error refusal =>
        cases refusal with
        | rejected cause rest => exact rejected _ _ (by simp)
        | tooDeep => exact rejected _ _ (by simp)
        | ranOut => exact absurd read complete

end Calculator
