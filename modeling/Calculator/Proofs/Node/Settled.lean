import Calculator.Proofs.Node.Refusal

/-! Tokens that end with one that closes a line, whatever stands before it. The reader of statements takes no such token,
    so it comes to an answer at the first of them at the latest, and never looks behind it (`Node.ofTokens_append`). The
    answer is a statement with all its operands, or the position of one of the tokens (`Node.settled_of_closed`). -/

namespace Calculator

/-- The refusal of the same tokens with more behind them. -/
def Refusal.append (more : List Token) : Refusal → Refusal
  | .rejected cause rest => .rejected cause (rest ++ more)
  | .ranOut => .ranOut
  | .tooDeep => .tooDeep

theorem Place.read_append {p : Place} {ts : List Token} (h : p.read ts ≠ .error .ranOut) (more : List Token) :
    p.read (ts ++ more) = (p.read ts).mapError (Refusal.append more) := by
  induction ts generalizing p with
  | nil => exact absurd rfl h
  | cons t ts ih =>
    rw [List.cons_append, Place.read, Place.read]
    rw [Place.read] at h
    cases step : p.step t with
    | goOn next =>
      rw [step] at h
      exact ih h
    | done node => rfl
    | refuse cause => rfl
    | tooDeep => rfl

namespace Node
variable {ts : List Token}

theorem only_append {node : Node} (h : node.only ts ≠ .error .ranOut) (more : List Token) :
    node.only (ts ++ more) = (node.only ts).mapError (Refusal.append more) := by
  cases ts with
  | nil => exact absurd rfl h
  | cons t ts =>
    rw [List.cons_append, only, only]
    split <;> rfl

theorem eq_of_only {node s : Node} (h : node.only ts = .ok s) : s = node := by
  cases ts with
  | nil => cases h
  | cons t ts =>
    rw [only] at h
    split at h
    · cases h
      rfl
    · cases h

theorem ofTokens_append (hne : ts ≠ []) (h : ofTokens ts ≠ .error .ranOut) (more : List Token) :
    ofTokens (ts ++ more) = (ofTokens ts).mapError (Refusal.append more) := by
  obtain ⟨t, ts, rfl⟩ := List.exists_cons_of_ne_nil hne
  -- A query, the target of an assignment, or an expression: more tokens at the end do not change which one it is.
  by_cases query : t.kind = .help ∨ t.kind = .about
  · obtain ⟨node, -, same⟩ := ofTokens_of_query query
    rw [same] at h
    rw [List.cons_append, same, same, only_append h]
  by_cases target : t.kind = .identifier ∧ ∃ e us, ts = e :: us ∧ e.kind = .equal
  · obtain ⟨ht, e, us, rfl, he⟩ := target
    rw [ofTokens_of_target ht he] at h
    have value : Place.start.read us ≠ .error .ranOut := fun ranOut => h (by rw [ranOut]; rfl)
    rw [List.cons_append, List.cons_append, ofTokens_of_target ht he, ofTokens_of_target ht he, Place.read_append value]
    cases Place.start.read us <;> rfl
  · have second : t.kind = .identifier → ∃ u us, ts = u :: us ∧ u.kind ≠ .equal := by
      intro ht
      cases ts with
      | nil => simp [ofTokens, ht] at h
      | cons u us => exact ⟨u, us, rfl, fun hu => target ⟨ht, u, us, rfl, hu⟩⟩
    have second' (ht : t.kind = .identifier) : ∃ u us, ts ++ more = u :: us ∧ u.kind ≠ .equal := by
      obtain ⟨u, us, rfl, hu⟩ := second ht
      exact ⟨u, us ++ more, rfl, hu⟩
    rw [ofTokens_of_expression (not_or.mp query) second] at h
    rw [List.cons_append, ofTokens_of_expression (not_or.mp query) second,
      ofTokens_of_expression (not_or.mp query) second', ← List.cons_append, Place.read_append h]

theorem isStatement_of_ofTokens {s : Node} (h : ofTokens ts = .ok s) : s.isStatement = true := by
  cases ts with
  | nil => cases h
  | cons t ts =>
    rcases ofTokens_cons t ts with ⟨query, hq, same⟩ | ⟨-, -, same⟩ | ⟨u, rest, -, -, -, same⟩ | same
    · obtain rfl : s = query := eq_of_only (same.symm.trans h)
      rcases hq with ⟨-, rfl⟩ | ⟨-, rfl⟩ <;> rfl
    · cases same.symm.trans h
    · cases read : Place.start.read rest with
      | error refusal =>
        rw [same, read] at h
        cases h
      | ok value =>
        rw [same, read] at h
        cases h
        exact Place.balanced_start.isExpression_of_read read
    · exact isStatement_of_isExpression (Place.balanced_start.isExpression_of_read (same.symm.trans h))

/-- What is settled about tokens, whatever stands behind them: they are a statement, or one of them cannot stand where
    it does, or they open too many brackets. -/
inductive Settled (ts : List Token) : Prop where
  | statement {s : Node} (complete : s.isStatement = true) (read : ∀ more, ofTokens (ts ++ more) = .ok s)
  | rejected {cause : ParseCause} {position : Nat} (inside : position < ts.length)
      (read : ∀ more, ∃ rest, ofTokens (ts ++ more) = .error (.rejected cause rest) ∧
        (ParseError.locate cause (ts ++ more) rest).position = position)
  | tooDeep (limit : bracketLimit < ts.countP (·.kind == .bracketOpen))
      (read : ∀ more, ofTokens (ts ++ more) = .error .tooDeep)

/-- Tokens that end with one that closes a line settle what is read. -/
theorem settled_of_closed (body : List Token) (lexeme : String) : Settled (body ++ [⟨.endOfLine, lexeme⟩]) := by
  have closed : ∃ t ∈ body ++ [⟨.endOfLine, lexeme⟩], t.kind = .endOfLine := ⟨⟨.endOfLine, lexeme⟩, by simp, rfl⟩
  generalize hts : body ++ [⟨.endOfLine, lexeme⟩] = ts at closed
  have hne : ts ≠ [] := by
    rintro rfl
    simp at hts
  have ranOut := ofTokens_ne_ranOut closed
  have behind := ofTokens_append hne ranOut
  cases read : ofTokens ts with
  | ok s => exact .statement (isStatement_of_ofTokens read) fun more => by rw [behind, read]; rfl
  | error refusal =>
    cases refusal with
    | ranOut => exact absurd read ranOut
    | tooDeep => exact .tooDeep (bracketLimit_lt_of_ofTokens read) fun more => by rw [behind, read]; rfl
    | rejected cause rest =>
      obtain ⟨front, u, us, rfl, rfl, -⟩ := exists_refused hne read
      have inside : front.length < (front ++ u :: us).length := by simp
      refine .rejected inside fun more => ⟨u :: us ++ more, by rw [behind, read]; rfl, ?_⟩
      rw [List.append_assoc, position_locate]

end Node

end Calculator
