import Calculator.Proofs.Node.Reading
import Calculator.Proofs.Token.Lossless

/-! The token that is rejected is the first that cannot stand where it does. Whatever comes behind it, it is rejected
    (`Node.Refused.ofTokens_eq`); and from every place that the reader of statements comes to, an operand where one has to
    come and the brackets that are open make a statement (`Place.Balanced.exists_finish`). -/

namespace Calculator

namespace Place
variable {p q r : Place} {t : Token} {ts body : List Token} {cause : ParseCause}

/-! ### Tokens that are taken -/

/-- Tokens that the reader takes one after the other. -/
inductive Goes : Place → List Token → Place → Prop where
  | stay (p : Place) : Goes p [] p
  | go {p q r : Place} {t : Token} {ts : List Token} (step : p.step t = .goOn q) (more : Goes q ts r) :
      Goes p (t :: ts) r

theorem Goes.read_eq (h : Goes p ts q) (rest : List Token) : p.read (ts ++ rest) = q.read rest := by
  induction h with
  | stay p => rfl
  | go step more ih => rw [List.cons_append, Place.read, step, ← ih]

theorem read_of_refuse (h : p.step t = .refuse cause) (rest : List Token) :
    p.read (t :: rest) = .error (.rejected cause (t :: rest)) := by
  rw [Place.read, h]

/-- A token is rejected behind tokens that are taken. -/
theorem exists_goes {rest : List Token} (h : p.read ts = .error (.rejected cause rest)) :
    ∃ body t more q, ts = body ++ t :: more ∧ rest = t :: more ∧ Goes p body q ∧ q.step t = .refuse cause := by
  induction ts generalizing p with
  | nil => cases h
  | cons u us ih =>
    rw [Place.read] at h
    split at h
    · rename_i next goOn
      obtain ⟨body, t, more, q, rfl, hrest, goes, refuse⟩ := ih h
      exact ⟨u :: body, t, more, q, rfl, hrest, .go goOn goes, refuse⟩
    · cases h
    · rename_i refuse
      cases h
      exact ⟨[], u, us, p, rfl, rfl, .stay p, refuse⟩
    · cases h

theorem Goes.balanced (h : Goes p ts q) (hp : p.Balanced) : q.Balanced := by
  induction h with
  | stay p => exact hp
  | go step more ih => exact ih (hp.next (takes_of_step step))

theorem Goes.consumed_eq (h : Goes p ts q) (hp : p.Balanced) (formed : ∀ t ∈ ts, t.Formed) :
    q.consumed = p.consumed ++ ts := by
  induction h with
  | stay p => rw [List.append_nil]
  | go step more ih =>
    obtain ⟨ht, formed⟩ := List.forall_mem_cons.mp formed
    have taken := takes_of_step step
    rw [ih (hp.next taken) formed, hp.consumed_next ht taken, List.append_assoc, List.singleton_append]

theorem Takes.kind_ne (h : Takes p t q) : t.kind ≠ .help ∧ t.kind ≠ .about ∧ t.kind ≠ .equal := by
  cases h with
  | operand he ht => exact ⟨fun hk => by simp [Node.ofToken?, hk] at ht, fun hk => by simp [Node.ofToken?, hk] at ht,
      fun hk => by simp [Node.ofToken?, hk] at ht⟩
  | opens he ht => simp [ht]
  | @operator _ _ _ op ht =>
    rw [Kind.operator?_eq_some_iff.mp ht]
    cases op <;> simp [Operator.kind]
  | closes ht => simp [ht]

/-! ### Open brackets -/

theorem Takes.brackets (h : Takes p t q) : q.outer.length + [t].countP (·.kind == .bracketClose) =
    p.outer.length + [t].countP (·.kind == .bracketOpen) := by
  cases h with
  | operand he ht =>
    have close : t.kind ≠ .bracketClose := fun hk => by simp [Node.ofToken?, hk] at ht
    have opens : t.kind ≠ .bracketOpen := fun hk => by simp [Node.ofToken?, hk] at ht
    simp [afterOperand, close, opens]
  | opens he ht => simp [ht]
  | operator ht =>
    have close : t.kind ≠ .bracketClose := fun hk => by simp [Kind.operator?, hk] at ht
    have opens : t.kind ≠ .bracketOpen := fun hk => by simp [Kind.operator?, hk] at ht
    simp [close, opens]
  | closes ht => simp [afterOperand, ht]

theorem Goes.brackets (h : Goes p ts q) : q.outer.length + ts.countP (·.kind == .bracketClose) =
    p.outer.length + ts.countP (·.kind == .bracketOpen) := by
  induction h with
  | stay p => rfl
  | go step more ih =>
    have one := (takes_of_step step).brackets
    rw [← List.singleton_append, List.countP_append, List.countP_append]
    omega

/-! ### Tokens that end a statement -/

/-- An operand where one has to come, and a bracket for each that is open. -/
def finish (p : Place) : List Token :=
  (if p.expected = .operator then [] else [⟨.integer, "1"⟩]) ++ List.replicate p.outer.length ⟨.bracketClose, ")"⟩

theorem read_brackets (inner : Pending) (outer : List Pending) : ∃ node, (⟨.operator, inner, outer⟩ : Place).read
    (List.replicate outer.length ⟨.bracketClose, ")"⟩ ++ [Token.closing]) = .ok node := by
  induction outer generalizing inner with
  | nil => exact ⟨inner.chain, rfl⟩
  | cons around outer ih =>
    obtain ⟨node, read⟩ := ih (around.operand inner.chain)
    exact ⟨node, read⟩

theorem exists_read_finish (h : p.expected = .firstOperand → p.outer.length ≤ bracketLimit) :
    ∃ node, p.read (p.finish ++ [Token.closing]) = .ok node := by
  obtain ⟨expected, inner, outer⟩ := p
  cases expected with
  | operator => exact read_brackets inner outer
  | operand => exact read_brackets (inner.operand (.integer "1")) outer
  | firstOperand =>
    have step : (⟨.firstOperand, inner, outer⟩ : Place).step ⟨.integer, "1"⟩ =
        .goOn (.afterOperand inner outer (.integer "1")) := by
      simp [Place.step, Place.takeOperand, Node.ofToken?, Nat.not_lt.mpr (h rfl)]
    obtain ⟨node, read⟩ := read_brackets (inner.operand (.integer "1")) outer
    refine ⟨node, ?_⟩
    simp only [finish, List.cons_append, reduceCtorEq, if_false]
    rw [Place.read, step]
    exact read

theorem formed_finish (p : Place) : ∀ t ∈ p.finish, t.Formed := by
  have one : (⟨.integer, "1"⟩ : Token).Formed :=
    @Lexeme.number _ [] ['1'] [] (Or.inl rfl) ⟨by simp, by simp⟩ .integer
  have bracket : (⟨.bracketClose, ")"⟩ : Token).Formed := .fixed rfl
  refine List.forall_mem_append.mpr ⟨?_, fun t ht => List.eq_of_mem_replicate ht ▸ bracket⟩
  split
  · simp
  · exact List.forall_mem_singleton.mpr one

/-- From every place the reader comes to the end of an expression, unless a bracket has just been opened too deep. -/
theorem Balanced.exists_finish (h : p.Balanced) : ∃ node, node.isExpression = true ∧ p.consumed ++ p.finish = node.tokens ∧
    (p.read (p.finish ++ [Token.closing]) = .ok node ∨ p.expected = .firstOperand ∧ bracketLimit < p.outer.length) := by
  by_cases deep : p.expected = .firstOperand ∧ bracketLimit < p.outer.length
  · -- The limit is looked at only where the first operand of a bracket has to come.
    obtain ⟨expected, inner, outer⟩ := p
    obtain ⟨rfl, limit⟩ := deep
    have balanced : Balanced ⟨.operand, inner, outer⟩ := ⟨h.inner, h.outer⟩
    obtain ⟨node, read⟩ := @exists_read_finish ⟨.operand, inner, outer⟩ nofun
    obtain ⟨expression, tokens⟩ := balanced.of_read (formed_finish _) read
    exact ⟨node, expression, tokens, Or.inr ⟨rfl, limit⟩⟩
  · obtain ⟨node, read⟩ := @exists_read_finish p fun first => Nat.not_lt.mp fun limit => deep ⟨first, limit⟩
    obtain ⟨expression, tokens⟩ := h.of_read (formed_finish p) read
    exact ⟨node, expression, tokens, Or.inl read⟩

/-- Too deep in brackets only nothing at all between two of them is rejected. -/
theorem emptyBrackets_of_refuse (h : p.step t = .refuse cause) (first : p.expected = .firstOperand)
    (limit : bracketLimit < p.outer.length) : cause = .emptyBrackets := by
  unfold step at h
  rw [first] at h
  dsimp only at h
  split at h
  · cases h
    rfl
  · cases h

end Place

namespace Node
variable {cause : ParseCause} {t u : Token} {ts front : List Token}

/-! ### Tokens that are rejected -/

/-- How the tokens before one that cannot stand behind them are read: as a query, or as the beginning of the value of an
    assignment or of an expression. -/
inductive Refused (cause : ParseCause) (u : Token) : List Token → Prop where
  | query {t : Token} (hk : t.kind = .help ∨ t.kind = .about) (hu : u.kind ≠ .endOfLine)
      (hc : cause = .operatorExpected u.kind) : Refused cause u [t]
  | value {t e : Token} {body : List Token} {p : Place} (ht : t.kind = .identifier) (he : e.kind = .equal)
      (goes : Place.start.Goes body p) (refuse : p.step u = .refuse cause) : Refused cause u (t :: e :: body)
  | expression {body : List Token} {p : Place} (goes : Place.start.Goes body p) (refuse : p.step u = .refuse cause)
      (query : body = [] → u.kind ≠ .help ∧ u.kind ≠ .about)
      (target : ∀ x, body = [x] → x.kind = .identifier → u.kind ≠ .equal) : Refused cause u body

theorem ofTokens_of_query (hk : t.kind = .help ∨ t.kind = .about) :
    ∃ query, (t.kind = .help ∧ query = help ∨ t.kind = .about ∧ query = about) ∧
      ∀ ts, ofTokens (t :: ts) = query.only ts := by
  rcases hk with hk | hk
  · exact ⟨help, Or.inl ⟨hk, rfl⟩, fun ts => by simp [ofTokens, hk]⟩
  · exact ⟨about, Or.inr ⟨hk, rfl⟩, fun ts => by simp [ofTokens, hk]⟩

theorem ofTokens_of_target (ht : t.kind = .identifier) (hu : u.kind = .equal) (ts : List Token) :
    ofTokens (t :: u :: ts) = (Place.start.read ts).map (.assignment t.lexeme) := by
  simp [ofTokens, ht, hu]

theorem ofTokens_of_expression (query : t.kind ≠ .help ∧ t.kind ≠ .about)
    (target : t.kind = .identifier → ∃ u more, ts = u :: more ∧ u.kind ≠ .equal) :
    ofTokens (t :: ts) = Place.start.read (t :: ts) := by
  rcases ofTokens_cons t ts with ⟨-, ⟨hk, -⟩ | ⟨hk, -⟩, -⟩ | ⟨hk, rfl, -⟩ | ⟨u, rest, hk, hu, rfl, -⟩ | same
  · exact absurd hk query.1
  · exact absurd hk query.2
  · obtain ⟨u, more, none, -⟩ := target hk
    cases none
  · obtain ⟨v, more, same, hv⟩ := target hk
    obtain ⟨rfl, -⟩ := List.cons.inj same
    exact absurd hu hv
  · exact same

/-- What is rejected is rejected whatever comes behind it. -/
theorem Refused.ofTokens_eq (h : Refused cause u front) (rest : List Token) :
    ofTokens (front ++ u :: rest) = .error (.rejected cause (u :: rest)) := by
  cases h with
  | query hk hu hc =>
    obtain ⟨query, -, same⟩ := ofTokens_of_query hk
    rw [List.singleton_append, same, only, if_neg hu, hc]
  | value ht he goes refuse =>
    rw [List.cons_append, List.cons_append, ofTokens_of_target ht he, goes.read_eq, Place.read_of_refuse refuse]
    rfl
  | @expression _ p goes refuse query target =>
    have read : Place.start.read (front ++ u :: rest) = .error (.rejected cause (u :: rest)) := by
      rw [goes.read_eq, Place.read_of_refuse refuse]
    cases goes with
    | stay =>
      refine (ofTokens_of_expression (query rfl) fun hk => ?_).trans read
      simp [Place.step, Place.start, Place.takeOperand, ofToken?, hk] at refuse
    | @go _ q _ x body step more =>
      have taken := Place.takes_of_step step
      refine (ofTokens_of_expression ⟨taken.kind_ne.1, taken.kind_ne.2.1⟩ fun hk => ?_).trans read
      cases more with
      | stay => exact ⟨u, rest, rfl, target x rfl hk⟩
      | go next _ => exact ⟨_, _, rfl, (Place.takes_of_step next).kind_ne.2.2⟩

theorem exists_refused {rest : List Token} (hne : ts ≠ []) (h : ofTokens ts = .error (.rejected cause rest)) :
    ∃ front u more, ts = front ++ u :: more ∧ rest = u :: more ∧ Refused cause u front := by
  obtain ⟨t, ts, rfl⟩ := List.exists_cons_of_ne_nil hne
  by_cases hk : t.kind = .help ∨ t.kind = .about
  · obtain ⟨query, -, same⟩ := ofTokens_of_query hk
    rw [same] at h
    cases ts with
    | nil => cases h
    | cons u more =>
      rw [only] at h
      split at h
      · cases h
      · rename_i hu
        cases h
        exact ⟨[t], u, more, rfl, rfl, .query hk hu rfl⟩
  · by_cases target : t.kind = .identifier ∧ ∃ e more, ts = e :: more ∧ e.kind = .equal
    · obtain ⟨ht, e, more, rfl, he⟩ := target
      rw [ofTokens_of_target ht he] at h
      cases read : Place.start.read more with
      | ok value =>
        rw [read] at h
        cases h
      | error refusal =>
        rw [read] at h
        cases h
        obtain ⟨body, u, more, q, rfl, hrest, goes, refuse⟩ := Place.exists_goes read
        exact ⟨t :: e :: body, u, more, rfl, hrest, .value ht he goes refuse⟩
    · have same : ofTokens (t :: ts) = Place.start.read (t :: ts) := by
        refine ofTokens_of_expression (not_or.mp hk) fun ht => ?_
        cases ts with
        | nil => simp [ofTokens, ht] at h
        | cons e more => exact ⟨e, more, rfl, fun he => target ⟨ht, e, more, rfl, he⟩⟩
      obtain ⟨body, u, more, q, pieces, hrest, goes, refuse⟩ := Place.exists_goes (same.symm.trans h)
      refine ⟨body, u, more, pieces, hrest, .expression goes refuse ?_ ?_⟩
      · rintro rfl
        obtain ⟨rfl, -⟩ := List.cons.inj pieces
        exact not_or.mp hk
      · rintro x rfl hx hu
        obtain ⟨rfl, tail⟩ := List.cons.inj pieces
        exact target ⟨hx, u, more, tail, hu⟩

theorem isStatement_of_isExpression {node : Node} (h : node.isExpression = true) : node.isStatement = true := by
  obtain ⟨operands, operators, rfl, hc⟩ := isExpression_iff.mp h
  exact hc

theorem exists_expression {p : Place} {body : List Token} (goes : Place.start.Goes body p)
    (refuse : p.step u = .refuse cause) (formed : ∀ t ∈ body, t.Formed) :
    ∃ more node, node.isExpression = true ∧ node.tokens = body ++ more ∧
      (Place.start.read (body ++ more ++ [Token.closing]) = .ok node ∨ cause = .emptyBrackets ∧
        bracketLimit + body.countP (·.kind == .bracketClose) < body.countP (·.kind == .bracketOpen)) := by
  obtain ⟨node, expression, tokens, read⟩ := (goes.balanced Place.balanced_start).exists_finish
  have consumed : p.consumed = body := goes.consumed_eq Place.balanced_start formed
  refine ⟨p.finish, node, expression, by rw [← tokens, consumed], ?_⟩
  rcases read with read | ⟨first, limit⟩
  · refine Or.inl ?_
    rw [List.append_assoc, goes.read_eq, read]
  · have brackets := goes.brackets
    simp only [Place.start, List.length_nil] at brackets
    exact Or.inr ⟨Place.emptyBrackets_of_refuse refuse first limit, by omega⟩

/-- The tokens before one that is rejected are the beginning of a statement, and are read so unless the limit of brackets
    is passed at their end. -/
theorem Refused.exists_statement (h : Refused cause u front) (formed : ∀ t ∈ front, t.Formed) :
    ∃ more s, s.isStatement = true ∧ s.tokens = front ++ more ∧ (ofTokens (front ++ more ++ [Token.closing]) = .ok s ∨
      cause = .emptyBrackets ∧
        bracketLimit + front.countP (·.kind == .bracketClose) < front.countP (·.kind == .bracketOpen)) := by
  cases h with
  | @query t hk hu hc =>
    have ht := List.forall_mem_singleton.mp formed
    obtain ⟨query, ⟨hk, rfl⟩ | ⟨hk, rfl⟩, same⟩ := ofTokens_of_query hk
    · have text : t = ⟨.help, "help()"⟩ := ht.eq_of_text? hk rfl
      exact ⟨[], help, rfl, by rw [text]; rfl, Or.inl (same _)⟩
    · have text : t = ⟨.about, "about()"⟩ := ht.eq_of_text? hk rfl
      exact ⟨[], about, rfl, by rw [text]; rfl, Or.inl (same _)⟩
  | @value t e body p ht he goes refuse =>
    obtain ⟨-, formed⟩ := List.forall_mem_cons.mp formed
    obtain ⟨hfe, formed⟩ := List.forall_mem_cons.mp formed
    obtain ⟨more, node, expression, tokens, read⟩ := exists_expression goes refuse formed
    have text : e = ⟨.equal, "="⟩ := hfe.eq_of_text? he rfl
    refine ⟨more, .assignment t.lexeme node, expression, ?_, ?_⟩
    · rw [Node.tokens, tokens, text, ← ht]
      rfl
    · rcases read with read | ⟨hc, limit⟩
      · refine Or.inl ?_
        rw [List.cons_append, List.cons_append, List.cons_append, List.cons_append, ofTokens_of_target ht he, read]
        rfl
      · exact Or.inr ⟨hc, by simpa [ht, he] using limit⟩
  | @expression _ p goes refuse query target =>
    obtain ⟨more, node, expression, tokens, read⟩ := exists_expression goes refuse formed
    refine ⟨more, node, isStatement_of_isExpression expression, tokens, read.imp_left fun read => ?_⟩
    obtain ⟨t, ts, hts⟩ : ∃ t ts, front ++ more ++ [Token.closing] = t :: ts := List.exists_cons_of_ne_nil (by simp)
    rw [hts] at read ⊢
    exact (ofTokens_eq_read (by simp [read]) (by simp [read])).trans read

/-! ### The first token that cannot stand where it does -/

/-- The token at a position is the first that cannot stand where it does. The tokens before it go on to a statement, and
    are read so unless the limit of brackets is passed at their end; no statement begins with it behind them, and
    whatever comes behind it, it is rejected. -/
structure FirstRejected (ts : List Token) (cause : ParseCause) (position : Nat) : Prop where
  inside : position < ts.length
  viable : ∃ more s, s.isStatement = true ∧ s.tokens = ts.take position ++ more ∧
    (ofTokens (ts.take position ++ more ++ [Token.closing]) = .ok s ∨ cause = .emptyBrackets ∧
      bracketLimit + (ts.take position).countP (·.kind == .bracketClose) <
        (ts.take position).countP (·.kind == .bracketOpen))
  rejected : ∀ more, ∃ rest, ofTokens (ts.take (position + 1) ++ more) = .error (.rejected cause rest) ∧
    (ParseError.locate cause (ts.take (position + 1) ++ more) rest).position = position
  dead : ∀ s : Node, s.isStatement = true → ¬ts.take (position + 1) <+: s.tokens ++ [Token.closing]

theorem position_locate (cause : ParseCause) (front rest : List Token) :
    (ParseError.locate cause (front ++ rest) rest).position = front.length := by
  rw [ParseError.locate, List.length_append, Nat.add_sub_cancel]

theorem formed_of_scan {line : String} {more : List Token} (h : Token.scan line = .ok (front ++ u :: more)) :
    ∀ t ∈ front, t.Formed := by
  obtain ⟨body, fit, pieces⟩ := Token.wellFormed_of_scan h
  rcases Token.eq_closing_or_mem pieces.symm with ⟨-, rfl⟩ | ⟨tail, rfl⟩
  · exact fit.formed
  · exact fun t ht => fit.formed t (List.mem_append_left _ ht)

theorem Refused.not_isPrefix (h : Refused cause u front) {s : Node} (hs : s.isStatement = true) :
    ¬front ++ [u] <+: s.tokens ++ [Token.closing] := by
  rintro ⟨more, pieces⟩
  have rejected := h.ofTokens_eq more
  rw [List.append_cons, pieces] at rejected
  rcases ofTokens_of_statement hs with read | read
  · rw [read] at rejected
    cases rejected
  · rw [read] at rejected
    cases rejected

/-- The tokens of a line that is not blank are rejected at the first that cannot stand where it does. -/
theorem firstRejected_of_scan {line : String} {ts rest : List Token} (scanned : Token.scan line = .ok ts) (hne : ts ≠ [])
    (h : ofTokens ts = .error (.rejected cause rest)) :
    FirstRejected ts cause (ParseError.locate cause ts rest).position := by
  obtain ⟨front, u, more, rfl, rfl, refused⟩ := exists_refused hne h
  have before : (front ++ u :: more).take front.length = front := List.take_left' rfl
  have upTo : (front ++ u :: more).take (front.length + 1) = front ++ [u] := by
    rw [List.append_cons]
    exact List.take_left' (by simp)
  rw [position_locate]
  refine ⟨by simp, ?_, fun behind => ?_, fun s hs => ?_⟩
  · rw [before]
    exact refused.exists_statement (formed_of_scan scanned)
  · refine ⟨u :: behind, ?_, ?_⟩
    · rw [upTo, ← List.append_cons, refused.ofTokens_eq]
    · rw [upTo, ← List.append_cons, position_locate]
  · rw [upTo]
    exact refused.not_isPrefix hs

/-- In `x = (2 ^ )` the second bracket is the first token that cannot stand where it does. -/
theorem firstRejected_of_scan_of_bracket :
    let ts : List Token := [⟨.identifier, "x"⟩, ⟨.equal, "="⟩, ⟨.bracketOpen, "("⟩, ⟨.integer, "2"⟩, ⟨.caret, "^"⟩,
      ⟨.bracketClose, ")"⟩, Token.closing]
    Token.scan "x = (2 ^ )" = .ok ts ∧ ts ≠ [] ∧
      ofTokens ts = .error (.rejected (.operandExpected .bracketClose) [⟨.bracketClose, ")"⟩, Token.closing]) ∧
      FirstRejected ts (.operandExpected .bracketClose) 5 := by
  intro ts
  have scanned : Token.scan "x = (2 ^ )" = .ok ts := by decide +kernel
  have rejected : ofTokens ts =
      .error (.rejected (.operandExpected .bracketClose) [⟨.bracketClose, ")"⟩, Token.closing]) := rfl
  exact ⟨scanned, nofun, rejected, firstRejected_of_scan scanned nofun rejected⟩

/-- A blank line is rejected too, but at none of its tokens. -/
theorem not_inside_of_blank : Token.scan "" = .ok [] ∧ ofTokens [] = .error (.rejected .emptyStatement []) ∧
    ¬(ParseError.locate .emptyStatement [] []).position < ([] : List Token).length :=
  ⟨by decide +kernel, rfl, Nat.not_lt_zero _⟩

end Node

end Calculator
