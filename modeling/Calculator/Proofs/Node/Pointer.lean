import Calculator.Proofs.Node.Refusal
import Calculator.Proofs.Node.Sign
import Calculator.Proofs.Token.Column

/-! The pointer of an error. It is to stand under the token that is rejected, but its column is that of a space behind the
    tokens before, written alone: where brackets or carets take the space out of the line, it stands too far to the
    right, and by how much is known (`Node.pointer_of_scan`). -/

namespace Calculator

namespace Place
variable {p q : Place} {v : Token} {body : List Token}

theorem Goes.exists_last (h : Goes p (body ++ [v]) q) : ∃ r, Goes p body r ∧ Takes r v q := by
  generalize hts : body ++ [v] = ts at h
  induction h generalizing body with
  | stay p => simp at hts
  | @go p r q t ts step more ih =>
    cases body with
    | nil =>
      obtain ⟨rfl, rfl⟩ := List.cons.inj hts
      cases more with
      | stay => exact ⟨p, .stay p, takes_of_step step⟩
    | cons u body =>
      obtain ⟨rfl, tail⟩ := List.cons.inj hts
      obtain ⟨s, goes, taken⟩ := ih tail
      exact ⟨s, .go step goes, taken⟩

/-- Behind tokens that are taken an operator is expected where the last of them ends an operand. -/
theorem Goes.expected_iff (h : Goes p body q) {after : Bool} (place : after = true ↔ p.expected = .operator) :
    Token.operandBefore after body = true ↔ q.expected = .operator := by
  induction h generalizing after with
  | stay p => exact place
  | go step more ih =>
    rw [Token.operandBefore_cons]
    exact ih (takes_of_step step).expected_iff.symm

theorem Takes.expected_of_caret (h : Takes p v q) (hk : v.kind = .caret) : p.expected = .operator := by
  cases h with
  | operand he ht => simp [Node.ofToken?, hk] at ht
  | opens he ht => simp [hk] at ht
  | operator ht => rfl
  | closes ht => rfl

theorem Goes.operand_of_caret (h : Place.start.Goes (body ++ [v]) q) (hk : v.kind = .caret) :
    Token.operandBefore false body = true := by
  obtain ⟨r, goes, taken⟩ := h.exists_last
  have start : false = true ↔ Place.start.expected = .operator := by simp [start]
  exact (goes.expected_iff start).mpr (taken.expected_of_caret hk)

end Place

namespace Node
variable {cause : ParseCause} {u v : Token} {before : List Token}

/-- A caret before the token that is rejected follows an operand. -/
theorem Refused.operand_of_caret (h : Refused cause u (before ++ [v])) (hk : v.kind = .caret) :
    Token.operandBefore false before = true := by
  generalize hfront : before ++ [v] = front at h
  cases h with
  | query ht hu hc =>
    obtain ⟨-, rfl⟩ := List.append_singleton_inj.mp (show before ++ [v] = [] ++ [_] from hfront)
    simp [hk] at ht
  | @value t e body p ht he goes refuse =>
    rcases List.eq_nil_or_concat' body with rfl | ⟨body, w, rfl⟩
    · obtain ⟨-, rfl⟩ := List.append_singleton_inj.mp (show before ++ [v] = [t] ++ [e] from hfront)
      simp [hk] at he
    · obtain ⟨rfl, rfl⟩ := List.append_singleton_inj.mp (show before ++ [v] = (t :: e :: body) ++ [w] from hfront)
      rw [Token.operandBefore_cons, Token.operandBefore_cons, he]
      exact goes.operand_of_caret hk
  | expression goes refuse query target =>
    subst hfront
    exact goes.operand_of_caret hk

/-- The pointer of an error stands at the token that is rejected, or to the right of it by what `slip` tells. -/
theorem pointer_of_scan {line : String} {ts rest : List Token} {t : Token} (scanned : Token.scan line = .ok ts)
    (h : ofTokens ts = .error (.rejected cause rest))
    (found : ts[(ParseError.locate cause ts rest).position]? = some t) (inner : t.kind ≠ .endOfLine) :
    ∃ column, (ParseError.locate cause ts rest).message =
        "Parser error: " ++ cause.headline ++ "\n" ++ Token.line ts ++ "\n" ++ pointer column ∧
      (Token.StandsAt ts (ParseError.locate cause ts rest).position column ↔
        Token.slip ts (ParseError.locate cause ts rest).position = 0) ∧
      ∀ place, Token.StandsAt ts (ParseError.locate cause ts rest).position place ↔
        place + Token.slip ts (ParseError.locate cause ts rest).position = column := by
  obtain ⟨front, u, more, hts, hrest, refused⟩ := exists_refused (by rintro rfl; simp at found) h
  have position : (ParseError.locate cause ts rest).position = front.length := by
    rw [hts, hrest, position_locate]
  rw [position, hts] at found
  obtain rfl : u = t := by simpa using found
  obtain ⟨body, fit, close⟩ := Token.wellFormed_of_scan scanned
  rcases Token.eq_closing_or_mem (close.symm.trans hts) with ⟨rfl, -⟩ | ⟨behind, rfl⟩
  · exact absurd rfl inner
  have whole : ts = front ++ u :: behind ++ [Token.closing] := by
    rw [close, Token.close]
    simp
  have places := Token.standsAt_iff_of_column whole fit.formed fun hfront hk =>
    (hfront ▸ refused).operand_of_caret hk
  refine ⟨Token.column ts front.length, ?_, ?_, ?_⟩
  · rw [← position]
    rfl
  · rw [position, places, Nat.add_eq_left]
  · rw [position]
    exact places

/-- In `2 ^ * 3` the line is `2^* 3`, and the pointer stands two columns to the right of the star. -/
theorem pointer_of_scan_of_caret :
    let ts : List Token := [⟨.integer, "2"⟩, ⟨.caret, "^"⟩, ⟨.star, "*"⟩, ⟨.integer, "3"⟩, Token.closing]
    Token.scan "2 ^ * 3" = .ok ts ∧
      ofTokens ts = .error (.rejected (.operandExpected .star) [⟨.star, "*"⟩, ⟨.integer, "3"⟩, Token.closing]) ∧
      ∃ column, (ParseError.locate (.operandExpected .star) ts (ts.drop 2)).message =
          "Parser error: " ++ (ParseCause.operandExpected .star).headline ++ "\n" ++ Token.line ts ++ "\n" ++
            pointer column ∧
        (Token.StandsAt ts 2 column ↔ Token.slip ts 2 = 0) ∧
        ∀ place, Token.StandsAt ts 2 place ↔ place + Token.slip ts 2 = column := by
  intro ts
  have scanned : Token.scan "2 ^ * 3" = .ok ts := by decide +kernel
  have rejected : ofTokens ts =
      .error (.rejected (.operandExpected .star) [⟨.star, "*"⟩, ⟨.integer, "3"⟩, Token.closing]) := rfl
  have inner : Kind.star ≠ .endOfLine := by decide
  exact ⟨scanned, rejected, @pointer_of_scan _ _ _ _ ⟨.star, "*"⟩ scanned rejected rfl inner⟩

/-- In `(- 3)` the pointer stands under the space behind the minus. -/
theorem not_standsAt_of_bracket :
    let ts : List Token := [⟨.bracketOpen, "("⟩, ⟨.minus, "-"⟩, ⟨.integer, "3"⟩, ⟨.bracketClose, ")"⟩, Token.closing]
    Token.scan "(- 3)" = .ok ts ∧ ofTokens ts = .error (.rejected (.operandExpected .minus) (ts.drop 1)) ∧
      (ParseError.locate (.operandExpected .minus) ts (ts.drop 1)).position = 1 ∧
      (ParseError.locate (.operandExpected .minus) ts (ts.drop 1)).message =
        "Parser error: Operand expected, found MINUS\n(- 3)\n" ++ pointer 2 ∧ ¬Token.StandsAt ts 1 2 := by
  intro ts
  have written : Token.line ts = "(- 3)" := by decide +kernel
  refine ⟨by decide +kernel, rfl, rfl, by decide +kernel, ?_⟩
  rintro ⟨t, c, ht, hc, there, -⟩
  obtain rfl := Option.some.inj ht
  obtain rfl := Option.some.inj hc
  rw [written] at there
  exact absurd there (by decide +kernel)

end Node

end Calculator
