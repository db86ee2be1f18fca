import Calculator.Proofs.Evaluation.Statement
import Calculator.Proofs.Token.Chunk

/-! The white space of a line. What kind it is of and how much there is of it makes no difference: lines with the same
    chunks have the same tokens and do the same. -/

namespace Calculator

/-- What two lines have in common that are read alike. -/
structure ReadAlike (line other : String) : Prop where
  tokens : ∀ ts, Token.scan line = .ok ts ↔ Token.scan other = .ok ts
  headline : ∀ e, Token.scan line = .error e → ∃ e', Token.scan other = .error e' ∧ e'.cause.headline = e.cause.headline
  run : ∀ b, ∃ v, ((evaluateLine line).run b).result = .ok v ∧ ((evaluateLine other).run b).result = .ok v ∧
    ((evaluateLine line).run b).bindings = ((evaluateLine other).run b).bindings

section
variable {line other : String} (tokens : ∀ ts, Token.scan line = .ok ts ↔ Token.scan other = .ok ts)
include tokens

theorem Node.OfLine.of_tokens {node : Node} (h : OfLine line node) : OfLine other node := by
  obtain ⟨ts, scanned, read⟩ := h
  exact ⟨ts, (tokens ts).mp scanned, read⟩

theorem Rejected.of_tokens (h : Rejected line) : Rejected other := by
  rcases h with ⟨e, scanned⟩ | ⟨ts, refusal, scanned, hne, read⟩
  · refine Or.inl ?_
    cases scanned' : Token.scan other with
    | error e' => exact ⟨e', rfl⟩
    | ok ts =>
      rw [(tokens ts).mpr scanned'] at scanned
      cases scanned
  · exact Or.inr ⟨ts, refusal, (tokens ts).mp scanned, hne, read⟩

/-- What comes of a line comes of every line with the same tokens. -/
theorem Effect.of_tokens {b after : Bindings} {v : Value} (effect : Effect line b v after) : Effect other b v after := by
  cases effect with
  | blank h => exact .blank ((tokens []).mp h)
  | rejected h => exact .rejected (h.of_tokens tokens)
  | query h => exact .query (h.of_tokens tokens)
  | expression h hw hv => exact .expression (h.of_tokens tokens) hw hv
  | assignment h hw hv => exact .assignment (h.of_tokens tokens) hw hv
  | tooDeep h deep => exact .tooDeep (h.of_tokens tokens) deep

end

/-- Lines with the same chunks are read alike. -/
theorem readAlike_of_chunks {line other : String} (h : Token.chunks line.toList = Token.chunks other.toList) :
    ReadAlike line other := by
  have same := Token.scan_of_chunks h
  have ok : ∀ text ts, (Token.scan text).mapError ScanError.cause = .ok ts ↔ Token.scan text = .ok ts := by
    intro text ts
    cases Token.scan text <;> simp [Except.mapError]
  have tokens : ∀ ts, Token.scan line = .ok ts ↔ Token.scan other = .ok ts := fun ts => by rw [← ok, same, ok]
  refine ⟨tokens, fun e scanned => ?_, fun b => ?_⟩
  · cases scanned' : Token.scan other with
    | ok ts =>
      rw [(tokens ts).mpr scanned'] at scanned
      cases scanned
    | error e' =>
      rw [scanned, scanned'] at same
      exact ⟨e', rfl, congrArg ScanCause.headline (Except.error.inj same).symm⟩
  · obtain ⟨v, after, effect⟩ := exists_effect line b
    obtain ⟨result, bindings⟩ := effect.run
    obtain ⟨result', bindings'⟩ := (effect.of_tokens tokens).run
    exact ⟨v, result, result', bindings.trans bindings'.symm⟩

/-- Behind `x=` stands a line end or an ideographic space. -/
theorem readAlike_of_chunks_of_lineEnd :
    let line := "\tx=\n-2 *(pi)"
    let other := "x=\u3000-2    *(pi)  "
    Token.chunks line.toList = Token.chunks other.toList ∧ ReadAlike line other := by
  intro line other
  have chunks : Token.chunks line.toList = Token.chunks other.toList := by decide +kernel
  exact ⟨chunks, readAlike_of_chunks chunks⟩

end Calculator
