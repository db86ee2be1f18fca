import Calculator.Proofs.Token.Scanned

/-! What the tokens of a line are to the line. Their lexemes are the line without its white space, and each of them
    stands in it as one piece, behind the lexemes of the tokens before it (`Scans.exists_place`). A minus before a digit
    is read there as the tokens before it ask. -/

namespace Calculator.Token

/-- The lexemes of tokens, one behind the other. -/
def joined (ts : List Token) : List Char := ts.flatMap fun t => t.lexeme.toList

/-- A text without its white space. -/
def solid (cs : List Char) : List Char := cs.filter fun c => !isBlank c

/-- Whether the last of several tokens ends an operand. Where there is none, it is known from what comes before. -/
def operandBefore (after : Bool) (ts : List Token) : Bool :=
  match ts.getLast? with
  | some t => t.kind.endsOperand
  | none => after

@[simp] theorem joined_nil : joined [] = [] := rfl

@[simp] theorem joined_cons (t : Token) (ts : List Token) : joined (t :: ts) = t.lexeme.toList ++ joined ts := rfl

@[simp] theorem joined_append (ts us : List Token) : joined (ts ++ us) = joined ts ++ joined us := List.flatMap_append

@[simp] theorem solid_nil : solid [] = [] := rfl

@[simp] theorem solid_append (cs ds : List Char) : solid (cs ++ ds) = solid cs ++ solid ds := List.filter_append ..

theorem solid_cons_of_blank {c : Char} {cs : List Char} (h : isBlank c = true) : solid (c :: cs) = solid cs :=
  List.filter_cons_of_neg (by simp [h])

theorem solid_cons_of_not_blank {c : Char} {cs : List Char} (h : isBlank c = false) : solid (c :: cs) = c :: solid cs :=
  List.filter_cons_of_pos (by simp [h])

theorem Formed.solid_lexeme {t : Token} (h : t.Formed) : solid t.lexeme.toList = t.lexeme.toList :=
  List.filter_eq_self.mpr fun c hc => by simp [isBlank_of_lexeme h c hc]

theorem operandBefore_cons (after : Bool) (t : Token) (ts : List Token) :
    operandBefore after (t :: ts) = operandBefore t.kind.endsOperand ts := by
  cases ts with
  | nil => rfl
  | cons u ts => rfl

/-! ### Places in a text -/

/-- What stands in a text behind the same lexemes stands at the same place. -/
theorem front_unique {front front' : List Char} {c c' : Char} {rest rest' : List Char} (hc : isBlank c = false)
    (hc' : isBlank c' = false) (same : solid front = solid front') (h : front ++ c :: rest = front' ++ c' :: rest') :
    front = front' ∧ c = c' ∧ rest = rest' := by
  induction front generalizing front' with
  | nil =>
    cases front' with
    | nil =>
      obtain ⟨rfl, rfl⟩ := List.cons.inj h
      exact ⟨rfl, rfl, rfl⟩
    | cons d front' =>
      obtain ⟨rfl, -⟩ := List.cons.inj h
      rw [solid_cons_of_not_blank hc] at same
      cases same
  | cons d front ih =>
    cases front' with
    | nil =>
      obtain ⟨rfl, -⟩ := List.cons.inj h
      rw [solid_cons_of_not_blank hc'] at same
      cases same
    | cons d' front' =>
      obtain ⟨rfl, tails⟩ := List.cons.inj h
      have same : solid front = solid front' := by
        cases hd : isBlank d with
        | true => rwa [solid_cons_of_blank hd, solid_cons_of_blank hd] at same
        | false =>
          rw [solid_cons_of_not_blank hd, solid_cons_of_not_blank hd] at same
          exact (List.cons.inj same).2
      obtain ⟨rfl, rest⟩ := ih same tails
      exact ⟨rfl, rest⟩

/-- Nothing but white space is passed over. -/
theorem Scans.joined_eq {after : Bool} {cs : List Char} {ts : List Token} (h : Scans after cs ts) :
    joined ts = solid cs := by
  induction h with
  | nil after => rfl
  | blank hb tail ih => rw [solid_cons_of_blank hb, ih]
  | token hb read tail ih =>
    obtain ⟨formed, pieces, -⟩ := of_first read
    rw [pieces, solid_append, formed.solid_lexeme, joined_cons, ih]

/-- Every token is read at its place, behind the lexemes of the tokens before it. -/
theorem Scans.exists_place {after : Bool} {cs : List Char} {before behind : List Token} {t : Token}
    (h : Scans after cs (before ++ t :: behind)) : ∃ front c tail rest, cs = front ++ c :: tail ∧ isBlank c = false ∧
      solid front = joined before ∧ first (!operandBefore after before) c tail = .ok (t, rest) := by
  generalize hts : before ++ t :: behind = ts at h
  induction h generalizing before with
  | nil after => simp at hts
  | blank hb tail ih =>
    obtain ⟨front, c, cs, rest, rfl, hc, same, read⟩ := ih hts
    exact ⟨_ :: front, c, cs, rest, rfl, hc, by rw [solid_cons_of_blank hb, same], read⟩
  | @token after d ds rest u us hb read tail ih =>
    cases before with
    | nil =>
      obtain ⟨rfl, -⟩ := List.cons.inj hts
      exact ⟨[], d, ds, rest, rfl, hb, rfl, read⟩
    | cons v before =>
      obtain ⟨rfl, more⟩ := List.cons.inj hts
      obtain ⟨formed, pieces, -⟩ := of_first read
      obtain ⟨front, c, cs, rest, rfl, hc, same, read⟩ := ih more
      refine ⟨v.lexeme.toList ++ front, c, cs, rest, by rw [pieces, List.append_assoc], hc, ?_, ?_⟩
      · rw [solid_append, formed.solid_lexeme, same, joined_cons]
      · rw [operandBefore_cons]
        exact read

/-! ### The tokens of a line -/

/-- What the tokens of a line are to the line. -/
structure Covers (ts : List Token) (line : String) : Prop where
  /-- Nothing but white space is lost. -/
  joined : joined ts = solid line.toList
  blank : ts = [] ↔ isBlankText line = true
  closed : ts ≠ [] → ∃ body, ts = body ++ [closing] ∧ ∀ t ∈ body, t.kind ≠ .endOfLine ∧ t.Formed
  /-- A lexeme stands in the line as one piece. -/
  place : ∀ {before t behind}, ts = before ++ t :: behind →
    ∃ front rest, line.toList = front ++ (t.lexeme.toList ++ rest) ∧ solid front = Token.joined before
  sign : ∀ {before t behind}, ts = before ++ t :: behind → t.signed = true →
    ∀ u ∈ before.getLast?, u.kind.endsOperand = false
  minus : ∀ {before t behind front rest}, ts = before ++ t :: behind → t.kind = .minus →
    line.toList = front ++ (t.lexeme.toList ++ rest) → solid front = Token.joined before → startsDigit rest = true →
      ∃ u ∈ before.getLast?, u.kind.endsOperand = true

theorem eq_closing_or_mem {body before behind : List Token} {t : Token} (h : close body = before ++ t :: behind) :
    t = closing ∧ before = body ∨ ∃ more, body = before ++ t :: more := by
  cases body with
  | nil => simp [close] at h
  | cons u body =>
    rcases List.eq_nil_or_concat behind with rfl | ⟨more, v, rfl⟩
    · obtain ⟨rfl, rfl⟩ := List.append_singleton_inj.mp h
      exact Or.inl ⟨rfl, rfl⟩
    · have h : (u :: body) ++ [closing] = (before ++ t :: more) ++ [v] := by simpa [close] using h
      exact Or.inr ⟨more, (List.append_singleton_inj.mp h).1⟩

theorem joined_close (body : List Token) : Token.joined (close body) = Token.joined body := by
  cases body with
  | nil => rfl
  | cons t body => simp [close, closing]

theorem operandBefore_false_iff {before : List Token} :
    operandBefore false before = true ↔ ∃ u ∈ before.getLast?, u.kind.endsOperand = true := by
  unfold operandBefore
  cases before.getLast? <;> simp

/-- A minus that is an operator and stands before a digit has an operand before it. -/
theorem Scans.operandBefore_of_minus {after : Bool} {front rest : List Char} {before behind : List Token} {t : Token}
    (h : Scans after (front ++ (t.lexeme.toList ++ rest)) (before ++ t :: behind)) (hk : t.kind = .minus)
    (same : solid front = Token.joined before) (digit : startsDigit rest = true) :
    operandBefore after before = true := by
  obtain ⟨front', c, tail, rest', pieces, hc, same', read⟩ := h.exists_place
  obtain ⟨formed, lexeme, -⟩ := of_first read
  have text : t.lexeme.toList = ['-'] := eq_of_text? formed (by rw [hk]; rfl)
  rw [text] at pieces lexeme
  obtain ⟨rfl, rfl⟩ := List.cons.inj lexeme
  obtain ⟨-, -, rfl⟩ := front_unique hc hc (same'.trans same.symm) pieces.symm
  have reading := of_first_minus digit read
  cases ho : operandBefore after before with
  | true => rfl
  | false =>
    rw [ho] at reading
    have unsigned : t.signed = false := by simp [signed, hk]
    exact absurd (show t.signed = true from reading) (by simp [unsigned])

/-- The tokens of a line lose nothing of it but its white space, are formed as their kinds are, and have their signs and
    minus operators where an operand has not ended and where one has. -/
theorem covers_of_scan {line : String} {ts : List Token} (h : scan line = .ok ts) : Covers ts line := by
  unfold scan at h
  split at h
  · rename_i body found
    cases h
    have scans := scans_of_scanFrom found
    have fit := fitting_of_scanFrom found
    refine ⟨?_, ?_, ?_, ?_, ?_, ?_⟩
    · rw [joined_close, scans.joined_eq]
    · rw [← scan_eq_nil_iff, scan, found, Except.ok.injEq]
    · intro hne
      cases body with
      | nil => exact absurd rfl hne
      | cons t body => exact ⟨t :: body, rfl, fun u hu => ⟨(fit.formed u hu).kind_ne, fit.formed u hu⟩⟩
    · intro before t behind hts
      rcases eq_closing_or_mem hts with ⟨rfl, rfl⟩ | ⟨more, rfl⟩
      · exact ⟨line.toList, [], by simp [closing], scans.joined_eq.symm⟩
      · obtain ⟨front, c, tail, rest, hline, -, same, read⟩ := scans.exists_place
        exact ⟨front, rest, by rw [hline, (of_first read).2.1], same⟩
    · intro before t behind hts signed u hu
      rcases eq_closing_or_mem hts with ⟨rfl, -⟩ | ⟨more, rfl⟩
      · cases signed
      · obtain ⟨-, c, tail, rest, -, -, -, read⟩ := scans.exists_place
        have none : operandBefore false before = false := by simpa using (of_first read).2.2 signed
        rw [← Bool.not_eq_true] at none ⊢
        exact fun hk => none (operandBefore_false_iff.mpr ⟨u, hu, hk⟩)
    · intro before t behind front rest hts hk hline same digit
      rcases eq_closing_or_mem hts with ⟨rfl, -⟩ | ⟨more, rfl⟩
      · cases hk
      · rw [hline] at scans
        exact operandBefore_false_iff.mp (scans.operandBefore_of_minus hk same digit)
  · cases h

/-- In `x -1* -2` the first minus is an operator and the second a sign. -/
theorem covers_of_scan_of_signs :
    let ts : List Token := [⟨.identifier, "x"⟩, ⟨.minus, "-"⟩, ⟨.integer, "1"⟩, ⟨.star, "*"⟩, ⟨.integer, "-2"⟩, closing]
    scan "x -1* -2" = .ok ts ∧ Covers ts "x -1* -2" := by
  intro ts
  have scanned : scan "x -1* -2" = .ok ts := by decide +kernel
  exact ⟨scanned, covers_of_scan scanned⟩

end Calculator.Token
