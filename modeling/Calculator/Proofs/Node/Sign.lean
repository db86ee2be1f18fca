import Calculator.Proofs.Node.Reading

/-! A minus before a digit is the sign of a number or an operator, and only one of the two can be part of a statement.
    Where the reader of statements expects an operator, an operand has just ended, and nowhere else
    (`Place.Takes.expected_iff`); so a statement has its signs and its minus operators where the scan looks for them
    (`Node.signs_of_ofTokens`), and of all readings of a line the scan finds the one that is a statement, if there is
    one (`Token.reading_iff_scan`). -/

namespace Calculator

namespace Token

/-! ### Readings -/

/-- A reading of a text as tokens. Like the scan, it takes one token after the other and passes over blanks; but a minus
    before a digit it takes as a sign or as an operator, as it likes. -/
inductive Reading : List Char → List Token → Prop where
  | nil : Reading [] []
  | blank {c : Char} {cs : List Char} {ts : List Token} (hb : isBlank c = true) (tail : Reading cs ts) :
      Reading (c :: cs) ts
  | token (signed : Bool) {c : Char} {cs rest : List Char} {t : Token} {ts : List Token} (hb : isBlank c = false)
      (h : first signed c cs = .ok (t, rest)) (tail : Reading rest ts) : Reading (c :: cs) (t :: ts)

theorem Reading.formed {cs : List Char} {ts : List Token} (h : Reading cs ts) : ∀ t ∈ ts, t.Formed := by
  induction h with
  | nil => simp
  | blank hb tail ih => exact ih
  | token signed hb h tail ih => exact List.forall_mem_cons.mpr ⟨(of_first h).1, ih⟩

/-- The scan is one of the readings. -/
theorem reading_of_scanFrom {after : Bool} {cs : List Char} {ts : List Token} (h : scanFrom after cs = .ok ts) :
    Reading cs ts := by
  replace h := scans_of_scanFrom h
  induction h with
  | nil after => exact .nil
  | blank hb tail ih => exact .blank hb ih
  | @token after _ _ _ _ _ hb read tail ih => exact .token (!after) hb read ih

/-! ### Signs and operators in their places -/

/-- Tokens of a text that follows an operand or does not, with a sign only where no operand comes before it, and a minus
    operator only behind an operand. -/
def Signs (afterOperand : Bool) : List Token → Prop
  | [] => True
  | t :: ts =>
    (t.signed = true → afterOperand = false) ∧ (t.kind = .minus → afterOperand = true) ∧ Signs t.kind.endsOperand ts

/-- Whether a minus is looked for as a sign matters only before a digit. -/
theorem first_of_ne {c : Char} {cs : List Char} (h : ¬(c = '-' ∧ startsDigit cs = true)) (looked looked' : Bool) :
    first looked c cs = first looked' c cs := by
  have unsigned (b : Bool) : ¬(b && c == '-' && startsDigit cs) = true := by
    rw [Bool.and_eq_true, Bool.and_eq_true, beq_iff_eq]
    exact fun hb => h ⟨hb.1.2, hb.2⟩
  rw [first, first, if_neg (unsigned looked), if_neg (unsigned looked')]

/-- A token is read as the scan reads it where its sign, or its being an operator, fits its place. -/
theorem first_of_signs {looked after : Bool} {c : Char} {cs rest : List Char} {t : Token}
    (h : first looked c cs = .ok (t, rest)) (sign : t.signed = true → after = false)
    (minus : t.kind = .minus → after = true) : first (!after) c cs = .ok (t, rest) := by
  by_cases before : c = '-' ∧ startsDigit cs = true
  · obtain ⟨rfl, digit⟩ := before
    have read := of_first_minus digit h
    cases looked with
    | true =>
      rw [sign read]
      exact h
    | false =>
      rw [minus read]
      exact h
  · rw [first_of_ne before (!after) looked]
    exact h

theorem Reading.scanFrom_eq {after : Bool} {cs : List Char} {ts : List Token} (h : Reading cs ts)
    (signs : Signs after ts) : scanFrom after cs = .ok ts := by
  induction h generalizing after with
  | nil => exact scanFrom_nil after
  | blank hb tail ih =>
    rw [scanFrom_of_isBlank hb]
    exact ih signs
  | token looked hb h tail ih =>
    obtain ⟨sign, minus, signs⟩ := signs
    rw [scanFrom_of_first hb (first_of_signs h sign minus), ih signs]
    rfl

end Token

/-! ### What the reader of statements accepts -/

namespace Place

theorem endsOperand_of_ofToken? {t : Token} {node : Node} (h : Node.ofToken? t = some node) :
    t.kind.endsOperand = true ∧ t.kind ≠ .minus := by
  unfold Node.ofToken? at h
  split at h <;> simp_all [Kind.endsOperand]

/-- The reader expects an operator where an operand has just ended, and nowhere else. -/
theorem Takes.expected_iff {p q : Place} {t : Token} (h : Takes p t q) :
    q.expected = .operator ↔ t.kind.endsOperand = true := by
  cases h with
  | operand he ht => simp [afterOperand, (endsOperand_of_ofToken? ht).1]
  | opens he ht => simp [ht, Kind.endsOperand]
  | operator ht =>
    rw [Kind.operator?_eq_some_iff.mp ht]
    rename_i op
    cases op <;> simp [Operator.kind, Kind.endsOperand]
  | closes ht => simp [afterOperand, ht, Kind.endsOperand]

theorem kind_of_signed {t : Token} (h : t.signed = true) :
    t.kind = .integer ∨ t.kind = .float ∨ t.kind = .rational := by
  simp only [Token.signed, Bool.and_eq_true, Bool.or_eq_true, beq_iff_eq] at h
  obtain ⟨(hk | hk) | hk, -⟩ := h
  · exact Or.inl hk
  · exact Or.inr (Or.inl hk)
  · exact Or.inr (Or.inr hk)

/-- A number is taken where an operand may come, and a minus operator where an operator has to. -/
theorem Takes.expected_of {p q : Place} {t : Token} (h : Takes p t q) :
    (t.signed = true → p.expected ≠ .operator) ∧ (t.kind = .minus → p.expected = .operator) := by
  cases h with
  | operand he ht => exact ⟨fun _ => he, fun hk => absurd hk (endsOperand_of_ofToken? ht).2⟩
  | opens he ht => exact ⟨fun _ => he, fun hk => by simp [ht] at hk⟩
  | operator ht =>
    refine ⟨fun hs => ?_, fun _ => rfl⟩
    rcases kind_of_signed hs with hk | hk | hk <;> simp [hk, Kind.operator?] at ht
  | closes ht =>
    refine ⟨fun hs => ?_, fun _ => rfl⟩
    rcases kind_of_signed hs with hk | hk | hk <;> simp [hk] at ht

end Place

namespace Node

theorem signs_of_read {p : Place} {after : Bool} {body : List Token} {node : Node}
    (place : after = true ↔ p.expected = .operator) (formed : ∀ t ∈ body, t.Formed)
    (read : p.read (body ++ [Token.closing]) = .ok node) : Token.Signs after body := by
  induction body generalizing p after with
  | nil => trivial
  | cons t body ih =>
    obtain ⟨ht, formed⟩ := List.forall_mem_cons.mp formed
    rw [List.cons_append, Place.read] at read
    split at read
    · rename_i next goOn
      have taken := Place.takes_of_step goOn
      obtain ⟨sign, minus⟩ := taken.expected_of
      refine ⟨fun hs => ?_, fun hk => place.mpr (minus hk), ih taken.expected_iff.symm formed read⟩
      rw [← Bool.not_eq_true, place]
      exact sign hs
    · rename_i done
      exact absurd (Place.step_eq_done done).2.2.1 ht.kind_ne
    · cases read
    · cases read

/-- A statement has its signs and its minus operators where the scan looks for them. -/
theorem signs_of_ofTokens {t : Token} {body : List Token} {node : Node} (formed : ∀ u ∈ t :: body, u.Formed)
    (read : ofTokens (t :: body ++ [Token.closing]) = .ok node) : Token.Signs false (t :: body) := by
  obtain ⟨ht, formed'⟩ := List.forall_mem_cons.mp formed
  rw [List.cons_append] at read
  rcases ofTokens_cons t (body ++ [Token.closing]) with
    ⟨query, hq, same⟩ | ⟨-, none, -⟩ | ⟨u, rest, hk, hu, hrest, same⟩ | same
  · obtain ⟨rfl, -⟩ := only_eq_ok formed' (same.symm.trans read)
    rcases hq with ⟨hk, -⟩ | ⟨hk, -⟩ <;> simp [Token.Signs, Token.signed, hk]
  · simp at none
  · cases body with
    | nil =>
      cases hrest
      cases hu
    | cons v body =>
      obtain rfl : v = u := (List.cons.inj hrest).1
      obtain rfl : body ++ [Token.closing] = rest := (List.cons.inj hrest).2
      rw [same] at read
      cases hvalue : Place.start.read (body ++ [Token.closing]) with
      | error refusal =>
        rw [hvalue] at read
        cases read
      | ok value =>
        have signs : Token.Signs false body :=
          signs_of_read (by simp [Place.start]) (List.forall_mem_cons.mp formed').2 hvalue
        simpa [Token.Signs, Token.signed, hk, hu, Kind.endsOperand] using signs
  · exact signs_of_read (by simp [Place.start]) formed (same.symm.trans read)

end Node

namespace Token

theorem close_injective {ts us : List Token} (h : close ts = close us) : ts = us := by
  cases ts with
  | nil =>
    cases us with
    | nil => rfl
    | cons u us => simp [close] at h
  | cons t ts =>
    cases us with
    | nil => simp [close] at h
    | cons u us => exact List.append_cancel_right h

/-- Tokens that are a statement are a reading of a line exactly where they are what the scan finds. So at most one
    reading of a line is a statement, and the scan misses none. -/
theorem reading_iff_scan {line : String} {ts : List Token} (accepted : ∃ node, Node.ofTokens (close ts) = .ok node) :
    Reading line.toList ts ↔ scan line = .ok (close ts) := by
  obtain ⟨node, read⟩ := accepted
  constructor
  · intro reading
    cases ts with
    | nil => cases read
    | cons t ts =>
      have signs : Signs false (t :: ts) := Node.signs_of_ofTokens reading.formed read
      rw [scan, reading.scanFrom_eq signs]
  · intro scanned
    rw [scan] at scanned
    split at scanned
    · rename_i body found
      obtain rfl := close_injective (Except.ok.inj scanned)
      exact reading_of_scanFrom found
    · cases scanned

/-- In `x-1 *-2` the first minus is read as an operator, the second as a sign. -/
theorem reading_iff_scan_of_signs :
    let ts : List Token := [⟨.identifier, "x"⟩, ⟨.minus, "-"⟩, ⟨.integer, "1"⟩, ⟨.star, "*"⟩, ⟨.integer, "-2"⟩]
    (∃ node, Node.ofTokens (close ts) = .ok node) ∧ Reading "x-1 *-2".toList ts ∧
      scan "x-1 *-2" = .ok (close ts) := by
  intro ts
  have accepted : ∃ node, Node.ofTokens (close ts) = .ok node := ⟨_, rfl⟩
  have two : Reading ['-', '2'] [⟨.integer, "-2"⟩] := .token true (by decide +kernel) (by decide +kernel) .nil
  have product : Reading [' ', '*', '-', '2'] [⟨.star, "*"⟩, ⟨.integer, "-2"⟩] :=
    .blank (by decide +kernel) (.token false (by decide +kernel) (by decide +kernel) two)
  have one : Reading ['1', ' ', '*', '-', '2'] [⟨.integer, "1"⟩, ⟨.star, "*"⟩, ⟨.integer, "-2"⟩] :=
    .token false (by decide +kernel) (by decide +kernel) product
  have difference : Reading ['-', '1', ' ', '*', '-', '2'] (⟨.minus, "-"⟩ :: ts.drop 2) :=
    .token false (by decide +kernel) (by decide +kernel) one
  have text : "x-1 *-2".toList = ['x', '-', '1', ' ', '*', '-', '2'] := by decide +kernel
  have reading : Reading "x-1 *-2".toList ts := by
    rw [text]
    exact .token false (by decide +kernel) (by decide +kernel) difference
  exact ⟨accepted, reading, (reading_iff_scan accepted).mp reading⟩

end Token

end Calculator
