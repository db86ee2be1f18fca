import Calculator.Proofs.Token.Stop

/-! How far names reach. What stands directly behind a name does not go on one. Some letters do not, although they start
    a name (`CharClass.has_lone_iff`): only where such a letter follows is a name directly before another
    (`nameEnd_of_scan`). -/

namespace Calculator

/-! ### Letters that cannot go on a name -/

namespace CharClass

/-- Whether all code points of some ranges are covered by other ranges. -/
def within (ranges others : List (Nat × Nat)) : Bool :=
  ranges.all fun r => (List.range' r.1 (r.2 + 1 - r.1)).all fun n => covers others n

theorem has_of_within {k k' : CharClass} (h : within k.ranges k'.ranges = true) {c : Char} (hc : k.has c = true) :
    k'.has c = true := by
  obtain ⟨r, hr, h1, h2⟩ := mem_of_covers hc
  have mem : c.toNat ∈ List.range' r.1 (r.2 + 1 - r.1) := List.mem_range'_1.mpr (by omega)
  exact List.all_eq_true.mp (List.all_eq_true.mp h r hr) c.toNat mem

theorem has_lone_iff {c : Char} : lone.has c = true ↔ isLetter c = true ∧ continuesName c = false := by
  constructor
  · intro h
    have joiner : CharClass.joiner.has c = false := has_of_apart (by decide +kernel) h
    refine ⟨has_of_within (by decide +kernel) h, ?_⟩
    rw [continuesName, joiner, h]
    simp
  · rintro ⟨letter, stops⟩
    rw [continuesName, letter, Bool.or_eq_false_iff] at stops
    simpa using stops.2

end CharClass

theorem isDigit_of_not_continuesName {c : Char} (h : continuesName c = false) : c.isDigit = false := by
  rw [← Bool.not_eq_true]
  intro digit
  rw [continuesName_of_isDigit digit] at h
  cases h

/-- Of letters, digits and the underscore only some letters do not go on a name. -/
theorem has_lone_of_not_continuesName {c : Char} (h : continuesName c = false)
    (character : isLetter c = true ∨ c.isDigit = true ∨ c = '_') : CharClass.lone.has c = true := by
  rcases character with letter | digit | rfl
  · exact CharClass.has_lone_iff.mpr ⟨letter, h⟩
  · rw [isDigit_of_not_continuesName h] at digit
    cases digit
  · exact absurd h (by decide)

namespace Token

/-! ### Tokens behind a name -/

/-- A token that is not taken for more of a name: it is no name, no query, and no number that starts with a digit. -/
structure Separate (t : Token) : Prop where
  identifier : t.kind ≠ .identifier
  help : t.kind ≠ .help
  about : t.kind ≠ .about
  number : startsDigit t.lexeme.toList = false

theorem kind_number_ne (sign cs : List Char) : (number sign cs).1.kind ≠ .identifier := by
  have tail := (of_numberTail (cs.dropWhile Char.isDigit)).1
  intro (hk : (numberTail (cs.dropWhile Char.isDigit)).1 = .identifier)
  rw [hk] at tail
  cases tail

/-- A name is read as far as it goes. -/
theorem stop_of_first {looked : Bool} {c : Char} {cs rest : List Char} {t : Token}
    (h : first looked c cs = .ok (t, rest)) (hk : t.kind = .identifier) : ∀ d ∈ rest.head?, continuesName d = false := by
  unfold first at h
  split at h
  · cases h
    exact absurd hk (kind_number_ne _ _)
  · split at h
    · cases h
      exact absurd hk (kind_number_ne _ _)
    · split at h
      · unfold word at h
        dsimp only at h
        split at h
        · cases h
          exact stop_dropWhile continuesName cs
        · rename_i reserved _
          cases h
          rcases eq_of_reserved? reserved with ⟨-, rfl⟩ | ⟨-, rfl⟩ <;> cases hk
        · cases h
      · split at h
        · rename_i plain
          cases h
          obtain rfl : _ = Kind.identifier := hk
          cases text?_of_ofChar? plain
        · cases h

/-- What a token is that starts with a character that goes on no name. -/
theorem of_first_of_stops {c : Char} {cs rest : List Char} {t : Token} (stops : continuesName c = false)
    (h : first false c cs = .ok (t, rest)) :
    CharClass.lone.has c = true ∧ t.kind = .identifier ∨ CharClass.lone.has c = false ∧ t.Separate := by
  have digit := isDigit_of_not_continuesName stops
  rw [first, if_neg (by simp [digit]), if_neg (by simp)] at h
  split at h
  · rename_i name
    have character : isLetter c = true ∨ c.isDigit = true ∨ c = '_' := by
      simp only [startsName, Bool.or_eq_true, beq_iff_eq] at name
      exact name.symm.imp_right Or.inr
    refine Or.inl ⟨has_lone_of_not_continuesName stops character, ?_⟩
    unfold word at h
    dsimp only at h
    split at h
    · cases h
      rfl
    · -- The letters of the reserved words all go on a name.
      rename_i reserved _
      rcases eq_of_reserved? reserved with ⟨same, -⟩ | ⟨same, -⟩
      · rw [(List.cons.inj same).1] at stops
        exact absurd stops (by decide)
      · rw [(List.cons.inj same).1] at stops
        exact absurd stops (by decide)
    · cases h
  · rename_i name
    have lone : CharClass.lone.has c = false := by
      rw [← Bool.not_eq_true]
      intro lone
      simp [startsName, (CharClass.has_lone_iff.mp lone).1] at name
    split at h
    · rename_i kind plain
      cases h
      have text := text?_of_ofChar? plain
      refine Or.inr ⟨lone, ?_, ?_, ?_, by simpa [startsDigit] using digit⟩
      · rintro (rfl : kind = _)
        cases text
      · rintro (rfl : kind = _)
        cases text
      · rintro (rfl : kind = _)
        cases text
    · cases h

/-- A token is read at its place. -/
theorem Scans.first_eq {after : Bool} {front rest : List Char} {before behind : List Token} {t : Token}
    (h : Scans after (front ++ (t.lexeme.toList ++ rest)) (before ++ t :: behind))
    (same : solid front = joined before) : ∃ c cs, t.lexeme.toList = c :: cs ∧
      first (!operandBefore after before) c (cs ++ rest) = .ok (t, rest) := by
  obtain ⟨front', c, tail, rest', pieces, hc, same', read⟩ := h.exists_place
  obtain ⟨formed, lexeme, -⟩ := of_first read
  obtain ⟨d, ds, hd⟩ := exists_cons_of_lexeme formed
  rw [hd] at lexeme pieces
  obtain ⟨rfl, rfl⟩ := List.cons.inj lexeme
  obtain ⟨-, -, tails⟩ := front_unique hc hc (same.trans same'.symm) pieces
  obtain rfl := List.append_cancel_left tails
  exact ⟨c, ds, hd, read⟩

/-! ### Names of a line -/

/-- What stands directly behind a name, where the line goes on with `rest` and its tokens go on with `next`. -/
structure NameEnd (rest : List Char) (next : Token) : Prop where
  stops : ∀ c ∈ rest.head?, continuesName c = false
  /-- A letter, digit or underscore belongs to the name, unless it is one of a few letters. -/
  character : ∀ c ∈ rest.head?, isLetter c = true ∨ c.isDigit = true ∨ c = '_' → CharClass.lone.has c = true
  separate : next.lexeme.toList <+: rest → (next.Separate ↔ ∀ c ∈ next.lexeme.toList.head?, CharClass.lone.has c = false)
  /-- Where the next token is not separate from the name, it is a name too. -/
  name : next.lexeme.toList <+: rest → ¬next.Separate → next.kind = .identifier

theorem separate_closing : closing.Separate := ⟨by decide, by decide, by decide, rfl⟩

/-- The token directly behind a name is separate from it or starts with a letter that cannot go on a name. -/
theorem Scans.separate_or {after : Bool} {front rest : List Char} {before behind : List Token} {t next : Token}
    (h : Scans after (front ++ (t.lexeme.toList ++ (next.lexeme.toList ++ rest))) (before ++ t :: next :: behind))
    (hk : t.kind = .identifier) (same : solid front = joined before) :
    ∃ c cs, next.lexeme.toList = c :: cs ∧
      (CharClass.lone.has c = true ∧ next.kind = .identifier ∨ CharClass.lone.has c = false ∧ next.Separate) := by
  obtain ⟨_, _, _, name⟩ := h.first_eq same
  obtain ⟨formed, -⟩ := of_first name
  have same' : solid (front ++ t.lexeme.toList) = joined (before ++ [t]) := by
    simp [same, formed.solid_lexeme]
  have operand : operandBefore after (before ++ [t]) = true := by simp [operandBefore, hk, Kind.endsOperand]
  rw [← List.append_assoc, List.append_cons before t (next :: behind)] at h
  obtain ⟨c, cs, text, read⟩ := h.first_eq same'
  rw [operand] at read
  have stops : continuesName c = false := stop_of_first name hk c (by simp [text])
  exact ⟨c, cs, text, of_first_of_stops stops read⟩

/-- Names reach up to a character that goes on no name. -/
theorem nameEnd_of_scan {line : String} {before behind : List Token} {t next : Token} {front rest : List Char}
    (h : scan line = .ok (before ++ t :: next :: behind)) (hk : t.kind = .identifier)
    (place : line.toList = front ++ (t.lexeme.toList ++ rest)) (same : solid front = joined before) :
    NameEnd rest next := by
  unfold scan at h
  split at h
  · rename_i body found
    have scans := scans_of_scanFrom found
    rw [place] at scans
    have tokens : close body = before ++ t :: next :: behind := Except.ok.inj h
    have stops : ∀ c ∈ rest.head?, continuesName c = false := by
      rcases eq_closing_or_mem tokens with ⟨rfl, -⟩ | ⟨more, rfl⟩
      · cases hk
      · obtain ⟨_, _, _, name⟩ := scans.first_eq same
        exact stop_of_first name hk
    have next_cases : next.lexeme.toList <+: rest →
        (∀ c ∈ next.lexeme.toList.head?, CharClass.lone.has c = false) ∧ next.Separate ∨
          ¬(∀ c ∈ next.lexeme.toList.head?, CharClass.lone.has c = false) ∧ next.kind = .identifier := by
      rintro ⟨rest, rfl⟩
      rw [List.append_cons] at tokens
      rcases eq_closing_or_mem tokens with ⟨rfl, -⟩ | ⟨more, rfl⟩
      · exact Or.inl ⟨by simp [closing], separate_closing⟩
      · rw [← List.append_cons] at scans
        obtain ⟨c, cs, text, ⟨lone, name⟩ | ⟨lone, separate⟩⟩ := scans.separate_or hk same
        · exact Or.inr ⟨by simp [text, lone], name⟩
        · exact Or.inl ⟨by simp [text, lone], separate⟩
    refine ⟨stops, fun c hc => has_lone_of_not_continuesName (stops c hc), fun touches => ?_, fun touches joined => ?_⟩
    · rcases next_cases touches with ⟨apart, separate⟩ | ⟨lone, name⟩
      · exact iff_of_true separate apart
      · exact iff_of_false (fun separate => separate.identifier name) lone
    · rcases next_cases touches with ⟨-, separate⟩ | ⟨-, name⟩
      · exact absurd separate joined
      · exact name
  · cases h

/-- Whether every name of a line is scanned to its full extent: the token directly behind it is always separate. -/
def NamesWhole (line : String) : Prop :=
  ∀ before t next behind front rest, scan line = .ok (before ++ t :: next :: behind) → t.kind = .identifier →
    line.toList = front ++ (t.lexeme.toList ++ (next.lexeme.toList ++ rest)) → solid front = joined before →
      next.Separate

/-- The letter U+037A starts a name, but it cannot go on one. -/
theorem not_namesWhole_of_lone : ¬NamesWhole "a\u037a" := by
  intro whole
  have scanned : scan "a\u037a" = .ok ([] ++ ⟨.identifier, "a"⟩ :: ⟨.identifier, "\u037a"⟩ :: [closing]) := by
    decide +kernel
  exact (whole [] _ _ _ [] [] scanned rfl (by decide) rfl).identifier rfl

theorem nameEnd_of_scan_of_caret :
    let before : List Token := [⟨.integer, "2"⟩, ⟨.star, "*"⟩]
    scan "2 * x_1^3" = .ok (before ++ ⟨.identifier, "x_1"⟩ :: ⟨.caret, "^"⟩ :: [⟨.integer, "3"⟩, closing]) ∧
      solid ['2', ' ', '*', ' '] = joined before ∧ NameEnd ['^', '3'] ⟨.caret, "^"⟩ := by
  intro before
  have scanned :
      scan "2 * x_1^3" = .ok (before ++ ⟨.identifier, "x_1"⟩ :: ⟨.caret, "^"⟩ :: [⟨.integer, "3"⟩, closing]) := by
    decide +kernel
  have same : solid ['2', ' ', '*', ' '] = joined before := by decide
  exact ⟨scanned, same, nameEnd_of_scan scanned rfl (by decide) same⟩

end Token

end Calculator
