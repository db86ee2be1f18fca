import Calculator.Evaluation.Node
import Calculator.Proofs.Token.Form

/-! The lexeme of a number spells a number: no literal that is read from a line is malformed. -/

namespace Calculator

/-! ### Runs of digits -/

theorem natural?_of_digits {cs : List Char} (h : Digits cs) : natural? cs = some (Nat.ofDigitChars 10 cs 0) := by
  obtain ⟨hne, hall⟩ := h
  have all : cs.all Char.isDigit = true := List.all_eq_true.mpr hall
  have nonempty : cs.isEmpty = false := by simpa using hne
  rw [natural?, nonempty, all]
  rfl

theorem digits_append {cs ds : List Char} (h : Digits cs) (h' : Digits ds) : Digits (cs ++ ds) :=
  ⟨by simp [h.1], List.forall_mem_append.mpr ⟨h.2, h'.2⟩⟩

theorem head_of_digits {cs rest : List Char} (h : Digits cs) : ∃ d ds, cs ++ rest = d :: ds ∧ d.isDigit = true := by
  obtain ⟨d, ds, rfl⟩ := List.exists_cons_of_ne_nil h.1
  exact ⟨d, ds ++ rest, rfl, h.2 d (List.mem_cons_self ..)⟩

theorem sign_of_isDigit {d : Char} {ds : List Char} (h : d.isDigit = true) : sign (d :: ds) = (false, d :: ds) := by
  unfold sign
  split
  · rename_i he
    rw [(List.cons.inj he).1] at h
    cases h
  · rename_i he
    rw [(List.cons.inj he).1] at h
    cases h
  · rfl

theorem integer?_isSome {written digits : List Char} (hs : written = [] ∨ written = ['+'] ∨ written = ['-'])
    (hd : Digits digits) : (integer? (written ++ digits)).isSome = true := by
  rcases hs with rfl | rfl | rfl
  · obtain ⟨d, ds, hds, digit⟩ := @head_of_digits _ [] hd
    rw [List.append_nil] at hds
    rw [List.nil_append, integer?, hds, sign_of_isDigit digit, ← hds]
    simp [natural?_of_digits hd]
  · simp [integer?, sign, natural?_of_digits hd]
  · simp [integer?, sign, natural?_of_digits hd]

/-! ### Integers -/

/-- The digits of a lexeme behind its sign. -/
theorem dropWhile_minus {written digits : List Char} (hs : written = [] ∨ written = ['-']) (hd : Digits digits) :
    (written ++ digits).dropWhile (· == '-') = digits := by
  have unsigned : digits.dropWhile (· == '-') = digits := by
    obtain ⟨d, ds, rfl⟩ := List.exists_cons_of_ne_nil hd.1
    have hne := ne_of_has (hd.2 d (List.mem_cons_self ..)) (show '-'.isDigit = false from rfl)
    exact List.dropWhile_cons_of_neg (by simpa using hne)
  rcases hs with rfl | rfl
  · exact unsigned
  · exact unsigned

theorem ofDigitChars_dropWhile_zero (cs : List Char) :
    Nat.ofDigitChars 10 (cs.dropWhile (· == '0')) 0 = Nat.ofDigitChars 10 cs 0 := by
  induction cs with
  | nil => rfl
  | cons c cs ih =>
    by_cases zero : c = '0'
    · subst zero
      rw [List.dropWhile_cons_of_pos rfl, ih, Nat.ofDigitChars_cons]
      rfl
    · rw [List.dropWhile_cons_of_neg (by simpa using zero)]

/-- A literal spells the number of its digits. Zeros in front do not count. -/
theorem integerLiteral_of_digits {text : String} {written digits : List Char} (hs : written = [] ∨ written = ['-'])
    (hd : Digits digits) (htext : text.toList = written ++ digits) :
    integerLiteral text = .ok (
      if integerDigits < (digits.dropWhile (· == '0')).length then .error .integerOverflow
      else .ofExact (if written = ['-'] then -(Nat.ofDigitChars 10 digits 0 : Int) else Nat.ofDigitChars 10 digits 0)) := by
  have significant : ∀ c ∈ digits.dropWhile (· == '0'), c.isDigit = true :=
    fun c hc => hd.2 c ((List.dropWhile_sublist _).subset hc)
  have signs : (written ++ digits).head? = some '-' ↔ written = ['-'] := by
    rcases hs with rfl | rfl
    · obtain ⟨d, ds, rfl⟩ := List.exists_cons_of_ne_nil hd.1
      simpa using ne_of_has (hd.2 d (List.mem_cons_self ..)) (show '-'.isDigit = false from rfl)
    · simp
  have value : (if (digits.dropWhile (· == '0')).isEmpty then some 0 else natural? (digits.dropWhile (· == '0'))) =
      some (Nat.ofDigitChars 10 digits 0) := by
    rw [← ofDigitChars_dropWhile_zero digits]
    cases hz : digits.dropWhile (· == '0') with
    | nil => rfl
    | cons d ds =>
      rw [hz] at significant
      rw [if_neg (by simp), natural?_of_digits ⟨List.cons_ne_nil _ _, significant⟩]
  simp only [integerLiteral, htext, dropWhile_minus hs hd, value, signs]
  split <;> rfl

theorem integerLiteral_of_lexeme {text : String} (h : Lexeme .integer text.toList) :
    ∃ v, integerLiteral text = .ok v := by
  obtain ⟨written, digits, hs, hd, htext⟩ : ∃ written digits, (written = [] ∨ written = ['-']) ∧ Digits digits ∧
      text.toList = written ++ digits := by
    generalize text.toList = cs at h
    cases h with
    | number hs hd ht =>
      cases ht
      exact ⟨_, _, hs, hd, by rw [List.append_nil]⟩
    | fixed h => cases h
  exact ⟨_, integerLiteral_of_digits hs hd htext⟩

/-! ### Integers as they are written -/

theorem digits_toDigits (n : Nat) : Digits (Nat.toDigits 10 n) :=
  ⟨Nat.toDigits_ne_nil, fun _ hc => Nat.isDigit_of_mem_toDigits (by decide) (by decide) hc⟩

theorem lexeme_integerText (v : Int) : Lexeme .integer (integerText v).toList := by
  rw [integerText, String.toList_ofList, ← List.append_nil (Nat.toDigits 10 v.natAbs)]
  exact .number (by split <;> simp) (digits_toDigits _) .integer

theorem integerLiteral_integerText {v : Int} (h : InRange v) : integerLiteral (integerText v) = .ok (.integer v) := by
  have short : ¬integerDigits < ((Nat.toDigits 10 v.natAbs).dropWhile (· == '0')).length := by
    have digits : (Nat.toDigits 10 v.natAbs).length ≤ integerDigits := by
      refine (Nat.length_toDigits_le_iff (by decide) (by decide)).mpr ?_
      obtain ⟨least, greatest⟩ := h
      have bounds : leastInteger = -2 ^ 127 ∧ greatestInteger = 2 ^ 127 - 1 := ⟨rfl, rfl⟩
      rw [integerDigits]
      omega
    have fewer := (List.dropWhile_sublist (p := (· == '0')) (l := Nat.toDigits 10 v.natAbs)).length_le
    omega
  have value : (if (if v < 0 then ['-'] else []) = ['-'] then -(v.natAbs : Int) else v.natAbs) = v := by
    by_cases negative : v < 0
    · rw [if_pos negative, if_pos rfl]
      omega
    · rw [if_neg negative, if_neg (by simp)]
      omega
  rw [integerText, integerLiteral_of_digits (by split <;> simp) (digits_toDigits v.natAbs) (String.toList_ofList ..), if_neg short,
    Nat.ofDigitChars_ten_toDigits, value, Value.ofExact, if_pos h]

/-! ### Floating-point numbers -/

theorem isExponentMark_of_isDigit {c : Char} (h : c.isDigit = true) : Decimal.isExponentMark c = false := by
  have he := ne_of_has h (show 'e'.isDigit = false from rfl)
  have hE := ne_of_has h (show 'E'.isDigit = false from rfl)
  simp [Decimal.isExponentMark, he, hE]

theorem read?_isSome {whole fraction exp : List Char} (hw : Digits whole) (hf : Digits fraction)
    (he : Exponent exp) : (Decimal.read? (whole ++ '.' :: fraction ++ exp)).isSome = true := by
  have plain : ∀ c ∈ whole ++ '.' :: fraction, (!Decimal.isExponentMark c) = true := by
    refine List.forall_mem_append.mpr ⟨fun c hc => ?_, List.forall_mem_cons.mpr ⟨rfl, fun c hc => ?_⟩⟩
    · rw [isExponentMark_of_isDigit (hw.2 c hc)]
      rfl
    · rw [isExponentMark_of_isDigit (hf.2 c hc)]
      rfl
  have mark : ∀ c ∈ exp.head?, (!Decimal.isExponentMark c) = false := by
    cases he with
    | missing => simp
    | power hm =>
      rintro c ⟨⟩
      rcases hm with rfl | rfl <;> rfl
  have point : ∀ c ∈ ('.' :: fraction).head?, (c != '.') = false := by
    rintro c ⟨⟩
    rfl
  have digits : ∀ c ∈ whole, (c != '.') = true := fun c hc => by
    simpa using ne_of_has (hw.2 c hc) (show '.'.isDigit = false from rfl)
  simp only [Decimal.read?, Token.takeWhile_append_exact plain mark, Token.dropWhile_append_exact plain mark,
    Token.takeWhile_append_exact digits point, Token.dropWhile_append_exact digits point, List.drop_one, List.tail_cons,
    natural?_of_digits (digits_append hw hf), Option.bind_eq_bind, Option.bind_some]
  cases he with
  | missing => rfl
  | @power mark written power hm hs hd =>
    obtain ⟨n, hn⟩ := Option.isSome_iff_exists.mp (integer?_isSome hs hd)
    simp [hn]

theorem magnitude?_isSome {whole fraction exp : List Char} (hw : Digits whole) (hf : Digits fraction)
    (he : Exponent exp) : (magnitude? (whole ++ '.' :: fraction ++ exp)).isSome = true := by
  obtain ⟨d, ds, hds, digit⟩ := @head_of_digits _ ('.' :: fraction ++ exp) hw
  rw [← List.append_assoc] at hds
  have inf : d :: ds ≠ ['i', 'n', 'f'] := fun h => ne_of_has digit rfl (List.cons.inj h).1
  have nan : d :: ds ≠ ['n', 'a', 'n'] := fun h => ne_of_has digit rfl (List.cons.inj h).1
  have read := read?_isSome hw hf he
  rw [hds] at read ⊢
  rw [magnitude?, if_neg inf, if_neg nan, Option.isSome_map]
  exact read

theorem floatLiteral_of_lexeme {text : String} (h : Lexeme .float text.toList) :
    ∃ x, floatLiteral text = .ok (.float x) := by
  obtain ⟨written, whole, fraction, exp, hs, hw, hf, he, htext⟩ : ∃ written whole fraction exp,
      (written = [] ∨ written = ['-']) ∧ Digits whole ∧ Digits fraction ∧ Exponent exp ∧
        text.toList = written ++ (whole ++ '.' :: fraction ++ exp) := by
    generalize text.toList = cs at h
    cases h with
    | number hs hd ht =>
      cases ht with
      | float hf he => exact ⟨_, _, _, _, hs, hd, hf, he, by simp⟩
    | fixed h => cases h
  obtain ⟨x, hx⟩ := Option.isSome_iff_exists.mp (magnitude?_isSome hw hf he)
  have signs : sign (written ++ (whole ++ '.' :: fraction ++ exp)) =
      (written == ['-'], whole ++ '.' :: fraction ++ exp) := by
    rcases hs with rfl | rfl
    · obtain ⟨d, ds, hds, digit⟩ := @head_of_digits _ ('.' :: fraction ++ exp) hw
      rw [← List.append_assoc] at hds
      rw [List.nil_append, hds, sign_of_isDigit digit]
      rfl
    · rfl
  have value : float? text = some (if written == ['-'] then -x else x) := by
    rw [float?, htext, signs]
    simp only [hx, Option.map_some]
  exact ⟨_, by rw [floatLiteral, value]⟩

end Calculator
