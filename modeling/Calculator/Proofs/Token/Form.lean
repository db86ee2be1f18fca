import Calculator.Proofs.Text.Classes
import Calculator.Token.Scan
import Mathlib.Data.List.TakeWhile

/-! The forms of lexemes: what a token of each kind may be written as. Whatever a token is read from is a lexeme of its
    kind, with nothing lost (`Token.of_first`); and a lexeme is read back from any text that starts with it and does
    not go on with a character that could extend it (`Token.first_append`). -/

namespace Calculator

/-- One digit or more. -/
def Digits (cs : List Char) : Prop := cs ≠ [] ∧ ∀ c ∈ cs, c.isDigit = true

/-- An exponent, which may be missing. -/
inductive Exponent : List Char → Prop where
  | missing : Exponent []
  | power {mark : Char} {sign digits : List Char} (hm : mark = 'e' ∨ mark = 'E')
      (hs : sign = [] ∨ sign = ['+'] ∨ sign = ['-']) (hd : Digits digits) : Exponent (mark :: (sign ++ digits))

/-- What may follow the first digits of a number of each kind. -/
inductive NumberTail : Kind → List Char → Prop where
  | integer : NumberTail .integer []
  | rational {digits : List Char} (hd : Digits digits) : NumberTail .rational ('/' :: digits)
  | float {digits exponent : List Char} (hd : Digits digits) (he : Exponent exponent) :
      NumberTail .float ('.' :: (digits ++ exponent))

/-- The text of the kinds whose tokens are all written the same. -/
def Kind.text? : Kind → Option (List Char)
  | .help => some ['h', 'e', 'l', 'p', '(', ')']
  | .about => some ['a', 'b', 'o', 'u', 't', '(', ')']
  | .plus => some ['+']
  | .minus => some ['-']
  | .star => some ['*']
  | .slash => some ['/']
  | .caret => some ['^']
  | .percent => some ['%']
  | .equal => some ['=']
  | .bracketOpen => some ['(']
  | .bracketClose => some [')']
  | .integer | .float | .rational | .identifier | .endOfLine => none

/-- What a token of each kind may be written as. The token that closes a line has no lexeme. -/
inductive Lexeme : Kind → List Char → Prop where
  | number {k : Kind} {sign digits tail : List Char} (hs : sign = [] ∨ sign = ['-']) (hd : Digits digits)
      (ht : NumberTail k tail) : Lexeme k (sign ++ (digits ++ tail))
  | name {c : Char} {cs : List Char} (hc : startsName c = true) (hcs : ∀ x ∈ cs, continuesName x = true)
      (hhelp : c :: cs ≠ ['h', 'e', 'l', 'p']) (habout : c :: cs ≠ ['a', 'b', 'o', 'u', 't']) :
      Lexeme .identifier (c :: cs)
  | fixed {k : Kind} {text : List Char} (h : k.text? = some text) : Lexeme k text

namespace Token

/-- A token that is written as one of its kind may be. -/
def Formed (t : Token) : Prop := Lexeme t.kind t.lexeme.toList

/-- Whether a token is a number with a minus sign. -/
def signed (t : Token) : Bool :=
  (t.kind == .integer || t.kind == .float || t.kind == .rational) && t.lexeme.toList.head? == some '-'

/-! ### Runs of characters -/

theorem takeWhile_append_exact {p : Char → Bool} {cs rest : List Char} (h : ∀ c ∈ cs, p c = true)
    (stop : ∀ c ∈ rest.head?, p c = false) : (cs ++ rest).takeWhile p = cs := by
  rw [List.takeWhile_append_of_pos h]
  cases rest with
  | nil => simp
  | cons c rest => simp [stop c rfl]

theorem dropWhile_append_exact {p : Char → Bool} {cs rest : List Char} (h : ∀ c ∈ cs, p c = true)
    (stop : ∀ c ∈ rest.head?, p c = false) : (cs ++ rest).dropWhile p = rest := by
  rw [List.dropWhile_append_of_pos h]
  cases rest with
  | nil => rfl
  | cons c rest => simp [stop c rfl]

/-! ### What is read is a lexeme -/

theorem of_digits? {cs digits rest : List Char} (h : digits? cs = some (digits, rest)) :
    Digits digits ∧ cs = digits ++ rest := by
  unfold digits? at h
  split at h
  · cases h
  · rename_i d ds hd
    simp only [Option.some.injEq, Prod.mk.injEq] at h
    obtain ⟨rfl, rfl⟩ := h
    refine ⟨⟨List.cons_ne_nil _ _, hd ▸ fun _ => List.mem_takeWhile_imp⟩, ?_⟩
    rw [← hd, List.takeWhile_append_dropWhile]

theorem of_writtenSign (cs : List Char) :
    ((writtenSign cs).1 = [] ∨ (writtenSign cs).1 = ['+'] ∨ (writtenSign cs).1 = ['-']) ∧
      cs = (writtenSign cs).1 ++ (writtenSign cs).2 := by
  unfold writtenSign
  split <;> simp

theorem of_exponent (cs : List Char) : Exponent (exponent cs).1 ∧ cs = (exponent cs).1 ++ (exponent cs).2 := by
  cases cs with
  | nil => exact ⟨.missing, rfl⟩
  | cons mark cs =>
    rw [exponent]
    obtain ⟨hs, hcs⟩ := of_writtenSign cs
    split
    · rename_i hm
      split
      · rename_i digits rest h
        obtain ⟨hd, hrest⟩ := of_digits? h
        refine ⟨.power hm hs hd, ?_⟩
        simp only [List.cons_append, List.append_assoc]
        rw [← hrest, ← hcs]
      · exact ⟨.missing, rfl⟩
    · exact ⟨.missing, rfl⟩

theorem of_numberTail (cs : List Char) :
    NumberTail (numberTail cs).1 (numberTail cs).2.1 ∧ cs = (numberTail cs).2.1 ++ (numberTail cs).2.2 := by
  unfold numberTail
  split
  · split
    · rename_i h
      obtain ⟨hd, rfl⟩ := of_digits? h
      exact ⟨.rational hd, rfl⟩
    · exact ⟨.integer, rfl⟩
  · split
    · rename_i digits rest h
      obtain ⟨hd, rfl⟩ := of_digits? h
      obtain ⟨he, hrest⟩ := of_exponent rest
      refine ⟨.float hd he, ?_⟩
      simp only [List.cons_append, List.append_assoc]
      rw [← hrest]
    · exact ⟨.integer, rfl⟩
  · exact ⟨.integer, rfl⟩

theorem of_number {sign cs : List Char} (hs : sign = [] ∨ sign = ['-']) (h : startsDigit cs = true) :
    (number sign cs).1.Formed ∧ sign ++ cs = (number sign cs).1.lexeme.toList ++ (number sign cs).2 := by
  have hd : Digits (cs.takeWhile Char.isDigit) := by
    refine ⟨?_, fun _ => List.mem_takeWhile_imp⟩
    cases cs with
    | nil => cases h
    | cons c cs => simp [show c.isDigit = true from h]
  obtain ⟨ht, hrest⟩ := of_numberTail (cs.dropWhile Char.isDigit)
  constructor
  · simp only [Formed, number, String.toList_ofList, List.append_assoc]
    exact .number hs hd ht
  · simp only [number, String.toList_ofList, List.append_assoc]
    rw [← hrest, List.takeWhile_append_dropWhile]

theorem eq_of_reserved? {word : List Char} {k : Kind} (h : Kind.reserved? word = some k) :
    word = ['h', 'e', 'l', 'p'] ∧ k = .help ∨ word = ['a', 'b', 'o', 'u', 't'] ∧ k = .about := by
  unfold Kind.reserved? at h
  split at h
  · rename_i hw
    cases h
    exact Or.inl ⟨hw, rfl⟩
  · split at h
    · rename_i hw
      cases h
      exact Or.inr ⟨hw, rfl⟩
    · cases h

theorem text?_of_reserved? {word : List Char} {k : Kind} (h : Kind.reserved? word = some k) :
    k.text? = some (word ++ ['(', ')']) := by
  rcases eq_of_reserved? h with ⟨rfl, rfl⟩ | ⟨rfl, rfl⟩
  · rfl
  · rfl

theorem text?_of_ofChar? {c : Char} {k : Kind} (h : Kind.ofChar? c = some k) : k.text? = some [c] := by
  unfold Kind.ofChar? at h
  split at h <;> cases h <;> rfl

theorem of_word {c : Char} {cs : List Char} {t : Token} {rest : List Char} (hc : startsName c = true)
    (h : word c cs = .ok (t, rest)) : t.Formed ∧ c :: cs = t.lexeme.toList ++ rest := by
  have whole := List.takeWhile_append_dropWhile (p := continuesName) (l := cs)
  unfold word at h
  dsimp only at h
  split at h
  · rename_i hw
    cases h
    simp only [Formed, String.toList_ofList]
    refine ⟨.name hc (fun _ => List.mem_takeWhile_imp) ?_ ?_, by rw [List.cons_append, whole]⟩
    · intro he
      simp [Kind.reserved?, he] at hw
    · intro he
      simp [Kind.reserved?, he] at hw
  · rename_i hw hrest
    cases h
    simp only [Formed, String.toList_ofList]
    refine ⟨.fixed (text?_of_reserved? hw), ?_⟩
    rw [hrest] at whole
    rw [List.append_assoc, List.cons_append]
    exact congrArg (c :: ·) whole.symm
  · cases h

theorem eq_minus_of_signed {t : Token} {c : Char} {cs rest : List Char} (h : t.signed = true)
    (hcs : c :: cs = t.lexeme.toList ++ rest) : c = '-' := by
  simp only [signed, Bool.and_eq_true, beq_iff_eq] at h
  obtain ⟨l, hl⟩ := List.head?_eq_some_iff.mp h.2
  rw [hl] at hcs
  exact (List.cons.inj hcs).1

theorem signed_of_text? {t : Token} {text : List Char} (h : t.kind.text? = some text) : t.signed = false := by
  cases hk : t.kind <;> simp_all [signed, Kind.text?]

/-- A token is written as its kind may be, and what is read is its lexeme and the rest. A minus sign is read only where
    one is looked for. -/
theorem of_first {looked : Bool} {c : Char} {cs : List Char} {t : Token} {rest : List Char}
    (h : first looked c cs = .ok (t, rest)) :
    t.Formed ∧ c :: cs = t.lexeme.toList ++ rest ∧ (t.signed = true → looked = true) := by
  unfold first at h
  split at h
  · rename_i digit
    obtain ⟨hf, hcs⟩ := of_number (Or.inl rfl) (show startsDigit (c :: cs) = true from digit)
    cases h
    refine ⟨hf, hcs, fun hsign => ?_⟩
    rw [eq_minus_of_signed hsign hcs] at digit
    cases digit
  · split at h
    · rename_i minus
      simp only [Bool.and_eq_true, beq_iff_eq] at minus
      obtain ⟨⟨hl, rfl⟩, hd⟩ := minus
      obtain ⟨hf, hcs⟩ := of_number (Or.inr rfl) hd
      cases h
      exact ⟨hf, hcs, fun _ => hl⟩
    · split at h
      · rename_i hname
        obtain ⟨hf, hcs⟩ := of_word hname h
        refine ⟨hf, hcs, fun hsign => ?_⟩
        rw [eq_minus_of_signed hsign hcs, show startsName '-' = false by decide] at hname
        cases hname
      · split at h
        · rename_i kind hk
          cases h
          have text := text?_of_ofChar? hk
          refine ⟨?_, by rw [String.toList_ofList]; rfl, fun hsign => ?_⟩
          · simp only [Formed, String.toList_ofList]
            exact .fixed text
          · rw [signed_of_text? text] at hsign
            cases hsign
        · cases h

theorem signed_number (cs : List Char) : (number ['-'] cs).1.signed = true := by
  have tail := (of_numberTail (cs.dropWhile Char.isDigit)).1
  have head : (number ['-'] cs).1.lexeme.toList.head? = some '-' := by simp [number]
  rw [signed, head, number]
  generalize (numberTail (cs.dropWhile Char.isDigit)).1 = k at tail
  generalize (numberTail (cs.dropWhile Char.isDigit)).2.1 = text at tail
  cases tail <;> rfl

/-- A minus before a digit is read as what it is looked for as. -/
theorem of_first_minus {looked : Bool} {cs rest : List Char} {t : Token} (digit : startsDigit cs = true)
    (h : first looked '-' cs = .ok (t, rest)) : if looked then t.signed = true else t.kind = .minus := by
  cases looked with
  | true =>
    rw [first, if_neg (by decide), if_pos (by simpa using digit)] at h
    cases h
    exact signed_number cs
  | false =>
    rw [first, if_neg (by decide), if_neg (by simp), if_neg (by decide)] at h
    cases h
    rfl

/-! ### Characters of a lexeme -/

theorem text?_cases {k : Kind} {text : List Char} (h : k.text? = some text) :
    (∃ c, text = [c] ∧ Kind.ofChar? c = some k) ∨ ∃ word, text = word ++ ['(', ')'] ∧ Kind.reserved? word = some k := by
  cases k <;> cases h
  case help => exact Or.inr ⟨['h', 'e', 'l', 'p'], rfl, rfl⟩
  case about => exact Or.inr ⟨['a', 'b', 'o', 'u', 't'], rfl, rfl⟩
  all_goals exact Or.inl ⟨_, rfl, rfl⟩

/-- A token that is one character is neither part of a number nor of a name, and it is not blank. -/
theorem plain_of_ofChar? {c : Char} {k : Kind} (h : Kind.ofChar? c = some k) :
    c.isDigit = false ∧ startsName c = false ∧ continuesName c = false ∧ isBlank c = false := by
  have plain : (['+', '-', '*', '/', '^', '%', '=', '(', ')'].all fun c =>
      !c.isDigit && !startsName c && !continuesName c && !isBlank c) = true := by decide
  have mem : c ∈ ['+', '-', '*', '/', '^', '%', '=', '(', ')'] := by
    unfold Kind.ofChar? at h
    split at h <;> simp at h ⊢
  simpa only [Bool.and_eq_true, Bool.not_eq_true', and_assoc] using List.all_eq_true.mp plain c mem

theorem spelled_of_reserved? {word : List Char} {k : Kind} (h : Kind.reserved? word = some k) :
    ∃ c cs, word = c :: cs ∧ startsName c = true ∧ ∀ x ∈ cs, continuesName x = true := by
  rcases eq_of_reserved? h with ⟨hw, -⟩ | ⟨hw, -⟩
  · exact ⟨'h', ['e', 'l', 'p'], hw, by decide, List.all_eq_true.mp (by decide)⟩
  · exact ⟨'a', ['b', 'o', 'u', 't'], hw, by decide, List.all_eq_true.mp (by decide)⟩

theorem eq_of_text? {k : Kind} {text fixed : List Char} (h : Lexeme k text) (hk : k.text? = some fixed) :
    text = fixed := by
  cases h with
  | number hs hd ht => cases ht <;> cases hk
  | name => cases hk
  | fixed h => exact Option.some.inj (h.symm.trans hk)

theorem kind_ne_of_lexeme {k : Kind} {text : List Char} (h : Lexeme k text) : k ≠ .endOfLine := by
  rintro rfl
  cases h with
  | number hs hd ht => cases ht
  | fixed h => cases h

/-- Whether a number may be written with a character. -/
def numeric (c : Char) : Bool := c.isDigit || c ∈ ['-', '+', '/', '.', 'e', 'E']

theorem numeric_of_isDigit {c : Char} (h : c.isDigit = true) : numeric c = true := by
  rw [numeric, h]
  rfl

theorem isBlank_of_numeric {c : Char} (h : numeric c = true) : isBlank c = false := by
  have plain : (['-', '+', '/', '.', 'e', 'E'].all fun c => !isBlank c) = true := by decide
  rcases Bool.or_eq_true_iff.mp h with hd | hc
  · exact isBlank_of_isDigit hd
  · simpa only [Bool.not_eq_true'] using List.all_eq_true.mp plain c (of_decide_eq_true hc)

theorem ne_of_numeric {c : Char} (h : numeric c = true) : c ≠ '(' := by
  rintro rfl
  cases h

theorem numeric_of_numberTail {k : Kind} {tail : List Char} (ht : NumberTail k tail) : ∀ c ∈ tail, numeric c = true := by
  have spelled : ∀ {digits : List Char}, Digits digits → ∀ c ∈ digits, numeric c = true :=
    fun hd c hc => numeric_of_isDigit (hd.2 c hc)
  cases ht with
  | integer => simp
  | rational hd => exact List.forall_mem_cons.mpr ⟨rfl, spelled hd⟩
  | float hd he =>
    refine List.forall_mem_cons.mpr ⟨rfl, List.forall_mem_append.mpr ⟨spelled hd, ?_⟩⟩
    cases he with
    | missing => simp
    | power hm hs hd =>
      refine List.forall_mem_cons.mpr ⟨?_, List.forall_mem_append.mpr ⟨?_, spelled hd⟩⟩
      · rcases hm with rfl | rfl <;> rfl
      · rcases hs with rfl | rfl | rfl <;> simp [numeric]

theorem numeric_of_number {k : Kind} {sign digits tail : List Char} (hs : sign = [] ∨ sign = ['-']) (hd : Digits digits)
    (ht : NumberTail k tail) : ∀ c ∈ sign ++ (digits ++ tail), numeric c = true := by
  refine List.forall_mem_append.mpr ⟨?_, List.forall_mem_append.mpr ⟨?_, numeric_of_numberTail ht⟩⟩
  · rcases hs with rfl | rfl <;> simp [numeric]
  · exact fun c hc => numeric_of_isDigit (hd.2 c hc)

theorem exists_cons_of_lexeme {k : Kind} {text : List Char} (h : Lexeme k text) : ∃ c cs, text = c :: cs := by
  apply List.exists_cons_of_ne_nil
  rintro rfl
  generalize htext : ([] : List Char) = text at h
  cases h with
  | number hs hd ht =>
    simp only [List.nil_eq, List.append_eq_nil_iff] at htext
    exact hd.1 htext.2.1
  | name => cases htext
  | fixed h =>
    rw [← htext] at h
    rcases text?_cases h with ⟨c, hc, -⟩ | ⟨word, hw, -⟩
    · cases hc
    · simp at hw

theorem isBlank_of_lexeme {k : Kind} {text : List Char} (h : Lexeme k text) : ∀ c ∈ text, isBlank c = false := by
  cases h with
  | number hs hd ht => exact fun c hc => isBlank_of_numeric (numeric_of_number hs hd ht c hc)
  | name hc hcs =>
    exact List.forall_mem_cons.mpr ⟨isBlank_of_startsName hc, fun c h => isBlank_of_continuesName (hcs c h)⟩
  | fixed h =>
    rcases text?_cases h with ⟨c, rfl, hc⟩ | ⟨word, rfl, hword⟩
    · exact List.forall_mem_singleton.mpr (plain_of_ofChar? hc).2.2.2
    · obtain ⟨c, cs, rfl, hc, hcs⟩ := spelled_of_reserved? hword
      have brackets : (['(', ')'].all fun c => !isBlank c) = true := by decide
      refine List.forall_mem_append.mpr ⟨List.forall_mem_cons.mpr ⟨isBlank_of_startsName hc, fun c h => ?_⟩, fun c h => ?_⟩
      · exact isBlank_of_continuesName (hcs c h)
      · simpa only [Bool.not_eq_true'] using List.all_eq_true.mp brackets c h

/-- A lexeme that starts with a character that can be a token is that token, unless it is a number with a sign. -/
theorem eq_of_lexeme_of_ofChar? {k k' : Kind} {c : Char} {cs : List Char} (h : Lexeme k (c :: cs))
    (hc : Kind.ofChar? c = some k') (minus : c ≠ '-') : k = k' ∧ cs = [] := by
  obtain ⟨hdigit, hname, -, -⟩ := plain_of_ofChar? hc
  generalize htext : c :: cs = text at h
  cases h with
  | number hs hd ht =>
    obtain ⟨d, ds, rfl⟩ := List.exists_cons_of_ne_nil hd.1
    rcases hs with rfl | rfl
    · cases htext
      rw [hd.2 c (List.mem_cons_self ..)] at hdigit
      cases hdigit
    · cases htext
      exact absurd rfl minus
  | name hc' =>
    cases htext
    rw [hname] at hc'
    cases hc'
  | fixed h =>
    rcases text?_cases h with ⟨d, rfl, hd⟩ | ⟨word, rfl, hword⟩
    · cases htext
      rw [hc] at hd
      exact ⟨(Option.some.inj hd).symm, rfl⟩
    · obtain ⟨d, ds, rfl, hd, -⟩ := spelled_of_reserved? hword
      rw [← (List.cons.inj htext).1, hname] at hd
      cases hd

/-! ### A lexeme is read back -/

/-- Whether a character goes on with no lexeme that it follows. -/
def stops (c : Char) : Bool := !continuesName c && c != '/' && c != '.'

theorem continuesName_of_stops {c : Char} (h : stops c = true) : continuesName c = false := by
  simp only [stops, Bool.and_eq_true, Bool.not_eq_true'] at h
  exact h.1.1

theorem isDigit_of_stops {c : Char} (h : stops c = true) : c.isDigit = false := by
  rw [← Bool.not_eq_true]
  intro hd
  have := continuesName_of_isDigit hd
  rw [continuesName_of_stops h] at this
  cases this

theorem digits?_append {digits rest : List Char} (hd : Digits digits) (stop : ∀ c ∈ rest.head?, c.isDigit = false) :
    digits? (digits ++ rest) = some (digits, rest) := by
  obtain ⟨hne, hall⟩ := hd
  unfold digits?
  rw [takeWhile_append_exact hall stop, dropWhile_append_exact hall stop]
  cases digits with
  | nil => exact absurd rfl hne
  | cons => rfl

theorem writtenSign_append {sign digits rest : List Char} (hs : sign = [] ∨ sign = ['+'] ∨ sign = ['-'])
    (hd : Digits digits) : writtenSign (sign ++ (digits ++ rest)) = (sign, digits ++ rest) := by
  obtain ⟨hne, hall⟩ := hd
  rcases hs with rfl | rfl | rfl
  · cases digits with
    | nil => exact absurd rfl hne
    | cons d digits =>
      have digit := hall d (List.mem_cons_self ..)
      rw [List.nil_append, List.cons_append]
      unfold writtenSign
      split
      · rename_i he
        rw [(List.cons.inj he).1] at digit
        cases digit
      · rename_i he
        rw [(List.cons.inj he).1] at digit
        cases digit
      · rfl
  · rfl
  · rfl

theorem exponent_append {exp rest : List Char} (he : Exponent exp) (stop : ∀ c ∈ rest.head?, stops c = true) :
    exponent (exp ++ rest) = (exp, rest) := by
  cases he with
  | missing =>
    rw [List.nil_append]
    cases rest with
    | nil => rfl
    | cons c rest =>
      have hc := continuesName_of_stops (stop c rfl)
      rw [exponent, if_neg]
      rintro (mark | mark)
      · exact ne_of_has (show continuesName 'e' = true by decide) hc mark.symm
      · exact ne_of_has (show continuesName 'E' = true by decide) hc mark.symm
  | power hm hs hd =>
    rw [List.cons_append, List.append_assoc, exponent, if_pos hm, writtenSign_append hs hd]
    dsimp only
    rw [digits?_append hd fun c hc => isDigit_of_stops (stop c hc)]
    rfl

theorem numberTail_append {k : Kind} {tail rest : List Char} (ht : NumberTail k tail)
    (stop : ∀ c ∈ rest.head?, stops c = true) : numberTail (tail ++ rest) = (k, tail, rest) := by
  have digit : ∀ c ∈ rest.head?, c.isDigit = false := fun c hc => isDigit_of_stops (stop c hc)
  cases ht with
  | integer =>
    rw [List.nil_append]
    unfold numberTail
    split
    · exact absurd (stop '/' rfl) (by simp [stops])
    · exact absurd (stop '.' rfl) (by simp [stops])
    · rfl
  | rational hd =>
    rw [List.cons_append, numberTail, digits?_append hd digit]
  | @float digits exp hd he =>
    have head : ∀ c ∈ (exp ++ rest).head?, c.isDigit = false := by
      cases he with
      | missing => exact digit
      | power hm =>
        rintro c ⟨⟩
        rcases hm with rfl | rfl <;> rfl
    rw [List.cons_append, List.append_assoc, numberTail, digits?_append hd head]
    dsimp only
    rw [exponent_append he stop]
    rfl

theorem NumberTail.head {k : Kind} {tail : List Char} (ht : NumberTail k tail) {rest : List Char}
    (stop : ∀ c ∈ rest.head?, stops c = true) : ∀ c ∈ (tail ++ rest).head?, c.isDigit = false := by
  cases ht with
  | integer => exact fun c hc => isDigit_of_stops (stop c hc)
  | rational hd => rintro c ⟨⟩; rfl
  | float hd he => rintro c ⟨⟩; rfl

theorem number_append {k : Kind} {sign digits tail rest : List Char} (hd : Digits digits) (ht : NumberTail k tail)
    (stop : ∀ c ∈ rest.head?, stops c = true) :
    number sign (digits ++ tail ++ rest) = (⟨k, String.ofList (sign ++ (digits ++ tail))⟩, rest) := by
  have head := NumberTail.head ht stop
  rw [List.append_assoc]
  simp only [number, takeWhile_append_exact hd.2 head, dropWhile_append_exact hd.2 head, numberTail_append ht stop,
    List.append_assoc]

theorem word_append_of_name {c : Char} {cs rest : List Char} (hcs : ∀ x ∈ cs, continuesName x = true)
    (hhelp : c :: cs ≠ ['h', 'e', 'l', 'p']) (habout : c :: cs ≠ ['a', 'b', 'o', 'u', 't'])
    (stop : ∀ c ∈ rest.head?, stops c = true) :
    word c (cs ++ rest) = .ok (⟨.identifier, String.ofList (c :: cs)⟩, rest) := by
  have stop : ∀ c ∈ rest.head?, continuesName c = false := fun c hc => continuesName_of_stops (stop c hc)
  have free : Kind.reserved? (c :: cs) = none := by rw [Kind.reserved?, if_neg hhelp, if_neg habout]
  simp only [word, takeWhile_append_exact hcs stop, dropWhile_append_exact hcs stop, free]

theorem word_append_of_reserved {c : Char} {cs rest : List Char} {k : Kind} (hcs : ∀ x ∈ cs, continuesName x = true)
    (h : Kind.reserved? (c :: cs) = some k) :
    word c (cs ++ '(' :: ')' :: rest) = .ok (⟨k, String.ofList (c :: cs ++ ['(', ')'])⟩, rest) := by
  have stop : ∀ c ∈ ('(' :: ')' :: rest).head?, continuesName c = false := by
    rintro c ⟨⟩
    decide
  simp only [word, takeWhile_append_exact hcs stop, dropWhile_append_exact hcs stop, h]

theorem first_of_startsName {looked : Bool} {c : Char} {cs : List Char} (hc : startsName c = true) :
    first looked c cs = word c cs := by
  have digit : ¬c.isDigit = true := fun hd => by
    rw [startsName_of_isDigit hd] at hc
    cases hc
  have minus : ¬(looked && c == '-' && startsDigit cs) = true := by
    rw [Bool.and_eq_true, Bool.and_eq_true, beq_iff_eq]
    rintro ⟨⟨-, minus⟩, -⟩
    exact ne_of_has hc (show startsName '-' = false by decide) minus
  rw [first, if_neg digit, if_neg minus, if_pos hc]

/-- A lexeme that is followed by nothing that goes on with it is read as its token. An opening bracket and a caret may
    be followed by anything, and a minus sign is read where one is looked for. -/
theorem first_append {looked : Bool} {k : Kind} {c : Char} {cs rest : List Char} (h : Lexeme k (c :: cs))
    (stop : k = .bracketOpen ∨ k = .caret ∨ ∀ c ∈ rest.head?, stops c = true)
    (hsign : signed ⟨k, String.ofList (c :: cs)⟩ = true → looked = true) :
    first looked c (cs ++ rest) = .ok (⟨k, String.ofList (c :: cs)⟩, rest) := by
  generalize htext : c :: cs = text at h hsign
  cases h with
  | @number _ sign digits tail hs hd ht =>
    have stop : ∀ c ∈ rest.head?, stops c = true := by
      rcases stop with rfl | rfl | stop
      · cases ht
      · cases ht
      · exact stop
    have whole := @number_append _ sign _ _ _ hd ht stop
    obtain ⟨d, ds, rfl⟩ := List.exists_cons_of_ne_nil hd.1
    have digit := hd.2 d (List.mem_cons_self ..)
    rcases hs with rfl | rfl
    · cases htext
      rw [first, if_pos digit]
      exact congrArg Except.ok whole
    · cases htext
      have hl : looked = true := hsign (by cases ht <;> simp [signed])
      rw [first, if_neg (by decide), if_pos]
      · exact congrArg Except.ok whole
      · simpa [hl, startsDigit] using digit
  | name hc hcs hhelp habout =>
    cases htext
    have stop : ∀ c ∈ rest.head?, stops c = true := by simpa using stop
    rw [first_of_startsName hc]
    exact word_append_of_name hcs hhelp habout stop
  | fixed h =>
    rcases text?_cases h with ⟨c, rfl, hc⟩ | ⟨word, rfl, hword⟩
    · cases htext
      obtain ⟨hdigit, hname, -, -⟩ := plain_of_ofChar? hc
      have unsigned : ¬(looked && c == '-' && startsDigit ([] ++ rest)) = true := by
        rw [Bool.and_eq_true, Bool.and_eq_true, beq_iff_eq]
        rintro ⟨⟨-, rfl⟩, hd⟩
        cases hc
        cases rest with
        | nil => cases hd
        | cons d rest =>
          have stop : stops d = true := by simpa using stop
          rw [show startsDigit ([] ++ d :: rest) = d.isDigit from rfl, isDigit_of_stops stop] at hd
          cases hd
      rw [first, if_neg (by simp [hdigit]), if_neg unsigned, if_neg (by simp [hname]), hc]
      rfl
    · obtain ⟨d, ds, rfl, hd, hds⟩ := spelled_of_reserved? hword
      obtain ⟨rfl, rfl⟩ : c = d ∧ cs = ds ++ ['(', ')'] := List.cons.inj htext
      rw [first_of_startsName hd, List.append_assoc]
      exact word_append_of_reserved hds hword

end Token

end Calculator
