import Calculator.Proofs.Token.Scanned
import Calculator.Token.Line

/-! Tokens written as a line are read back from it. The line keeps the lexemes in order; between two of them it has
    blanks, or nothing where one is a bracket or a caret that ends the other. Each of the three steps that take blanks
    out of a line keeps this. -/

namespace Calculator.Token

/-- Whether two neighbours may stand without a blank between them. -/
def Tight (left right : Kind) : Prop :=
  left = .bracketOpen ∨ left = .caret ∨ right = .bracketClose ∨ right = .caret

/-- A text that spells tokens: their lexemes, with blanks between neighbours. -/
inductive Spelled : List Token → List Char → Prop where
  | single (t : Token) : Spelled [t] t.lexeme.toList
  | cons {t u : Token} {ts : List Token} {gap cs : List Char} (blank : ∀ c ∈ gap, isBlank c = true)
      (tight : gap = [] → Tight t.kind u.kind) (rest : Spelled (u :: ts) cs) :
      Spelled (t :: u :: ts) (t.lexeme.toList ++ (gap ++ cs))

theorem Spelled.tight {t u : Token} {ts : List Token} {cs : List Char} (rest : Spelled (u :: ts) cs)
    (tight : Tight t.kind u.kind) : Spelled (t :: u :: ts) (t.lexeme.toList ++ cs) :=
  @Spelled.cons t u ts [] cs (by simp) (fun _ => tight) rest

/-! ### The ends of a spelled text -/

theorem Formed.exists_cons {t : Token} (h : t.Formed) : ∃ c cs, t.lexeme.toList = c :: cs ∧ isBlank c = false := by
  obtain ⟨c, cs, hcs⟩ := exists_cons_of_lexeme h
  exact ⟨c, cs, hcs, isBlank_of_lexeme h c (hcs ▸ List.mem_cons_self ..)⟩

/-- A spelled text starts with the first lexeme. -/
theorem Spelled.exists_append {t : Token} {ts : List Token} {cs : List Char} (h : Spelled (t :: ts) cs) :
    ∃ rest, cs = t.lexeme.toList ++ rest := by
  cases h with
  | single => exact ⟨[], (List.append_nil _).symm⟩
  | cons => exact ⟨_, rfl⟩

theorem Spelled.exists_cons {t : Token} {ts : List Token} {cs : List Char} (h : Spelled (t :: ts) cs)
    (ht : t.Formed) : ∃ c rest, cs = c :: rest ∧ isBlank c = false := by
  obtain ⟨rest, rfl⟩ := h.exists_append
  obtain ⟨c, l, hl, hc⟩ := ht.exists_cons
  exact ⟨c, l ++ rest, by rw [hl]; rfl, hc⟩

theorem Spelled.dropWhile_eq {t : Token} {ts : List Token} {cs : List Char} (h : Spelled (t :: ts) cs)
    (ht : t.Formed) : cs.dropWhile isBlank = cs := by
  obtain ⟨c, rest, rfl, hc⟩ := h.exists_cons ht
  exact List.dropWhile_cons_of_neg (by simp [hc])

theorem Spelled.dropWhile_append {t : Token} {ts : List Token} {gap cs : List Char} (h : Spelled (t :: ts) cs)
    (ht : t.Formed) (blank : ∀ c ∈ gap, isBlank c = true) : (gap ++ cs).dropWhile isBlank = cs := by
  rw [List.dropWhile_append_of_pos blank, h.dropWhile_eq ht]

/-- A token whose lexeme starts with a character that can be a token is that token. -/
theorem Spelled.eq_of_ofChar? {t : Token} {ts : List Token} {c : Char} {cs : List Char} {k : Kind}
    (h : Spelled (t :: ts) (c :: cs)) (ht : t.Formed) (hc : Kind.ofChar? c = some k) (minus : c ≠ '-') :
    t.kind = k ∧ t.lexeme.toList = [c] := by
  obtain ⟨rest, hrest⟩ := h.exists_append
  obtain ⟨d, l, hl, -⟩ := ht.exists_cons
  rw [hl] at hrest
  obtain ⟨rfl, -⟩ := List.cons.inj hrest
  have hf : Lexeme t.kind (c :: l) := hl ▸ ht
  obtain ⟨hk, rfl⟩ := eq_of_lexeme_of_ofChar? hf hc minus
  exact ⟨hk, hl⟩

/-! ### Blanks behind an opening bracket -/

theorem tightenOpen_append {l rest : List Char} (h : ∀ c ∈ l, c ≠ '(') :
    tightenOpen (l ++ rest) = l ++ tightenOpen rest := by
  induction l with
  | nil => rfl
  | cons c l ih =>
    rw [List.cons_append, tightenOpen, if_neg (h c (List.mem_cons_self ..)), List.cons_append,
      ih fun x hx => h x (List.mem_cons_of_mem _ hx)]

theorem tightenOpen_lexeme {k : Kind} {text rest : List Char} (h : Lexeme k text) (hk : k ≠ .bracketOpen) :
    tightenOpen (text ++ rest) = text ++ tightenOpen rest := by
  cases h with
  | number hs hd ht => exact tightenOpen_append fun c hc => ne_of_numeric (numeric_of_number hs hd ht c hc)
  | name hc hcs =>
    refine tightenOpen_append (List.forall_mem_cons.mpr ⟨?_, fun c hc' => ?_⟩)
    · exact ne_of_has hc (by decide)
    · exact ne_of_has (hcs c hc') (by decide)
  | fixed h =>
    rcases text?_cases h with ⟨c, rfl, hc⟩ | ⟨word, rfl, hword⟩
    · refine tightenOpen_append (List.forall_mem_singleton.mpr ?_)
      rintro rfl
      cases hc
      exact hk rfl
    · have plain : ∀ c ∈ word, c ≠ '(' := by
        rcases eq_of_reserved? hword with ⟨rfl, -⟩ | ⟨rfl, -⟩
        · simp
        · simp
      have brackets : tightenOpen ('(' :: ')' :: rest) = '(' :: ')' :: tightenOpen rest := by
        rw [tightenOpen, if_pos rfl, List.dropWhile_cons_of_neg (by decide), tightenOpen, if_neg (by decide)]
      rw [List.append_assoc, tightenOpen_append plain, List.append_assoc]
      exact congrArg (word ++ ·) brackets

theorem spelled_tightenOpen {ts : List Token} {cs : List Char} (formed : ∀ t ∈ ts, t.Formed) (h : Spelled ts cs) :
    Spelled ts (tightenOpen cs) := by
  induction h with
  | single t =>
    have ht := formed t (List.mem_cons_self ..)
    by_cases hk : t.kind = .bracketOpen
    · have text : t.lexeme.toList = ['('] := eq_of_text? ht (by rw [hk]; rfl)
      have same : tightenOpen t.lexeme.toList = t.lexeme.toList := by
        rw [text, tightenOpen, if_pos rfl, List.dropWhile_nil, tightenOpen]
      rw [same]
      exact .single t
    · have same := @tightenOpen_lexeme _ _ [] ht hk
      rw [tightenOpen, List.append_nil] at same
      rw [same]
      exact .single t
  | @cons t u ts gap cs blank tight rest ih =>
    have ht := formed t (List.mem_cons_self ..)
    have hu := formed u (List.mem_cons_of_mem _ (List.mem_cons_self ..))
    have ih := ih fun x hx => formed x (List.mem_cons_of_mem _ hx)
    by_cases hk : t.kind = .bracketOpen
    · have text : t.lexeme.toList = ['('] := eq_of_text? ht (by rw [hk]; rfl)
      have drop : tightenOpen (t.lexeme.toList ++ (gap ++ cs)) = t.lexeme.toList ++ tightenOpen cs := by
        rw [text, List.cons_append, tightenOpen, if_pos rfl, List.nil_append, rest.dropWhile_append hu blank]
        rfl
      rw [drop]
      exact ih.tight (Or.inl hk)
    · rw [tightenOpen_lexeme ht hk, tightenOpen_append fun c hc => ne_of_has (blank c hc) (by decide)]
      exact .cons blank tight ih

/-! ### Blanks before a closing bracket -/

theorem tightenClose_append {l rest : List Char} (h : ∀ c ∈ l, isBlank c = false) :
    tightenClose (l ++ rest) = l ++ tightenClose rest := by
  induction l with
  | nil => rfl
  | cons c l ih =>
    rw [List.cons_append, tightenClose, h c (List.mem_cons_self ..), List.cons_append,
      ih fun x hx => h x (List.mem_cons_of_mem _ hx)]
    rfl

theorem tightenClose_gap {gap rest : List Char} (blank : ∀ c ∈ gap, isBlank c = true) :
    tightenClose (gap ++ rest) = if closesNext rest then tightenClose rest else gap ++ tightenClose rest := by
  induction gap with
  | nil => simp
  | cons b gap ih =>
    have blank' : ∀ c ∈ gap, isBlank c = true := fun c hc => blank c (List.mem_cons_of_mem _ hc)
    have next : closesNext (gap ++ rest) = closesNext rest := by
      rw [closesNext, closesNext, List.dropWhile_append_of_pos blank']
    rw [List.cons_append, tightenClose, next, blank b (List.mem_cons_self ..), ih blank', Bool.true_and]
    split
    · rfl
    · rfl

theorem spelled_tightenClose {ts : List Token} {cs : List Char} (formed : ∀ t ∈ ts, t.Formed) (h : Spelled ts cs) :
    Spelled ts (tightenClose cs) := by
  induction h with
  | single t =>
    have same := @tightenClose_append _ [] (isBlank_of_lexeme (formed t (List.mem_cons_self ..)))
    rw [List.append_nil, tightenClose, List.append_nil] at same
    rw [same]
    exact .single t
  | @cons t u ts gap cs blank tight rest ih =>
    have ht := formed t (List.mem_cons_self ..)
    have hu := formed u (List.mem_cons_of_mem _ (List.mem_cons_self ..))
    have ih := ih fun x hx => formed x (List.mem_cons_of_mem _ hx)
    rw [tightenClose_append (isBlank_of_lexeme ht), tightenClose_gap blank]
    split
    · rename_i next
      rw [closesNext, rest.dropWhile_eq hu, beq_iff_eq] at next
      obtain ⟨tail, rfl⟩ := List.head?_eq_some_iff.mp next
      have hk := (rest.eq_of_ofChar? hu rfl (by decide)).1
      exact ih.tight (Or.inr (Or.inr (Or.inl hk)))
    · exact .cons blank tight ih

/-! ### Blanks around a caret -/

theorem tightenCaret_append {l rest : List Char} (h : ∀ c ∈ l, isBlank c = false) :
    tightenCaret (l ++ rest) = l ++ tightenCaret rest := by
  induction l with
  | nil => rfl
  | cons c l ih =>
    rw [List.cons_append, tightenCaret, if_neg (by simp [h c (List.mem_cons_self ..)]), List.cons_append,
      ih fun x hx => h x (List.mem_cons_of_mem _ hx)]

theorem tightenCaret_of_some {b : Char} {cs rest : List Char} (hb : isBlank b = true) (h : afterCaret? cs = some rest) :
    tightenCaret (b :: cs) = '^' :: tightenCaret rest := by
  rw [tightenCaret, if_pos hb]
  split
  · rename_i he
    rw [h] at he
    cases he
    rfl
  · rename_i he
    rw [h] at he
    cases he

theorem tightenCaret_of_none {b : Char} {cs : List Char} (hb : isBlank b = true) (h : afterCaret? cs = none) :
    tightenCaret (b :: cs) = b :: tightenCaret cs := by
  rw [tightenCaret, if_pos hb]
  split
  · rename_i he
    rw [h] at he
    cases he
  · rfl

theorem afterCaret?_append {gap cs : List Char} (blank : ∀ c ∈ gap, isBlank c = true) :
    afterCaret? (gap ++ cs) = afterCaret? cs := by
  rw [afterCaret?, afterCaret?, List.dropWhile_append_of_pos blank]

theorem tightenCaret_gap_of_none {gap cs : List Char} (blank : ∀ c ∈ gap, isBlank c = true)
    (h : afterCaret? cs = none) : tightenCaret (gap ++ cs) = gap ++ tightenCaret cs := by
  induction gap with
  | nil => rfl
  | cons b gap ih =>
    have blank' : ∀ c ∈ gap, isBlank c = true := fun c hc => blank c (List.mem_cons_of_mem _ hc)
    rw [List.cons_append, tightenCaret_of_none (blank b (List.mem_cons_self ..)) (by rw [afterCaret?_append blank', h]),
      ih blank', List.cons_append]

/-- Where blanks around a caret are taken out, the caret is a token of its own and another token follows it. -/
theorem Spelled.of_afterCaret? {t : Token} {ts : List Token} {cs rest : List Char} (h : Spelled (t :: ts) cs)
    (formed : ∀ u ∈ t :: ts, u.Formed) (caret : afterCaret? cs = some rest) :
    t.kind = .caret ∧ t.lexeme.toList = ['^'] ∧ ∃ u us, ts = u :: us ∧ Spelled ts rest := by
  have ht := formed t (List.mem_cons_self ..)
  rw [afterCaret?, h.dropWhile_eq ht] at caret
  split at caret
  · rename_i b tail
    obtain ⟨hk, text⟩ := h.eq_of_ofChar? ht rfl (by decide)
    refine ⟨hk, text, ?_⟩
    split at caret
    · rename_i hb
      cases caret
      generalize hcs : '^' :: b :: tail = cs at h
      cases h with
      | single =>
        rw [text] at hcs
        cases hcs
      | @cons _ u us gap cs blank tight next =>
        have hu := formed u (List.mem_cons_of_mem _ (List.mem_cons_self ..))
        rw [text] at hcs
        have hcs : b :: tail = gap ++ cs := (List.cons.inj hcs).2
        refine ⟨u, us, rfl, ?_⟩
        have drop := next.dropWhile_append hu blank
        rw [← hcs, List.dropWhile_cons_of_pos hb] at drop
        rw [drop]
        exact next
    · cases caret
  · cases caret

theorem spelled_tightenCaret {ts : List Token} {cs : List Char} (formed : ∀ t ∈ ts, t.Formed) (h : Spelled ts cs) :
    Spelled ts (tightenCaret cs) := by
  -- Taking out the blanks around a caret passes over two tokens at once.
  induction hn : ts.length using Nat.strong_induction_on generalizing ts cs with
  | _ n ih =>
  subst hn
  cases h with
  | single t =>
    have same := @tightenCaret_append _ [] (isBlank_of_lexeme (formed t (List.mem_cons_self ..)))
    rw [List.append_nil, tightenCaret, List.append_nil] at same
    rw [same]
    exact .single t
  | @cons t u ts gap cs blank tight rest =>
    have ht := formed t (List.mem_cons_self ..)
    have formed' : ∀ x ∈ u :: ts, x.Formed := fun x hx => formed x (List.mem_cons_of_mem _ hx)
    rw [tightenCaret_append (isBlank_of_lexeme ht)]
    have next := ih _ (Nat.lt_succ_self _) formed' rest rfl
    cases gap with
    | nil => exact next.tight (tight rfl)
    | cons b gap =>
      have hb := blank b (List.mem_cons_self ..)
      have blank' : ∀ c ∈ gap, isBlank c = true := fun c hc => blank c (List.mem_cons_of_mem _ hc)
      cases caret : afterCaret? cs with
      | none =>
        rw [tightenCaret_gap_of_none blank caret]
        exact .cons blank tight next
      | some behind =>
        obtain ⟨hk, text, v, vs, rfl, hv⟩ := rest.of_afterCaret? formed' caret
        rw [List.cons_append, tightenCaret_of_some hb (by rw [afterCaret?_append blank', caret])]
        have beyond := ih _ (by simp) (fun x hx => formed' x (List.mem_cons_of_mem _ hx)) hv rfl
        have both : Spelled (u :: v :: vs) (u.lexeme.toList ++ tightenCaret behind) := beyond.tight (Or.inr (Or.inl hk))
        rw [text] at both
        exact both.tight (Or.inr (Or.inr (Or.inr hk)))

/-! ### A spelled text is scanned -/

theorem stops_of_isBlank {c : Char} (h : isBlank c = true) : stops c = true := by
  have hs : c ≠ '/' := ne_of_has h (by decide)
  have hp : c ≠ '.' := ne_of_has h (by decide)
  simp [stops, continuesName_of_isBlank h, hs, hp]

theorem scanFrom_lexeme {after : Bool} {t : Token} {rest : List Char} (ht : t.Formed)
    (sign : t.signed = true → after = false)
    (stop : t.kind = .bracketOpen ∨ t.kind = .caret ∨ ∀ c ∈ rest.head?, stops c = true) :
    scanFrom after (t.lexeme.toList ++ rest) = (scanFrom t.kind.endsOperand rest).map (t :: ·) := by
  obtain ⟨c, l, hl, hc⟩ := ht.exists_cons
  have whole : (⟨t.kind, String.ofList (c :: l)⟩ : Token) = t := by rw [← hl, String.ofList_toList]
  have hf : Lexeme t.kind (c :: l) := hl ▸ ht
  have read := @first_append (!after) _ _ _ rest hf stop (by rw [whole]; simpa using sign)
  rw [whole] at read
  rw [hl, List.cons_append]
  exact scanFrom_of_first hc read

/-- What stands behind a lexeme in a spelled text does not go on with it. -/
theorem Spelled.stops_head {t u : Token} {ts : List Token} {gap cs : List Char} (h : Spelled (u :: ts) cs)
    (hu : u.Formed) (blank : ∀ c ∈ gap, isBlank c = true) (tight : gap = [] → Tight t.kind u.kind) :
    t.kind = .bracketOpen ∨ t.kind = .caret ∨ ∀ c ∈ (gap ++ cs).head?, stops c = true := by
  cases gap with
  | cons b gap =>
    refine Or.inr (Or.inr ?_)
    rintro c ⟨⟩
    exact stops_of_isBlank (blank b (List.mem_cons_self ..))
  | nil =>
    obtain ⟨rest, rfl⟩ := h.exists_append
    rcases tight rfl with hk | hk | hk | hk
    · exact Or.inl hk
    · exact Or.inr (Or.inl hk)
    · have text : u.lexeme.toList = [')'] := eq_of_text? hu (by rw [hk]; rfl)
      rw [text]
      refine Or.inr (Or.inr ?_)
      rintro c ⟨⟩
      decide
    · have text : u.lexeme.toList = ['^'] := eq_of_text? hu (by rw [hk]; rfl)
      rw [text]
      refine Or.inr (Or.inr ?_)
      rintro c ⟨⟩
      decide

theorem scanFrom_of_spelled {after : Bool} {ts : List Token} {cs : List Char} (fit : Fitting after ts)
    (h : Spelled ts cs) : scanFrom after cs = .ok ts := by
  -- Between two tokens the scan knows only whether the left one ends an operand, and so does `Fitting`.
  induction h generalizing after with
  | single t =>
    obtain ⟨ht, sign, -⟩ := fit
    have read := @scanFrom_lexeme after t [] ht sign (by simp)
    rw [List.append_nil] at read
    rw [read, scanFrom_nil]
    rfl
  | @cons t u ts gap cs blank tight rest ih =>
    obtain ⟨ht, sign, fit⟩ := fit
    rw [scanFrom_lexeme ht sign (rest.stops_head fit.1 blank tight), scanFrom_append_of_isBlank blank, ih fit]
    rfl

/-! ### The line of tokens is a spelled text -/

theorem isBlank_space : isBlank ' ' = true := by decide

theorem spelled_spaced (t : Token) (ts : List Token) : Spelled (t :: ts) (spaced (t :: ts)) := by
  induction ts generalizing t with
  | nil =>
    have same : spaced [t] = t.lexeme.toList := by simp [spaced]
    rw [same]
    exact .single t
  | cons u ts ih =>
    have split : spaced (t :: u :: ts) = t.lexeme.toList ++ ([' '] ++ spaced (u :: ts)) := by
      simp [spaced, List.intercalate]
    rw [split]
    exact .cons (List.forall_mem_singleton.mpr isBlank_space) (by simp) (ih u)

theorem spaced_append_closing (t : Token) (ts : List Token) :
    spaced (t :: ts ++ [closing]) = spaced (t :: ts) ++ [' '] := by
  induction ts generalizing t with
  | nil => simp [spaced, closing, List.intercalate]
  | cons u ts ih =>
    have h := ih u
    simp only [spaced, List.intercalate, List.cons_append, List.map_cons, List.intersperse_cons_cons,
      List.flatten_cons] at h ⊢
    rw [h]
    simp

theorem Spelled.exists_last {ts : List Token} {cs : List Char} (formed : ∀ t ∈ ts, t.Formed) (h : Spelled ts cs) :
    ∃ front c, cs = front ++ [c] ∧ isBlank c = false := by
  induction h with
  | single t =>
    have ht := formed t (List.mem_cons_self ..)
    obtain ⟨c, l, hl, -⟩ := ht.exists_cons
    refine ⟨t.lexeme.toList.dropLast, t.lexeme.toList.getLast (by simp [hl]), ?_, ?_⟩
    · rw [List.dropLast_concat_getLast]
    · exact isBlank_of_lexeme ht _ (List.getLast_mem _)
  | @cons t u ts gap cs blank tight rest ih =>
    obtain ⟨front, c, rfl, hc⟩ := ih fun x hx => formed x (List.mem_cons_of_mem _ hx)
    exact ⟨t.lexeme.toList ++ (gap ++ front), c, by simp, hc⟩

theorem dropBlankEnd_append {front : List Char} {c : Char} (hc : isBlank c = false) :
    dropBlankEnd (front ++ [c] ++ [' ']) = front ++ [c] := by
  simp [dropBlankEnd, isBlank_space, hc]

theorem dropBlankEnd_spaced_closing {t : Token} {ts : List Token} (formed : ∀ u ∈ t :: ts, u.Formed) :
    dropBlankEnd (spaced (t :: ts ++ [closing])) = spaced (t :: ts) := by
  obtain ⟨front, c, hcs, hc⟩ := (spelled_spaced t ts).exists_last formed
  rw [spaced_append_closing, hcs, dropBlankEnd_append hc]

theorem spelled_line {t : Token} {ts : List Token} (formed : ∀ u ∈ t :: ts, u.Formed) :
    Spelled (t :: ts) (line (t :: ts ++ [closing])).toList := by
  rw [line, String.toList_ofList, dropBlankEnd_spaced_closing formed]
  exact spelled_tightenCaret formed (spelled_tightenClose formed (spelled_tightenOpen formed (spelled_spaced t ts)))

/-- Exactly the well-formed lists of tokens are read back from the line that they are written as. -/
theorem scan_line_iff (ts : List Token) : scan (line ts) = .ok ts ↔ WellFormed ts := by
  refine ⟨wellFormed_of_scan, ?_⟩
  rintro ⟨body, fit, rfl⟩
  cases body with
  | nil => simp [close, scan, line, spaced, dropBlankEnd, tightenOpen, tightenClose, tightenCaret]
  | cons t body =>
    have spelled := spelled_line fit.formed
    have read := scanFrom_of_spelled fit spelled
    change scan (line (t :: body ++ [closing])) = .ok (t :: body ++ [closing])
    rw [scan, read]
    rfl

end Calculator.Token
