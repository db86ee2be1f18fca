import Calculator.Proofs.Token.Lossless

/-! Where a scan stops. A token is read in the same way from a text that is cut off somewhere behind it
    (`first_of_append`), so that the text before the place where a scan stops is a line with tokens. -/

namespace Calculator

namespace Token

/-! ### Texts that are cut off -/

theorem stop_of_append {p : Char → Bool} {front back : List Char} (h : ∀ c ∈ (front ++ back).head?, p c = false) :
    ∀ c ∈ front.head?, p c = false := by
  cases front with
  | nil => simp
  | cons d front => exact h

theorem stop_dropWhile (p : Char → Bool) (cs : List Char) : ∀ c ∈ (cs.dropWhile p).head?, p c = false := by
  intro c hc
  have stop := List.head?_dropWhile_not p cs
  rw [hc] at stop
  simpa using stop

theorem digits?_eq_none_iff {cs : List Char} : digits? cs = none ↔ ∀ c ∈ cs.head?, c.isDigit = false := by
  cases cs with
  | nil => simp [digits?]
  | cons c cs => cases hc : c.isDigit <;> simp [digits?, hc]

theorem digits?_append_eq_none {front back : List Char} (h : digits? (front ++ back) = none) : digits? front = none :=
  digits?_eq_none_iff.mpr (stop_of_append (digits?_eq_none_iff.mp h))

theorem digits?_of_append {cs digits front back : List Char} (h : digits? cs = some (digits, front ++ back)) :
    digits? (digits ++ front) = some (digits, front) := by
  refine digits?_append (of_digits? h).1 (@stop_of_append _ _ back ?_)
  unfold digits? at h
  split at h
  · cases h
  · simp only [Option.some.injEq, Prod.mk.injEq] at h
    rw [← h.2]
    exact stop_dropWhile _ _

theorem writtenSign_cons_append (c : Char) (front back : List Char) :
    (writtenSign (c :: front ++ back)).2 = (writtenSign (c :: front)).2 ++ back := by
  rw [List.cons_append]
  unfold writtenSign
  split
  · rename_i heq
    cases heq
    rfl
  · rename_i heq
    cases heq
    rfl
  · rename_i plus minus
    split
    · rename_i heq
      cases heq
      exact absurd rfl (plus _)
    · rename_i heq
      cases heq
      exact absurd rfl (minus _)
    · rfl

theorem writtenSign_append_eq_none {front back : List Char} (h : digits? (writtenSign (front ++ back)).2 = none) :
    digits? (writtenSign front).2 = none := by
  cases front with
  | nil => rfl
  | cons c front =>
    rw [writtenSign_cons_append] at h
    exact digits?_append_eq_none h

theorem exponent_of_some {mark : Char} {cs digits rest : List Char} (hm : mark = 'e' ∨ mark = 'E')
    (h : digits? (writtenSign cs).2 = some (digits, rest)) :
    exponent (mark :: cs) = (mark :: (writtenSign cs).1 ++ digits, rest) := by
  rw [exponent, if_pos hm, h]

theorem exponent_of_none {cs : List Char}
    (h : ∀ mark more, cs = mark :: more → mark = 'e' ∨ mark = 'E' → digits? (writtenSign more).2 = none) :
    exponent cs = ([], cs) := by
  cases cs with
  | nil => rfl
  | cons mark more =>
    rw [exponent]
    split
    · rename_i hm
      rw [h mark more rfl hm]
    · rfl

theorem exponent_of_append {cs front back : List Char} (h : (exponent cs).2 = front ++ back) :
    exponent ((exponent cs).1 ++ front) = ((exponent cs).1, front) := by
  by_cases none : ∀ mark more, cs = mark :: more → mark = 'e' ∨ mark = 'E' → digits? (writtenSign more).2 = none
  · rw [exponent_of_none none] at h ⊢
    refine exponent_of_none fun mark more hfront hm => ?_
    subst hfront
    exact writtenSign_append_eq_none (none mark (more ++ back) h hm)
  · simp only [not_forall] at none
    obtain ⟨mark, more, rfl, hm, some⟩ := none
    obtain ⟨⟨digits, rest⟩, hd⟩ := Option.ne_none_iff_exists'.mp some
    rw [exponent_of_some hm hd] at h ⊢
    obtain rfl : rest = front ++ back := h
    have sign := @writtenSign_append _ _ front (of_writtenSign more).1 (of_digits? hd).1
    have read : digits? (writtenSign ((writtenSign more).1 ++ (digits ++ front))).2 = Option.some (digits, front) := by
      rw [sign]
      exact digits?_of_append hd
    rw [List.cons_append, List.cons_append, List.append_assoc, exponent_of_some hm read, sign]
    rfl

theorem numberTail_slash {cs digits rest : List Char} (h : digits? cs = some (digits, rest)) :
    numberTail ('/' :: cs) = (.rational, '/' :: digits, rest) := by
  rw [numberTail, h]

theorem numberTail_point {cs digits rest : List Char} (h : digits? cs = some (digits, rest)) :
    numberTail ('.' :: cs) = (.float, '.' :: digits ++ (exponent rest).1, (exponent rest).2) := by
  rw [numberTail, h]

theorem numberTail_of_none {cs : List Char}
    (h : ∀ mark more, cs = mark :: more → mark = '/' ∨ mark = '.' → digits? more = none) :
    numberTail cs = (.integer, [], cs) := by
  unfold numberTail
  split
  · rw [h '/' _ rfl (Or.inl rfl)]
  · rw [h '.' _ rfl (Or.inr rfl)]
  · rfl

theorem numberTail_of_append {cs front back : List Char} (h : (numberTail cs).2.2 = front ++ back) :
    numberTail ((numberTail cs).2.1 ++ front) = ((numberTail cs).1, (numberTail cs).2.1, front) := by
  by_cases none : ∀ mark more, cs = mark :: more → mark = '/' ∨ mark = '.' → digits? more = none
  · rw [numberTail_of_none none] at h ⊢
    refine numberTail_of_none fun mark more hfront hm => ?_
    subst hfront
    exact digits?_append_eq_none (none mark (more ++ back) h hm)
  · simp only [not_forall] at none
    obtain ⟨mark, more, rfl, hm, some⟩ := none
    obtain ⟨⟨digits, rest⟩, hd⟩ := Option.ne_none_iff_exists'.mp some
    rcases hm with rfl | rfl
    · rw [numberTail_slash hd] at h ⊢
      obtain rfl : rest = front ++ back := h
      exact numberTail_slash (digits?_of_append hd)
    · rw [numberTail_point hd] at h ⊢
      -- The digits stop at what follows them, an exponent or what is behind it.
      have pieces : rest = ((exponent rest).1 ++ front) ++ back := by
        rw [List.append_assoc, ← show (exponent rest).2 = front ++ back from h]
        exact (of_exponent rest).2
      have read : digits? (digits ++ ((exponent rest).1 ++ front)) = Option.some (digits, (exponent rest).1 ++ front) :=
        @digits?_of_append _ _ _ back (by rw [← pieces]; exact hd)
      rw [List.cons_append, List.cons_append, List.append_assoc, numberTail_point read, exponent_of_append h]
      rfl

theorem number_of_append {sign cs front back : List Char} {t : Token} (h : number sign cs = (t, front ++ back)) :
    ∃ more, cs = more ++ back ∧ number sign more = (t, front) ∧ (startsDigit cs = true → startsDigit more = true) := by
  have behind : (numberTail (cs.dropWhile Char.isDigit)).2.2 = front ++ back := congrArg Prod.snd h
  have rest : cs.dropWhile Char.isDigit = (numberTail (cs.dropWhile Char.isDigit)).2.1 ++ front ++ back := by
    rw [List.append_assoc, ← behind]
    exact (of_numberTail _).2
  have digits : ∀ c ∈ cs.takeWhile Char.isDigit, c.isDigit = true := fun _ => List.mem_takeWhile_imp
  have stop := @stop_of_append _ _ back (rest ▸ stop_dropWhile Char.isDigit cs)
  refine ⟨cs.takeWhile Char.isDigit ++ ((numberTail (cs.dropWhile Char.isDigit)).2.1 ++ front), ?_, ?_, fun digit => ?_⟩
  · rw [List.append_assoc, ← rest, List.takeWhile_append_dropWhile]
  · rw [← show (number sign cs).1 = t from congrArg Prod.fst h]
    simp only [number, takeWhile_append_exact digits stop, dropWhile_append_exact digits stop,
      numberTail_of_append behind]
  · cases cs with
    | nil => cases digit
    | cons c cs => simp [startsDigit, show c.isDigit = true from digit]

theorem word_of_append {c : Char} {cs front back : List Char} {t : Token} (h : word c cs = .ok (t, front ++ back)) :
    ∃ more, cs = more ++ back ∧ word c more = .ok (t, front) := by
  have name : ∀ x ∈ cs.takeWhile continuesName, continuesName x = true := fun _ => List.mem_takeWhile_imp
  have whole := List.takeWhile_append_dropWhile (p := continuesName) (l := cs)
  unfold word at h
  dsimp only at h
  split at h
  · rename_i free
    simp only [Except.ok.injEq, Prod.mk.injEq] at h
    obtain ⟨rfl, rest⟩ := h
    have stop := @stop_of_append _ _ back (rest ▸ stop_dropWhile continuesName cs)
    refine ⟨cs.takeWhile continuesName ++ front, by rw [List.append_assoc, ← rest, whole], ?_⟩
    simp only [word, takeWhile_append_exact name stop, free]
    rw [dropWhile_append_exact name stop]
  · rename_i reserved brackets
    simp only [Except.ok.injEq, Prod.mk.injEq] at h
    obtain ⟨rfl, rfl⟩ := h
    refine ⟨cs.takeWhile continuesName ++ '(' :: ')' :: front, ?_, word_append_of_reserved name reserved⟩
    rw [List.append_assoc, List.cons_append, List.cons_append, ← brackets, whole]
  · cases h

theorem startsDigit_append {front : List Char} (h : startsDigit front = true) (back : List Char) :
    startsDigit (front ++ back) = true := by
  cases front with
  | nil => cases h
  | cons c front => exact h

/-- What is cut off behind a token does not change how it is read. -/
theorem first_of_append {looked : Bool} {c : Char} {cs front back : List Char} {t : Token}
    (h : first looked c cs = .ok (t, front ++ back)) : ∃ more, cs = more ++ back ∧ first looked c more = .ok (t, front) := by
  unfold first at h
  split at h
  · rename_i digit
    obtain ⟨more, pieces, read, starts⟩ := number_of_append (Except.ok.inj h)
    obtain ⟨d, more, rfl⟩ := List.exists_cons_of_ne_nil (show more ≠ [] from fun none => by
      rw [none] at starts
      cases starts digit)
    obtain ⟨rfl, rfl⟩ := List.cons.inj pieces
    refine ⟨more, rfl, ?_⟩
    rw [first, if_pos digit, read]
  · rename_i digit
    split at h
    · rename_i minus
      obtain ⟨more, rfl, read, starts⟩ := number_of_append (Except.ok.inj h)
      simp only [Bool.and_eq_true] at minus
      refine ⟨more, rfl, ?_⟩
      rw [first, if_neg digit, if_pos (by simp [minus, starts minus.2]), read]
    · rename_i unsigned
      split at h
      · rename_i name
        obtain ⟨more, rfl, read⟩ := word_of_append h
        exact ⟨more, rfl, by rw [first_of_startsName name, read]⟩
      · rename_i name
        split at h
        · rename_i kind hk
          obtain ⟨rfl, rfl⟩ := Prod.mk.inj (Except.ok.inj h)
          have unsigned' : ¬(looked && c == '-' && startsDigit front) = true := by
            simp only [Bool.and_eq_true] at unsigned ⊢
            exact fun minus => unsigned ⟨minus.1, startsDigit_append minus.2 back⟩
          exact ⟨front, rfl, by rw [first, if_neg digit, if_neg unsigned', if_neg name, hk]⟩
        · cases h

/-! ### Where a scan stops -/

/-- Where a scan stops, the text before is scanned to its end, and no token starts with what is left. -/
theorem exists_of_scanFrom_error {after : Bool} {cs : List Char} {stop : ScanStop} (h : scanFrom after cs = .error stop) :
    ∃ front c tail ts, cs = front ++ c :: tail ∧ stop.rest = c :: tail ∧ isBlank c = false ∧
      scanFrom after front = .ok ts ∧ first (!operandBefore after ts) c tail = .error stop.cause := by
  fun_induction scanFrom after cs with
  | case1 after => cases h
  | case2 after c cs hb ih =>
    obtain ⟨front, d, tail, ts, rfl, rest, hd, scanned, none⟩ := ih h
    exact ⟨c :: front, d, tail, ts, rfl, rest, hd, by rw [scanFrom_of_isBlank hb, scanned], none⟩
  | case3 after c cs hb cause hfirst =>
    cases h
    exact ⟨[], c, cs, [], rfl, rfl, by simpa using hb, scanFrom_nil after, hfirst⟩
  | case4 after c cs hb t rest hfirst hlt ih =>
    cases hus : scanFrom t.kind.endsOperand rest with
    | ok us =>
      rw [hus] at h
      cases h
    | error stop' =>
      rw [hus] at h ih
      cases h
      obtain ⟨front, d, tail, ts, rfl, rest, hd, scanned, none⟩ := ih rfl
      obtain ⟨more, rfl, read⟩ := first_of_append hfirst
      refine ⟨c :: more, d, tail, t :: ts, rfl, rest, hd, ?_, by rwa [operandBefore_cons]⟩
      rw [scanFrom_of_first (by simpa using hb) read, scanned]
      rfl

end Token

/-- Why no token starts with a text. -/
inductive ScanCause.StartsNone : ScanCause → List Char → Prop where
  | unexpected {c : Char} {cs : List Char} (blank : isBlank c = false) (digit : c.isDigit = false)
      (letter : isLetter c = false) (underscore : c ≠ '_') (plain : Kind.ofChar? c = none) :
      StartsNone (.unexpected c) (c :: cs)
  | reserved {word rest : List Char} (h : word = ['h', 'e', 'l', 'p'] ∨ word = ['a', 'b', 'o', 'u', 't'])
      (whole : ∀ c ∈ rest.head?, continuesName c = false) (bare : ∀ more, rest ≠ '(' :: ')' :: more) :
      StartsNone (.reserved (String.ofList word)) (word ++ rest)

theorem Token.startsNone_of_word {c : Char} {cs : List Char} {cause : ScanCause} (h : word c cs = .error cause) :
    cause.StartsNone (c :: cs) := by
  have pieces : c :: cs = (c :: cs.takeWhile continuesName) ++ cs.dropWhile continuesName := by
    rw [List.cons_append, List.takeWhile_append_dropWhile]
  unfold word at h
  dsimp only at h
  split at h
  · cases h
  · cases h
  · rename_i kind hword bare
    cases h
    rw [pieces]
    refine .reserved ?_ (stop_dropWhile continuesName cs) bare
    rcases eq_of_reserved? hword with ⟨same, -⟩ | ⟨same, -⟩
    · exact Or.inl same
    · exact Or.inr same

theorem Token.startsNone_of_first {looked : Bool} {c : Char} {cs : List Char} {cause : ScanCause}
    (hb : isBlank c = false) (h : first looked c cs = .error cause) : cause.StartsNone (c :: cs) := by
  unfold first at h
  split at h
  · cases h
  · rename_i digit
    split at h
    · cases h
    · split at h
      · exact startsNone_of_word h
      · rename_i name
        split at h
        · cases h
        · rename_i plain
          cases h
          simp only [startsName, Bool.or_eq_true, beq_iff_eq, not_or, Bool.not_eq_true] at name
          exact .unexpected hb (by simpa using digit) name.2 name.1 plain

/-! ### What is shown of a line -/

/-- What an excerpt shows of a line around a position: the characters up to ten places away, an ellipsis where the line
    goes on, and a column where the character of the position stands. -/
structure Excerpt.Shows (x : Excerpt) (line : String) (position : Nat) : Prop where
  window : x.line.toList = (if 10 < position then ['.', '.', '.'] else []) ++
    (line.toList.take (min line.length (position + 10))).drop (position - 10) ++
      (if position + 10 < line.length then ['.', '.', '.'] else [])
  column : x.line.toList[x.column]? = line.toList[position]?

theorem getElem?_window {cs head tail : List Char} {start position stop : Nat} (starts : start ≤ position)
    (stops : position < stop) (inside : position < cs.length) :
    (head ++ (cs.take stop).drop start ++ tail)[position - start + head.length]? = cs[position]? := by
  have within : position - start < ((cs.take stop).drop start).length := by
    rw [List.length_drop, List.length_take]
    omega
  rw [List.append_assoc, List.getElem?_append_right (by omega), Nat.add_sub_cancel, List.getElem?_append_left within,
    List.getElem?_drop, Nat.add_sub_cancel' starts, List.getElem?_take_of_lt stops]

theorem Excerpt.around_shows {line : String} {position : Nat} (h : position < line.length) :
    (around line position).Shows line position := by
  have starts : 0 < position - reach ↔ 10 < position := by
    simp only [reach]
    omega
  have stops : min line.length (position + reach) < line.length ↔ position + 10 < line.length := by
    simp only [reach]
    omega
  have window : (around line position).line.toList = (if 10 < position then ['.', '.', '.'] else []) ++
      (line.toList.take (min line.length (position + 10))).drop (position - 10) ++
        (if position + 10 < line.length then ['.', '.', '.'] else []) := by
    simp only [around, String.toList_ofList, String.length_toList, starts, stops]
    rfl
  refine ⟨window, ?_⟩
  have inside : position < line.toList.length := h
  rw [window]
  simp only [around, starts]
  exact getElem?_window (Nat.sub_le ..) (by omega) inside

/-! ### Errors of a scan -/

/-- Where the scan of a line stops: the text before has tokens, no token starts there, and an excerpt shows the place. -/
structure ScanError.Located (e : ScanError) : Prop where
  inside : e.position < e.line.length
  before : ∃ ts, Token.scan (String.ofList (e.line.toList.take e.position)) = .ok ts
  cause : e.cause.StartsNone (e.line.toList.drop e.position)
  shown : (Excerpt.around e.line e.position).Shows e.line e.position

/-- A line without tokens has its error where the scan stops. -/
theorem Token.located_of_scan {line : String} {e : ScanError} (h : scan line = .error e) : e.line = line ∧ e.Located := by
  unfold scan at h
  split at h
  · cases h
  · rename_i stop found
    cases h
    obtain ⟨front, c, tail, ts, pieces, rest, hc, scanned, none⟩ := exists_of_scanFrom_error found
    have position : line.length - stop.rest.length = front.length := by
      rw [rest, ← String.length_toList, pieces, List.length_append, Nat.add_sub_cancel]
    have inside : front.length < line.length := by
      rw [← String.length_toList, pieces, List.length_append, List.length_cons]
      omega
    refine ⟨rfl, ?_, ?_, ?_, ?_⟩
    · rw [position]
      exact inside
    · rw [position, pieces, List.take_left' rfl, scan, String.toList_ofList, scanned]
      exact ⟨_, rfl⟩
    · rw [position, pieces, List.drop_left' rfl]
      exact startsNone_of_first hc none
    · rw [position]
      exact Excerpt.around_shows inside

theorem Token.located_of_scan_of_reserved :
    let e : ScanError := ⟨.reserved "help", "12 + 34 - 5/help + 7 * 8", 12⟩
    scan "12 + 34 - 5/help + 7 * 8" = .error e ∧ e.Located := by
  intro e
  have scanned : scan "12 + 34 - 5/help + 7 * 8" = .error e := by decide +kernel
  exact ⟨scanned, (located_of_scan scanned).2⟩

end Calculator
