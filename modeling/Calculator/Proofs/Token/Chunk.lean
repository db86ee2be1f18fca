import Calculator.Proofs.Token.Stop

/-! Scanning chunk by chunk. White space ends whatever is being read, as the end of the text does: of a text that goes
    on with white space the front is read first, as it is read alone, and then what is behind (`tokensFrom_append`). So
    the tokens of a text are those of its chunks, one behind the other (`tokensFrom_eq`). -/

namespace Calculator.Token

/-- The chunks of a text: the runs of characters between its white space. -/
def chunks (cs : List Char) : List (List Char) := (cs.splitOnP isBlank).filter fun chunk => !chunk.isEmpty

@[simp] theorem chunks_nil : chunks [] = [] := by simp [chunks]

theorem chunks_cons_of_isBlank {c : Char} (h : isBlank c = true) (cs : List Char) : chunks (c :: cs) = chunks cs := by
  simp [chunks, List.splitOnP_cons_eq_if_modifyHead, h]

/-! ### Runs of characters before a gap -/

theorem isDigit_of_isBlank {c : Char} (h : isBlank c = true) : c.isDigit = false := by
  rw [← Bool.not_eq_true]
  intro digit
  rw [isBlank_of_isDigit digit] at h
  cases h

theorem takeWhile_append_stop {p : Char → Bool} {front back : List Char} (stop : ∀ c ∈ back.head?, p c = false) :
    (front ++ back).takeWhile p = front.takeWhile p := by
  induction front with
  | nil => simpa using @takeWhile_append_exact p [] back (by simp) stop
  | cons c front ih => rw [List.cons_append, List.takeWhile_cons, List.takeWhile_cons, ih]

theorem dropWhile_append_stop {p : Char → Bool} {front back : List Char} (stop : ∀ c ∈ back.head?, p c = false) :
    (front ++ back).dropWhile p = front.dropWhile p ++ back := by
  induction front with
  | nil => simpa using @dropWhile_append_exact p [] back (by simp) stop
  | cons c front ih =>
    rw [List.cons_append, List.dropWhile_cons, List.dropWhile_cons, ih]
    split <;> rfl

section
variable {front back : List Char} (gap : ∀ c ∈ back.head?, isBlank c = true)
include gap

theorem chunks_append {chunk : List Char} (hne : chunk ≠ []) (solid : ∀ c ∈ chunk, isBlank c = false) :
    chunks (chunk ++ back) = chunk :: chunks back := by
  have kept : (!chunk.isEmpty) = true := by simpa using hne
  cases back with
  | nil =>
    rw [List.append_nil, chunks, List.splitOnP_eq_singleton solid, chunks_nil]
    exact List.filter_cons_of_pos kept
  | cons c back =>
    have blank : isBlank c = true := gap c rfl
    rw [chunks_cons_of_isBlank blank, chunks, List.splitOnP_append_cons_of_forall_mem solid c blank]
    exact List.filter_cons_of_pos kept

theorem stop_of_gap {p : Char → Bool} (h : ∀ {c}, isBlank c = true → p c = false) : ∀ c ∈ back.head?, p c = false :=
  fun c hc => h (gap c hc)

theorem ne_of_gap {c : Char} {cs : List Char} (h : isBlank c = false) : back ≠ c :: cs := by
  rintro rfl
  rw [gap c rfl] at h
  cases h

/-! ### Numbers before a gap -/

theorem digits?_append_gap : digits? (front ++ back) = (digits? front).map fun read => (read.1, read.2 ++ back) := by
  have stop := stop_of_gap gap isDigit_of_isBlank
  unfold digits?
  rw [takeWhile_append_stop stop, dropWhile_append_stop stop]
  cases front.takeWhile Char.isDigit <;> rfl

omit gap in
theorem writtenSign_of_ne {c : Char} {cs : List Char} (plus : c ≠ '+') (minus : c ≠ '-') :
    writtenSign (c :: cs) = ([], c :: cs) := by
  unfold writtenSign
  split <;> simp_all

theorem writtenSign_append_gap :
    writtenSign (front ++ back) = ((writtenSign front).1, (writtenSign front).2 ++ back) := by
  cases front with
  | nil =>
    cases back with
    | nil => rfl
    | cons c back =>
      have blank : isBlank c = true := gap c rfl
      exact writtenSign_of_ne (ne_of_has blank (by decide)) (ne_of_has blank (by decide))
  | cons c front =>
    by_cases plus : c = '+'
    · subst plus
      rfl
    · by_cases minus : c = '-'
      · subst minus
        rfl
      · rw [List.cons_append, writtenSign_of_ne plus minus, writtenSign_of_ne plus minus]
        rfl

theorem exponent_append_gap : exponent (front ++ back) = ((exponent front).1, (exponent front).2 ++ back) := by
  cases front with
  | nil =>
    refine exponent_of_none fun mark more hback hm => ?_
    rcases hm with rfl | rfl
    · exact absurd hback (ne_of_gap gap (by decide))
    · exact absurd hback (ne_of_gap gap (by decide))
  | cons mark front =>
    rw [List.cons_append, exponent, exponent]
    split
    · rw [writtenSign_append_gap gap]
      dsimp only
      rw [digits?_append_gap gap]
      cases digits? (writtenSign front).2 <;> rfl
    · rfl

theorem numberTail_append_gap :
    numberTail (front ++ back) = ((numberTail front).1, (numberTail front).2.1, (numberTail front).2.2 ++ back) := by
  by_cases none : ∀ mark more, front = mark :: more → mark = '/' ∨ mark = '.' → digits? more = none
  · rw [numberTail_of_none none]
    refine numberTail_of_none fun mark more whole hm => ?_
    cases front with
    | nil =>
      rcases hm with rfl | rfl
      · exact absurd whole (ne_of_gap gap (by decide))
      · exact absurd whole (ne_of_gap gap (by decide))
    | cons c front =>
      rw [List.cons_append] at whole
      obtain ⟨rfl, rfl⟩ := List.cons.inj whole
      rw [digits?_append_gap gap, none c front rfl hm]
      rfl
  · simp only [not_forall] at none
    obtain ⟨mark, more, rfl, hm, some⟩ := none
    obtain ⟨⟨digits, rest⟩, hd⟩ := Option.ne_none_iff_exists'.mp some
    have read : digits? (more ++ back) = Option.some (digits, rest ++ back) := by
      rw [digits?_append_gap gap, hd]
      rfl
    rcases hm with rfl | rfl
    · rw [List.cons_append, numberTail_slash hd, numberTail_slash read]
    · rw [List.cons_append, numberTail_point hd, numberTail_point read, exponent_append_gap gap]

theorem number_append_gap (sign : List Char) :
    number sign (front ++ back) = ((number sign front).1, (number sign front).2 ++ back) := by
  have stop := stop_of_gap gap isDigit_of_isBlank
  simp only [number, takeWhile_append_stop stop, dropWhile_append_stop stop, numberTail_append_gap gap]

/-! ### Words and other tokens before a gap -/

/-- The brackets of a query stand before the gap, or not at all. -/
theorem brackets_append_gap {rest : List Char} (h : front ++ back = '(' :: ')' :: rest) :
    ∃ more, front = '(' :: ')' :: more := by
  rcases front with _ | ⟨x, _ | ⟨y, more⟩⟩
  · exact absurd h (ne_of_gap gap (by decide))
  · exact absurd (List.cons.inj h).2 (ne_of_gap gap (by decide))
  · simp only [List.cons_append, List.cons.injEq] at h
    obtain ⟨rfl, rfl, -⟩ := h
    exact ⟨more, rfl⟩

theorem word_append_gap (c : Char) :
    word c (front ++ back) = (word c front).map fun read => (read.1, read.2 ++ back) := by
  have stop := stop_of_gap gap continuesName_of_isBlank
  unfold word
  dsimp only
  rw [takeWhile_append_stop stop, dropWhile_append_stop stop]
  generalize front.dropWhile continuesName = rest
  cases Kind.reserved? (c :: front.takeWhile continuesName) with
  | none => rfl
  | some kind =>
    by_cases brackets : ∃ more, rest = '(' :: ')' :: more
    · obtain ⟨more, rfl⟩ := brackets
      rfl
    · split
      · contradiction
      · rename_i whole
        exact absurd (brackets_append_gap gap whole) brackets
      · split
        · contradiction
        · exact absurd ⟨_, rfl⟩ brackets
        · rfl

theorem startsDigit_append_gap : startsDigit (front ++ back) = startsDigit front := by
  cases front with
  | cons c front => rfl
  | nil =>
    cases back with
    | nil => rfl
    | cons c back => exact isDigit_of_isBlank (gap c rfl)

theorem first_append_gap (looked : Bool) (c : Char) :
    first looked c (front ++ back) = (first looked c front).map fun read => (read.1, read.2 ++ back) := by
  unfold first
  rw [startsDigit_append_gap gap, word_append_gap gap, number_append_gap gap, ← List.cons_append, number_append_gap gap]
  split
  · rfl
  · split
    · rfl
    · split
      · rfl
      · split <;> rfl

end

/-! ### Texts before a gap -/

/-- The tokens of a text that follows an operand or does not, or what is wrong with it. -/
def tokensFrom (after : Bool) (cs : List Char) : Except ScanCause (List Token) :=
  (scanFrom after cs).mapError ScanStop.cause

@[simp] theorem tokensFrom_nil (after : Bool) : tokensFrom after [] = .ok [] := by
  rw [tokensFrom, scanFrom_nil]
  rfl

theorem tokensFrom_of_isBlank {after : Bool} {c : Char} {cs : List Char} (h : isBlank c = true) :
    tokensFrom after (c :: cs) = tokensFrom after cs := by
  rw [tokensFrom, scanFrom_of_isBlank h, tokensFrom]

theorem tokensFrom_of_not_isBlank {after : Bool} {c : Char} {cs : List Char} (h : isBlank c = false) :
    tokensFrom after (c :: cs) =
      (first (!after) c cs).bind fun read => (tokensFrom read.1.kind.endsOperand read.2).map (read.1 :: ·) := by
  cases hfirst : first (!after) c cs with
  | error cause =>
    rw [tokensFrom, scanFrom_of_first_error h hfirst]
    rfl
  | ok read =>
    rw [tokensFrom, scanFrom_of_first h hfirst]
    change _ = (tokensFrom read.1.kind.endsOperand read.2).map (read.1 :: ·)
    rw [tokensFrom]
    cases scanFrom read.1.kind.endsOperand read.2 <;> rfl

/-- A text with a gap in it is read up to the gap, and then what is behind. -/
theorem tokensFrom_append {after : Bool} {front back : List Char} (gap : ∀ c ∈ back.head?, isBlank c = true) :
    tokensFrom after (front ++ back) =
      (tokensFrom after front).bind fun ts => (tokensFrom (operandBefore after ts) back).map (ts ++ ·) := by
  -- Along the scan of the front, which the gap does not change.
  fun_induction scanFrom after front with
  | case1 after =>
    rw [tokensFrom_nil]
    change tokensFrom after back = (tokensFrom after back).map ([] ++ ·)
    cases tokensFrom after back <;> rfl
  | case2 after c front blank ih => rw [List.cons_append, tokensFrom_of_isBlank blank, tokensFrom_of_isBlank blank, ih]
  | case3 after c front blank cause none =>
    have blank : isBlank c = false := by simpa using blank
    rw [List.cons_append, tokensFrom_of_not_isBlank blank, tokensFrom_of_not_isBlank blank, first_append_gap gap, none]
    rfl
  | case4 after c front blank t rest read shorter ih =>
    have blank : isBlank c = false := by simpa using blank
    rw [List.cons_append, tokensFrom_of_not_isBlank blank, tokensFrom_of_not_isBlank blank, first_append_gap gap, read]
    change (tokensFrom t.kind.endsOperand (rest ++ back)).map (t :: ·) =
      ((tokensFrom t.kind.endsOperand rest).map (t :: ·)).bind _
    rw [ih]
    cases tokensFrom t.kind.endsOperand rest with
    | error cause => rfl
    | ok ts =>
      change Except.map (t :: ·) (Except.map (ts ++ ·) (tokensFrom (operandBefore t.kind.endsOperand ts) back)) =
        Except.map (t :: ts ++ ·) (tokensFrom (operandBefore after (t :: ts)) back)
      rw [operandBefore_cons]
      cases tokensFrom (operandBefore t.kind.endsOperand ts) back <;> rfl

/-- The tokens of chunks, each read behind those before it. -/
def tokensOfChunks (after : Bool) : List (List Char) → Except ScanCause (List Token)
  | [] => .ok []
  | chunk :: more =>
    (tokensFrom after chunk).bind fun ts => (tokensOfChunks (operandBefore after ts) more).map (ts ++ ·)

/-- The tokens of a text are those of its chunks. -/
theorem tokensFrom_eq (after : Bool) (cs : List Char) : tokensFrom after cs = tokensOfChunks after (chunks cs) := by
  -- By the length of the text: a blank or a chunk is taken from its front.
  induction hn : cs.length using Nat.strongRecOn generalizing after cs with
  | ind n ih =>
    cases cs with
    | nil => rw [tokensFrom_nil, chunks_nil, tokensOfChunks]
    | cons c cs =>
      cases blank : isBlank c with
      | true =>
        rw [tokensFrom_of_isBlank blank, chunks_cons_of_isBlank blank]
        exact ih cs.length (by simp [← hn]) after cs rfl
      | false =>
        have pieces : c :: cs = (c :: cs.takeWhile (!isBlank ·)) ++ cs.dropWhile (!isBlank ·) := by
          rw [List.cons_append, List.takeWhile_append_dropWhile]
        have gap : ∀ d ∈ (cs.dropWhile (!isBlank ·)).head?, isBlank d = true := by
          simpa using stop_dropWhile (!isBlank ·) cs
        have solid : ∀ d ∈ c :: cs.takeWhile (!isBlank ·), isBlank d = false := by
          refine List.forall_mem_cons.mpr ⟨blank, fun d hd => ?_⟩
          simpa using List.mem_takeWhile_imp hd
        have shorter : (cs.dropWhile (!isBlank ·)).length < n := by
          have := length_dropWhile_le (!isBlank ·) cs
          simp only [List.length_cons] at hn
          omega
        rw [pieces, tokensFrom_append gap, chunks_append gap (List.cons_ne_nil _ _) solid, tokensOfChunks]
        simp only [ih _ shorter _ (cs.dropWhile (!isBlank ·)) rfl]

/-- Lines with the same chunks have the same tokens, or the same is wrong with them. -/
theorem scan_of_chunks {line other : String} (h : chunks line.toList = chunks other.toList) :
    (scan line).mapError ScanError.cause = (scan other).mapError ScanError.cause := by
  have same : tokensFrom false line.toList = tokensFrom false other.toList := by
    rw [tokensFrom_eq, h, ← tokensFrom_eq]
  have cause : ∀ text : String, (scan text).mapError ScanError.cause = (tokensFrom false text.toList).map close := by
    intro text
    rw [scan, tokensFrom]
    cases scanFrom false text.toList <;> rfl
  rw [cause, cause, same]

end Calculator.Token
