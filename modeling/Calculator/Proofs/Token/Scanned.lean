import Calculator.Proofs.Token.Form

/-! What scanning gives: tokens that are formed as their kinds are, with a sign only on a number that no operand comes
    before, and the token that closes the line behind them. -/

namespace Calculator.Token

/-- Tokens of a text that follows an operand or does not. A number has a sign only where no operand comes before it. -/
def Fitting (afterOperand : Bool) : List Token → Prop
  | [] => True
  | t :: ts => t.Formed ∧ (t.signed = true → afterOperand = false) ∧ Fitting t.kind.endsOperand ts

/-- The tokens of a line: none, or fitting ones with the token that closes the line. -/
def WellFormed (ts : List Token) : Prop := ∃ body, Fitting false body ∧ ts = close body

theorem Fitting.formed {after : Bool} {ts : List Token} (h : Fitting after ts) : ∀ t ∈ ts, t.Formed := by
  induction ts generalizing after with
  | nil => simp
  | cons t ts ih =>
    obtain ⟨hf, -, hts⟩ := h
    intro u hu
    rcases List.mem_cons.mp hu with rfl | hu
    · exact hf
    · exact ih hts u hu

theorem Formed.kind_ne {t : Token} (h : t.Formed) : t.kind ≠ .endOfLine := kind_ne_of_lexeme h

theorem Formed.eq_of_text? {t : Token} {k : Kind} {text : List Char} (h : t.Formed) (hk : t.kind = k)
    (ht : k.text? = some text) : t = ⟨k, String.ofList text⟩ := by
  subst hk
  have same := Token.eq_of_text? h ht
  rw [← same, String.ofList_toList]

/-! ### Steps of a scan -/

@[simp] theorem scanFrom_nil (after : Bool) : scanFrom after [] = .ok [] := by rw [scanFrom]

theorem scanFrom_of_isBlank {after : Bool} {c : Char} {cs : List Char} (h : isBlank c = true) :
    scanFrom after (c :: cs) = scanFrom after cs := by
  rw [scanFrom, if_pos h]

theorem scanFrom_of_first {after : Bool} {c : Char} {cs rest : List Char} {t : Token} (hb : isBlank c = false)
    (h : first (!after) c cs = .ok (t, rest)) :
    scanFrom after (c :: cs) = (scanFrom t.kind.endsOperand rest).map (t :: ·) := by
  rw [scanFrom, if_neg (by simp [hb])]
  split
  · rename_i he
    rw [h] at he
    cases he
  · rename_i he
    rw [h] at he
    cases he
    rfl

theorem scanFrom_of_first_error {after : Bool} {c : Char} {cs : List Char} {cause : ScanCause} (hb : isBlank c = false)
    (h : first (!after) c cs = .error cause) : scanFrom after (c :: cs) = .error ⟨cause, c :: cs⟩ := by
  rw [scanFrom, if_neg (by simp [hb])]
  split
  · rename_i he
    rw [h] at he
    cases he
    rfl
  · rename_i he
    rw [h] at he
    cases he

/-- Blanks before a token change nothing. -/
theorem scanFrom_append_of_isBlank {after : Bool} {gap cs : List Char} (h : ∀ c ∈ gap, isBlank c = true) :
    scanFrom after (gap ++ cs) = scanFrom after cs := by
  induction gap with
  | nil => rfl
  | cons b gap ih =>
    rw [List.cons_append, scanFrom_of_isBlank (h b (List.mem_cons_self ..))]
    exact ih fun c hc => h c (List.mem_cons_of_mem _ hc)

/-! ### Blank lines -/

theorem scanFrom_eq_nil_iff {after : Bool} {cs : List Char} : scanFrom after cs = .ok [] ↔ cs.all isBlank = true := by
  constructor
  · intro h
    induction cs with
    | nil => rfl
    | cons c cs ih =>
      cases hb : isBlank c with
      | true =>
        rw [scanFrom_of_isBlank hb] at h
        rw [List.all_cons, hb, ih h]
        rfl
      | false =>
        -- Another character starts a token or cannot be read, whatever is behind it.
        cases hfirst : first (!after) c cs with
        | error cause =>
          rw [scanFrom_of_first_error hb hfirst] at h
          cases h
        | ok read =>
          rw [scanFrom_of_first hb hfirst] at h
          cases more : scanFrom read.1.kind.endsOperand read.2 with
          | error stop =>
            rw [more] at h
            cases h
          | ok ts =>
            rw [more] at h
            cases h
  · intro blank
    have same := @scanFrom_append_of_isBlank after cs [] (List.all_eq_true.mp blank)
    rw [List.append_nil, scanFrom_nil] at same
    exact same

/-- Exactly the lines that hold nothing but white space have no tokens. -/
theorem scan_eq_nil_iff {line : String} : scan line = .ok [] ↔ isBlankText line = true := by
  rw [isBlankText, ← @scanFrom_eq_nil_iff false, scan]
  cases scanFrom false line.toList with
  | error stop => simp
  | ok ts => cases ts <;> simp [close]

/-! ### Scanned tokens -/

/-- How a scan comes to its tokens: it passes over blanks, and takes one token after the other. -/
inductive Scans : Bool → List Char → List Token → Prop where
  | nil (after : Bool) : Scans after [] []
  | blank {after : Bool} {c : Char} {cs : List Char} {ts : List Token} (hb : isBlank c = true) (tail : Scans after cs ts) :
      Scans after (c :: cs) ts
  | token {after : Bool} {c : Char} {cs rest : List Char} {t : Token} {ts : List Token} (hb : isBlank c = false)
      (h : first (!after) c cs = .ok (t, rest)) (tail : Scans t.kind.endsOperand rest ts) :
      Scans after (c :: cs) (t :: ts)

theorem scans_of_scanFrom {after : Bool} {cs : List Char} {ts : List Token} (h : scanFrom after cs = .ok ts) :
    Scans after cs ts := by
  fun_induction scanFrom after cs generalizing ts with
  | case1 after =>
    cases h
    exact .nil after
  | case2 after c cs hb ih => exact .blank hb (ih h)
  | case3 after c cs hb cause hfirst => cases h
  | case4 after c cs hb t rest hfirst hlt ih =>
    cases hus : scanFrom t.kind.endsOperand rest with
    | error stop =>
      rw [hus] at h
      cases h
    | ok us =>
      rw [hus] at h
      cases h
      exact .token (by simpa using hb) hfirst (ih hus)

theorem fitting_of_scanFrom {after : Bool} {cs : List Char} {ts : List Token} (h : scanFrom after cs = .ok ts) :
    Fitting after ts := by
  replace h := scans_of_scanFrom h
  induction h with
  | nil after => trivial
  | blank hb tail ih => exact ih
  | token hb read tail ih =>
    obtain ⟨hf, -, hsign⟩ := of_first read
    exact ⟨hf, fun hs => by simpa using hsign hs, ih⟩

theorem wellFormed_of_scan {text : String} {ts : List Token} (h : scan text = .ok ts) : WellFormed ts := by
  unfold scan at h
  split at h
  · rename_i body hbody
    cases h
    exact ⟨body, fitting_of_scanFrom hbody, rfl⟩
  · cases h

end Calculator.Token
