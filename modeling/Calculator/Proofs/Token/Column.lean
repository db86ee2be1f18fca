import Calculator.Proofs.Token.Layout
import Calculator.Proofs.Token.Lossless
import Mathlib.Data.List.Basic

/-! The columns of tokens in the line that they are written as. -/

namespace Calculator.Token

/-! ### Blanks at brackets -/

/-- Lexemes with a space between neighbours, but none inside a bracket's edges. -/
def snug (ts : List Token) : List Char := tightenClose (tightenOpen (spaced ts))

/-- What is between two neighbours as long as carets are not looked at. -/
def gap (left right : Kind) : List Char := if left = .bracketOpen ∨ right = .bracketClose then [] else [' ']

theorem spelled_snug {ts : List Token} (hne : ts ≠ []) (formed : ∀ t ∈ ts, t.Formed) : Spelled ts (snug ts) := by
  obtain ⟨t, ts, rfl⟩ := List.exists_cons_of_ne_nil hne
  exact spelled_tightenClose formed (spelled_tightenOpen formed (spelled_spaced t ts))

theorem spaced_cons (t u : Token) (ts : List Token) :
    spaced (t :: u :: ts) = t.lexeme.toList ++ ' ' :: spaced (u :: ts) := by
  simp [spaced, List.intercalate]

theorem isBlank_caret : isBlank '^' = false := (@plain_of_ofChar? '^' .caret rfl).2.2.2

theorem closesNext_iff {u : Token} {ts : List Token} {cs : List Char} (hu : u.Formed) (h : Spelled (u :: ts) cs) :
    closesNext cs = true ↔ u.kind = .bracketClose := by
  rw [closesNext, h.dropWhile_eq hu, beq_iff_eq]
  constructor
  · intro head
    obtain ⟨tail, rfl⟩ := List.head?_eq_some_iff.mp head
    exact (h.eq_of_ofChar? hu rfl (by decide)).1
  · intro hk
    obtain ⟨rest, rfl⟩ := h.exists_append
    have text : u.lexeme.toList = [')'] := eq_of_text? hu (by rw [hk]; rfl)
    rw [text]
    rfl

theorem snug_single {t : Token} (h : t.Formed) : snug [t] = t.lexeme.toList := by
  have spelled := spelled_snug (List.cons_ne_nil t []) (List.forall_mem_singleton.mpr h)
  generalize snug [t] = cs at spelled ⊢
  cases spelled with
  | single => rfl

theorem snug_cons {t u : Token} {ts : List Token} (formed : ∀ x ∈ t :: u :: ts, x.Formed) :
    snug (t :: u :: ts) = t.lexeme.toList ++ (gap t.kind u.kind ++ snug (u :: ts)) := by
  obtain ⟨ht, formed⟩ := List.forall_mem_cons.mp formed
  obtain ⟨hu, -⟩ := List.forall_mem_cons.mp formed
  have spelled := spelled_tightenOpen formed (spelled_spaced u ts)
  by_cases hk : t.kind = .bracketOpen
  · have text : t.lexeme.toList = ['('] := eq_of_text? ht (by rw [hk]; rfl)
    have drop : (' ' :: spaced (u :: ts)).dropWhile isBlank = spaced (u :: ts) :=
      @Spelled.dropWhile_append _ _ [' '] _ (spelled_spaced u ts) hu (List.forall_mem_singleton.mpr isBlank_space)
    have opened : tightenOpen (spaced (t :: u :: ts)) = ['('] ++ tightenOpen (spaced (u :: ts)) := by
      rw [spaced_cons, text, List.singleton_append, tightenOpen, if_pos rfl, drop]
      rfl
    rw [snug, opened, text, tightenClose_append (text ▸ isBlank_of_lexeme ht), gap,
      if_pos (Or.inl hk), snug]
    rfl
  · have opened : tightenOpen (spaced (t :: u :: ts)) =
        t.lexeme.toList ++ ([' '] ++ tightenOpen (spaced (u :: ts))) := by
      rw [spaced_cons, tightenOpen_lexeme ht hk, tightenOpen, if_neg (by decide)]
      rfl
    rw [snug, opened, tightenClose_append (isBlank_of_lexeme ht),
      tightenClose_gap (List.forall_mem_singleton.mpr isBlank_space), snug, gap]
    by_cases close : u.kind = .bracketClose
    · rw [if_pos ((closesNext_iff hu spelled).mpr close), if_pos (Or.inr close)]
      rfl
    · rw [if_neg fun next => close ((closesNext_iff hu spelled).mp next), if_neg (not_or.mpr ⟨hk, close⟩)]

theorem snug_append {ts us : List Token} {v t : Token} (formed : ∀ x ∈ ts ++ [v] ++ t :: us, x.Formed) :
    snug (ts ++ [v] ++ t :: us) = snug (ts ++ [v]) ++ (gap v.kind t.kind ++ snug (t :: us)) := by
  induction ts with
  | nil =>
    have hv := formed v (List.mem_cons_self ..)
    rw [List.nil_append, List.singleton_append, snug_cons formed, snug_single hv]
  | cons x ts ih =>
    have whole := ih (List.forall_mem_cons.mp formed).2
    have before : ∀ y ∈ x :: ts ++ [v], y.Formed := fun y hy => formed y (List.mem_append_left _ hy)
    cases ts with
    | nil =>
      simp only [List.cons_append, List.nil_append] at whole formed before ⊢
      rw [snug_cons formed, snug_cons before, whole]
      simp only [List.append_assoc]
    | cons y ts =>
      simp only [List.cons_append] at whole formed before ⊢
      rw [snug_cons formed, snug_cons before, whole]
      simp only [List.append_assoc]

/-! ### Blanks around carets -/

theorem dropWhile_append_cons {front back : List Char} {c : Char} (hc : isBlank c = false) :
    (front ++ c :: back).dropWhile isBlank = front.dropWhile isBlank ++ c :: back := by
  rw [List.dropWhile_append]
  split
  · rename_i none
    rw [List.isEmpty_iff.mp none, List.dropWhile_cons_of_neg (by simp [hc]), List.nil_append]
  · rfl

theorem afterCaret?_of_not_blank {c : Char} {cs : List Char} (hc : isBlank c = false) :
    afterCaret? (c :: cs) =
      if c = '^' ∧ cs.head?.any isBlank = true then some (cs.tail.dropWhile isBlank) else none := by
  rw [afterCaret?, List.dropWhile_cons_of_neg (by simp [hc])]
  split
  · rename_i b rest heq
    cases heq
    simp
  · rename_i other
    rw [if_neg]
    rintro ⟨rfl, blank⟩
    obtain ⟨b, hb, -⟩ := (Option.any_eq_true isBlank cs.head?).mp blank
    obtain ⟨rest, rfl⟩ := List.head?_eq_some_iff.mp hb
    exact other b rest rfl

/-- Whether the blanks at the start of a text lead to a caret with more blanks behind it is seen in the part of it up to
    a character that is no blank, and no caret that blanks follow. -/
theorem afterCaret?_split {front back : List Char} {c : Char} (hc : isBlank c = false)
    (caret : c = '^' → ∀ d ∈ back.head?, isBlank d = false) : ∃ read : Option (List Char),
      (∀ rest ∈ read, rest.length ≤ front.length) ∧ afterCaret? (front ++ [c]) = read.map (· ++ [c]) ∧
        afterCaret? (front ++ c :: back) = read.map (· ++ c :: back) := by
  induction front with
  | nil =>
    refine ⟨none, by simp, ?_, ?_⟩
    · simp [afterCaret?_of_not_blank hc]
    · rw [List.nil_append, afterCaret?_of_not_blank hc, if_neg]
      · rfl
      · rintro ⟨rfl, any⟩
        obtain ⟨b, hb, blank⟩ := (Option.any_eq_true isBlank back.head?).mp any
        rw [caret rfl b hb] at blank
        cases blank
  | cons x front ih =>
    cases hx : isBlank x with
    | true =>
      obtain ⟨read, length, here, there⟩ := ih
      have blank : ∀ d ∈ [x], isBlank d = true := List.forall_mem_singleton.mpr hx
      refine ⟨read, fun rest hr => Nat.le_succ_of_le (length rest hr), ?_, ?_⟩
      · rw [← here]
        exact @afterCaret?_append [x] (front ++ [c]) blank
      · rw [← there]
        exact @afterCaret?_append [x] (front ++ c :: back) blank
    | false =>
      rw [List.cons_append, List.cons_append, afterCaret?_of_not_blank hx, afterCaret?_of_not_blank hx]
      cases front with
      | nil => exact ⟨none, by simp, by simp [hc], by simp [hc]⟩
      | cons b front =>
        by_cases taken : x = '^' ∧ isBlank b = true
        · refine ⟨some (front.dropWhile isBlank), ?_, ?_, ?_⟩
          · rintro rest ⟨⟩
            have shorter := length_dropWhile_le isBlank front
            simp only [List.length_cons]
            omega
          · simp [taken, dropWhile_append_cons hc]
          · simp [taken, dropWhile_append_cons hc]
        · exact ⟨none, by simp, if_neg taken, if_neg taken⟩

theorem tightenCaret_of_not_blank {c : Char} {cs : List Char} (hc : isBlank c = false) :
    tightenCaret (c :: cs) = c :: tightenCaret cs := by
  rw [tightenCaret, if_neg (by simp [hc])]

/-- Blanks around carets are taken out of the parts of a text, where it is cut behind a character that is no blank, and
    no caret that blanks follow. -/
theorem tightenCaret_split {front back : List Char} {c : Char} (hc : isBlank c = false)
    (caret : c = '^' → ∀ d ∈ back.head?, isBlank d = false) :
    tightenCaret (front ++ c :: back) = tightenCaret (front ++ [c]) ++ tightenCaret back := by
  -- Taking out the blanks around a caret passes over more than one character.
  induction hn : front.length using Nat.strong_induction_on generalizing front with
  | _ n ih =>
  subst hn
  cases front with
  | nil =>
    rw [List.nil_append, List.nil_append, tightenCaret_of_not_blank hc, tightenCaret_of_not_blank hc, tightenCaret]
    rfl
  | cons x front =>
    have next : tightenCaret (front ++ c :: back) = tightenCaret (front ++ [c]) ++ tightenCaret back :=
      ih _ (Nat.lt_succ_self _) rfl
    rw [List.cons_append, List.cons_append]
    cases hx : isBlank x with
    | false => rw [tightenCaret_of_not_blank hx, tightenCaret_of_not_blank hx, next, List.cons_append]
    | true =>
      obtain ⟨read, length, here, there⟩ := @afterCaret?_split front back c hc caret
      cases read with
      | none => rw [tightenCaret_of_none hx there, tightenCaret_of_none hx here, next, List.cons_append]
      | some rest =>
        have shorter : rest.length < (x :: front).length := Nat.lt_succ_of_le (length rest rfl)
        rw [tightenCaret_of_some hx there, tightenCaret_of_some hx here, ih _ shorter rfl, List.cons_append]

/-! ### Cuts of a line -/

theorem kind_of_caret {t : Token} (h : t.Formed) (hc : '^' ∈ t.lexeme.toList) : t.kind = .caret := by
  obtain ⟨-, starts, continues, -⟩ := @plain_of_ofChar? '^' .caret rfl
  unfold Formed at h
  generalize t.kind = k at h ⊢
  generalize t.lexeme.toList = text at h hc
  cases h with
  | number hs hd ht => cases numeric_of_number hs hd ht _ hc
  | name hc' hcs =>
    rcases List.mem_cons.mp hc with rfl | hc
    · exact absurd hc' (by simp [starts])
    · exact absurd (hcs _ hc) (by simp [continues])
  | fixed h =>
    rcases text?_cases h with ⟨c, rfl, hk⟩ | ⟨word, rfl, hword⟩
    · obtain rfl := List.mem_singleton.mp hc
      cases hk
      rfl
    · rcases eq_of_reserved? hword with ⟨rfl, -⟩ | ⟨rfl, -⟩
      · simp at hc
      · simp at hc

theorem Spelled.exists_end {ts : List Token} {v : Token} {cs : List Char} (h : Spelled (ts ++ [v]) cs) :
    ∃ front, cs = front ++ v.lexeme.toList := by
  generalize hts : ts ++ [v] = us at h
  induction h generalizing ts with
  | single t =>
    obtain ⟨-, rfl⟩ := List.append_singleton_inj.mp (show ts ++ [v] = [] ++ [t] from hts)
    exact ⟨[], rfl⟩
  | @cons t u us gap cs blank tight rest ih =>
    cases ts with
    | nil => simp at hts
    | cons x ts =>
      obtain ⟨front, rfl⟩ := ih (List.cons.inj hts).2
      exact ⟨t.lexeme.toList ++ (gap ++ front), by simp⟩

theorem solid_of_isBlank {gap : List Char} (blank : ∀ c ∈ gap, isBlank c = true) : solid gap = [] :=
  List.filter_eq_nil_iff.mpr fun c hc => by simp [blank c hc]

theorem Spelled.solid_eq {ts : List Token} {cs : List Char} (formed : ∀ t ∈ ts, t.Formed) (h : Spelled ts cs) :
    solid cs = joined ts := by
  induction h with
  | single t => simp [(formed t (List.mem_cons_self ..)).solid_lexeme]
  | @cons t u ts gap cs blank tight rest ih =>
    obtain ⟨ht, formed⟩ := List.forall_mem_cons.mp formed
    rw [solid_append, solid_append, ht.solid_lexeme, solid_of_isBlank blank, ih formed, joined_cons t, List.nil_append]

theorem toList_line {ts : List Token} (hne : ts ≠ []) (formed : ∀ t ∈ ts, t.Formed) :
    (line ts).toList = tightenCaret (snug ts) := by
  obtain ⟨t, ts, rfl⟩ := List.exists_cons_of_ne_nil hne
  obtain ⟨front, c, hcs, hc⟩ := (spelled_spaced t ts).exists_last formed
  have kept : dropBlankEnd (spaced (t :: ts)) = spaced (t :: ts) := by
    rw [hcs]
    simp [dropBlankEnd, hc]
  rw [line, String.toList_ofList, kept, snug]

theorem toList_line_closing {ts : List Token} (hne : ts ≠ []) (formed : ∀ t ∈ ts, t.Formed) :
    (line (ts ++ [closing])).toList = tightenCaret (snug ts) := by
  obtain ⟨t, ts, rfl⟩ := List.exists_cons_of_ne_nil hne
  rw [line, String.toList_ofList, dropBlankEnd_spaced_closing formed, snug]

/-- Behind a token the line goes on as what comes there would be written alone, unless the token is a caret and a blank
    follows it. -/
theorem tightenCaret_snug_append {ts : List Token} {v : Token} {back : List Char} (formed : ∀ t ∈ ts ++ [v], t.Formed)
    (caret : v.kind = .caret → ∀ d ∈ back.head?, isBlank d = false) :
    tightenCaret (snug (ts ++ [v]) ++ back) = tightenCaret (snug (ts ++ [v])) ++ tightenCaret back := by
  have hv : v.Formed := formed v (by simp)
  obtain ⟨front, hfront⟩ := (spelled_snug (by simp) formed).exists_end
  obtain ⟨c, l, hl, -⟩ := hv.exists_cons
  have hne : v.lexeme.toList ≠ [] := by simp [hl]
  have last : v.lexeme.toList.getLast hne ∈ v.lexeme.toList := List.getLast_mem hne
  have pieces : snug (ts ++ [v]) = (front ++ v.lexeme.toList.dropLast) ++ [v.lexeme.toList.getLast hne] := by
    rw [List.append_assoc, List.dropLast_concat_getLast, hfront]
  rw [pieces, List.append_assoc, List.singleton_append]
  exact tightenCaret_split (isBlank_of_lexeme hv _ last) fun h => caret (kind_of_caret hv (h ▸ last))

/-- Whether nothing but a closing bracket or the end of the line follows. -/
def ends : List Token → Bool
  | [] => true
  | t :: _ => t.kind == .bracketClose || t.kind == .endOfLine

/-- Blanks are taken out before a caret that another blank follows. -/
theorem isSome_afterCaret?_snug {t : Token} {ts : List Token} (formed : ∀ u ∈ t :: ts, u.Formed) :
    (afterCaret? (snug (t :: ts))).isSome = true ↔ t.kind = .caret ∧ ends (ts ++ [closing]) = false := by
  obtain ⟨ht, behind⟩ := List.forall_mem_cons.mp formed
  by_cases hk : t.kind = .caret
  · have text : t.lexeme.toList = ['^'] := eq_of_text? ht (by rw [hk]; rfl)
    cases ts with
    | nil =>
      rw [snug_single ht, text, afterCaret?_of_not_blank isBlank_caret]
      simp [ends, closing]
    | cons u us =>
      have inner : u.kind ≠ .endOfLine := (behind u (List.mem_cons_self ..)).kind_ne
      have next : Spelled (u :: us) (snug (u :: us)) := spelled_snug (List.cons_ne_nil u us) behind
      obtain ⟨c, rest, hcs, hc⟩ := next.exists_cons (behind u (List.mem_cons_self ..))
      rw [snug_cons formed, text, List.singleton_append, afterCaret?_of_not_blank isBlank_caret, hcs]
      by_cases close : u.kind = .bracketClose
      · simp [gap, ends, close, hc]
      · simp [gap, ends, hk, close, inner, isBlank_space]
  · have none : afterCaret? (snug (t :: ts)) = none := by
      rw [Option.eq_none_iff_forall_ne_some]
      intro rest found
      exact hk ((spelled_snug (List.cons_ne_nil t ts) formed).of_afterCaret? formed found).1
    simp [none, hk]

/-- A blank before a token stays, unless it is taken out with the one behind a caret. -/
theorem exists_tightenCaret_blank {t : Token} {ts : List Token} (formed : ∀ u ∈ t :: ts, u.Formed) : ∃ kept rest,
    tightenCaret (' ' :: snug (t :: ts)) = kept ++ (t.lexeme.toList ++ rest) ∧ (∀ c ∈ kept, isBlank c = true) ∧
      kept.length + (if t.kind = .caret ∧ ends (ts ++ [closing]) = false then 1 else 0) = 1 := by
  have spelled : Spelled (t :: ts) (snug (t :: ts)) := spelled_snug (List.cons_ne_nil t ts) formed
  have followed := isSome_afterCaret?_snug formed
  cases read : afterCaret? (snug (t :: ts)) with
  | some beyond =>
    rw [read] at followed
    refine ⟨[], tightenCaret beyond, ?_, by simp, by rw [if_pos (followed.mp rfl)]; rfl⟩
    obtain ⟨-, text, -⟩ := spelled.of_afterCaret? formed read
    rw [tightenCaret_of_some isBlank_space read, text]
    rfl
  | none =>
    rw [read] at followed
    obtain ⟨rest, hrest⟩ := (spelled_tightenCaret formed spelled).exists_append
    refine ⟨[' '], rest, ?_, List.forall_mem_singleton.mpr isBlank_space, ?_⟩
    · rw [tightenCaret_of_none isBlank_space read, hrest]
      rfl
    · rw [if_neg fun caret => Bool.noConfusion (followed.mpr caret)]
      rfl

/-! ### Where a token stands -/

/-- The column where the token at a position stands in the line: its lexeme starts there, and nothing stands before it
    but the lexemes of the tokens before it, and white space. -/
def StandsAt (ts : List Token) (position column : Nat) : Prop :=
  ∃ t c, ts[position]? = some t ∧ t.lexeme.toList.head? = some c ∧ (line ts).toList[column]? = some c ∧
    solid ((line ts).toList.take column) = joined (ts.take position)

/-- How many blanks fewer stand before the second of two neighbours than where the line ends with the first and a blank is
    added. -/
def slipBetween (left right : Kind) (behind : List Token) : Nat :=
  if left = .bracketOpen ∨ right = .bracketClose then 1
  else if left = .caret then 2
  else if right = .caret ∧ ends behind = false then 1
  else 0

/-- By how many columns `column` goes too far. -/
def slip (ts : List Token) : Nat → Nat
  | 0 => 0
  | position + 1 =>
    match ts.drop position with
    | left :: right :: behind => slipBetween left.kind right.kind behind
    | _ => 0

theorem standsAt_iff {ts before behind : List Token} {t : Token} {front rest : List Char} {column : Nat}
    (ht : t.Formed) (hts : ts = before ++ t :: behind) (pieces : (line ts).toList = front ++ (t.lexeme.toList ++ rest))
    (same : solid front = joined before) : StandsAt ts before.length column ↔ column = front.length := by
  obtain ⟨c, l, hl, hc⟩ := ht.exists_cons
  have here : ts[before.length]? = some t := by simp [hts]
  have take : ts.take before.length = before := by simp [hts]
  rw [hl, List.cons_append] at pieces
  constructor
  · rintro ⟨u, d, hu, hd, there, passed⟩
    obtain rfl := Option.some.inj (here.symm.trans hu)
    obtain rfl : c = d := by simpa [hl] using hd
    obtain ⟨inside, hget⟩ := List.getElem?_eq_some_iff.mp there
    have split : (line ts).toList = (line ts).toList.take column ++ c :: (line ts).toList.drop (column + 1) := by
      rw [← hget, ← List.drop_eq_getElem_cons inside, List.take_append_drop]
    rw [take, ← same] at passed
    obtain ⟨equal, -⟩ := front_unique hc hc passed (split.symm.trans pieces)
    rw [← equal, List.length_take, Nat.min_eq_left inside.le]
  · rintro rfl
    exact ⟨t, c, here, by simp [hl], by simp [pieces], by simp [pieces, take, same]⟩

/-- A caret behind an operand has a blank before it while nothing is written behind it. -/
theorem tightenCaret_snug_caret {ts : List Token} {w v : Token} (formed : ∀ t ∈ ts ++ [w] ++ [v], t.Formed)
    (hw : w.kind.endsOperand = true) (hv : v.kind = .caret) :
    tightenCaret (snug (ts ++ [w] ++ [v])) = tightenCaret (snug (ts ++ [w])) ++ [' ', '^'] ∧
      ∀ cs : List Char, cs.dropWhile isBlank = cs → tightenCaret (snug (ts ++ [w] ++ [v]) ++ ' ' :: cs) =
        tightenCaret (snug (ts ++ [w])) ++ '^' :: tightenCaret cs := by
  have text : v.lexeme.toList = ['^'] := eq_of_text? (formed v (by simp)) (by rw [hv]; rfl)
  have cut (back : List Char) := @tightenCaret_snug_append ts w back (fun t ht => formed t (List.mem_append_left _ ht))
    fun hk => by simp [hk, Kind.endsOperand] at hw
  have pieces : snug (ts ++ [w] ++ [v]) = snug (ts ++ [w]) ++ [' ', '^'] := by
    have apart : gap w.kind v.kind = [' '] := if_neg (by
      rintro (hk | hk)
      · simp [hk, Kind.endsOperand] at hw
      · simp [hk] at hv)
    rw [snug_append formed, apart, snug_single (formed v (by simp)), text]
    rfl
  refine ⟨?_, fun cs hcs => ?_⟩
  · have alone : afterCaret? ['^'] = none := by simp [afterCaret?_of_not_blank isBlank_caret]
    rw [pieces, cut, tightenCaret_of_none isBlank_space alone, tightenCaret_of_not_blank isBlank_caret, tightenCaret]
  · have read : afterCaret? ('^' :: ' ' :: cs) = some cs := by
      rw [afterCaret?_of_not_blank isBlank_caret, if_pos ⟨rfl, isBlank_space⟩, List.tail_cons, hcs]
    rw [pieces, List.append_assoc, cut]
    exact congrArg _ (tightenCaret_of_some isBlank_space read)

theorem exists_front {before behind : List Token} {v t : Token} (formed : ∀ x ∈ before ++ [v] ++ t :: behind, x.Formed)
    (operand : v.kind = .caret → operandBefore false before = true) : ∃ front rest,
      (line (before ++ [v] ++ t :: behind ++ [closing])).toList = front ++ (t.lexeme.toList ++ rest) ∧
        solid front = joined (before ++ [v]) ∧
        front.length + slipBetween v.kind t.kind (behind ++ [closing]) = (line (before ++ [v])).length + 1 := by
  obtain ⟨formedFront, formedBack⟩ := List.forall_mem_append.mp formed
  have back : Spelled (t :: behind) (snug (t :: behind)) := spelled_snug (List.cons_ne_nil _ _) formedBack
  have ht : t.Formed := formedBack t (List.mem_cons_self ..)
  obtain ⟨rest, hrest⟩ := (spelled_tightenCaret formedBack back).exists_append
  have front : Spelled (before ++ [v]) (tightenCaret (snug (before ++ [v]))) :=
    spelled_tightenCaret formedFront (spelled_snug (by simp) formedFront)
  have same := front.solid_eq formedFront
  have length : (line (before ++ [v])).length = (tightenCaret (snug (before ++ [v]))).length := by
    rw [← String.length_toList, toList_line (by simp) formedFront]
  rw [toList_line_closing (by simp) formed, snug_append formed, length]
  by_cases tight : v.kind = .bracketOpen ∨ t.kind = .bracketClose
  · -- Nothing is written between the two.
    obtain ⟨c, l, hsnug, hc⟩ := back.exists_cons ht
    refine ⟨tightenCaret (snug (before ++ [v])), rest, ?_, same, by rw [slipBetween, if_pos tight]⟩
    rw [gap, if_pos tight, List.nil_append, tightenCaret_snug_append formedFront, hrest]
    rintro - d hd
    rw [hsnug] at hd
    cases hd
    exact hc
  rw [gap, if_neg tight, slipBetween, if_neg tight, List.singleton_append]
  by_cases hv : v.kind = .caret
  · -- The blank before the caret and the one behind it are taken out.
    obtain ⟨w, hw, ends⟩ := operandBefore_false_iff.mp (operand hv)
    obtain ⟨ts, rfl⟩ := List.getLast?_eq_some_iff.mp hw
    obtain ⟨alone, followed⟩ := tightenCaret_snug_caret formedFront ends hv
    refine ⟨tightenCaret (snug (ts ++ [w])) ++ ['^'], rest, ?_, ?_, ?_⟩
    · rw [followed _ (back.dropWhile_eq ht), hrest, List.append_assoc]
      rfl
    · rw [← same, alone]
      simp [solid, isBlank_space]
    · rw [if_pos hv, alone]
      simp
  obtain ⟨kept, rest, pieces, blank, length⟩ := exists_tightenCaret_blank formedBack
  refine ⟨tightenCaret (snug (before ++ [v])) ++ kept, rest, ?_, ?_, ?_⟩
  · rw [tightenCaret_snug_append formedFront fun hk => absurd hk hv, pieces, List.append_assoc]
  · rw [solid_append, same, solid_of_isBlank blank, List.append_nil]
  · rw [if_neg hv, List.length_append, Nat.add_assoc, length]

/-- The column that is found for a token goes too far by the blanks that are taken out before it. -/
theorem standsAt_iff_of_column {ts front behind : List Token} {t : Token}
    (whole : ts = front ++ t :: behind ++ [closing]) (formed : ∀ x ∈ front ++ t :: behind, x.Formed)
    (operand : ∀ {before v}, front = before ++ [v] → v.kind = .caret → operandBefore false before = true) (place : Nat) :
    StandsAt ts front.length place ↔ place + slip ts front.length = column ts front.length := by
  have ht : t.Formed := formed t (by simp)
  have hts : ts = front ++ t :: (behind ++ [closing]) := by simp [whole]
  rcases List.eq_nil_or_concat' front with rfl | ⟨before, v, rfl⟩
  · have spelled := spelled_tightenCaret formed (spelled_snug (List.cons_ne_nil _ _) formed)
    obtain ⟨rest, hrest⟩ := spelled.exists_append
    rw [whole] at hts ⊢
    rw [@standsAt_iff _ [] _ _ [] _ _ ht hts ((toList_line_closing (List.cons_ne_nil _ _) formed).trans hrest) rfl]
    rfl
  · obtain ⟨front, rest, pieces, same, length⟩ := exists_front formed (operand rfl)
    have drop : slip ts (before ++ [v]).length = slipBetween v.kind t.kind (behind ++ [closing]) := by
      simp [hts, slip]
    have take : column ts (before ++ [v]).length = (line (before ++ [v])).length + 1 := by
      have before : ts.take (before ++ [v]).length = before ++ [v] := by
        rw [hts]
        exact List.take_left' rfl
      rw [column, before]
      split
      · rename_i none
        simp at none
      · rfl
    rw [standsAt_iff ht hts (whole ▸ pieces) same, drop, take, ← length, Nat.add_right_cancel_iff]

end Calculator.Token
