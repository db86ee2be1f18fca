import Calculator.Text.Blank
import Calculator.Text.Name

/-! The classes of characters apart. White space never starts a name and never goes on one, and neither do the
    characters of operators and brackets; a digit goes on a name but starts none. -/

namespace Calculator

namespace CharClass

theorem mem_of_covers {ranges : List (Nat × Nat)} {n : Nat} (h : covers ranges n = true) :
    ∃ r ∈ ranges, r.1 ≤ n ∧ n ≤ r.2 := by
  induction ranges with
  | nil => cases h
  | cons r ranges ih =>
    rw [covers] at h
    split at h
    · rename_i hle
      exact ⟨r, List.mem_cons_self .., by simpa using h, hle⟩
    · obtain ⟨r', hr', hn⟩ := ih h
      exact ⟨r', List.mem_cons_of_mem _ hr', hn⟩

/-- Whether no code point of some ranges is covered by other ranges. -/
def apart (ranges others : List (Nat × Nat)) : Bool :=
  ranges.all fun r => (List.range' r.1 (r.2 + 1 - r.1)).all fun n => !covers others n

theorem covers_of_apart {ranges others : List (Nat × Nat)} (h : apart ranges others = true) {n : Nat}
    (hn : covers ranges n = true) : covers others n = false := by
  obtain ⟨r, hr, h1, h2⟩ := mem_of_covers hn
  have hmem : n ∈ List.range' r.1 (r.2 + 1 - r.1) := List.mem_range'_1.mpr (by omega)
  simpa using List.all_eq_true.mp (List.all_eq_true.mp h r hr) n hmem

theorem has_of_apart {k k' : CharClass} (h : apart k.ranges k'.ranges = true) {c : Char} (hc : k.has c = true) :
    k'.has c = false :=
  covers_of_apart h hc

end CharClass

theorem ne_of_has {p : Char → Bool} {c d : Char} (h : p c = true) (hd : p d = false) : c ≠ d := by
  rintro rfl
  rw [h] at hd
  cases hd

/-! ### White space -/

theorem isLetter_of_isBlank {c : Char} (h : isBlank c = true) : isLetter c = false :=
  CharClass.has_of_apart (by decide +kernel) h

theorem continuesName_of_isBlank {c : Char} (h : isBlank c = true) : continuesName c = false := by
  have joiner : CharClass.joiner.has c = false := CharClass.has_of_apart (by decide +kernel) h
  rw [continuesName, joiner, isLetter_of_isBlank h]
  rfl

theorem startsName_of_isBlank {c : Char} (h : isBlank c = true) : startsName c = false := by
  have underscore : c ≠ '_' := ne_of_has h (by decide)
  simp [startsName, isLetter_of_isBlank h, underscore]

/-! ### Digits -/

theorem continuesName_of_isDigit {c : Char} (h : c.isDigit = true) : continuesName c = true := by
  obtain ⟨h1, h2⟩ := Char.isDigit_iff_toNat.mp h
  have : CharClass.joiner.has c = true := by
    rw [CharClass.has, CharClass.joiner, CharClass.covers, if_pos (show c.toNat ≤ 0x39 from h2)]
    simpa using h1
  rw [continuesName, this]
  rfl

theorem startsName_of_isDigit {c : Char} (h : c.isDigit = true) : startsName c = false := by
  obtain ⟨-, h2⟩ := Char.isDigit_iff_toNat.mp h
  have h2 : c.toNat ≤ 0x39 := h2
  have letter : isLetter c = false := by
    rw [isLetter, CharClass.has, CharClass.letter, CharClass.covers, if_pos (by omega)]
    simp only [decide_eq_false_iff_not, Nat.not_le]
    omega
  have underscore : c ≠ '_' := ne_of_has h rfl
  simp [startsName, letter, underscore]

/-! ### Characters of a lexeme are not blank -/

theorem isBlank_of_continuesName {c : Char} (h : continuesName c = true) : isBlank c = false := by
  rw [← Bool.not_eq_true]
  intro hb
  rw [continuesName_of_isBlank hb] at h
  contradiction

theorem isBlank_of_startsName {c : Char} (h : startsName c = true) : isBlank c = false := by
  rw [← Bool.not_eq_true]
  intro hb
  rw [startsName_of_isBlank hb] at h
  contradiction

theorem isBlank_of_isDigit {c : Char} (h : c.isDigit = true) : isBlank c = false :=
  isBlank_of_continuesName (continuesName_of_isDigit h)

end Calculator
