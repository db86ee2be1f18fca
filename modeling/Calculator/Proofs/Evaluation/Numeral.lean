import Calculator.Proofs.Evaluation.Literal
import Mathlib.Data.List.Induction
import Mathlib.Data.Nat.Digits.Defs

/-! Integer literals against the integers that they spell in decimal places. A literal has the integer that it spells as
    its value, as far as the range allows; and the literals that are refused for the number of their digits alone spell
    integers out of range (`not_inRange_of_significant`). -/

namespace Calculator

/-- What a digit counts in the last place. -/
def digitValue (c : Char) : Nat := c.toNat - '0'.toNat

/-- The number that digits spell: each counts ten times as much as in the place behind it. -/
def placeValue (digits : List Char) : Nat := Nat.ofDigits 10 (digits.reverse.map digitValue)

/-- The integer that digits behind a sign spell, which may be missing. -/
def spelledInteger (sign digits : List Char) : Int := if sign = ['-'] then -(placeValue digits : Int) else placeValue digits

/-! ### Places -/

theorem placeValue_append_single (digits : List Char) (c : Char) :
    placeValue (digits ++ [c]) = 10 * placeValue digits + digitValue c := by
  rw [placeValue, List.reverse_append, List.reverse_singleton, List.singleton_append, List.map_cons, Nat.ofDigits_cons,
    Nat.add_comm, placeValue]

theorem ofDigitChars_eq_placeValue (digits : List Char) : Nat.ofDigitChars 10 digits 0 = placeValue digits := by
  induction digits using List.reverseRecOn with
  | nil => rfl
  | append_singleton digits c ih =>
    rw [placeValue_append_single, Nat.ofDigitChars_append, ih, Nat.ofDigitChars_cons, Nat.ofDigitChars_nil, digitValue]

theorem placeValue_cons (c : Char) (digits : List Char) :
    placeValue (c :: digits) = 10 ^ digits.length * digitValue c + placeValue digits := by
  rw [← ofDigitChars_eq_placeValue, ← ofDigitChars_eq_placeValue, Nat.ofDigitChars_cons,
    Nat.ofDigitChars_eq_ofDigitChars_zero, Nat.mul_zero, Nat.zero_add, digitValue]

theorem placeValue_dropWhile_zero (digits : List Char) : placeValue (digits.dropWhile (· == '0')) = placeValue digits := by
  rw [← ofDigitChars_eq_placeValue, ofDigitChars_dropWhile_zero, ofDigitChars_eq_placeValue]

/-- Zeros in front do not count. -/
theorem placeValue_zeros (n : Nat) (digits : List Char) : placeValue (List.replicate n '0' ++ digits) = placeValue digits := by
  rw [← placeValue_dropWhile_zero, List.dropWhile_append_of_pos (by simp), placeValue_dropWhile_zero]

theorem digitValue_pos {c : Char} (digit : c.isDigit = true) (nonzero : c ≠ '0') : 1 ≤ digitValue c := by
  obtain ⟨least, -⟩ := Char.isDigit_iff_toNat.mp digit
  have other : c.toNat ≠ '0'.toNat := fun same => nonzero (Char.toNat_inj.mp same)
  change '0'.toNat ≤ c.toNat at least
  rw [digitValue]
  omega

/-- A number whose first digit counts is at least the power of ten of its place. -/
theorem pow_le_placeValue {digits : List Char} {n : Nat} (hd : ∀ c ∈ digits, c.isDigit = true)
    (h : n < (digits.dropWhile (· == '0')).length) : 10 ^ n ≤ placeValue digits := by
  rw [← placeValue_dropWhile_zero]
  cases hsig : digits.dropWhile (· == '0') with
  | nil => simp [hsig] at h
  | cons c more =>
    have digit : c.isDigit = true := hd c ((List.dropWhile_sublist _).subset (hsig ▸ List.mem_cons_self ..))
    have nonzero : c ≠ '0' := by simpa [hsig] using List.head?_dropWhile_not (· == '0') digits
    rw [hsig, List.length_cons] at h
    calc 10 ^ n ≤ 10 ^ more.length := Nat.pow_le_pow_right (by decide) (by omega)
      _ ≤ 10 ^ more.length * digitValue c := Nat.le_mul_of_pos_right _ (digitValue_pos digit nonzero)
      _ ≤ placeValue (c :: more) := by
        rw [placeValue_cons]
        exact Nat.le_add_right _ _

/-! ### Literals -/

section
variable {sign digits : List Char} (hs : sign = [] ∨ sign = ['-']) (hd : Digits digits)
include hd

/-- What has more digits that count than the greatest integer is out of range. -/
theorem not_inRange_of_significant (far : integerDigits < (digits.dropWhile (· == '0')).length) :
    ¬InRange (spelledInteger sign digits) := by
  have large : 10 ^ 39 ≤ placeValue digits := pow_le_placeValue hd.2 far
  rintro ⟨least, greatest⟩
  change -2 ^ 127 ≤ spelledInteger sign digits at least
  change spelledInteger sign digits ≤ 2 ^ 127 - 1 at greatest
  rw [spelledInteger] at least greatest
  by_cases negative : sign = ['-']
  · rw [if_pos negative] at least
    omega
  · rw [if_neg negative] at greatest
    omega

include hs

/-- A literal has the integer that it spells as its value, if that is in range. -/
theorem integerLiteral_eq_ofExact :
    integerLiteral (String.ofList (sign ++ digits)) = .ok (.ofExact (spelledInteger sign digits)) := by
  rw [integerLiteral_of_digits hs hd String.toList_ofList, ofDigitChars_eq_placeValue]
  split
  · rename_i far
    rw [Value.ofExact, if_neg (not_inRange_of_significant hd far)]
  · rfl

end

/-- How the literal of a sign and digits is evaluated. -/
structure SpellsInteger (sign digits : List Char) : Prop where
  value : integerLiteral (String.ofList (sign ++ digits)) = .ok (
    if -2 ^ 127 ≤ spelledInteger sign digits ∧ spelledInteger sign digits ≤ 2 ^ 127 - 1 then
      .integer (spelledInteger sign digits)
    else .error .integerOverflow)
  /-- The literals that are refused without being read spell integers out of range. -/
  far : integerDigits < (digits.dropWhile (· == '0')).length → ¬InRange (spelledInteger sign digits)
  zeros : ∀ n, integerLiteral (String.ofList (sign ++ (List.replicate n '0' ++ digits))) =
    integerLiteral (String.ofList (sign ++ digits))
  least : spelledInteger sign digits = -2 ^ 127 →
    integerLiteral (String.ofList (sign ++ digits)) = .ok (.integer (-2 ^ 127))
  beyond : spelledInteger sign digits = 2 ^ 127 →
    integerLiteral (String.ofList (sign ++ digits)) = .ok (.error .integerOverflow)
  zero : (∀ c ∈ digits, c = '0') → integerLiteral (String.ofList (sign ++ digits)) = .ok (.integer 0)

theorem spellsInteger_of_digits {sign digits : List Char} (hs : sign = [] ∨ sign = ['-']) (hd : Digits digits) :
    SpellsInteger sign digits := by
  have value := integerLiteral_eq_ofExact hs hd
  refine ⟨value, not_inRange_of_significant hd, fun n => ?_, fun least => ?_, fun beyond => ?_, fun zero => ?_⟩
  · have zeros : Digits (List.replicate n '0' ++ digits) := by
      refine ⟨by simp [hd.1], List.forall_mem_append.mpr ⟨fun c hc => ?_, hd.2⟩⟩
      rw [List.eq_of_mem_replicate hc]
      rfl
    rw [value, integerLiteral_eq_ofExact hs zeros, spelledInteger, placeValue_zeros, spelledInteger]
  · rw [value, least]
    decide
  · rw [value, beyond]
    decide
  · have none : spelledInteger sign digits = 0 := by
      have : placeValue digits = 0 := by
        rw [← placeValue_dropWhile_zero, List.dropWhile_eq_nil_iff.mpr (by simpa using zero)]
        rfl
      simp [spelledInteger, this]
    rw [value, none]
    decide

/-- The least integer, with zeros in front. -/
theorem spellsInteger_of_digits_of_least :
    let digits := "000170141183460469231731687303715884105728".toList
    Digits digits ∧ spelledInteger ['-'] digits = leastInteger ∧ SpellsInteger ['-'] digits := by
  intro digits
  have hd : Digits digits := ⟨by decide, List.all_eq_true.mp (by decide)⟩
  exact ⟨hd, by decide, spellsInteger_of_digits (Or.inr rfl) hd⟩

end Calculator
