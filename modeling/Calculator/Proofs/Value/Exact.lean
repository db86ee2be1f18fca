import Calculator.Proofs.Value.Storable
import Mathlib.Data.Rat.Floor

/-! Operators on integers against exact arithmetic. Wherever two integers have an exact result, an operator gives it if
    it is in range, and an overflow if it is not (`Value.integers_eq_ofExact`). Of all quotients in range only one is an
    overflow, and no remainder is. -/

namespace Calculator

/-- A rational number without its fraction: the next integer on the side of zero. -/
def truncated (x : ℚ) : Int := if 0 ≤ x then ⌊x⌋ else ⌈x⌉

/-- The exact result of an operator on two integers, if it is an integer. A remainder is what the truncated quotient
    leaves. -/
def Operator.exactResult? (op : Operator) (a b : Int) : Option Int :=
  match op with
  | .add => some (a + b)
  | .sub => some (a - b)
  | .mul => some (a * b)
  | .div => if b = 0 then none else some (truncated (a / b))
  | .rem => if b = 0 then none else some (a - b * truncated (a / b))
  | .pow => if b < 0 then none else some (a ^ b.toNat)

theorem truncated_div (a b : Int) : truncated (a / b) = a.tdiv b := by
  -- A divisor below zero is made positive first: quotients by natural numbers have their floor in the library.
  have natural : ∀ (c : Int) (n : Nat), truncated (c / n) = c.tdiv n := by
    intro c n
    have sign : (0 : ℚ) ≤ c / n ↔ 0 ≤ c ∨ n = 0 := by
      rcases Nat.eq_zero_or_pos n with rfl | pos
      · simp
      · rw [le_div_iff₀ (Nat.cast_pos.mpr pos), zero_mul, Int.cast_nonneg_iff]
        simp [Nat.ne_of_gt pos]
    rw [truncated]
    split
    · rename_i h
      rw [Rat.floor_intCast_div_natCast]
      rcases sign.mp h with nonneg | rfl
      · rw [Int.tdiv_eq_ediv_of_nonneg nonneg]
      · simp
    · rename_i h
      have neg : ¬0 ≤ c := fun nonneg => h (sign.mpr (Or.inl nonneg))
      rw [Rat.ceil_intCast_div_natCast, ← Int.tdiv_eq_ediv_of_nonneg (show 0 ≤ -c by omega), Int.neg_tdiv, Int.neg_neg]
  obtain ⟨n, rfl | rfl⟩ := b.eq_nat_or_neg
  · exact natural a n
  · have same : (a : ℚ) / ((-n : Int) : ℚ) = ((-a : Int) : ℚ) / n := by
      push_cast
      rw [div_neg, neg_div]
    rw [same, natural, Int.neg_tdiv, Int.tdiv_neg]

/-! ### The range -/

theorem natAbs_le_of_inRange {v : Int} (h : InRange v) : v.natAbs ≤ 2 ^ 127 := by
  obtain ⟨least, greatest⟩ := h
  change -2 ^ 127 ≤ v at least
  change v ≤ 2 ^ 127 - 1 at greatest
  omega

theorem inRange_of_natAbs_lt {v : Int} (h : v.natAbs < 2 ^ 127) : InRange v := by
  constructor
  · change -2 ^ 127 ≤ v
    omega
  · change v ≤ 2 ^ 127 - 1
    omega

theorem not_inRange_pow {a : Int} (h : 1 < a.natAbs) {n : Nat} (hn : 127 < n) : ¬InRange (a ^ n) := by
  intro inRange
  have large : 2 ^ 128 ≤ (a ^ n).natAbs := calc
    2 ^ 128 ≤ a.natAbs ^ 128 := Nat.pow_le_pow_left h 128
    _ ≤ a.natAbs ^ n := Nat.pow_le_pow_right (by omega) hn
    _ = (a ^ n).natAbs := (Int.natAbs_pow a n).symm
  have small := natAbs_le_of_inRange inRange
  omega

theorem not_inRange_tdiv_iff {a b : Int} (ha : InRange a) (hb : b ≠ 0) :
    ¬InRange (a.tdiv b) ↔ a = leastInteger ∧ b = -1 := by
  constructor
  · intro outside
    have small := natAbs_le_of_inRange ha
    have large : 2 ^ 127 ≤ a.natAbs / b.natAbs := by
      have := mt inRange_of_natAbs_lt outside
      rw [Int.natAbs_tdiv] at this
      exact Nat.le_of_not_lt this
    -- The quotient is as large as the dividend can be, so the divisor is a unit.
    have unit : b.natAbs = 1 := by
      have two : ¬2 ≤ b.natAbs := fun two => by
        have := Nat.div_le_div_left two (show 0 < 2 by decide) (a := a.natAbs)
        omega
      omega
    obtain rfl | rfl : b = 1 ∨ b = -1 := by omega
    · rw [Int.tdiv_one] at outside
      exact absurd ha outside
    · refine ⟨?_, rfl⟩
      have least : a.natAbs = 2 ^ 127 := by
        rw [unit, Nat.div_one] at large
        omega
      obtain ⟨-, greatest⟩ := ha
      change a ≤ 2 ^ 127 - 1 at greatest
      change a = -2 ^ 127
      omega
  · rintro ⟨rfl, rfl⟩
    decide

theorem inRange_tmod {a b : Int} (hb : InRange b) (nonzero : b ≠ 0) : InRange (a.tmod b) := by
  refine inRange_of_natAbs_lt ?_
  rw [Int.natAbs_tmod]
  exact Nat.lt_of_lt_of_le (Nat.mod_lt _ (Int.natAbs_pos.mpr nonzero)) (natAbs_le_of_inRange hb)

/-! ### Operators -/

namespace Value

theorem unitPower_eq_pow {a : Int} (h : a.natAbs ≤ 1) (n : Nat) : unitPower a n = a ^ n := by
  rw [unitPower]
  split
  · rename_i zero
    rw [zero, pow_zero]
  · rename_i pos
    obtain rfl | rfl | rfl : a = -1 ∨ a = 0 ∨ a = 1 := by omega
    · split
      · rename_i even
        rw [(Nat.even_iff.mpr even).neg_one_pow]
        rfl
      · rename_i odd
        rw [(Nat.odd_iff.mpr (Nat.mod_two_ne_zero.mp odd)).neg_one_pow]
    · simp [zero_pow pos]
    · simp

theorem integerPower_of_nonneg (a : Int) {b : Int} (h : 0 ≤ b) : integerPower a b = .ok (ofExact (a ^ b.toNat)) := by
  rw [integerPower, if_neg (Int.not_lt.mpr h)]
  by_cases unit : a.natAbs ≤ 1
  · rw [if_pos unit, ofExact, ← unitPower_eq_pow unit, if_pos (inRange_unitPower unit _)]
  · rw [if_neg unit]
    by_cases far : 127 < b
    · rw [if_pos far, ofExact, if_neg (not_inRange_pow (by omega) (by omega))]
    · rw [if_neg far]
      rfl

/-- An operator gives the exact result as far as the range allows. -/
theorem integers_eq_ofExact {op : Operator} {a b r : Int} (h : op.exactResult? a b = some r) :
    integers op a b = .ok (ofExact r) := by
  cases op with
  | add | sub | mul =>
    cases h
    rfl
  | div =>
    rw [Operator.exactResult?, Option.ite_none_left_eq_some] at h
    obtain ⟨nonzero, same⟩ := h
    rw [integers, if_neg nonzero, ← truncated_div, Option.some.inj same]
  | rem =>
    rw [Operator.exactResult?, Option.ite_none_left_eq_some] at h
    obtain ⟨nonzero, same⟩ := h
    rw [integers, if_neg nonzero, Int.tmod_def, ← truncated_div, Option.some.inj same]
  | pow =>
    rw [Operator.exactResult?, Option.ite_none_left_eq_some] at h
    obtain ⟨nonneg, same⟩ := h
    rw [integers, integerPower_of_nonneg a (Int.not_lt.mp nonneg), Option.some.inj same]

/-- A remainder is smaller than its divisor, and so it is in range. -/
theorem integers_rem {a b : Int} (hb : InRange b) (nonzero : b ≠ 0) :
    integers .rem a b = .ok (.integer (a.tmod b)) := by
  rw [integers, if_neg nonzero, ofExact, if_pos (inRange_tmod hb nonzero)]

/-- Nothing that stops an operation is told as an integer out of range. -/
theorem ofAttempt_eq_integerOverflow_iff (attempt : Except Raised Value) :
    ofAttempt attempt = .error .integerOverflow ↔ attempt = .ok (.error .integerOverflow) := by
  cases attempt with
  | ok v => simp [ofAttempt]
  | error raised => cases raised <;> simp [ofAttempt, Raised.failure]

theorem integers_div_eq_overflow_iff {a b : Int} (ha : InRange a) :
    integers .div a b = .ok (.error .integerOverflow) ↔ a = leastInteger ∧ b = -1 := by
  rw [integers]
  split
  · rename_i zero
    simp [zero]
  · rename_i nonzero
    rw [← not_inRange_tdiv_iff ha nonzero, ofExact]
    split <;> simp_all

end Value

theorem Operator.apply_integers_of_ok {op : Operator} {a b : Int} {v : Value} (h : Value.integers op a b = .ok v) :
    op.apply (.integer a) (.integer b) = v :=
  congrArg Value.ofAttempt h

theorem Operator.apply_integers_eq_overflow_iff (op : Operator) (a b : Int) :
    op.apply (.integer a) (.integer b) = .error .integerOverflow ↔
      Value.integers op a b = .ok (.error .integerOverflow) :=
  Value.ofAttempt_eq_integerOverflow_iff _

theorem Operator.exactResult?_eq_none_iff {op : Operator} {a b : Int} :
    op.exactResult? a b = none ↔ (op = .div ∨ op = .rem) ∧ b = 0 ∨ op = .pow ∧ b < 0 := by
  cases op <;> simp [exactResult?]

/-- How operators on two integers follow exact arithmetic. -/
structure ExactOn (a b : Int) : Prop where
  apply : ∀ op r, Operator.exactResult? op a b = some r →
    op.apply (.integer a) (.integer b) = if InRange r then .integer r else .error .integerOverflow
  defined : ∀ op, Operator.exactResult? op a b = none ↔ (op = .div ∨ op = .rem) ∧ b = 0 ∨ op = .pow ∧ b < 0
  /-- The powers that are refused without being taken are out of range. -/
  far : 1 < a.natAbs → 127 < b → ¬InRange (a ^ b.toNat)
  quotient : Operator.div.apply (.integer a) (.integer b) = .error .integerOverflow ↔ a = -2 ^ 127 ∧ b = -1
  remainder : Operator.rem.apply (.integer a) (.integer b) ≠ .error .integerOverflow
  division : b ≠ 0 → ∃ r, Operator.rem.apply (.integer a) (.integer b) = .integer r ∧
    a = truncated (a / b) * b + r ∧ |r| < |b| ∧ (r = 0 ∨ r.sign = a.sign)

/-- Operators on two integers in range give the exact results, as far as these are in range. -/
theorem exactOn_of_inRange {a b : Int} (ha : InRange a) (hb : InRange b) : ExactOn a b where
  apply := fun op r h => Operator.apply_integers_of_ok (Value.integers_eq_ofExact h)
  defined := fun op => Operator.exactResult?_eq_none_iff
  far := fun base exponent => not_inRange_pow base (by omega)
  quotient := (Operator.apply_integers_eq_overflow_iff .div a b).trans (Value.integers_div_eq_overflow_iff ha)
  remainder := by
    rw [ne_eq, Operator.apply_integers_eq_overflow_iff]
    by_cases zero : b = 0
    · simp [Value.integers, zero]
    · rw [Value.integers_rem hb zero]
      simp
  division := by
    intro nonzero
    refine ⟨a.tmod b, Operator.apply_integers_of_ok (Value.integers_rem hb nonzero), ?_, ?_, ?_⟩
    · rw [truncated_div, Int.mul_comm, Int.add_comm, Int.tmod_add_mul_tdiv]
    · rw [Int.abs_eq_natAbs, Int.abs_eq_natAbs, Int.natAbs_tmod]
      exact_mod_cast Nat.mod_lt _ (Int.natAbs_pos.mpr nonzero)
    · by_cases dvd : b ∣ a
      · exact Or.inl (Int.tmod_eq_zero_of_dvd dvd)
      · exact Or.inr (by rw [Int.sign_tmod, if_neg dvd])

/-- The least integer divided by minus one. -/
theorem exactOn_of_inRange_of_least :
    InRange leastInteger ∧ InRange (-1) ∧ ExactOn leastInteger (-1) :=
  ⟨by decide, by decide, exactOn_of_inRange (by decide) (by decide)⟩

end Calculator
