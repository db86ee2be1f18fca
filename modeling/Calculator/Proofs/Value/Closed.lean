import Calculator.Proofs.Number.Sign
import Calculator.Proofs.Value.Exact

/-! What an operator gives for any two values. The values fall into few cases, and each of them has few outcomes
    (`Operator.closed`). Divisions by zero are told from the operands alone, and widening an integer to a floating-point
    number changes neither whether it is zero nor whether it is negative. Only an integer far out of range is too great to
    be widened (`Value.not_tooGreat_of_inRange`). -/

namespace Calculator

namespace Value

/-- Whether a value is a number that equals zero. -/
def isZero : Value → Bool
  | integer v => v == 0
  | float x => x == 0
  | _ => false

/-- Whether a value is a number below zero. -/
def isNegative : Value → Bool
  | integer v => decide (v < 0)
  | float x => decide (x < 0)
  | _ => false

/-- A value, with an integer widened to a floating-point number. -/
def widened : Value → Value
  | integer v => float (widen v)
  | v => v

/-- A value is an integer that is too great for a floating-point number. -/
def TooGreat (v : Value) : Prop := ∃ n, v = .integer n ∧ wideningLimit ≤ n.natAbs

theorem widen?_of_not_tooGreat {n : Int} (h : ¬(integer n).TooGreat) : widen? n = .ok (widen n) :=
  if_pos (Nat.lt_of_not_le fun great => h ⟨n, rfl, great⟩)

theorem widen?_of_tooGreat {n : Int} (h : (integer n).TooGreat) : ∃ words, widen? n = .error (.overflow words) := by
  obtain ⟨_, ⟨⟩, great⟩ := h
  exact ⟨_, if_neg (Nat.not_lt.mpr great)⟩

theorem not_tooGreat_float (x : Float) : ¬(float x).TooGreat := by
  rintro ⟨_, ⟨⟩, -⟩

theorem not_tooGreat_of_inRange {n : Int} (h : InRange n) : ¬(integer n).TooGreat := by
  rintro ⟨_, ⟨⟩, great⟩
  have limit : 2 ^ 127 < wideningLimit := by decide +kernel
  exact Nat.not_le_of_lt limit (Nat.le_trans great (natAbs_le_of_inRange h))

theorem isZero_widened (v : Value) : v.widened.isZero = v.isZero := by
  cases v with
  | integer v => exact widen_beq_zero v
  | _ => rfl

theorem isNegative_widened (v : Value) : v.widened.isNegative = v.isNegative := by
  cases v with
  | integer v => exact decide_eq_decide.mpr (widen_lt_zero_iff v)
  | _ => rfl

end Value

/-- A quotient or a remainder by zero, or a negative power of zero. -/
def Operator.DividesByZero (op : Operator) (a b : Value) : Prop :=
  (op = .div ∨ op = .rem) ∧ b.isZero = true ∨ op = .pow ∧ a.isZero = true ∧ b.isNegative = true

theorem Operator.dividesByZero_widened (op : Operator) (a b : Value) :
    op.DividesByZero a.widened b.widened ↔ op.DividesByZero a b := by
  simp only [DividesByZero, Value.isZero_widened, Value.isNegative_widened]

/-- Whether an operator widens the integers among two numbers: one of the two is no integer, or the operator is a power
    that is negative. -/
def Operator.Widens (op : Operator) (a b : Value) : Prop :=
  (∃ z, a = .float z ∨ b = .float z) ∨ op = .pow ∧ b.isNegative = true

/-- An integer that an operator widens is too great for that. -/
def Operator.Overflows (op : Operator) (a b : Value) : Prop := op.Widens a b ∧ (a.TooGreat ∨ b.TooGreat)

namespace Value

/-! ### Operators on integers -/

theorem negativePower_eq {a b : Int} (ha : ¬(integer a).TooGreat) (hb : ¬(integer b).TooGreat) :
    negativePower a b = if a = 0 then .error .zeroDivision else .ok (.float (Float.pow (widen a) (widen b))) := by
  rw [negativePower, widen?_of_not_tooGreat ha, widen?_of_not_tooGreat hb]
  rfl

theorem negativePower_of_tooGreat {a b : Int} (h : (integer a).TooGreat ∨ (integer b).TooGreat) :
    ∃ words, negativePower a b = .error (.overflow words) := by
  by_cases ha : (integer a).TooGreat
  · obtain ⟨words, stopped⟩ := widen?_of_tooGreat ha
    rw [negativePower, stopped]
    exact ⟨words, rfl⟩
  · obtain ⟨words, stopped⟩ := widen?_of_tooGreat (h.resolve_left ha)
    rw [negativePower, widen?_of_not_tooGreat ha, stopped]
    exact ⟨words, rfl⟩

theorem exists_value_of_nonneg (a : Int) {b : Int} (h : ¬b < 0) : ∃ v, integerPower a b = .ok v :=
  ⟨_, integerPower_of_nonneg a (Int.not_lt.mp h)⟩

/-- Where no integer is too great, an operator on two of them is stopped by a division by zero only. -/
theorem integers_cases {op : Operator} {a b : Int} (fits : ¬op.Overflows (.integer a) (.integer b)) :
    integers op a b = .error .zeroDivision ∧ op.DividesByZero (.integer a) (.integer b) ∨
      (∃ v, integers op a b = .ok v) ∧ ¬op.DividesByZero (.integer a) (.integer b) := by
  cases op with
  | add | sub | mul => exact Or.inr ⟨⟨_, rfl⟩, by simp [Operator.DividesByZero]⟩
  | div | rem =>
    rw [integers]
    split
    · rename_i zero
      exact Or.inl ⟨rfl, Or.inl ⟨by simp, beq_iff_eq.mpr zero⟩⟩
    · rename_i nonzero
      exact Or.inr ⟨⟨_, rfl⟩, by simpa [Operator.DividesByZero, isZero] using nonzero⟩
  | pow =>
    rw [integers]
    by_cases negative : b < 0
    · have widens : Operator.pow.Widens (.integer a) (.integer b) := Or.inr ⟨rfl, decide_eq_true negative⟩
      rw [integerPower, if_pos negative,
        negativePower_eq (fun great => fits ⟨widens, Or.inl great⟩) (fun great => fits ⟨widens, Or.inr great⟩)]
      split
      · rename_i zero
        exact Or.inl ⟨rfl, Or.inr ⟨rfl, beq_iff_eq.mpr zero, decide_eq_true negative⟩⟩
      · rename_i nonzero
        exact Or.inr ⟨⟨_, rfl⟩, by simp [Operator.DividesByZero, isZero, nonzero]⟩
    · exact Or.inr ⟨exists_value_of_nonneg a negative, by simp [Operator.DividesByZero, isNegative, negative]⟩

/-! ### Operators on floating-point numbers -/

theorem floatRemainder_ne_zeroDivision (x y : Float) : floatRemainder x y ≠ .error .zeroDivision := by
  rw [floatRemainder]
  split
  · rintro ⟨⟩
  · split
    · rintro ⟨⟩
    · split <;> rintro ⟨⟩

theorem floatPower_ne_zeroDivision (x y : Float) : floatPower x y ≠ .error .zeroDivision := by
  rw [floatPower]
  split
  · split
    · rintro ⟨⟩
    · split <;> rintro ⟨⟩
  · rintro ⟨⟩

theorem floats_eq_zeroDivision_iff {op : Operator} {x y : Float} :
    floats op x y = .error .zeroDivision ↔ op.DividesByZero (.float x) (.float y) := by
  cases op with
  | add | sub | mul => simp [floats, Operator.DividesByZero]
  | div =>
    rw [floats]
    split <;> simp_all [Operator.DividesByZero, isZero]
  | rem =>
    rw [floats]
    split <;> simp_all [Operator.DividesByZero, isZero, floatRemainder_ne_zeroDivision]
  | pow =>
    rw [floats]
    split <;> simp_all [Operator.DividesByZero, isZero, isNegative, floatPower_ne_zeroDivision]

/-- An attempt that makes floating-point numbers, and is not stopped by a division by zero. -/
theorem ofFloats_ofAttempt {attempt : Except Raised Value} (made : ∀ v, attempt = .ok v → ∃ r, v = .float r)
    (other : attempt ≠ .error .zeroDivision) : (ofAttempt attempt).OfFloats := by
  cases attempt with
  | ok v =>
    obtain ⟨r, rfl⟩ := made v rfl
    exact .float r
  | error raised =>
    cases raised with
    | zeroDivision => exact absurd rfl other
    | overflow words => exact .overflow ⟨_, rfl, rfl⟩
    | domain words => exact .outsideDomain ⟨_, rfl, rfl⟩

/-- An attempt that makes numbers or integer overflows is told as a division by zero only where it is stopped by one. -/
theorem ofAttempt_zeroDivision_iff {attempt : Except Raised Value}
    (made : ∀ v, attempt = .ok v → v.OfIntegers ∨ ∃ r, v = .float r) :
    (ofAttempt attempt).FailsWith "division by zero" ↔ attempt = .error .zeroDivision := by
  constructor
  · rintro ⟨cause, failed, words⟩
    cases attempt with
    | ok v =>
      rcases made v rfl with integers | ⟨r, rfl⟩
      · cases integers with
        | integer => cases failed
        | overflow other =>
          obtain ⟨other, rfl, words'⟩ := other
          cases failed
          exact absurd (words.symm.trans words') (by decide)
      · cases failed
    | error raised =>
      cases failed
      cases raised with
      | zeroDivision => rfl
      | overflow => exact absurd words (show ¬"numeric overflow" = "division by zero" by decide)
      | domain => exact absurd words (show ¬"math domain error" = "division by zero" by decide)
  · rintro rfl
    exact ⟨_, rfl, rfl⟩

/-- Two numbers are two integers, or one of them is a floating-point number. -/
theorem integers_or_float {a b : Value} (ha : a.isNumeric = true) (hb : b.isNumeric = true) :
    (∃ x y, a = .integer x ∧ b = .integer y) ∨ ∃ z, a = .float z ∨ b = .float z := by
  cases a with
  | integer x =>
    cases b with
    | integer y => exact Or.inl ⟨x, y, rfl, rfl⟩
    | float y => exact Or.inr ⟨y, Or.inr rfl⟩
    | error | info | nil | foreign => cases hb
  | float x => exact Or.inr ⟨x, Or.inl rfl⟩
  | error | info | nil | foreign => cases ha

end Value

/-! ### Operators on any values -/

namespace Operator

variable {op : Operator} {a b : Value}

section
variable (ha : a.isNumeric = true) (hb : b.isNumeric = true)
include ha hb

theorem attempt_of_overflows (h : op.Overflows a b) : ∃ words, op.attempt a b = .error (.overflow words) := by
  obtain ⟨widens, great⟩ := h
  cases a with
  | integer x =>
    cases b with
    | integer y =>
      obtain ⟨_, mixed⟩ | ⟨rfl, negative⟩ := widens
      · rcases mixed with same | same <;> cases same
      · have power : pow.attempt (.integer x) (.integer y) = Value.negativePower x y :=
          if_pos (of_decide_eq_true negative)
        rw [power]
        exact Value.negativePower_of_tooGreat great
    | float y =>
      obtain ⟨words, stopped⟩ := Value.widen?_of_tooGreat (great.resolve_right (Value.not_tooGreat_float y))
      rw [attempt_integer_float, stopped]
      exact ⟨words, rfl⟩
    | error | info | nil | foreign => cases hb
  | float x =>
    cases b with
    | integer y =>
      obtain ⟨words, stopped⟩ := Value.widen?_of_tooGreat (great.resolve_left (Value.not_tooGreat_float x))
      rw [attempt_float_integer, stopped]
      exact ⟨words, rfl⟩
    | float y => exact absurd great (not_or.mpr ⟨Value.not_tooGreat_float x, Value.not_tooGreat_float y⟩)
    | error | info | nil | foreign => cases hb
  | error | info | nil | foreign => cases ha

/-- With one floating-point number, the other operand is widened to one. -/
theorem attempt_of_float (h : ∃ z, a = .float z ∨ b = .float z) (fits : ¬op.Overflows a b) :
    ∃ x y, a.widened = .float x ∧ b.widened = .float y ∧ op.attempt a b = Value.floats op x y := by
  have left : ¬a.TooGreat := fun great => fits ⟨Or.inl h, Or.inl great⟩
  have right : ¬b.TooGreat := fun great => fits ⟨Or.inl h, Or.inr great⟩
  obtain ⟨z, rfl | rfl⟩ := h
  · cases b with
    | integer y =>
      rw [attempt_float_integer, Value.widen?_of_not_tooGreat right]
      exact ⟨_, _, rfl, rfl, rfl⟩
    | float y => exact ⟨_, _, rfl, rfl, rfl⟩
    | error | info | nil | foreign => cases hb
  · cases a with
    | integer x =>
      rw [attempt_integer_float, Value.widen?_of_not_tooGreat left]
      exact ⟨_, _, rfl, rfl, rfl⟩
    | float x => exact ⟨_, _, rfl, rfl, rfl⟩
    | error | info | nil | foreign => cases ha

theorem attempt_eq_zeroDivision_iff (fits : ¬op.Overflows a b) :
    op.attempt a b = .error .zeroDivision ↔ op.DividesByZero a b := by
  obtain ⟨x, y, rfl, rfl⟩ | mixed := Value.integers_or_float ha hb
  · change Value.integers op x y = _ ↔ _
    rcases Value.integers_cases fits with ⟨stopped, zero⟩ | ⟨⟨v, made⟩, other⟩
    · exact iff_of_true stopped zero
    · rw [made]
      exact iff_of_false nofun other
  · obtain ⟨x, y, left, right, same⟩ := attempt_of_float ha hb mixed fits
    rw [← dividesByZero_widened, left, right, same]
    exact Value.floats_eq_zeroDivision_iff

theorem apply_of_overflows (h : op.Overflows a b) : (op.apply a b).FailsWith "numeric overflow" := by
  obtain ⟨words, stopped⟩ := attempt_of_overflows ha hb h
  exact ⟨_, apply_of_raised stopped, rfl⟩

theorem apply_zeroDivision_iff (fits : ¬op.Overflows a b) :
    (op.apply a b).FailsWith "division by zero" ↔ op.DividesByZero a b := by
  rw [apply_of_numeric ha hb, Value.ofAttempt_zeroDivision_iff fun v => Value.value_of_attempt ha hb,
    attempt_eq_zeroDivision_iff ha hb fits]

theorem ofFloats_apply (mixed : ∃ z, a = .float z ∨ b = .float z) (other : ¬op.DividesByZero a b) :
    (op.apply a b).OfFloats := by
  by_cases great : op.Overflows a b
  · exact .overflow (apply_of_overflows ha hb great)
  · obtain ⟨x, y, -, -, same⟩ := attempt_of_float ha hb mixed great
    rw [apply_of_numeric ha hb, same]
    refine Value.ofFloats_ofAttempt (fun v => Value.exists_float_of_floats) fun stopped => other ?_
    rw [← attempt_eq_zeroDivision_iff ha hb great, same, stopped]

theorem apply_widened (mixed : ∃ z, a = .float z ∨ b = .float z) (fits : ¬op.Overflows a b) :
    op.apply a b = op.apply a.widened b.widened := by
  obtain ⟨x, y, left, right, same⟩ := attempt_of_float ha hb mixed fits
  rw [left, right, apply_of_numeric ha hb, same]
  rfl

end

theorem apply_integers {x y : Int} (fits : ¬op.Overflows (.integer x) (.integer y))
    (other : ¬op.DividesByZero (.integer x) (.integer y)) :
    if op = .pow ∧ y < 0 then ∃ r, op.apply (.integer x) (.integer y) = .float r
    else (op.apply (.integer x) (.integer y)).OfIntegers := by
  rcases Value.integers_cases fits with ⟨-, zero⟩ | ⟨⟨v, made⟩, -⟩
  · exact absurd zero other
  · rw [apply_integers_of_ok made]
    exact Value.value_of_integers made

theorem apply_of_right {cause : Failure} (ha : ∀ cause, a ≠ .error cause) : op.apply a (.error cause) = .error cause := by
  cases a with
  | error cause => exact absurd rfl (ha cause)
  | integer | float | info | nil | foreign => rfl

theorem apply_of_not_numeric (ha : ∀ cause, a ≠ .error cause) (hb : ∀ cause, b ≠ .error cause)
    (h : ¬(a.isNumeric = true ∧ b.isNumeric = true)) : op.apply a b = .error .notSupported := by
  cases a with
  | error cause => exact absurd rfl (ha cause)
  | integer | float =>
    cases b with
    | error cause => exact absurd rfl (hb cause)
    | integer | float => exact absurd ⟨rfl, rfl⟩ h
    | info | nil | foreign => rfl
  | info | nil | foreign =>
    cases b with
    | error cause => exact absurd rfl (hb cause)
    | integer | float | info | nil | foreign => rfl

/-- What an operator gives for two values, case by case. -/
structure Closed (op : Operator) (a b : Value) : Prop where
  left : ∀ cause, a = .error cause → op.apply a b = a
  right : (∀ cause, a ≠ .error cause) → ∀ cause, b = .error cause → op.apply a b = b
  unsupported : (∀ cause, a ≠ .error cause) → (∀ cause, b ≠ .error cause) →
    ¬(a.isNumeric = true ∧ b.isNumeric = true) → (op.apply a b).FailsWith "that operation isn't supported"
  tooGreat : a.isNumeric = true → b.isNumeric = true → op.Overflows a b → (op.apply a b).FailsWith "numeric overflow"
  /-- Integers in range are not too great. -/
  fits : (∀ x, a = .integer x → InRange x) → (∀ y, b = .integer y → InRange y) → ¬op.Overflows a b
  zero : a.isNumeric = true → b.isNumeric = true → ¬op.Overflows a b →
    ((op.apply a b).FailsWith "division by zero" ↔ op.DividesByZero a b)
  integers : ∀ x y, a = .integer x → b = .integer y → ¬op.Overflows a b → ¬op.DividesByZero a b →
    if op = .pow ∧ y < 0 then ∃ r, op.apply a b = .float r else (op.apply a b).OfIntegers
  floats : a.isNumeric = true → b.isNumeric = true → (∃ z, a = .float z ∨ b = .float z) → ¬op.DividesByZero a b →
    (op.apply a b).OfFloats
  mixed : a.isNumeric = true → b.isNumeric = true → (∃ z, a = .float z ∨ b = .float z) → ¬op.Overflows a b →
    op.apply a b = op.apply a.widened b.widened

/-- An operator gives something for any two values, and nothing but what its cases say. -/
theorem closed (op : Operator) (a b : Value) : op.Closed a b where
  left := by
    rintro cause rfl
    rfl
  right := by
    rintro ha cause rfl
    exact apply_of_right ha
  unsupported := fun ha hb h => ⟨.notSupported, apply_of_not_numeric ha hb h, rfl⟩
  tooGreat := apply_of_overflows
  fits := by
    rintro ha hb ⟨-, ⟨x, rfl, great⟩ | ⟨y, rfl, great⟩⟩
    · exact Value.not_tooGreat_of_inRange (ha x rfl) ⟨x, rfl, great⟩
    · exact Value.not_tooGreat_of_inRange (hb y rfl) ⟨y, rfl, great⟩
  zero := apply_zeroDivision_iff
  integers := by
    rintro x y rfl rfl fits other
    exact apply_integers fits other
  floats := ofFloats_apply
  mixed := apply_widened

end Operator

end Calculator
