import Calculator.Proofs.Evaluation.Total
import Calculator.Value.Apply

/-! The values that a variable may hold in a session: integers in range, floating-point numbers, and failures with the
    words for six causes. An operator on two such values gives such a value (`Value.Storable.apply`); it is never
    refused as one that is not supported. -/

namespace Calculator

/-- The words of the failures that a variable may hold. -/
inductive StorableWords : String → Prop where
  | unbound {name : String} (h : Lexeme .identifier name.toList) : StorableWords ("no variable named " ++ name)
  | rationalNumber : StorableWords "rational numbers aren't supported yet"
  | divisionByZero : StorableWords "division by zero"
  | integerOverflow : StorableWords "integer overflow"
  | numericOverflow : StorableWords "numeric overflow"
  | outsideDomain : StorableWords "math domain error"

/-- The words of the other failures. -/
def otherWords : List String :=
  ["", "parsing error", "expression is nested too deeply", "that operation isn't supported"]

theorem StorableWords.not_mem {message : String} (h : StorableWords message) : message ∉ otherWords := by
  cases h with
  | unbound =>
    have start : ∀ words ∈ otherWords, words.toList.head? ≠ some 'n' := by decide +kernel
    exact fun mem => start _ mem (by simp [String.toList_append])
  | _ => decide

/-- A value that a variable may hold. -/
inductive Value.Storable : Value → Prop where
  | integer {v : Int} (h : InRange v) : Storable (.integer v)
  | float (x : Float) : Storable (.float x)
  | error {cause : Failure} (h : StorableWords cause.message) : Storable (.error cause)

namespace Value

theorem Storable.not_failsWith {v : Value} (h : v.Storable) {message : String} (other : message ∈ otherWords) :
    ¬v.FailsWith message := by
  rintro ⟨cause, rfl, rfl⟩
  cases h with
  | error words => exact words.not_mem other

/-- What an operator may give for two integers. -/
inductive OfIntegers : Value → Prop where
  | integer {v : Int} (h : InRange v) : OfIntegers (.integer v)
  | overflow {v : Value} (h : v.FailsWith "integer overflow") : OfIntegers v

/-- What an operator may give for two numbers one of which is not an integer. -/
inductive OfFloats : Value → Prop where
  | float (x : Float) : OfFloats (.float x)
  | overflow {v : Value} (h : v.FailsWith "numeric overflow") : OfFloats v
  | outsideDomain {v : Value} (h : v.FailsWith "math domain error") : OfFloats v

theorem FailsWith.storable {v : Value} {message : String} (h : v.FailsWith message) (words : StorableWords message) :
    v.Storable := by
  obtain ⟨cause, rfl, rfl⟩ := h
  exact .error words

theorem OfIntegers.storable {v : Value} (h : OfIntegers v) : v.Storable := by
  cases h with
  | integer h => exact .integer h
  | overflow h => exact h.storable .integerOverflow

theorem OfFloats.storable {v : Value} (h : OfFloats v) : v.Storable := by
  cases h with
  | float x => exact .float x
  | overflow h => exact h.storable .numericOverflow
  | outsideDomain h => exact h.storable .outsideDomain

theorem ofIntegers_ofExact (v : Int) : OfIntegers (ofExact v) := by
  rw [ofExact]
  split
  · exact .integer ‹_›
  · exact .overflow ⟨_, rfl, rfl⟩

theorem storable_ofExact (v : Int) : (ofExact v).Storable := (ofIntegers_ofExact v).storable

/-! ### Operators on integers -/

theorem inRange_unitPower {a : Int} (h : a.natAbs ≤ 1) (n : Nat) : InRange (unitPower a n) := by
  have bounds : -1 ≤ unitPower a n ∧ unitPower a n ≤ 1 := by
    obtain rfl | rfl | rfl : a = -1 ∨ a = 0 ∨ a = 1 := by omega
    all_goals
      rw [unitPower]
      split
      · decide
      · split <;> decide
  have least : leastInteger ≤ -1 := by decide
  have greatest : 1 ≤ greatestInteger := by decide
  exact ⟨Int.le_trans least bounds.1, Int.le_trans bounds.2 greatest⟩

/-- A negative power is a floating-point number, if anything. -/
theorem exists_float_of_negativePower {a b : Int} {v : Value} (h : negativePower a b = .ok v) : ∃ r, v = .float r := by
  obtain ⟨x, -, h⟩ := exists_of_bind h
  obtain ⟨y, -, h⟩ := exists_of_bind h
  split at h
  · cases h
  · cases h
    exact ⟨_, rfl⟩

theorem ofIntegers_of_integerPower {a b : Int} (nonneg : ¬b < 0) {v : Value} (h : integerPower a b = .ok v) :
    v.OfIntegers := by
  rw [integerPower, if_neg nonneg] at h
  split at h
  · cases h
    exact .integer (inRange_unitPower ‹_› _)
  · split at h
    · cases h
      exact .overflow ⟨_, rfl, rfl⟩
    · cases h
      exact ofIntegers_ofExact _

/-- What an operator makes of two integers, if it is not stopped. -/
theorem value_of_integers {op : Operator} {a b : Int} {v : Value} (h : integers op a b = .ok v) :
    if op = .pow ∧ b < 0 then ∃ r, v = .float r else v.OfIntegers := by
  cases op with
  | add | sub | mul =>
    cases h
    exact ofIntegers_ofExact _
  | div | rem =>
    rw [integers] at h
    split at h
    · cases h
    · cases h
      exact ofIntegers_ofExact _
  | pow =>
    rw [integers] at h
    split
    · rename_i negative
      rw [integerPower, if_pos negative.2] at h
      exact exists_float_of_negativePower h
    · rename_i nonneg
      exact ofIntegers_of_integerPower (fun negative => nonneg ⟨rfl, negative⟩) h

/-! ### Operators on floating-point numbers -/

theorem exists_float_of_floatRemainder {x y : Float} {v : Value} (h : floatRemainder x y = .ok v) : ∃ r, v = .float r := by
  rw [floatRemainder] at h
  split at h
  · cases h
    exact ⟨_, rfl⟩
  · split at h
    · cases h
    · split at h
      · cases h
        exact ⟨_, rfl⟩
      · cases h
        exact ⟨_, rfl⟩

theorem exists_float_of_floatPower {x y : Float} {v : Value} (h : floatPower x y = .ok v) : ∃ r, v = .float r := by
  rw [floatPower] at h
  split at h
  · split at h
    · cases h
    · split at h
      · cases h
      · cases h
        exact ⟨_, rfl⟩
  · cases h
    exact ⟨_, rfl⟩

/-- What an operator makes of two floating-point numbers is one, if it is not stopped. -/
theorem exists_float_of_floats {op : Operator} {x y : Float} {v : Value} (h : floats op x y = .ok v) : ∃ r, v = .float r := by
  cases op with
  | add | sub | mul =>
    cases h
    exact ⟨_, rfl⟩
  | div =>
    rw [floats] at h
    split at h
    · cases h
    · cases h
      exact ⟨_, rfl⟩
  | rem =>
    rw [floats] at h
    split at h
    · cases h
    · exact exists_float_of_floatRemainder h
  | pow =>
    rw [floats] at h
    split at h
    · cases h
    · exact exists_float_of_floatPower h

/-! ### Operators on any values, and literals -/

theorem storable_failure (raised : Raised) : (error raised.failure).Storable := by
  cases raised with
  | zeroDivision => exact .error .divisionByZero
  | overflow words => exact .error .numericOverflow
  | domain words => exact .error .outsideDomain

/-- What stops an attempt makes a failure that a variable may hold, so what is left is what the attempt makes. -/
theorem storable_ofAttempt {attempt : Except Raised Value} (h : ∀ v, attempt = .ok v → v.Storable) :
    (ofAttempt attempt).Storable := by
  cases attempt with
  | ok v => exact h v rfl
  | error raised => exact storable_failure raised

/-- What an operator makes of two numbers, if it is not stopped. -/
theorem value_of_attempt {op : Operator} {a b v : Value} (ha : a.isNumeric = true) (hb : b.isNumeric = true)
    (h : op.attempt a b = .ok v) : v.OfIntegers ∨ ∃ r, v = .float r := by
  cases a with
  | integer x =>
    cases b with
    | integer y =>
      have made := value_of_integers h
      split at made
      · exact Or.inr made
      · exact Or.inl made
    | float y =>
      rw [Operator.attempt_integer_float] at h
      obtain ⟨x, -, h⟩ := exists_of_bind h
      exact Or.inr (exists_float_of_floats h)
    | error | info | nil | foreign => cases hb
  | float x =>
    cases b with
    | integer y =>
      rw [Operator.attempt_float_integer] at h
      obtain ⟨y, -, h⟩ := exists_of_bind h
      exact Or.inr (exists_float_of_floats h)
    | float y => exact Or.inr (exists_float_of_floats h)
    | error | info | nil | foreign => cases hb
  | error | info | nil | foreign => cases ha

theorem storable_apply_of_numeric {a b : Value} (ha : a.isNumeric = true) (hb : b.isNumeric = true) (op : Operator) :
    (op.apply a b).Storable := by
  rw [Operator.apply_of_numeric ha hb]
  refine storable_ofAttempt fun v h => ?_
  rcases value_of_attempt ha hb h with made | ⟨r, rfl⟩
  · exact made.storable
  · exact .float r

theorem Storable.apply {a b : Value} (ha : a.Storable) (hb : b.Storable) (op : Operator) : (op.apply a b).Storable := by
  cases ha with
  | error h => exact .error h
  | integer | float =>
    cases hb with
    | error h => exact .error h
    | integer | float => exact storable_apply_of_numeric rfl rfl op

theorem storable_of_integerLiteral {text : String} {v : Value} (h : integerLiteral text = .ok v) : v.Storable := by
  unfold integerLiteral at h
  dsimp only at h
  split at h
  · cases h
    exact .error .integerOverflow
  · split at h
    · cases h
      exact storable_ofExact _
    · cases h

theorem storable_of_floatLiteral {text : String} {v : Value} (h : floatLiteral text = .ok v) : v.Storable := by
  unfold floatLiteral at h
  split at h
  · cases h
    exact .float _
  · cases h

end Value

end Calculator
