import Calculator.Value.Apply

/-! What stops an operation, and what becomes of it. Only operations on numbers are stopped
    (`Operator.numeric_of_raised`), and the value of one that is stopped is a failure of one of three kinds
    (`Operator.apply_of_raised`). -/

namespace Calculator

theorem exists_of_bind {ε α β : Type} {attempt : Except ε α} {next : α → Except ε β} {b : β}
    (h : attempt >>= next = .ok b) : ∃ a, attempt = .ok a ∧ next a = .ok b := by
  cases attempt with
  | ok a => exact ⟨a, rfl, h⟩
  | error e => cases h

theorem Raised.message_failure_mem (raised : Raised) :
    raised.failure.message ∈ ["division by zero", "numeric overflow", "math domain error"] := by
  cases raised with
  | zeroDivision => exact List.mem_cons_self
  | overflow words => exact List.mem_cons_of_mem _ List.mem_cons_self
  | domain words => exact List.mem_cons_of_mem _ (List.mem_cons_of_mem _ List.mem_cons_self)

namespace Operator

variable {op : Operator} {a b : Value}

/-- Between numbers, the value of an operator is that of its attempt. -/
theorem apply_of_numeric (ha : a.isNumeric = true) (hb : b.isNumeric = true) :
    op.apply a b = .ofAttempt (op.attempt a b) := by
  cases a with
  | integer | float =>
    cases b with
    | integer | float => rfl
    | error | info | nil | foreign => cases hb
  | error | info | nil | foreign => cases ha

theorem numeric_of_raised {raised : Raised} (h : op.attempt a b = .error raised) :
    a.isNumeric = true ∧ b.isNumeric = true := by
  cases a with
  | integer | float =>
    cases b with
    | integer | float => exact ⟨rfl, rfl⟩
    | error | info | nil | foreign => cases h
  | error | info | nil | foreign => cases h

/-- Whatever stops an operation, its value is the failure for that. -/
theorem apply_of_raised {raised : Raised} (h : op.attempt a b = .error raised) : op.apply a b = .error raised.failure := by
  obtain ⟨ha, hb⟩ := numeric_of_raised h
  rw [apply_of_numeric ha hb, h]
  rfl

-- An integer of more than 1024 bits cannot be widened; the sum is stopped there.
example : Operator.add.apply (.integer (Int.pow 10 400)) (.float 1.0) = .error .numericOverflow := by decide +kernel

end Operator

end Calculator
