import Calculator.Value.Basic

/-! The variables of a session and their values. -/

namespace Calculator

/-- What each variable holds. A name stands at most once among `entries`. -/
structure Bindings where
  entries : List (String × Value)
  deriving DecidableEq

namespace Bindings

/-- The constants that a session starts with. They are variables like all others and may be given other values. -/
def initial : Bindings :=
  ⟨[("pi", .float 3.141592653589793), ("π", .float 3.141592653589793), ("e", .float 2.718281828459045)]⟩

/-- The value of a variable, if it has one. -/
def lookup (b : Bindings) (name : String) : Option Value := b.entries.lookup name

/-- The bindings after a variable has taken a value. -/
def assign (b : Bindings) (name : String) (value : Value) : Bindings :=
  ⟨(name, value) :: b.entries.filter (·.1 != name)⟩

/-- All variables with their values, by name. Names are in the order of their code points. -/
def sorted (b : Bindings) : List (String × Value) := b.entries.mergeSort fun x y => x.1 ≤ y.1

theorem lookup_filter_ne {name other : String} (h : other ≠ name) (entries : List (String × Value)) :
    (entries.filter (·.1 != name)).lookup other = entries.lookup other := by
  induction entries with
  | nil => rfl
  | cons entry entries ih =>
    obtain ⟨key, value⟩ := entry
    by_cases hk : key = name
    · subst hk
      rw [List.filter_cons_of_neg (by simp), ih, List.lookup_cons]
      have : (other == key) = false := by simpa using h
      rw [this]
    · rw [List.filter_cons_of_pos (by simpa using hk), List.lookup_cons, List.lookup_cons, ih]

@[simp] theorem lookup_assign_self (b : Bindings) (name : String) (value : Value) :
    (b.assign name value).lookup name = some value := by
  simp [lookup, assign]

theorem lookup_assign_of_ne (b : Bindings) {name other : String} (value : Value) (h : other ≠ name) :
    (b.assign name value).lookup other = b.lookup other := by
  have hne : (other == name) = false := by simpa using h
  simp only [lookup, assign, List.lookup_cons, hne]
  exact lookup_filter_ne h b.entries

theorem lookup_assign (b : Bindings) (name other : String) (value : Value) :
    (b.assign name value).lookup other = if other = name then some value else b.lookup other := by
  split
  · subst other
    exact lookup_assign_self b name value
  · rename_i h
    exact lookup_assign_of_ne b value h

end Bindings

end Calculator
