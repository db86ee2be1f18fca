import Calculator.Operator

/-! Grouping by precedence: which operands each operator of a flat chain joins. The climb takes the operators from left
    to right. Behind each operator it first gives the operand to the tighter operators that follow, and then goes on
    with what this makes as its left side. -/

namespace Calculator

/-- Operands joined by operators, two at a time. -/
inductive Grouping (α : Type) where
  | operand (a : α)
  | binary (op : Operator) (left right : Grouping α)
  deriving DecidableEq, Repr

/-- An operator of a chain and the operand behind it. -/
structure Link (α : Type) where
  op : Operator
  operand : α
  deriving DecidableEq, Repr

namespace Grouping

variable {α : Type}

/-- The least precedence that the operand behind `op` gives itself to, where `next` binds tighter than `op`: that of
    `op` itself if `next` shares it, and else the one above. -/
def floorWithin (next op : Operator) : Nat :=
  op.precedence + (if op.precedence < next.precedence then 1 else 0)

/-- A tighter operator reaches the floor. So the climb from it takes at least that operator. -/
theorem floorWithin_le {next op : Operator} (h : next.bindsTighter op = true) :
    floorWithin next op ≤ next.precedence := by
  revert h
  cases next <;> cases op <;> decide

/-- A grouping of the first links of a chain, and the links behind them. -/
structure Climbed (α : Type) (links : List (Link α)) where
  grouping : Grouping α
  rest : List (Link α)
  length_le : rest.length ≤ links.length

mutual

/-- The grouping that starts with `left` and goes on with the links up to the first below the floor. -/
def climb (floor : Nat) (left : Grouping α) (links : List (Link α)) : Climbed α links :=
  match links with
  | [] => ⟨left, [], Nat.le_refl _⟩
  | link :: more =>
    if floor ≤ link.op.precedence then
      match advance floor left link more with
      | ⟨grouping, rest, le⟩ => ⟨grouping, rest, Nat.le_succ_of_le le⟩
    else ⟨left, link :: more, Nat.le_refl _⟩
termination_by 2 * links.length

/-- The grouping that starts with `left`, takes one link, and goes on as a climb does. -/
def advance (floor : Nat) (left : Grouping α) (link : Link α) (more : List (Link α)) : Climbed α more :=
  match absorb link.op (operand link.operand) more with
  | ⟨right, behind, le⟩ =>
    match climb floor (binary link.op left right) behind with
    | ⟨grouping, rest, le'⟩ => ⟨grouping, rest, Nat.le_trans le' le⟩
termination_by 2 * more.length + 1

/-- The grouping that the right side of `op` makes with the tighter operators that follow it. -/
def absorb (op : Operator) (right : Grouping α) (links : List (Link α)) : Climbed α links :=
  match links with
  | [] => ⟨right, [], Nat.le_refl _⟩
  | next :: more =>
    if next.op.bindsTighter op then
      match advance (floorWithin next.op op) right next more with
      | ⟨inner, behind, le⟩ =>
        match absorb op inner behind with
        | ⟨grouping, rest, le'⟩ => ⟨grouping, rest, Nat.le_succ_of_le (Nat.le_trans le' le)⟩
    else ⟨right, next :: more, Nat.le_refl _⟩
termination_by 2 * links.length

end

/-- The grouping of a whole chain. -/
def ofChain (first : α) (links : List (Link α)) : Grouping α := (climb 0 (operand first) links).grouping

end Grouping

end Calculator
