import Calculator.Proofs.Evaluation.Chain
import Calculator.Proofs.Grouping.Growth
import Mathlib.Order.Bounds.Basic

/-! How far a climb goes over the operators of a chain, and what it asks for on the way. It comes to the first operator
    below its floor, and calls for the operand behind each operator before that one, once and in order
    (`Grouping.exists_comesTo`). Where the right side of an operator is given to tighter ones, each climb takes at least one
    of them, so that there is always less left to do (`Grouping.exists_goesOn`). -/

namespace Calculator

/-- An evaluation as an action that needs no room. -/
def Action.always (evaluation : Evaluation Value) : Action := fun _ => evaluation

theorem Action.always_apply (evaluation : Evaluation Value) (room : Nat) : always evaluation room = evaluation := rfl

namespace Grouping
variable {α : Type} {primary : Nat → α} {operators : List Operator} {i : Nat}

/-! ### Links by position -/

/-- The links from an operator of a chain on. Behind the operator at `k` stands the operand at `k + 1`. -/
def linksFrom (primary : Nat → α) (operators : List Operator) (i : Nat) : List (Link α) :=
  List.zipWith Link.mk (operators.drop i) ((List.range' (i + 1) (operators.length - i)).map primary)

theorem linksFrom_of_lt (lt : i < operators.length) :
    linksFrom primary operators i = ⟨operators[i], primary (i + 1)⟩ :: linksFrom primary operators (i + 1) := by
  have left : operators.length - i = operators.length - (i + 1) + 1 := by omega
  rw [linksFrom, List.drop_eq_getElem_cons lt, left, List.range'_succ, List.map_cons, List.zipWith_cons_cons, linksFrom]

theorem linksFrom_length : linksFrom primary operators operators.length = [] := by
  simp [linksFrom]

/-- The least position from `i` on that is behind all operators or at one that `p` does not hold of. -/
def FirstWithout (p : Operator → Bool) (operators : List Operator) (i j : Nat) : Prop :=
  IsLeast {k | i ≤ k ∧ (k = operators.length ∨ ∃ lt : k < operators.length, p operators[k] = false)} j

theorem FirstWithout.le {p : Operator → Bool} {j : Nat} (h : FirstWithout p operators i j) : j ≤ operators.length := by
  rcases h.1.2 with rfl | ⟨lt, -⟩
  · exact Nat.le_refl _
  · exact Nat.le_of_lt lt

theorem exists_firstWithout (p : Operator → Bool) (primary : Nat → α) (start : i ≤ operators.length) :
    ∃ j, FirstWithout p operators i j ∧ (linksFrom primary operators i).dropWhile (p ·.op) = linksFrom primary operators j ∧
      (linksFrom primary operators i).takeWhile (p ·.op) =
        List.zipWith Link.mk ((operators.drop i).take (j - i)) ((List.range' (i + 1) (j - i)).map primary) := by
  -- From the end of the operators backwards: an operator that `p` holds of is taken before all that follow.
  induction start using Nat.decreasingInduction with
  | self =>
    refine ⟨operators.length, ⟨⟨Nat.le_refl _, Or.inl rfl⟩, fun k hk => hk.1⟩, ?_, ?_⟩
    · simp [linksFrom_length]
    · simp [linksFrom_length]
  | of_succ i lt ih =>
    rw [linksFrom_of_lt lt]
    cases holds : p operators[i] with
    | false =>
      refine ⟨i, ⟨⟨Nat.le_refl _, Or.inr ⟨lt, holds⟩⟩, fun k hk => hk.1⟩, ?_, ?_⟩
      · simp [holds, linksFrom_of_lt lt]
      · simp [holds]
    | true =>
      obtain ⟨j, ⟨⟨le, stop⟩, least⟩, rest, taken⟩ := ih
      refine ⟨j, ⟨⟨Nat.le_of_succ_le le, stop⟩, fun k ⟨hk, hstop⟩ => ?_⟩, ?_, ?_⟩
      · refine least ⟨Nat.lt_of_le_of_ne hk ?_, hstop⟩
        rintro rfl
        rcases hstop with rfl | ⟨_, fails⟩
        · exact absurd lt (Nat.lt_irrefl _)
        · rw [holds] at fails
          cases fails
      · simp [holds, rest]
      · have one : j - i = j - (i + 1) + 1 := by omega
        simp only [List.takeWhile_cons, holds, ↓reduceIte]
        rw [taken, one, List.drop_eq_getElem_cons lt, List.take_succ_cons, List.range'_succ, List.map_cons,
          List.zipWith_cons_cons]

theorem operands_zipWith (operators : List Operator) (operands : List α) :
    (List.zipWith Link.mk operators operands).map (·.operand) = operands.take operators.length :=
  List.ext_getElem (by simp) (by simp)

/-! ### The climb -/

theorem reaches_eq_false_iff (floor : Int) (op : Operator) :
    reaches floor.toNat op = false ↔ (op.precedence : Int) < floor := by
  simp only [reaches, decide_eq_false_iff_not]
  omega

theorem climb_eq_ofChain (floor : Nat) (a : α) (links : List (Link α)) :
    (climb floor (operand a) links).grouping = ofChain a (links.takeWhile fun l => reaches floor l.op) := by
  rw [(climb_reads floor (operand a) links).grouping_eq, ofChain_eq_reading]

/-- The climb by which the right side of an operator gives itself to a tighter one, which stands at `k`: it takes at least
    that one and comes to `j`, and from there the right side goes on with what comes of it. -/
structure GoesOn (links : Nat → List (Link α)) (op : Operator) (right : Grouping α) (floor k j : Nat) : Prop where
  lt : k < j
  rest_eq : (climb floor right (links k)).rest = links j
  grouping_absorb : (absorb op right (links k)).grouping =
    (absorb op (climb floor right (links k)).grouping (links j)).grouping
  rest_absorb : (absorb op right (links k)).rest = (absorb op (climb floor right (links k)).grouping (links j)).rest

theorem absorb_of_tighter {op : Operator} (next : Link α) (tighter : next.op.bindsTighter op = true) (right : Grouping α)
    (more : List (Link α)) :
    let inner := climb (floorWithin next.op op) right (next :: more)
    (absorb op right (next :: more)).grouping = (absorb op inner.grouping inner.rest).grouping ∧
      (absorb op right (next :: more)).rest = (absorb op inner.grouping inner.rest).rest := by
  rw [climb, if_pos (floorWithin_le tighter), absorb, if_pos tighter]
  obtain ⟨inner, behind, le⟩ := advance (floorWithin next.op op) right next more
  exact ⟨rfl, rfl⟩

theorem exists_goesOn (primary : Nat → α) {op : Operator} (right : Grouping α) {k : Nat} (lt : k < operators.length)
    (tighter : operators[k].bindsTighter op = true) :
    ∃ j ≤ operators.length, GoesOn (linksFrom primary operators) op right (floorWithin operators[k] op) k j := by
  obtain ⟨j, first, behind, -⟩ := exists_firstWithout (reaches (floorWithin operators[k] op)) primary (Nat.le_of_lt lt)
  have rest : (climb (floorWithin operators[k] op) right (linksFrom primary operators k)).rest =
      linksFrom primary operators j := by
    rw [(climb_reads _ _ _).rest_eq, behind]
  -- The tighter operator itself is not below the floor, so the climb does not stop at it.
  have ne : k ≠ j := by
    rintro rfl
    rcases first.1.2 with rfl | ⟨_, below⟩
    · exact absurd lt (Nat.lt_irrefl _)
    · simp [reaches, floorWithin_le tighter] at below
  obtain ⟨grouping_absorb, rest_absorb⟩ :=
    absorb_of_tighter ⟨operators[k], primary (k + 1)⟩ tighter right (linksFrom primary operators (k + 1))
  rw [← linksFrom_of_lt lt, rest] at grouping_absorb rest_absorb
  exact ⟨j, first.le, Nat.lt_of_le_of_ne first.1.1 ne, rest, grouping_absorb, rest_absorb⟩

theorem evaluate_agrees_of_const {g : Grouping Action} (const : ∀ action ∈ g.leaves, ∃ e, action = .always e)
    (own inner room room' : Nat) :
    (g.evaluate own inner room).Agrees (g.fold (fun (action : Action) => action room') (Chain.inTurn Operator.apply)) := by
  induction g generalizing own inner with
  | operand action =>
    obtain ⟨e, rfl⟩ := const action (by simp [leaves])
    exact .refl _
  | binary op left right hl hr =>
    obtain ⟨hconst, hconst'⟩ := List.forall_mem_append.mp const
    exact perform_agrees (hl hconst own inner) (hr hconst' inner (inner + 1)) _ op

/-- A chain of operands that need no room is evaluated one operand after the other, wherever it stands. -/
theorem evaluate_ofChain_agrees (primary : Nat → Evaluation Value) (left : Value) {operators : List Operator}
    {positions : List Nat} (balanced : positions.length = operators.length) (own inner room : Nat) :
    ((ofChain (.always (pure left)) (List.zipWith Link.mk operators (positions.map fun k => .always (primary k)))).evaluate
      own inner room).Agrees (do
        let vs ← positions.mapM primary
        pure ((Chain.ofLists left operators vs).reading Operator.apply)) := by
  have lengths : (positions.map fun k => Action.always (primary k)).length = operators.length := by
    rw [List.length_map, balanced]
  have const : ∀ action ∈ (ofChain (Action.always (pure left)) (List.zipWith Link.mk operators
      (positions.map fun k => Action.always (primary k)))).leaves, ∃ e, action = .always e := by
    rw [leaves_ofChain, operands_zipWith, ← lengths, List.take_length]
    refine List.forall_mem_cons.mpr ⟨⟨_, rfl⟩, fun action mem => ?_⟩
    obtain ⟨k, -, rfl⟩ := List.mem_map.mp mem
    exact ⟨_, rfl⟩
  refine (evaluate_agrees_of_const const own inner room 0).trans ?_
  rw [fold_inTurn_ofLists _ _ lengths, Action.always_apply, pure_bind, List.mapM_map]
  exact .refl _

end Grouping

namespace Action

theorem leaves_group {operators : List Operator} {actions : List Action} (h : operators.length < actions.length) :
    (group actions operators).leaves = actions.take (operators.length + 1) := by
  cases actions with
  | nil => cases h
  | cons action actions =>
    rw [group, Grouping.leaves_ofChain, links_of_le (Nat.le_of_lt_succ h), Grouping.operands_zipWith]
    rfl

end Action

namespace Grouping

/-- The climb over the operators of a chain from `i` on, behind a value. A floor below zero lets through what zero
    does. -/
def climbFrom (primary : Nat → Evaluation Value) (operators : List Operator) (left : Value) (floor : Int) (i : Nat) :
    Climbed Action (linksFrom (fun k => .always (primary k)) operators i) :=
  climb floor.toNat (operand (.always (pure left))) _

/-- A climb from `i` on comes to `j`, the least position from there on that is behind all operators or at one below the
    floor. On the way it calls for the operands from `i + 1` to `j`, each once and in order, and its value is what the
    tiers read their values behind the left one as. -/
structure ComesTo (primary : Nat → Evaluation Value) (operators : List Operator) (left : Value) (floor : Int)
    (i j : Nat) : Prop where
  least : IsLeast {k | i ≤ k ∧
    (k = operators.length ∨ ∃ lt : k < operators.length, (operators[k].precedence : Int) < floor)} j
  rest_eq : (climbFrom primary operators left floor i).rest = linksFrom (fun k => .always (primary k)) operators j
  leaves_eq : (climbFrom primary operators left floor i).grouping.leaves =
    .always (pure left) :: (List.range' (i + 1) (j - i)).map fun k => .always (primary k)
  agrees : ∀ own inner room, ((climbFrom primary operators left floor i).grouping.evaluate own inner room).Agrees do
    let vs ← (List.range' (i + 1) (j - i)).mapM primary
    pure ((Chain.ofLists left ((operators.drop i).take (j - i)) vs).reading Operator.apply)

theorem exists_comesTo (primary : Nat → Evaluation Value) {operators : List Operator} (left : Value) (floor : Int) {i : Nat}
    (start : i ≤ operators.length) : ∃ j, ComesTo primary operators left floor i j := by
  obtain ⟨j, first, rest, taken⟩ := exists_firstWithout (reaches floor.toNat) (fun k => Action.always (primary k)) start
  have grouping : (climbFrom primary operators left floor i).grouping = ofChain (.always (pure left))
      (List.zipWith Link.mk ((operators.drop i).take (j - i))
        ((List.range' (i + 1) (j - i)).map fun k => .always (primary k))) := by
    rw [climbFrom, climb_eq_ofChain, taken]
  have balanced : (List.range' (i + 1) (j - i)).length = ((operators.drop i).take (j - i)).length := by
    have le := first.le
    simp only [List.length_range', List.length_take, List.length_drop]
    omega
  refine ⟨j, by simpa only [FirstWithout, reaches_eq_false_iff] using first, ?_, ?_, fun own inner room => ?_⟩
  · rw [climbFrom, (climb_reads _ _ _).rest_eq, rest]
  · rw [grouping, leaves_ofChain, operands_zipWith, ← balanced, ← List.map_take, List.take_length]
  · rw [grouping]
    exact evaluate_ofChain_agrees primary left balanced own inner room

/-- A climb from any operator of a chain on comes to the first one below its floor, and calls for the operands up to that
    one. Where the right side of an operator gives itself to a tighter one, the floor of that climb is not above this one,
    so each such climb takes an operator at least. And a chain with operands enough asks for no other. -/
theorem climb_extent (primary : Nat → Evaluation Value) (operators : List Operator) (left : Value) (floor : Int) {i : Nat}
    (start : i ≤ operators.length) :
    (∃ j, ComesTo primary operators left floor i j) ∧
      (∀ (op : Operator) (right : Grouping Action) (k : Nat) (lt : k < operators.length),
        operators[k].bindsTighter op = true → floorWithin operators[k] op ≤ operators[k].precedence ∧
          ∃ j ≤ operators.length,
            GoesOn (linksFrom (fun n => .always (primary n)) operators) op right (floorWithin operators[k] op) k j) ∧
      ∀ actions : List Action, operators.length < actions.length →
        (Action.group actions operators).leaves = actions.take (operators.length + 1) :=
  ⟨exists_comesTo primary left floor start,
    fun _ right _ lt tighter => ⟨floorWithin_le tighter, exists_goesOn _ right lt tighter⟩,
    fun _ enough => Action.leaves_group enough⟩

/-- From the power in `_ + _ ^ _ % _ * _` on, a climb for powers stops at the product. -/
theorem climb_extent_of_power :
    let primary (k : Nat) : Evaluation Value := do
      .assign "last" (.integer k)
      pure (.integer k)
    let operators := [Operator.add, .pow, .rem, .mul]
    1 ≤ operators.length ∧ ComesTo primary operators (.integer 2) 3 1 3 := by
  intro primary operators
  have start : 1 ≤ operators.length := by decide
  obtain ⟨j, comes⟩ := (climb_extent primary operators (.integer 2) 3 start).1
  have least : IsLeast {k | 1 ≤ k ∧
      (k = operators.length ∨ ∃ lt : k < operators.length, (operators[k].precedence : Int) < 3)} 3 := by
    refine ⟨⟨by decide, Or.inr ⟨by decide, by decide⟩⟩, fun k ⟨le, stop⟩ => ?_⟩
    by_contra above
    obtain rfl | rfl : k = 1 ∨ k = 2 := by omega
    all_goals simp [operators, Operator.precedence] at stop
  obtain rfl := comes.least.unique least
  exact ⟨start, comes⟩

end Grouping

end Calculator
