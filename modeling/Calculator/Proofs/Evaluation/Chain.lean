import Calculator.Evaluation.Node
import Calculator.Proofs.Evaluation.Effect
import Calculator.Proofs.Grouping.Climb
import Calculator.Proofs.Grouping.Sequence

/-! The evaluation of a chain. Unless it goes too deep, it evaluates each operand once, in the order of the line and on
    the bindings that the operands before it leave, and its value is what the tiers read the values of the operands as
    (`Node.run_chain_agrees`). Room matters only where it runs out: more of it changes nothing else
    (`Node.action_steady`). -/

namespace Calculator

/-- The chain of a first operand, operators, and the operands behind them. -/
def Chain.ofLists {α : Type} (first : α) (operators : List Operator) (more : List α) : Chain α :=
  ⟨first, List.zipWith Link.mk operators more⟩

/-! ### Groupings of evaluations -/

namespace Grouping
variable {α β : Type}

/-- A grouping read as an expression: operands by `leaf`, operators by `combine`. -/
def fold (leaf : α → β) (combine : Operator → β → β → β) : Grouping α → β
  | operand a => leaf a
  | binary op left right => combine op (left.fold leaf combine) (right.fold leaf combine)

/-- An operation on two evaluations, with its remark. -/
def perform (room : Nat) (op : Operator) (x y : Evaluation Value) : Evaluation Value := do
  let a ← x
  let b ← y
  .operation op a b room

theorem perform_agrees {x x' y y' : Evaluation Value} (hx : x.Agrees x') (hy : y.Agrees y') (room : Nat)
    (op : Operator) : (perform room op x y).Agrees (Chain.inTurn Operator.apply op x' y') :=
  hx.bind fun a => hy.bind fun b => Evaluation.operation_agrees op a b room

theorem fold_perform_agrees (leaf : α → Evaluation Value) (room : Nat) (g : Grouping α) :
    (g.fold leaf (perform room)).Agrees (g.fold leaf (Chain.inTurn Operator.apply)) := by
  induction g with
  | operand a => exact .refl _
  | binary op left right hl hr => exact perform_agrees hl hr room op

theorem fold_ofChain (leaf : α → β) (combine : Operator → β → β → β) (first : α) (links : List (Link α)) :
    (ofChain first links).fold leaf combine = ((Chain.mk first links).map leaf).reading combine := by
  have leaves : (pending (operand first) links).map (fold leaf combine) = (Chain.mk first links).map leaf := by
    simp [pending, Chain.map, fold, Function.comp_def]
  rw [ofChain_eq_reading, ← leaves]
  exact Chain.map_reading (fun _ _ _ => rfl) _

/-- What holds of the operands of a chain, and of two sides joined, holds of its grouping. -/
theorem ofChain_induction {p : Grouping α → Prop} (hp : ∀ op x y, p x → p y → p (binary op x y)) {first : α}
    {links : List (Link α)} (hf : p (operand first)) (hl : ∀ l ∈ links, p (operand l.operand)) :
    p (ofChain first links) := by
  rw [ofChain_eq_reading]
  refine Chain.reading_induction hp hf fun l hm => ?_
  obtain ⟨l', hl', rfl⟩ := List.mem_map.mp hm
  exact hl l' hl'

/-- How many operands a grouping has. -/
def size : Grouping α → Nat
  | operand _ => 1
  | binary _ left right => left.size + right.size

theorem size_pos (g : Grouping α) : 0 < g.size := by
  induction g with
  | operand a => exact Nat.one_pos
  | binary op left right hl hr => exact Nat.add_pos_left hl right.size

theorem size_ofChain (first : α) (links : List (Link α)) : (ofChain first links).size = links.length + 1 := by
  have sizes : ((pending (operand first) links).reading binary).size =
      ((pending (operand first) links).map size).reading fun _ => (· + ·) := Chain.map_reading (fun _ _ _ => rfl) _
  rw [ofChain_eq_reading, sizes, Chain.reading_of_assoc Nat.add_assoc]
  clear sizes
  induction links generalizing first with
  | nil => rfl
  | cons l links ih =>
    rw [List.length_cons, ← ih l.operand]
    exact Nat.add_comm 1 _

end Grouping

/-! ### Room -/

namespace Action

/-- An action that more room does not change where there was enough. -/
def Steady (action : Action) : Prop := ∀ ⦃room room' : Nat⦄, room ≤ room' → (action room').Extends (action room)

theorem Steady.within {action : Action} (h : action.Steady) : action.within.Steady := by
  intro room room' le b hb
  rcases Nat.eq_zero_or_pos room with rfl | pos
  · exact absurd rfl hb
  · simp only [Action.within, Nat.ne_of_gt pos, Nat.ne_of_gt (Nat.lt_of_lt_of_le pos le), ↓reduceIte] at hb ⊢
    exact h le b hb

theorem steady_const (evaluation : Evaluation Value) : Steady fun _ => evaluation := fun _ _ _ => .refl _

theorem steady_missing : missing.Steady := steady_const _

theorem links_operand {operators : List Operator} {actions : List Action} :
    ∀ l ∈ links operators actions, l.operand = missing ∨ l.operand ∈ actions := by
  induction operators generalizing actions with
  | nil => simp [links]
  | cons op operators ih =>
    cases actions with
    | nil =>
      intro l hl
      rcases List.mem_cons.mp hl with rfl | hl
      · exact Or.inl rfl
      · exact ih l hl
    | cons action actions =>
      intro l hl
      rcases List.mem_cons.mp hl with rfl | hl
      · exact Or.inr (List.mem_cons_self ..)
      · exact (ih l hl).imp_right (List.mem_cons_of_mem _)

theorem group_induction {p : Grouping Action → Prop} (hp : ∀ op x y, p x → p y → p (.binary op x y))
    {actions : List Action} (hm : p (.operand missing)) (ha : ∀ action ∈ actions, p (.operand action))
    (operators : List Operator) : p (group actions operators) := by
  cases actions with
  | nil =>
    refine Grouping.ofChain_induction hp hm fun l hl => ?_
    rcases links_operand l hl with h | h
    · exact h ▸ hm
    · simp at h
  | cons action actions =>
    refine Grouping.ofChain_induction hp (ha action (List.mem_cons_self ..)) fun l hl => ?_
    rcases links_operand l hl with h | h
    · exact h ▸ hm
    · exact ha _ (List.mem_cons_of_mem _ h)

theorem links_of_le {operators : List Operator} {actions : List Action}
    (h : operators.length ≤ actions.length) : links operators actions = List.zipWith Link.mk operators actions := by
  induction operators generalizing actions with
  | nil => rfl
  | cons op operators ih =>
    cases actions with
    | nil => cases h
    | cons action actions => simp [links, ih (Nat.le_of_succ_le_succ h)]

theorem group_steady {actions : List Action} (h : ∀ action ∈ actions, action.Steady) (operators : List Operator)
    (own inner : Nat) : Steady ((group actions operators).evaluate own inner) := by
  refine group_induction (p := fun g => ∀ own inner, Steady (g.evaluate own inner)) ?_ ?_ ?_ operators own inner
  · intro op x y hx hy own inner room room' le
    exact (hx own inner le).bind fun a => (hy inner (inner + 1) le).bind fun _ => Evaluation.operation_extends _ _
  · intro own inner room room' le
    exact steady_missing (by omega)
  · intro action ha own inner room room' le
    exact h action ha (by omega)

/-- Where a chain has room enough, its operands do what they do with the room of the whole chain. -/
theorem group_extends {actions : List Action} (h : ∀ action ∈ actions, action.Steady) (operators : List Operator)
    (own inner room : Nat) :
    ((group actions operators).fold (fun action => action room) (Grouping.perform room)).Extends
      ((group actions operators).evaluate own inner room) := by
  refine group_induction (p := fun g => ∀ own inner,
    (g.fold (fun action => action room) (Grouping.perform room)).Extends (g.evaluate own inner room)) ?_ ?_ ?_ operators
    own inner
  · intro op x y hx hy own inner
    exact (hx own inner).bind fun a => (hy inner (inner + 1)).bind fun _ => Evaluation.operation_extends _ _
  · intro own inner
    exact .refl _
  · intro action ha own inner
    exact h action ha (by omega)

/-- An action that has a value wherever there is any room. -/
def Sure (action : Action) : Prop := ∀ ⦃room : Nat⦄, room ≠ 0 → ∀ b, ∃ v, ((action room).run b).result = .ok v

theorem sure_within {result : Except Fault Value} {v : Value} (h : result = .ok v) :
    Sure (within fun _ => .ofExcept result) := by
  intro room pos b
  rw [within, if_neg pos]
  exact ⟨v, h⟩

end Action

namespace Grouping

/-- Where each operand is sure, so is a grouping that has a level for each of them. -/
theorem exists_value_of_size_le {first : Action} {links : List (Link Action)} (hf : first.Sure)
    (hl : ∀ l ∈ links, l.operand.Sure) {own room : Nat} (enough : own + (ofChain first links).size + chainLevels ≤ room)
    (b : Bindings) : ∃ v, (((ofChain first links).evaluate own (own + 1) room).run b).result = .ok v := by
  have leaf {action : Action} (h : action.Sure) (own room : Nat) (enough : own + 1 + chainLevels ≤ room) (b : Bindings) :
      ∃ v, (((operand action).evaluate own (own + 1) room).run b).result = .ok v :=
    h (by omega) b
  refine ofChain_induction (p := fun g => ∀ own room, own + g.size + chainLevels ≤ room → ∀ b,
    ∃ v, ((g.evaluate own (own + 1) room).run b).result = .ok v) ?_ (leaf hf) (fun l h => leaf (hl l h)) own room enough b
  intro op x y hx hy own room enough b
  -- The right side stands one level deeper, and the left side has at least one operand.
  have pos := x.size_pos
  have pos' := y.size_pos
  rw [size] at enough
  obtain ⟨v, hv⟩ := hx own room (by omega) b
  obtain ⟨w, hw⟩ := hy (own + 1) room (by omega) ((x.evaluate own (own + 1) room).run b).bindings
  refine ⟨op.apply v w, ?_⟩
  rw [evaluate, Evaluation.run_bind_of_ok hv]
  dsimp only
  rw [Evaluation.run_bind_of_ok hw, Evaluation.run_operation]

end Grouping

namespace Node

mutual

theorem action_steady : (node : Node) → node.action.Steady
  | .integer _ | .float _ | .rational _ | .symbol _ | .help | .about | .foreign _ => by
    rw [action]
    exact Action.Steady.within (Action.steady_const _)
  | .chain operands operators => by
    rw [action]
    exact Action.Steady.within (Action.group_steady (actions_steady operands) operators 0 1)
  | .assignment target value => by
    rw [action]
    refine Action.Steady.within fun room room' le => ?_
    exact (action_steady value (Nat.sub_le_sub_right le 1)).bind fun _ => .refl _

theorem actions_steady : (nodes : List Node) → ∀ action ∈ actions nodes, action.Steady
  | [] => by simp [actions]
  | node :: nodes => by
    rw [actions]
    intro a ha
    rcases List.mem_cons.mp ha with rfl | ha
    · exact action_steady node
    · exact actions_steady nodes a ha

end

theorem actions_eq_map (nodes : List Node) : actions nodes = nodes.map action := by
  induction nodes with
  | nil => rfl
  | cons node nodes ih => rw [actions, ih, List.map_cons]

end Node

/-! ### The value of a chain -/

theorem Chain.sequence_ofLists {x : Evaluation Value} {operators : List Operator} {ys : List (Evaluation Value)}
    (h : ys.length = operators.length) :
    (Chain.ofLists x operators ys).sequence = (do
      let v ← x
      let vs ← ys.mapM id
      pure (Chain.ofLists v operators vs)) := by
  have links : (List.zipWith Link.mk operators ys).mapM (fun l => Link.mk l.op <$> l.operand) =
      List.zipWith Link.mk operators <$> ys.mapM id := by
    induction operators generalizing ys with
    | nil =>
      rw [List.length_eq_zero_iff.mp h]
      rfl
    | cons op operators ih =>
      cases ys with
      | nil => simp at h
      | cons y ys => simp [ih (Nat.succ.inj h)]
  simp [sequence, ofLists, links]

/-- Operands grouped and evaluated are operands evaluated one after the other, and their values read. -/
theorem Grouping.fold_inTurn_ofLists {α : Type} (leaf : α → Evaluation Value) (first : α) {operators : List Operator}
    {more : List α} (balanced : more.length = operators.length) :
    (ofChain first (List.zipWith Link.mk operators more)).fold leaf (Chain.inTurn Operator.apply) = (do
        let v ← leaf first
        let vs ← more.mapM leaf
        pure ((Chain.ofLists v operators vs).reading Operator.apply)) := by
  have leaves : (Chain.mk first (List.zipWith Link.mk operators more)).map leaf =
      Chain.ofLists (leaf first) operators (more.map leaf) := by
    simp [Chain.map, Chain.ofLists, List.map_zipWith, List.zipWith_map_right]
  rw [fold_ofChain, Chain.reading_inTurn, leaves, Chain.sequence_ofLists (by simpa using balanced)]
  simp

theorem Grouping.fold_inTurn_ofChain {first : Node} {more : List Node} {operators : List Operator}
    (balanced : more.length = operators.length) (room : Nat) :
    (ofChain first.action (List.zipWith Link.mk operators (more.map Node.action))).fold (fun action => action room)
      (Chain.inTurn Operator.apply) = (do
        let v ← first.action room
        let vs ← more.mapM fun operand => operand.action room
        pure ((Chain.ofLists v operators vs).reading Operator.apply)) := by
  rw [fold_inTurn_ofLists _ _ (by simpa using balanced), List.mapM_map]
  rfl

namespace Node

theorem group_actions {first : Node} {more : List Node} {operators : List Operator}
    (balanced : more.length = operators.length) :
    Action.group (actions (first :: more)) operators =
      .ofChain first.action (List.zipWith Link.mk operators (more.map action)) := by
  rw [actions, Action.group, actions_eq_map, Action.links_of_le (by simpa using balanced.ge)]

theorem chain_action (operands : List Node) (operators : List Operator) {room : Nat} (h : room ≠ 0) :
    (chain operands operators).action room = (Action.group (actions operands) operators).evaluate 0 1 room := by
  rw [action, Action.within, if_neg h]

/-- A chain of sure operands has a value where there is a level for each of them. -/
theorem exists_value_of_chain {first : Node} {more : List Node} {operators : List Operator}
    (balanced : more.length = operators.length) (sure : ∀ node ∈ first :: more, node.action.Sure) {room : Nat}
    (enough : more.length + 1 + chainLevels ≤ room) (b : Bindings) :
    ∃ v, (((chain (first :: more) operators).action room).run b).result = .ok v := by
  obtain ⟨hfirst, hmore⟩ := List.forall_mem_cons.mp sure
  rw [chain_action _ _ (by omega), group_actions balanced]
  refine Grouping.exists_value_of_size_le hfirst (fun l hl => ?_) ?_ b
  · obtain ⟨i, hi, rfl⟩ := List.mem_iff_getElem.mp hl
    rw [List.getElem_zipWith, List.getElem_map]
    exact hmore _ (List.getElem_mem _)
  · simpa [Grouping.size_ofChain, ← balanced] using enough

theorem chain_agrees_fold {operands : List Node} {operators : List Operator} {room : Nat} {b : Bindings}
    (shallow : (((chain operands operators).action room).run b).result ≠ .error .tooDeep) :
    (((chain operands operators).action room).run b).Agrees
      (((Action.group (actions operands) operators).fold (fun (action : Action) => action room)
        (Chain.inTurn Operator.apply)).run b) := by
  have pos : room ≠ 0 := by
    rintro rfl
    rw [action] at shallow
    exact shallow rfl
  rw [chain_action _ _ pos] at shallow ⊢
  rw [← Action.group_extends (actions_steady operands) operators 0 1 room b shallow]
  exact Grouping.fold_perform_agrees _ _ _ b

/-- A chain that does not go too deep evaluates its operands one after the other, each once, and its value is what the
    tiers read their values as. -/
theorem run_chain_agrees {first : Node} {more : List Node} {operators : List Operator}
    (balanced : more.length = operators.length) {room : Nat} {b : Bindings}
    (shallow : (((chain (first :: more) operators).action room).run b).result ≠ .error .tooDeep) :
    (((chain (first :: more) operators).action room).run b).Agrees
      ((do
        let v ← first.action room
        let vs ← more.mapM fun operand => operand.action room
        pure ((Chain.ofLists v operators vs).reading Operator.apply) : Evaluation Value).run b) := by
  rw [← Grouping.fold_inTurn_ofChain balanced, ← group_actions balanced]
  exact chain_agrees_fold shallow

/-- In `y + 2 ^ (3 + 1) ^ 3 % 2` no operand goes too deep, and the name without a value does not keep the others from
    being evaluated. -/
theorem run_chain_agrees_of_five_operands :
    let more := [integer "2", chain [integer "3", integer "1"] [.add], integer "3", integer "2"]
    let operators := [Operator.add, .pow, .pow, .rem]
    (((chain (symbol "y" :: more) operators).action fullRoom).run .initial).result ≠ .error .tooDeep ∧
      (((chain (symbol "y" :: more) operators).action fullRoom).run .initial).Agrees
        ((do
          let v ← (symbol "y").action fullRoom
          let vs ← more.mapM fun operand => operand.action fullRoom
          pure ((Chain.ofLists v operators vs).reading Operator.apply) : Evaluation Value).run .initial) :=
  ⟨by decide +kernel, run_chain_agrees rfl (by decide +kernel)⟩

end Node

end Calculator
