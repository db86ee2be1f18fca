import Calculator.Proofs.Evaluation.Statement
import Calculator.Proofs.Grouping.Growth
import Mathlib.Data.List.Forall2

/-! A failed operand cuts its chain off. The chain up to that operand ends on a failure, and whatever follows becomes a
    right side of failures, so it changes nothing (`Grouping.Grows.fold_eq`). The whole chain therefore has the value of
    the part up to the failed operand, however the operators behind it group; and this is the operand's own failure
    unless something to the left of it fails (`Node.Written.cutOff_of_failed`). -/

namespace Calculator

/-! ### Failures that pass through -/

namespace Operator

theorem apply_error (op : Operator) {v : Value} (h : ∀ cause, v ≠ .error cause) (cause : Failure) :
    op.apply v (.error cause) = .error cause := by
  cases v with
  | error cause' => exact absurd rfl (h cause')
  | _ => rfl

theorem exists_apply_error (op : Operator) (v : Value) (cause : Failure) :
    ∃ first, op.apply v (.error cause) = .error first := by
  cases v with
  | error cause' => exact ⟨cause', rfl⟩
  | _ => exact ⟨cause, rfl⟩

end Operator

namespace Grouping

section Fold
variable {α β : Type} {leaf leaf' : α → β} {combine : Operator → β → β → β}

theorem fold_congr {g : Grouping α} (h : ∀ a ∈ g.leaves, leaf a = leaf' a) :
    g.fold leaf combine = g.fold leaf' combine := by
  induction g with
  | operand a => exact h a (List.mem_singleton_self a)
  | binary op left right hl hr =>
    obtain ⟨inLeft, inRight⟩ := List.forall_mem_append.mp h
    rw [fold, fold, hl inLeft, hr inRight]

end Fold

section Failed
variable {α : Type} {leaf : α → Value} {g g' : Grouping α} {cause : Failure}

theorem exists_fold_error (failed : leaf g.last = .error cause) :
    ∃ first, g.fold leaf Operator.apply = .error first := by
  induction g with
  | operand a => exact ⟨cause, failed⟩
  | binary op left right _ hr =>
    obtain ⟨first, same⟩ := hr failed
    rw [fold, same]
    exact op.exists_apply_error _ first

/-- Where the last operand fails, more operands behind it change nothing. -/
theorem Grows.fold_eq (grows : Grows g g') (failed : leaf g.last = .error cause) :
    g'.fold leaf Operator.apply = g.fold leaf Operator.apply := by
  induction grows with
  | same => rfl
  | behind op right _ ih =>
    obtain ⟨first, same⟩ := exists_fold_error failed
    rw [fold, ih failed, same]
    rfl
  | within op left _ ih => rw [fold, fold, ih failed]

/-- Where the last operand fails and nothing else does, it is the last operand's failure. -/
theorem fold_eq_last (distinct : g.leaves.Nodup) (failed : leaf g.last = .error cause)
    (sound : ∀ p, Part p g → g.last ∉ p.leaves → ∀ cause', p.fold leaf Operator.apply ≠ .error cause') :
    g.fold leaf Operator.apply = .error cause := by
  induction g with
  | operand a => exact failed
  | binary op left right _ hr =>
    obtain ⟨-, distinctRight, apart⟩ := List.nodup_append.mp distinct
    have right_eq := hr distinctRight failed fun p part => sound p (.right op left part)
    -- The last operand stands on the right side, and on that side only.
    have left_sound := sound left (.left op right .whole) fun mem => apart _ mem _ right.last_mem_leaves rfl
    rw [fold, right_eq]
    exact op.apply_error left_sound cause

end Failed

/-! ### Values of positions -/

/-- The value at a position. -/
def valueAt (values : List Value) (i : Nat) : Value := values.getD i .nil

/-- What operations on the values at given positions come to. -/
def value (values : List Value) (g : Grouping Nat) : Value := g.fold (valueAt values) Operator.apply

theorem valueAt_of_getElem? {values : List Value} {i : Nat} {v : Value} (h : values[i]? = some v) :
    valueAt values i = v := by
  rw [valueAt, List.getD_eq_getElem?_getD, h, Option.getD_some]

/-- A chain's value is that of its operators on all positions. -/
theorem chainValue_eq {operators : List Operator} {values : List Value} (h : values.length = operators.length + 1) :
    Chain.value operators values = .ok ((positions operators).value values) := by
  obtain ⟨v, vs, rfl⟩ := List.exists_cons_of_length_eq_add_one h
  have lengths : vs.length = operators.length := Nat.succ.inj h
  have links : (operators.mapIdx fun i op => Link.mk op (i + 1)).map
      (fun l => Link.mk l.op (valueAt (v :: vs) l.operand)) = List.zipWith Link.mk operators vs := by
    refine List.ext_getElem (by simp [lengths]) fun i hi hi' => ?_
    have bound : i < vs.length := by
      rw [List.length_zipWith] at hi'
      omega
    simp [valueAt, bound]
  rw [value, positions, fold_ofChain, Chain.map, links]
  rfl

theorem chainValue_take {operators : List Operator} {values : List Value} (h : values.length = operators.length + 1)
    {k : Nat} (hk : k ≤ operators.length) :
    Chain.value (operators.take k) (values.take (k + 1)) = .ok ((positions (operators.take k)).value values) := by
  have length : (operators.take k).length = k := List.length_take_of_le hk
  rw [chainValue_eq (by rw [length, List.length_take_of_le]; omega), value, value]
  refine congrArg Except.ok (fold_congr fun i hi => ?_)
  rw [leaves_positions, length, List.mem_range] at hi
  rw [valueAt, valueAt, List.getD_eq_getElem?_getD, List.getD_eq_getElem?_getD, List.getElem?_take_of_lt hi]

section Positions
variable {operators : List Operator} {values : List Value} {k : Nat} {cause : Failure}

theorem last_take_positions (hk : k ≤ operators.length) : (positions (operators.take k)).last = k := by
  rw [last_positions, List.length_take_of_le hk]

/-- Where the operand at `k` fails, the operators behind it change nothing. -/
theorem value_positions_take (hk : k ≤ operators.length) (failed : valueAt values k = .error cause) :
    (positions operators).value values = (positions (operators.take k)).value values := by
  rw [← last_take_positions hk] at failed
  exact (positions_grows operators k).fold_eq failed

theorem exists_value_error (hk : k ≤ operators.length) (failed : valueAt values k = .error cause) :
    ∃ first, (positions operators).value values = .error first := by
  rw [value_positions_take hk failed]
  rw [← last_take_positions hk] at failed
  exact exists_fold_error failed

/-- Where nothing to the left of `k` fails, it is the failure of the operand at `k`. -/
theorem value_eq_of_sound (hk : k ≤ operators.length) (failed : valueAt values k = .error cause)
    (sound : ∀ p, Part p (positions operators) → (∀ i ∈ p.leaves, i < k) → ∀ cause', p.value values ≠ .error cause') :
    (positions operators).value values = .error cause := by
  have last := last_take_positions hk
  rw [value_positions_take hk failed]
  -- What the chain up to `k` has to the left of `k`, the whole chain has too.
  refine fold_eq_last ?_ (by rwa [last]) fun p part before =>
    sound p ((positions_grows operators k).part part before) fun i hi => ?_
  · rw [leaves_positions]
    exact List.nodup_range
  · have bound := part.leaves_subset hi
    rw [leaves_positions, List.length_take_of_le hk, List.mem_range] at bound
    rw [last] at before
    refine Nat.lt_of_le_of_ne (Nat.le_of_lt_succ bound) ?_
    rintro rfl
    exact before hi

end Positions

end Grouping

/-! ### Chains that are cut short -/

/-- A grouping has a value where one does that goes on behind it: none of its operands stands deeper. -/
theorem Grouping.Grows.exists_value {g g' : Grouping Action} (grows : Grows g g') {own inner room : Nat} {b : Bindings}
    {v : Value} (h : ((g'.evaluate own inner room).run b).result = .ok v) :
    ∃ w, ((g.evaluate own inner room).run b).result = .ok w := by
  induction grows generalizing own inner b v with
  | same => exact ⟨v, h⟩
  | behind op right _ ih =>
    obtain ⟨x, hx, -⟩ := Evaluation.exists_of_bind h
    exact ih hx
  | within op left _ ih =>
    obtain ⟨x, hx, h⟩ := Evaluation.exists_of_bind h
    obtain ⟨y, hy, -⟩ := Evaluation.exists_of_bind h
    obtain ⟨w, hw⟩ := ih hy
    refine ⟨op.apply x w, ?_⟩
    rw [evaluate, Evaluation.run_bind_of_ok hx]
    dsimp only
    rw [Evaluation.run_bind_of_ok hw, Evaluation.run_operation]

theorem mapM_eq_ok_iff {α β : Type} {f : α → Except Fault β} {l : List α} {values : List β} :
    l.mapM f = .ok values ↔ List.Forall₂ (fun a v => f a = .ok v) l values := by
  induction l generalizing values with
  | nil => cases values <;> simp [pure, Except.pure]
  | cons a l ih =>
    rw [List.mapM_cons]
    cases first : f a with
    | error fault => cases values <;> simp [bind, Except.bind, first]
    | ok v =>
      cases rest : l.mapM f with
      | error fault => cases values <;> simp [bind, Except.bind, first, ← ih, rest]
      | ok vs => cases values <;> simp [bind, Except.bind, pure, Except.pure, first, ← ih, rest]

namespace Node
variable {operands : List Node} {operators : List Operator} {room k : Nat} {b : Bindings}

theorem isOperand_take (h : (chain operands operators).isOperand = true) (hk : k ≤ operators.length) :
    (chain (operands.take (k + 1)) (operators.take k)).isOperand = true := by
  rw [isOperand_chain, areOperands_eq_all] at h ⊢
  obtain ⟨balanced, operands_ok⟩ := h
  refine ⟨?_, List.all_eq_true.mpr fun node hn => ?_⟩
  · rw [List.length_take_of_le hk, List.length_take_of_le (by omega)]
  · exact List.all_eq_true.mp operands_ok node (List.mem_of_mem_take hn)

/-- A chain that has a value has one up to each of its operands. -/
theorem exists_value_of_take (balanced : operands.length = operators.length + 1) {v : Value}
    (h : (((chain operands operators).action room).run b).result = .ok v) (k : Nat) :
    ∃ w, (((chain (operands.take (k + 1)) (operators.take k)).action room).run b).result = .ok w := by
  have pos : room ≠ 0 := by
    rintro rfl
    rw [action] at h
    cases h
  obtain ⟨first, more, rfl⟩ := List.exists_cons_of_length_eq_add_one balanced
  have lengths : more.length = operators.length := Nat.succ.inj balanced
  rw [chain_action _ _ pos, group_actions lengths] at h
  rw [List.take_succ_cons, chain_action _ _ pos, group_actions (by simp [lengths]), List.map_take, ← List.take_zipWith]
  have grows := Grouping.ofChain_grows first.action ((List.zipWith Link.mk operators (more.map action)).take k)
    ((List.zipWith Link.mk operators (more.map action)).drop k)
  rw [List.take_append_drop] at grows
  exact grows.exists_value h

/-- The values that the operands of a chain have. -/
def Values (operands : List Node) (room : Nat) (b : Bindings) (values : List Value) : Prop :=
  List.Forall₂ (fun operand v => ((operand.action room).run b).result = .ok v) operands values

theorem Values.value_eq {values : List Value} (all : Values operands room b values)
    (h : (chain operands operators).isOperand = true) {v : Value}
    (result : (((chain operands operators).action room).run b).result = .ok v) :
    Chain.value operators values = .ok v := by
  rw [result_chain h (by simp [result]), mapM_eq_ok_iff.mpr all] at result
  exact result

/-- A failed operand fails with any room, as long as it does not go too deep. -/
theorem Values.valueAt_eq {values : List Value} (all : Values operands room b values)
    (h : areOperands operands = true) {operand : Node} (found : operands[k]? = some operand) {room' : Nat}
    {cause : Failure} (failed : ((operand.action room').run b).result = .ok (.error cause)) :
    Grouping.valueAt values k = .error cause := by
  obtain ⟨hk, rfl⟩ := List.getElem?_eq_some_iff.mp found
  have hk' : k < values.length := all.length_eq ▸ hk
  have result : ((operands[k].action room).run b).result = .ok values[k] := all.get hk hk'
  have operand_ok : operands[k].isOperand = true := by
    rw [areOperands_eq_all] at h
    exact List.all_eq_true.mp h _ (List.getElem_mem hk)
  have meaning := settles_action _ operand_ok room b (by simp [result])
  have meaning' := settles_action _ operand_ok room' b (by simp [failed])
  rw [result] at meaning
  rw [failed, ← meaning] at meaning'
  rw [Grouping.valueAt_of_getElem? (List.getElem?_eq_getElem hk')]
  exact (Except.ok.inj meaning').symm

/-- The value of a chain, and that of the chain up to any of its operands, from the values of the operands. -/
theorem Written.exists_values (h : (chain operands operators).Written)
    (shallow : (((chain operands operators).action room).run b).result ≠ .error .tooDeep) :
    ∃ values, Values operands room b values ∧
      (((chain operands operators).action room).run b).result =
        .ok ((Grouping.positions operators).value values) ∧
      ∀ k ≤ operators.length, (((chain (operands.take (k + 1)) (operators.take k)).action room).run b).result =
        .ok ((Grouping.positions (operators.take k)).value values) := by
  have whole : (chain operands operators).isOperand = true := h.expression
  obtain ⟨balanced, -⟩ := isOperand_chain.mp whole
  obtain ⟨v, hv⟩ := (h.result_cases room b).resolve_right shallow
  obtain ⟨values, all⟩ : ∃ values, Values operands room b values := by
    rw [result_chain whole shallow] at hv
    cases each : operands.mapM fun node => ((node.action room).run b).result with
    | error fault =>
      rw [each] at hv
      cases hv
    | ok values => exact ⟨values, mapM_eq_ok_iff.mp each⟩
  have lengths : values.length = operators.length + 1 := all.length_eq ▸ balanced
  refine ⟨values, all, ?_, fun k hk => ?_⟩
  · rw [hv, ← all.value_eq whole hv, Grouping.chainValue_eq lengths]
  · obtain ⟨w, hw⟩ := exists_value_of_take balanced hv k
    have taken : Values (operands.take (k + 1)) room b (values.take (k + 1)) := List.forall₂_take _ all
    rw [hw, ← taken.value_eq (isOperand_take whole hk) hw, Grouping.chainValue_take lengths hk]

/-- What comes of a chain whose operand at `k` fails: it fails too, as the chain up to that operand does, and so does
    every chain that differs from it only behind `k`. Where no operand to the left of `k` fails, and no operation that
    the whole chain has on these operands alone, it fails for the cause of the operand at `k`. -/
structure CutOff (operands : List Node) (operators : List Operator) (k room : Nat) (b : Bindings) (values : List Value)
    (cause : Failure) : Prop where
  failed : ∃ first, (((chain operands operators).action room).run b).result = .ok (.error first)
  truncated : (((chain operands operators).action room).run b).result =
    (((chain (operands.take (k + 1)) (operators.take k)).action room).run b).result
  regardless : ∀ operands' operators', (chain operands' operators').Written →
    operands'.take (k + 1) = operands.take (k + 1) → operators'.take k = operators.take k →
      (((chain operands' operators').action room).run b).result ≠ .error .tooDeep →
        (((chain operands' operators').action room).run b).result =
          (((chain operands operators).action room).run b).result
  exact : (∀ p, Grouping.Part p (Grouping.positions operators) → (∀ i ∈ p.leaves, i < k) →
      ∀ cause', p.value values ≠ .error cause') →
    (((chain operands operators).action room).run b).result = .ok (.error cause)

section Failed
variable {operand : Node} {room' : Nat} {cause : Failure}

theorem Written.exists_values_of_failed (h : (chain operands operators).Written)
    (shallow : (((chain operands operators).action room).run b).result ≠ .error .tooDeep)
    (found : operands[k]? = some operand) (failed : ((operand.action room').run b).result = .ok (.error cause)) :
    k ≤ operators.length ∧ ∃ values, Values operands room b values ∧ Grouping.valueAt values k = .error cause ∧
      (((chain operands operators).action room).run b).result = .ok ((Grouping.positions operators).value values) ∧
      (((chain (operands.take (k + 1)) (operators.take k)).action room).run b).result =
        .ok ((Grouping.positions operators).value values) := by
  have whole : (chain operands operators).isOperand = true := h.expression
  obtain ⟨balanced, operands_ok⟩ := isOperand_chain.mp whole
  obtain ⟨bound, -⟩ := List.getElem?_eq_some_iff.mp found
  have hk : k ≤ operators.length := by omega
  obtain ⟨values, all, result, parts⟩ := h.exists_values shallow
  have fails := all.valueAt_eq operands_ok found failed
  refine ⟨hk, values, all, fails, result, ?_⟩
  rw [parts k hk, Grouping.value_positions_take hk fails]

/-- Chains that are the same up to a failed operand have the same value. -/
theorem Written.result_eq_of_take {operands' : List Node} {operators' : List Operator}
    (h : (chain operands operators).Written) (h' : (chain operands' operators').Written)
    (shallow : (((chain operands operators).action room).run b).result ≠ .error .tooDeep)
    (shallow' : (((chain operands' operators').action room).run b).result ≠ .error .tooDeep)
    (sameOperands : operands'.take (k + 1) = operands.take (k + 1))
    (sameOperators : operators'.take k = operators.take k)
    (found : operands[k]? = some operand) (failed : ((operand.action room').run b).result = .ok (.error cause)) :
    (((chain operands' operators').action room).run b).result =
      (((chain operands operators).action room).run b).result := by
  have found' : operands'[k]? = some operand := by
    have within := congrArg (·[k]?) sameOperands
    simp only [List.getElem?_take_of_lt (Nat.lt_succ_self k)] at within
    rw [within, found]
  obtain ⟨-, values, -, -, whole, part⟩ := h.exists_values_of_failed shallow found failed
  obtain ⟨-, values', -, -, whole', part'⟩ := h'.exists_values_of_failed shallow' found' failed
  rw [whole, whole', ← part, ← part', sameOperands, sameOperators]

/-- An operand that fails cuts its chain off, as long as the chain does not go too deep. -/
theorem Written.cutOff_of_failed (h : (chain operands operators).Written)
    (shallow : (((chain operands operators).action room).run b).result ≠ .error .tooDeep)
    (found : operands[k]? = some operand) (failed : ((operand.action room').run b).result = .ok (.error cause)) :
    ∃ values, Values operands room b values ∧ CutOff operands operators k room b values cause := by
  obtain ⟨hk, values, all, fails, whole, part⟩ := h.exists_values_of_failed shallow found failed
  refine ⟨values, all, ?_, whole.trans part.symm, fun operands' operators' h' sameOperands sameOperators shallow' => ?_,
    fun sound => ?_⟩
  · obtain ⟨first, same⟩ := Grouping.exists_value_error hk fails
    exact ⟨first, whole.trans (congrArg Except.ok same)⟩
  · exact h.result_eq_of_take h' shallow shallow' sameOperands sameOperators found failed
  · rw [whole, Grouping.value_eq_of_sound hk fails sound]

end Failed

/-- In `1 + 2 ^ y % 3 * (1 / 0)` the name without a value stands before a remainder, which takes it from the power, and
    before an operand that fails for another cause. -/
theorem Written.cutOff_of_unbound :
    let operands := [integer "1", integer "2", symbol "y", integer "3", chain [integer "1", integer "0"] [.div]]
    let operators := [Operator.add, .pow, .rem, .mul]
    (chain operands operators).Written ∧
      (((chain operands operators).action fullRoom).run .initial).result ≠ .error .tooDeep ∧
      operands[2]? = some (symbol "y") ∧
      (((symbol "y").action fullRoom).run .initial).result = .ok (.error (.unbound "y")) ∧
      ∃ values, Values operands fullRoom .initial values ∧
        CutOff operands operators 2 fullRoom .initial values (.unbound "y") := by
  intro operands operators
  have read : OfLine "1 + 2 ^ y % 3 * (1 / 0)" (chain operands operators) :=
    ⟨[⟨.integer, "1"⟩, ⟨.plus, "+"⟩, ⟨.integer, "2"⟩, ⟨.caret, "^"⟩, ⟨.identifier, "y"⟩, ⟨.percent, "%"⟩,
      ⟨.integer, "3"⟩, ⟨.star, "*"⟩, ⟨.bracketOpen, "("⟩, ⟨.integer, "1"⟩, ⟨.slash, "/"⟩, ⟨.integer, "0"⟩,
      ⟨.bracketClose, ")"⟩, Token.closing], by decide +kernel, rfl⟩
  have written := read.written rfl
  have shallow : (((chain operands operators).action fullRoom).run .initial).result ≠ .error .tooDeep := by
    decide +kernel
  have failed : (((symbol "y").action fullRoom).run .initial).result = .ok (.error (.unbound "y")) := rfl
  exact ⟨written, shallow, rfl, failed, written.cutOff_of_failed shallow rfl failed⟩

end Node

end Calculator
