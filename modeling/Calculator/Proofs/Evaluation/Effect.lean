import Calculator.Evaluation.Basic

/-! Comparing evaluations by what they do. Two evaluations agree if from any bindings they have the same result, leave
    the same bindings and make the same assignments in the same order (`Evaluation.Agrees`): what they remark on
    operations may differ. One extends another if it does the same wherever the other does not go too deep
    (`Evaluation.Extends`). Both relations go through a sequence of evaluations. -/

namespace Calculator

/-- Whether a remark tells of an assignment. -/
def Remark.isAssignment : Remark → Bool
  | .assigned _ _ => true
  | _ => false

/-- Two outcomes with the same result, the same bindings and the same assignments on the way. -/
structure Outcome.Agrees {α : Type} (o p : Outcome α) : Prop where
  result_eq : o.result = p.result
  bindings_eq : o.bindings = p.bindings
  assignments_eq : o.remarks.filter Remark.isAssignment = p.remarks.filter Remark.isAssignment

namespace Evaluation
variable {α β : Type} {x y z : Evaluation α}

theorem exists_of_bind {f : α → Evaluation β} {b : Bindings} {v : β} (h : ((x >>= f).run b).result = .ok v) :
    ∃ a, (x.run b).result = .ok a ∧ ((f a).run (x.run b).bindings).result = .ok v := by
  cases result : (x.run b).result with
  | ok a =>
    rw [run_bind_of_ok result] at h
    exact ⟨a, rfl, h⟩
  | error fault =>
    rw [run_bind_of_error result] at h
    cases h

/-! ### The same effect -/

def Agrees (x y : Evaluation α) : Prop := ∀ b, (x.run b).Agrees (y.run b)

theorem Agrees.refl (x : Evaluation α) : x.Agrees x := fun _ => ⟨rfl, rfl, rfl⟩

theorem Agrees.trans (h : x.Agrees y) (h' : y.Agrees z) : x.Agrees z := fun b =>
  ⟨(h b).result_eq.trans (h' b).result_eq, (h b).bindings_eq.trans (h' b).bindings_eq,
    (h b).assignments_eq.trans (h' b).assignments_eq⟩

theorem Agrees.bind {f g : α → Evaluation β} (h : x.Agrees y) (h' : ∀ a, (f a).Agrees (g a)) :
    (x >>= f).Agrees (y >>= g) := by
  intro b
  obtain ⟨hr, hb, ha⟩ := h b
  cases result : (x.run b).result with
  | ok a =>
    obtain ⟨hr', hb', ha'⟩ := h' a (x.run b).bindings
    rw [run_bind_of_ok result, run_bind_of_ok (hr ▸ result), ← hb]
    exact ⟨hr', hb', by simp only [List.filter_append, ha, ha']⟩
  | error fault =>
    rw [run_bind_of_error result, run_bind_of_error (hr ▸ result)]
    exact ⟨rfl, hb, ha⟩

theorem operation_agrees (op : Operator) (v w : Value) (room : Nat) :
    (operation op v w room).Agrees (pure (op.apply v w)) := by
  intro b
  rw [run_operation, run_pure]
  refine ⟨rfl, rfl, ?_⟩
  have (r : Remark) (hr : Remark.onOperation? op v w = some r) : r.isAssignment = false := by
    unfold Remark.onOperation? at hr
    split at hr <;> cases hr <;> rfl
  cases h : Remark.onOperation? op v w with
  | none => rfl
  | some r => simp [this r h]

/-! ### The same effect unless too deep -/

def Extends (y x : Evaluation α) : Prop := ∀ b, (x.run b).result ≠ .error .tooDeep → y.run b = x.run b

theorem Extends.refl (x : Evaluation α) : x.Extends x := fun _ _ => rfl

theorem operation_extends {op : Operator} {v w : Value} (room room' : Nat) :
    (operation op v w room).Extends (operation op v w room') := fun b _ => by
  rw [run_operation, run_operation]

theorem Extends.bind {f g : α → Evaluation β} (h : y.Extends x) (h' : ∀ a, (g a).Extends (f a)) :
    (y >>= g).Extends (x >>= f) := by
  intro b hb
  cases result : (x.run b).result with
  | ok a =>
    have same := h b (by simp [result])
    rw [run_bind_of_ok result] at hb ⊢
    rw [run_bind_of_ok (same ▸ result), same, h' a _ hb]
  | error fault =>
    rw [run_bind_of_error result] at hb ⊢
    have same := h b (by simpa [result] using hb)
    rw [run_bind_of_error (same ▸ result), same]

end Evaluation

end Calculator
