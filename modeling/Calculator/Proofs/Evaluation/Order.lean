import Calculator.Proofs.Evaluation.Mention

/-! Lines that may change places. Two lines are independent if neither assigns to a variable that the other assigns to or
    looks up. Each of them then finds what it looks up as it was, whether the other has been evaluated or not, and their
    changes are to different variables; so both orders give the same values and the same bindings
    (`Independent.inOrder_swap`). -/

namespace Calculator

/-! ### Changes of bindings -/

namespace Bindings
variable {b : Bindings} {c d : Option (String × Value)}

theorem AgreeOn.change {names : String → Prop} (h : ∀ x ∈ c, ¬names x.1) : b.AgreeOn names (b.change c) := by
  rcases c with _ | ⟨target, v⟩
  · exact fun _ _ => rfl
  · intro name hn
    have hne : name ≠ target := by
      rintro rfl
      exact h _ rfl hn
    exact (b.lookup_assign_of_ne v hne).symm

/-- Changes of different variables may be made in either order. -/
theorem lookup_change_comm (h : ∀ x ∈ c, ∀ y ∈ d, x.1 ≠ y.1) (name : String) :
    ((b.change c).change d).lookup name = ((b.change d).change c).lookup name := by
  rcases c with _ | ⟨target, v⟩
  · rfl
  · rcases d with _ | ⟨target', v'⟩
    · rfl
    · have hne : target ≠ target' := h _ rfl _ rfl
      simp only [change, lookup_assign]
      by_cases ht : name = target
      · subst name
        simp [hne]
      · simp [ht]

end Bindings

/-! ### Two lines -/

/-- The evaluation of two lines, one after the other. -/
def inOrder (first second : String) : Evaluation (Value × Value) := do
  let v ← evaluateLine first
  let w ← evaluateLine second
  pure (v, w)

theorem Effect.run_inOrder {first second : String} {b between after : Bindings} {v w : Value}
    (effect : Effect first b v between) (effect' : Effect second between w after) :
    ((inOrder first second).run b).result = .ok (v, w) ∧ ((inOrder first second).run b).bindings = after := by
  obtain ⟨result, rfl⟩ := effect.run
  obtain ⟨result', rfl⟩ := effect'.run
  rw [inOrder, Evaluation.run_bind_of_ok result]
  dsimp only
  rw [Evaluation.run_bind_of_ok result']
  exact ⟨rfl, rfl⟩

/-- Two lines of which neither assigns to a variable that the other assigns to or looks up. -/
structure Independent (first second : String) : Prop where
  targets_ne : ∀ name, Targets first name → ¬Targets second name
  not_looksUp : ∀ name, Targets first name → ¬LooksUp second name
  not_looksUp' : ∀ name, Targets second name → ¬LooksUp first name

/-- Independent lines have the same values and leave the same bindings in both orders. -/
theorem Independent.inOrder_swap {first second : String} (h : Independent first second) (b : Bindings) :
    ∃ v w, ((inOrder first second).run b).result = .ok (v, w) ∧ ((inOrder second first).run b).result = .ok (w, v) ∧
      ∀ name, ((inOrder first second).run b).bindings.lookup name =
        ((inOrder second first).run b).bindings.lookup name := by
  obtain ⟨v, _, effect⟩ := exists_effect first b
  obtain ⟨w, _, effect'⟩ := exists_effect second b
  obtain ⟨c, targets, rfl, transfer⟩ := effect.exists_change
  obtain ⟨d, targets', rfl, transfer'⟩ := effect'.exists_change
  -- Each line makes the same change behind the other one, since it looks up nothing that this one has changed.
  have behind : Effect second (b.change c) w ((b.change c).change d) :=
    transfer' _ (.change fun x hx => h.not_looksUp _ (targets x hx))
  have behind' : Effect first (b.change d) v ((b.change d).change c) :=
    transfer _ (.change fun y hy => h.not_looksUp' _ (targets' y hy))
  obtain ⟨result, bindings⟩ := effect.run_inOrder behind
  obtain ⟨result', bindings'⟩ := effect'.run_inOrder behind'
  refine ⟨v, w, result, result', fun name => ?_⟩
  rw [bindings, bindings']
  refine Bindings.lookup_change_comm (fun x hx y hy same => ?_) name
  exact h.targets_ne _ (targets x hx) (same ▸ targets' y hy)

/-- A constant gets a value that fails, and another variable the value of a failure that is stored and of a name without
    a value. -/
theorem Independent.inOrder_swap_of_failures :
    let first := "pi = x / 0"
    let second := "y = e - x ^ (2 % z)"
    let b := Bindings.initial.assign "x" (.error .divisionByZero)
    Independent first second ∧
      ∃ v w, ((inOrder first second).run b).result = .ok (v, w) ∧ ((inOrder second first).run b).result = .ok (w, v) ∧
        ∀ name, ((inOrder first second).run b).bindings.lookup name =
          ((inOrder second first).run b).bindings.lookup name := by
  intro first second b
  have hfirst : Node.OfLine first (.assignment "pi" (.chain [.symbol "x", .integer "0"] [.div])) :=
    ⟨[⟨.identifier, "pi"⟩, ⟨.equal, "="⟩, ⟨.identifier, "x"⟩, ⟨.slash, "/"⟩, ⟨.integer, "0"⟩, Token.closing],
      by decide +kernel, rfl⟩
  have hsecond : Node.OfLine second (.assignment "y"
      (.chain [.symbol "e", .symbol "x", .chain [.integer "2", .symbol "z"] [.rem]] [.sub, .pow])) :=
    ⟨[⟨.identifier, "y"⟩, ⟨.equal, "="⟩, ⟨.identifier, "e"⟩, ⟨.minus, "-"⟩, ⟨.identifier, "x"⟩, ⟨.caret, "^"⟩,
      ⟨.bracketOpen, "("⟩, ⟨.integer, "2"⟩, ⟨.percent, "%"⟩, ⟨.identifier, "z"⟩, ⟨.bracketClose, ")"⟩,
      Token.closing], by decide +kernel, rfl⟩
  have independent : Independent first second := by
    constructor
    all_goals
      intro name
      simp only [hfirst.targets_iff, hsecond.targets_iff, hfirst.looksUp_iff, hsecond.looksUp_iff]
      rintro rfl
      decide +kernel
  exact ⟨independent, independent.inOrder_swap b⟩

end Calculator
