import Calculator.Proofs.Evaluation.Statement

/-! What a line depends on. The variables that its evaluation reads, and the one that it changes, have names that are
    tokens of the line. So from bindings that agree on these names it has the same value and makes the same change
    (`run_of_agreeOn`). -/

namespace Calculator

/-! ### Bindings that agree -/

/-- Bindings that hold the same value for each of certain names, or none in both. -/
def Bindings.AgreeOn (names : String → Prop) (b b' : Bindings) : Prop :=
  ∀ name, names name → b.lookup name = b'.lookup name

theorem Bindings.AgreeOn.assign {names : String → Prop} {b b' : Bindings} (agree : b.AgreeOn names b')
    (target : String) (v : Value) : (b.assign target v).AgreeOn names (b'.assign target v) := by
  intro name hn
  rw [lookup_assign, lookup_assign, agree name hn]

/-! ### Expressions -/

/-- An evaluation that leaves the bindings as they are and reads none of them but those of certain names. -/
structure Evaluation.Reads (names : String → Prop) (x : Evaluation Value) : Prop where
  keeps : x.Keeps
  result_eq : ∀ {b b' : Bindings}, b.AgreeOn names b' → (x.run b).result = (x.run b').result

theorem Grouping.reads_perform {names : String → Prop} (room : Nat) (op : Operator) {x y : Evaluation Value}
    (hx : x.Reads names) (hy : y.Reads names) : (perform room op x y).Reads names where
  keeps := Node.keeps_hereditary.join room op x y hx.keeps hy.keeps
  result_eq := by
    intro b b' agree
    have value : ∀ b, ((perform room op x y).run b).result =
        (x.run b).result >>= fun v => (y.run b).result >>= fun w => .ok (op.apply v w) := by
      intro b
      rw [perform, hx.keeps.result_bind]
      refine bind_congr fun v => ?_
      rw [hy.keeps.result_bind]
      exact bind_congr fun w => congrArg Outcome.result (Evaluation.run_operation op v w room b)
    rw [value, value, hx.result_eq agree, hy.result_eq agree]

namespace Node

theorem reads_hereditary (names : String → Prop) :
    Hereditary (Evaluation.Reads names) fun t => t.kind = .identifier → names t.lexeme where
  deep := ⟨fun _ => rfl, fun _ => rfl⟩
  join := fun room op _ _ => Grouping.reads_perform room op
  integer := fun _ _ => ⟨fun _ => rfl, fun _ => rfl⟩
  float := fun _ _ => ⟨fun _ => rfl, fun _ => rfl⟩
  rational := fun _ _ => ⟨fun _ => rfl, fun _ => rfl⟩
  symbol := by
    intro name mentioned
    refine ⟨fun _ => rfl, fun agree => ?_⟩
    rw [Evaluation.run_lookup, Evaluation.run_lookup, agree name (mentioned rfl)]

/-- The evaluation of an expression reads only the names among its tokens. -/
theorem Written.reads {node : Node} (h : node.Written) (room : Nat) :
    (node.action room).Reads fun name => ⟨.identifier, name⟩ ∈ node.tokens := by
  refine expression_induction (reads_hereditary _) nofun nofun h.expression (fun t ht kind => ?_) room
  rw [← kind]
  exact ht

end Node

/-! ### Lines -/

/-- Whether a line mentions a name, as an identifier among its tokens. -/
def Mentions (line name : String) : Prop := ∃ ts, Token.scan line = .ok ts ∧ ⟨.identifier, name⟩ ∈ ts

namespace Node.OfLine
variable {line : String} {node : Node}

theorem mentions (h : OfLine line node) {name : String} (mem : ⟨.identifier, name⟩ ∈ node.tokens) :
    Mentions line name :=
  ⟨_, h.scan_eq, List.mem_append_left _ mem⟩

theorem mentions_target {target : String} {value : Node} (h : OfLine line (.assignment target value)) :
    Mentions line target :=
  h.mentions (List.mem_cons_self ..)

theorem mentions_value {target : String} {value : Node} (h : OfLine line (.assignment target value)) {name : String}
    (mem : ⟨.identifier, name⟩ ∈ value.tokens) : Mentions line name :=
  h.mentions (List.mem_cons_of_mem _ (List.mem_cons_of_mem _ mem))

end Node.OfLine

/-! ### What a line looks up and what it changes -/

/-- Whether a line is an assignment to a variable. -/
def Targets (line target : String) : Prop := ∃ value, Node.OfLine line (.assignment target value)

/-- Whether a variable stands in the expression of a line, which is its whole statement or the right side of an
    assignment. -/
inductive LooksUp (line name : String) : Prop where
  | expression {node : Node} (h : Node.OfLine line node) (hw : node.Written) (mem : ⟨.identifier, name⟩ ∈ node.tokens)
  | assignment {target : String} {value : Node} (h : Node.OfLine line (.assignment target value))
      (mem : ⟨.identifier, name⟩ ∈ value.tokens)

/-- The bindings after at most one variable has taken a value. -/
def Bindings.change (b : Bindings) : Option (String × Value) → Bindings
  | none => b
  | some (target, v) => b.assign target v

section
variable {line : String} {b b' after : Bindings} {v : Value}

theorem Targets.mentions {target : String} (h : Targets line target) : Mentions line target := by
  obtain ⟨value, read⟩ := h
  exact read.mentions_target

theorem LooksUp.mentions {name : String} (h : LooksUp line name) : Mentions line name := by
  cases h with
  | expression read hw mem => exact read.mentions mem
  | assignment read mem => exact read.mentions_value mem

theorem Node.OfLine.targets_iff {target name : String} {value : Node} (h : OfLine line (.assignment target value)) :
    Targets line name ↔ name = target := by
  constructor
  · rintro ⟨value', read⟩
    exact (assignment.inj (read.unique h)).1
  · rintro rfl
    exact ⟨value, h⟩

theorem Node.OfLine.looksUp_iff {target name : String} {value : Node} (h : OfLine line (.assignment target value)) :
    LooksUp line name ↔ ⟨.identifier, name⟩ ∈ value.tokens := by
  refine ⟨fun looksUp => ?_, .assignment h⟩
  cases looksUp with
  | expression read hw mem =>
    rw [read.unique h] at hw
    cases hw.expression
  | assignment read mem => exact (assignment.inj (read.unique h)).2 ▸ mem

theorem Node.Written.result_eq {node : Node} (h : node.Written) {names : String → Prop}
    (within : ∀ {name}, ⟨.identifier, name⟩ ∈ node.tokens → names name) (agree : b.AgreeOn names b') (room : Nat) :
    ((node.action room).run b).result = ((node.action room).run b').result :=
  (h.reads room).result_eq fun name mem => agree name (within mem)

/-- What a line does to bindings: at most it gives its target a value, and it does the same to all bindings that agree
    with them on the names that it looks up. -/
theorem Effect.exists_change (effect : Effect line b v after) :
    ∃ change : Option (String × Value), (∀ c ∈ change, Targets line c.1) ∧ after = b.change change ∧
      ∀ b', b.AgreeOn (LooksUp line) b' → Effect line b' v (b'.change change) := by
  have unchanged (same : ∀ b', b.AgreeOn (LooksUp line) b' → Effect line b' v b') :
      ∃ change : Option (String × Value), (∀ c ∈ change, Targets line c.1) ∧ b = b.change change ∧
        ∀ b', b.AgreeOn (LooksUp line) b' → Effect line b' v (b'.change change) :=
    ⟨none, nofun, rfl, same⟩
  cases effect with
  | blank h => exact unchanged fun _ _ => .blank h
  | rejected h => exact unchanged fun _ _ => .rejected h
  | query h => exact unchanged fun _ _ => .query h
  | expression h hw hv =>
    exact unchanged fun b' agree =>
      .expression h hw ((hw.result_eq (.expression h hw) agree fullRoom).symm.trans hv)
  | @assignment target value w h hw hv =>
    refine ⟨some (target, w), ?_, rfl, fun b' agree => .assignment h hw ?_⟩
    · rintro _ ⟨⟩
      exact ⟨value, h⟩
    · exact (hw.result_eq (.assignment h) agree (fullRoom - 1)).symm.trans hv
  | tooDeep h deep =>
    refine unchanged fun b' agree => .tooDeep h ?_
    rcases h.cases with ⟨topic, rfl⟩ | hw | ⟨target, value, rfl, hw⟩
    · rw [evaluation_query] at deep
      cases deep
    · exact (hw.result_eq (.expression h hw) agree fullRoom).symm.trans deep
    · have same := hw.result_eq (.assignment h) agree (fullRoom - 1)
      rcases hw.result_cases (fullRoom - 1) b with ⟨w, hw'⟩ | deep'
      · rw [(run_assignment_of_ok target hw hw').1] at deep
        cases deep
      · exact (run_assignment_of_tooDeep target hw (same.symm.trans deep')).1

/-- What a line does to bindings, it does to all bindings that agree with them on the names that it mentions. -/
theorem Effect.of_agreeOn (effect : Effect line b v after) (agree : b.AgreeOn (Mentions line) b') :
    after = b ∧ Effect line b' v b' ∨
      ∃ target w, Mentions line target ∧ after = b.assign target w ∧ Effect line b' v (b'.assign target w) := by
  obtain ⟨change, targets, changed, transfer⟩ := effect.exists_change
  have effect' := transfer b' fun name looksUp => agree name looksUp.mentions
  rcases change with _ | ⟨target, w⟩
  · exact Or.inl ⟨changed, effect'⟩
  · exact Or.inr ⟨target, w, (targets _ rfl).mentions, changed, effect'⟩

end

/-- What a line does alike on two bindings. -/
structure Alike (line : String) (b b' : Bindings) : Prop where
  value : ∃ v, ((evaluateLine line).run b).result = .ok v ∧ ((evaluateLine line).run b').result = .ok v
  agree : ((evaluateLine line).run b).bindings.AgreeOn (Mentions line) ((evaluateLine line).run b').bindings
  /-- Both are as before, or the same name that the line mentions has got the same value in both. -/
  change : ((evaluateLine line).run b).bindings = b ∧ ((evaluateLine line).run b').bindings = b' ∨
    ∃ target w, Mentions line target ∧ ((evaluateLine line).run b).bindings = b.assign target w ∧
      ((evaluateLine line).run b').bindings = b'.assign target w
  others : ∀ name, ¬Mentions line name → ((evaluateLine line).run b).bindings.lookup name = b.lookup name ∧
    ((evaluateLine line).run b').bindings.lookup name = b'.lookup name

/-- A line depends on no variables but those that it mentions, and changes no others. -/
theorem run_of_agreeOn {line : String} {b b' : Bindings} (agree : b.AgreeOn (Mentions line) b') : Alike line b b' := by
  obtain ⟨v, after, effect⟩ := exists_effect line b
  obtain ⟨result, rfl⟩ := effect.run
  rcases effect.of_agreeOn agree with ⟨same, effect'⟩ | ⟨target, w, mentioned, changed, effect'⟩
  · obtain ⟨result', same'⟩ := effect'.run
    refine ⟨⟨v, result, result'⟩, ?_, Or.inl ⟨same, same'⟩, fun _ _ => ?_⟩
    · rw [same, same']
      exact agree
    · rw [same, same']
      exact ⟨rfl, rfl⟩
  · obtain ⟨result', changed'⟩ := effect'.run
    refine ⟨⟨v, result, result'⟩, ?_, Or.inr ⟨target, w, mentioned, changed, changed'⟩, fun name other => ?_⟩
    · rw [changed, changed']
      exact agree.assign target w
    · have hne : name ≠ target := by
        rintro rfl
        exact other mentioned
      rw [changed, changed']
      exact ⟨b.lookup_assign_of_ne w hne, b'.lookup_assign_of_ne w hne⟩

/-- Of the names in `x = e - y ^ (e / 2)` only `e` has a value. What `z` holds makes no difference. -/
theorem run_of_agreeOn_of_unmentioned :
    let line := "x = e - y ^ (e / 2)"
    let b := Bindings.initial.assign "z" (.integer 1)
    let b' := Bindings.initial.assign "z" (.error .divisionByZero)
    b.AgreeOn (Mentions line) b' ∧ b.lookup "z" ≠ b'.lookup "z" ∧ Alike line b b' := by
  intro line b b'
  have scanned : Token.scan line = .ok [⟨.identifier, "x"⟩, ⟨.equal, "="⟩, ⟨.identifier, "e"⟩, ⟨.minus, "-"⟩,
      ⟨.identifier, "y"⟩, ⟨.caret, "^"⟩, ⟨.bracketOpen, "("⟩, ⟨.identifier, "e"⟩, ⟨.slash, "/"⟩, ⟨.integer, "2"⟩,
      ⟨.bracketClose, ")"⟩, Token.closing] := by decide +kernel
  have agree : b.AgreeOn (Mentions line) b' := by
    rintro name ⟨ts, scanned', mem⟩
    obtain rfl := Except.ok.inj (scanned.symm.trans scanned')
    obtain rfl | rfl | rfl | rfl : name = "x" ∨ name = "e" ∨ name = "y" ∨ name = "e" := by
      simpa [Token.closing] using mem
    all_goals rfl
  exact ⟨agree, by decide, run_of_agreeOn agree⟩

end Calculator
