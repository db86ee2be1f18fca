import Calculator.Proofs.Evaluation.Statement
import Calculator.Proofs.Value.Storable
import Calculator.Session

/-! The values of a session. Whatever lines are entered, each variable holds a storable value; and so the value of a line
    tells what the line was read as, and there is always something to show for it, except for an assignment
    (`values_of_session`).

    The evaluation of an expression gives a storable value on storable bindings, since its tokens do and the operators
    keep it so. One entered line therefore leaves storable bindings (`Session.storable_submit`), and so do all lines of a
    session (`Session.storable_enter`). -/

namespace Calculator

/-! ### Storable bindings -/

/-- Bindings on which every variable holds a storable value. -/
def Bindings.Storable (b : Bindings) : Prop := ∀ name v, b.lookup name = some v → v.Storable

theorem Bindings.storable_initial : Bindings.initial.Storable := by
  intro name v h
  obtain ⟨before, behind, entries, -⟩ := List.lookup_eq_some_iff.mp h
  have mem : (name, v) ∈ Bindings.initial.entries := by simp [entries]
  simp only [Bindings.initial, List.mem_cons, Prod.mk.injEq, List.not_mem_nil, or_false] at mem
  obtain ⟨-, rfl⟩ | ⟨-, rfl⟩ | ⟨-, rfl⟩ := mem
  all_goals exact .float _

theorem Bindings.Storable.assign {b : Bindings} {v : Value} (h : b.Storable) (hv : v.Storable) (target : String) :
    (b.assign target v).Storable := by
  intro name w hw
  rw [lookup_assign] at hw
  split at hw
  · cases hw
    exact hv
  · exact h name w hw

/-! ### Expressions -/

/-- An evaluation that gives a storable value on storable bindings, and leaves storable bindings. -/
def Evaluation.Storing (x : Evaluation Value) : Prop :=
  ∀ b, b.Storable → (x.run b).bindings.Storable ∧ ∀ v, (x.run b).result = .ok v → v.Storable

theorem Grouping.storing_perform (room : Nat) (op : Operator) {x y : Evaluation Value} (hx : x.Storing)
    (hy : y.Storing) : (perform room op x y).Storing := by
  intro b hb
  obtain ⟨hbx, left⟩ := hx b hb
  rw [perform]
  cases first : (x.run b).result with
  | error fault =>
    rw [Evaluation.run_bind_of_error first]
    exact ⟨hbx, nofun⟩
  | ok v =>
    obtain ⟨hby, right⟩ := hy _ hbx
    rw [Evaluation.run_bind_of_ok first]
    cases second : (y.run (x.run b).bindings).result with
    | error fault =>
      rw [Evaluation.run_bind_of_error second]
      exact ⟨hby, nofun⟩
    | ok w =>
      rw [Evaluation.run_bind_of_ok second, Evaluation.run_operation]
      refine ⟨hby, ?_⟩
      rintro _ ⟨⟩
      exact (left v first).apply (right w second) op

namespace Node

theorem storing_hereditary : Hereditary Evaluation.Storing Token.Formed where
  deep := fun b hb => ⟨hb, nofun⟩
  join := fun room op _ _ hx hy => Grouping.storing_perform room op hx hy
  integer := fun _ _ _ hb => ⟨hb, fun _ => Value.storable_of_integerLiteral⟩
  float := fun _ _ _ hb => ⟨hb, fun _ => Value.storable_of_floatLiteral⟩
  rational := by
    intro text _ b hb
    refine ⟨hb, ?_⟩
    rintro _ ⟨⟩
    exact .error .rationalNumber
  symbol := by
    intro name formed b hb
    refine ⟨hb, ?_⟩
    rintro _ ⟨⟩
    cases found : b.lookup name with
    | none => exact .error (.unbound formed)
    | some v => exact hb name v found

theorem Written.storing {node : Node} (h : node.Written) (room : Nat) : (node.action room).Storing :=
  expression_induction storing_hereditary (.fixed rfl) (.fixed rfl) h.expression h.formed room

theorem Written.storable {node : Node} (h : node.Written) {room : Nat} {b : Bindings} (hb : b.Storable) {v : Value}
    (hv : ((node.action room).run b).result = .ok v) : v.Storable :=
  (h.storing room b hb).2 v hv

end Node

/-! ### Lines -/

section Effect
variable {line : String} {b after : Bindings} {v : Value}

theorem Effect.storable (effect : Effect line b v after) (hb : b.Storable) :
    after.Storable ∧ (v.isNumeric = true → v.Storable) := by
  cases effect with
  | expression h hw hv => exact ⟨hb, fun _ => hw.storable hb hv⟩
  | assignment h hw hv => exact ⟨hb.assign (hw.storable hb hv) _, nofun⟩
  | _ => exact ⟨hb, nofun⟩

/-- An entered line has the value of its evaluation, and a number is kept. -/
theorem Effect.run_entered (effect : Effect line b v after) :
    ((Session.entered line).run b).result = .ok (some v) ∧
      ((Session.entered line).run b).bindings = if v.isNumeric then after.assign answerName v else after := by
  obtain ⟨result, rfl⟩ := effect.run
  rw [Session.entered, Evaluation.run_bind_of_ok result, Evaluation.keepAnswer]
  split <;> exact ⟨rfl, rfl⟩

/-- A failure that no variable holds comes only of a line that is rejected or goes too deep. -/
theorem Effect.cases_of_failsWith (effect : Effect line b v after) (hb : b.Storable) (hne : Token.scan line ≠ .ok [])
    {message : String} (fails : v.FailsWith message) (other : message ∈ otherWords) :
    (message = "parsing error" ∧ Rejected line) ∨ message = "expression is nested too deeply" := by
  obtain ⟨cause, rfl, rfl⟩ := fails
  cases effect with
  | blank h => exact absurd h hne
  | rejected h => exact Or.inl ⟨rfl, h⟩
  | expression h hw hv => exact absurd ⟨cause, rfl, rfl⟩ ((hw.storable hb hv).not_failsWith other)
  | tooDeep h deep => exact Or.inr rfl

end Effect

/-! ### Sessions -/

namespace Session

/-- The session after several lines have been entered, one after the other. -/
def enter (s : Session) (lines : List String) : Session := lines.foldl (fun s line => (s.submit line).session) s

theorem submit_of_blank (s : Session) {line : String} (h : Token.scan line = .ok []) :
    (s.submit line).result = .ok none ∧ (s.submit line).session.bindings = s.bindings := by
  rw [submit, submitIn, if_pos (Token.scan_eq_nil_iff.mp h)]
  exact ⟨rfl, rfl⟩

theorem submit_of_effect (s : Session) {line : String} (h : Token.scan line ≠ .ok []) {v : Value} {after : Bindings}
    (effect : Effect line s.bindings v after) :
    (s.submit line).result = .ok (some v) ∧
      (s.submit line).session.bindings = if v.isNumeric then after.assign answerName v else after := by
  rw [submit, submitIn, if_neg fun blank => h (Token.scan_eq_nil_iff.mpr blank)]
  exact effect.run_entered

theorem storable_submit {s : Session} (h : s.bindings.Storable) (line : String) :
    (s.submit line).session.bindings.Storable := by
  by_cases blank : Token.scan line = .ok []
  · rw [(s.submit_of_blank blank).2]
    exact h
  · obtain ⟨v, after, effect⟩ := exists_effect line s.bindings
    obtain ⟨hafter, hv⟩ := effect.storable h
    rw [(s.submit_of_effect blank effect).2]
    -- Only a number is kept, and no query, failure or assignment has one for its value.
    split
    · exact hafter.assign (hv ‹_›) answerName
    · exact hafter

theorem storable_enter {s : Session} (h : s.bindings.Storable) (lines : List String) :
    (s.enter lines).bindings.Storable := by
  induction lines generalizing s with
  | nil => exact h
  | cons line lines ih => exact ih (storable_submit h line)

/-- A line that is an assignment, which a session carries out: its target gets the value of the right side, and nothing
    else changes. -/
def Assigns (s : Session) (line : String) : Prop :=
  ∃ target value v, Node.OfLine line (.assignment target value) ∧
    ((value.action (fullRoom - 1)).run s.bindings).result = .ok v ∧
      (s.submit line).session.bindings = s.bindings.assign target v

/-- What the value of a line tells of the line, and what there is to show for it. -/
structure Answers (s : Session) (line : String) (r : Option Value) : Prop where
  blank : r = none ↔ Token.scan line = .ok []
  rejected : (∃ v, r = some v ∧ v.FailsWith "parsing error") ↔ Rejected line
  query : ∀ topic : Topic, r = some (.info topic) ↔ topic.query.OfLine line
  assigned : r = some .nil ↔ s.Assigns line
  other : Token.scan line ≠ .ok [] → ¬Rejected line → (∀ topic : Topic, ¬topic.query.OfLine line) → ¬s.Assigns line →
    ∃ v, r = some v ∧ (v.Storable ∨ v.FailsWith "expression is nested too deeply")
  supported : ∀ v, r = some v → ¬v.FailsWith "" ∧ ¬v.FailsWith "that operation isn't supported"
  shown : ∀ v, r = some v → (v.shown = .nothing ↔ v = .nil) ∧ ∀ typeName, v.shown ≠ .unknown typeName

theorem answers_of_blank (s : Session) {line : String} (h : Token.scan line = .ok []) : Answers s line none where
  blank := ⟨fun _ => h, fun _ => rfl⟩
  rejected := ⟨nofun, fun rejected => absurd h rejected.scan_ne⟩
  query := fun _ => ⟨nofun, fun query => absurd h query.scan_ne⟩
  assigned := ⟨nofun, fun ⟨_, _, _, read, _⟩ => absurd h read.scan_ne⟩
  other := fun hne => absurd h hne
  supported := nofun
  shown := nofun

theorem answers_of_effect {s : Session} (hs : s.bindings.Storable) {line : String} (hne : Token.scan line ≠ .ok [])
    {v : Value} {after : Bindings} (effect : Effect line s.bindings v after) : Answers s line (some v) where
  blank := ⟨nofun, fun h => absurd h hne⟩
  rejected := by
    constructor
    · rintro ⟨_, ⟨⟩, fails⟩
      obtain ⟨-, rejected⟩ | same := effect.cases_of_failsWith hs hne fails (by decide)
      · exact rejected
      · exact absurd same (by decide)
    · intro rejected
      exact ⟨v, rfl, .notAStatement, (effect.unique (.rejected rejected)).1, rfl⟩
  query := by
    intro topic
    constructor
    · rintro ⟨⟩
      cases effect with
      | query h => exact h
      | expression h hw hv => cases hw.storable hs hv
    · intro query
      rw [(effect.unique (.query query)).1]
  assigned := by
    constructor
    · rintro ⟨⟩
      have bindings := (s.submit_of_effect hne effect).2
      cases effect with
      | assignment h hw hv => exact ⟨_, _, _, h, hv, bindings⟩
      | expression h hw hv => cases hw.storable hs hv
    · rintro ⟨target, value, w, read, hw, -⟩
      rw [(effect.unique (.assignment read read.written_value hw)).1]
  other := by
    intro _ accepted noQuery unassigned
    have bindings := (s.submit_of_effect hne effect).2
    cases effect with
    | blank h => exact absurd h hne
    | rejected h => exact absurd h accepted
    | query h => exact absurd h (noQuery _)
    | expression h hw hv => exact ⟨v, rfl, Or.inl (hw.storable hs hv)⟩
    | assignment h hw hv => exact absurd ⟨_, _, _, h, hv, bindings⟩ unassigned
    | tooDeep h deep => exact ⟨_, rfl, Or.inr ⟨.tooDeep, rfl, rfl⟩⟩
  supported := by
    rintro _ ⟨⟩
    constructor
    all_goals
      intro fails
      obtain ⟨same, -⟩ | same := effect.cases_of_failsWith hs hne fails (by decide)
      all_goals exact absurd same (by decide)
  shown := by
    rintro _ ⟨⟩
    refine ⟨by cases v <;> simp [Value.shown], fun typeName unknown => ?_⟩
    cases effect with
    | expression h hw hv => cases hw.storable hs hv <;> cases unknown
    | _ => cases unknown

/-- Whatever lines are entered in a new session, every variable holds an integer in range, a floating-point number or a
    failure of one of six kinds. The value of the next line is missing exactly where the line is blank; it tells whether
    the line is rejected, a query or an assignment that is carried out; and else it is again one that a variable may hold,
    or the failure of going too deep. There is something to show for it unless it is that of an assignment. -/
theorem values_of_session (lines : List String) :
    (∀ name v, (start.enter lines).bindings.lookup name = some v →
      v.Storable ∧ ∀ message ∈ otherWords, ¬v.FailsWith message) ∧
    ∀ line, ∃ r, ((start.enter lines).submit line).result = .ok r ∧ Answers (start.enter lines) line r := by
  have stored := storable_enter (s := start) Bindings.storable_initial lines
  refine ⟨fun name v h => ⟨stored name v h, fun message other => (stored name v h).not_failsWith other⟩, fun line => ?_⟩
  by_cases blank : Token.scan line = .ok []
  · exact ⟨none, (submit_of_blank _ blank).1, answers_of_blank _ blank⟩
  · obtain ⟨v, after, effect⟩ := exists_effect line (start.enter lines).bindings
    exact ⟨some v, (submit_of_effect _ blank effect).1, answers_of_effect stored blank effect⟩

end Session

end Calculator
