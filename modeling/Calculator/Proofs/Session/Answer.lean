import Calculator.Proofs.Session.Values
import Mathlib.Data.List.Induction

/-! The answer of a session, the variable that holds the last number. A line gives it a value if the line's own value is
    a number, or if it assigns to the answer by name. All other lines leave it as it is, and so it holds what the latest
    of the lines that give it a value gave it (`Session.answer_of_session`). -/

namespace Calculator.Session

/-! ### Lines that give the answer a value -/

/-- A line that gives the answer a value when it is entered: its own value is a number, or it is an assignment to the
    answer and is carried out. -/
inductive Sets (s : Session) (line : String) : Prop where
  | number {v : Value} (result : (s.submit line).result = .ok (some v)) (numeric : v.isNumeric = true)
  | assigned {value : Node} (read : Node.OfLine line (.assignment answerName value))
      (done : (s.submit line).result = .ok (some .nil))

/-- The value that such a line gives it. An assignment gives it what the right side evaluates to. -/
inductive Gives (s : Session) (line : String) (v : Value) : Prop where
  | number (result : (s.submit line).result = .ok (some v)) (numeric : v.isNumeric = true)
  | assigned {value : Node} (read : Node.OfLine line (.assignment answerName value))
      (done : (s.submit line).result = .ok (some .nil)) (hv : (value.evaluation.run s.bindings).result = .ok v)

variable {s : Session} {line : String} {v : Value}

/-- An assignment is carried out, with the value that its right side has as an expression of its own, or goes too
    deep. -/
theorem submit_of_assignment {target : String} {value : Node} (read : Node.OfLine line (.assignment target value)) :
    (∃ v, (value.evaluation.run s.bindings).result = .ok v ∧ (s.submit line).result = .ok (some .nil) ∧
        (s.submit line).session.bindings = s.bindings.assign target v) ∨
      (s.submit line).result = .ok (some (.error .tooDeep)) := by
  have hw := read.written_value
  rcases hw.result_cases (fullRoom - 1) s.bindings with ⟨v, hv⟩ | deep
  · have whole := Node.action_steady value (Nat.sub_le fullRoom 1) s.bindings (by simp [hv])
    obtain ⟨result, bindings⟩ := s.submit_of_effect read.scan_ne (.assignment read hw hv)
    refine Or.inl ⟨v, ?_, result, bindings⟩
    rw [Node.evaluation, whole, hv]
  · exact Or.inr (s.submit_of_effect read.scan_ne (.tooDeep read (run_assignment_of_tooDeep target hw deep).1)).1

theorem Gives.sets (h : s.Gives line v) : s.Sets line := by
  cases h with
  | number result numeric => exact .number result numeric
  | assigned read done hv => exact .assigned read done

theorem Sets.exists_gives (h : s.Sets line) : ∃ v, s.Gives line v := by
  cases h with
  | number result numeric => exact ⟨_, .number result numeric⟩
  | assigned read done =>
    rcases submit_of_assignment read with ⟨v, hv, -⟩ | deep
    · exact ⟨v, .assigned read done hv⟩
    · rw [deep] at done
      cases done

theorem lookup_of_gives (h : s.Gives line v) : (s.submit line).session.bindings.lookup answerName = some v := by
  cases h with
  | number result numeric =>
    have filled : Token.scan line ≠ .ok [] := by
      intro blank
      rw [(s.submit_of_blank blank).1] at result
      cases result
    obtain ⟨w, after, effect⟩ := exists_effect line s.bindings
    obtain ⟨result', bindings⟩ := s.submit_of_effect filled effect
    rw [result] at result'
    cases result'
    rw [bindings, if_pos numeric, Bindings.lookup_assign_self]
  | assigned read done hv =>
    rcases submit_of_assignment read with ⟨w, hw, -, bindings⟩ | deep
    · obtain rfl := Except.ok.inj (hw.symm.trans hv)
      rw [bindings, Bindings.lookup_assign_self]
    · rw [deep] at done
      cases done

theorem lookup_of_not_sets (h : ¬s.Sets line) :
    (s.submit line).session.bindings.lookup answerName = s.bindings.lookup answerName := by
  by_cases blank : Token.scan line = .ok []
  · rw [(s.submit_of_blank blank).2]
  · obtain ⟨v, after, effect⟩ := exists_effect line s.bindings
    obtain ⟨result, bindings⟩ := s.submit_of_effect blank effect
    have other : ¬v.isNumeric = true := fun numeric => h (.number result numeric)
    rw [bindings, if_neg other]
    cases effect with
    | assignment read hw hv =>
      refine Bindings.lookup_assign_of_ne _ _ ?_
      rintro rfl
      exact h (.assigned read result)
    | _ => rfl

/-- A line that is no assignment changes no variable but the answer. -/
theorem lookup_of_not_assignment (h : ∀ target value, ¬Node.OfLine line (.assignment target value)) {name : String}
    (hne : name ≠ answerName) : (s.submit line).session.bindings.lookup name = s.bindings.lookup name := by
  by_cases blank : Token.scan line = .ok []
  · rw [(s.submit_of_blank blank).2]
  · obtain ⟨v, after, effect⟩ := exists_effect line s.bindings
    have kept : after = s.bindings := by
      cases effect with
      | assignment read => exact absurd read (h _ _)
      | _ => rfl
    rw [(s.submit_of_effect blank effect).2, kept]
    split
    · exact Bindings.lookup_assign_of_ne _ _ hne
    · rfl

/-! ### Lines that pass the answer by -/

/-- A line that is blank, fails, is a query, or assigns to another name. -/
inductive Passes (s : Session) (line : String) : Prop where
  | blank (h : isBlankText line = true)
  | failed {cause : Failure} (result : (s.submit line).result = .ok (some (.error cause)))
  | query {topic : Topic} (read : topic.query.OfLine line)
  | other {target : String} {value : Node} (read : Node.OfLine line (.assignment target value))
      (hne : target ≠ answerName)

theorem not_sets_of_result {r : Option Value} (result : (s.submit line).result = .ok r)
    (other : ∀ v ∈ r, v.isNumeric = false) (undone : r ≠ some .nil) : ¬s.Sets line := by
  intro sets
  cases sets with
  | number result' numeric =>
    rw [other _ (Except.ok.inj (result.symm.trans result'))] at numeric
    cases numeric
  | assigned read done => exact undone (Except.ok.inj (result.symm.trans done))

theorem Passes.not_sets (h : s.Passes line) : ¬s.Sets line := by
  cases h with
  | blank h => exact not_sets_of_result (s.submit_of_blank (Token.scan_eq_nil_iff.mpr h)).1 (by simp) (by simp)
  | failed result => exact not_sets_of_result result (by simp [Value.isNumeric]) (by simp)
  | query read =>
    exact not_sets_of_result (s.submit_of_effect read.scan_ne (.query read)).1 (by simp [Value.isNumeric]) (by simp)
  | other read hne =>
    rcases submit_of_assignment (s := s) read with ⟨-, -, done, -⟩ | deep
    · -- It gives a variable a value, but it gives it to another one.
      intro sets
      cases sets with
      | number result numeric =>
        rw [done] at result
        cases result
        cases numeric
      | assigned read' => exact hne (Node.assignment.inj (read.unique read')).1
    · exact not_sets_of_result deep (by simp [Value.isNumeric]) (by simp)

/-! ### The latest value -/

/-- A line, and the session in which it is entered. -/
structure Call where
  session : Session
  line : String

/-- A call that gives the answer a value. -/
def Call.Sets (c : Call) : Prop := c.session.Sets c.line

/-- The value that a call gives it. -/
def Call.Gives (c : Call) (v : Value) : Prop := c.session.Gives c.line v

/-- The calls of a session in which lines are entered one after the other. -/
def calls (s : Session) : List String → List Call
  | [] => []
  | line :: lines => ⟨s, line⟩ :: (s.submit line).session.calls lines

/-- The value that the answer is given by the latest of several calls that give it one. -/
def Latest (calls : List Call) (v : Value) : Prop :=
  ∃ before call behind, calls = before ++ call :: behind ∧ call.Gives v ∧ ∀ later ∈ behind, ¬later.Sets

theorem calls_concat (s : Session) (lines : List String) (line : String) :
    s.calls (lines ++ [line]) = s.calls lines ++ [⟨s.enter lines, line⟩] := by
  induction lines generalizing s with
  | nil => rfl
  | cons first lines ih =>
    rw [List.cons_append, calls, ih]
    rfl

theorem enter_concat (s : Session) (lines : List String) (line : String) :
    s.enter (lines ++ [line]) = ((s.enter lines).submit line).session := by
  rw [enter, List.foldl_append]
  rfl

theorem not_latest_nil (v : Value) : ¬Latest [] v := by
  rintro ⟨before, call, behind, split, -⟩
  simp at split

theorem latest_concat {calls : List Call} {last : Call} :
    Latest (calls ++ [last]) v ↔ last.Gives v ∨ ¬last.Sets ∧ Latest calls v := by
  constructor
  · rintro ⟨before, call, behind, split, gives, passed⟩
    rcases List.eq_nil_or_concat behind with rfl | ⟨behind, newest, rfl⟩
    · obtain ⟨-, same⟩ := List.append_inj' split rfl
      cases same
      exact Or.inl gives
    · rw [List.concat_eq_append, ← List.cons_append, ← List.append_assoc] at split
      obtain ⟨rfl, same⟩ := List.append_inj' split rfl
      cases same
      refine Or.inr ⟨passed last (by simp), before, call, behind, rfl, gives, fun later mem => ?_⟩
      exact passed later (by simp [mem])
  · rintro (gives | ⟨passed, before, call, behind, rfl, gives, earlier⟩)
    · exact ⟨calls, last, [], rfl, gives, by simp⟩
    · refine ⟨before, call, behind ++ [last], by simp, gives, fun later mem => ?_⟩
      rcases List.mem_append.mp mem with mem | mem
      · exact earlier later mem
      · rw [List.mem_singleton.mp mem]
        exact passed

theorem exists_latest_iff {calls : List Call} : (∃ v, Latest calls v) ↔ ∃ call ∈ calls, call.Sets := by
  constructor
  · rintro ⟨v, before, call, behind, rfl, gives, -⟩
    exact ⟨call, by simp, gives.sets⟩
  · rintro ⟨call, mem, sets⟩
    induction calls using List.reverseRecOn with
    | nil => cases mem
    | append_singleton calls last ih =>
      by_cases h : last.Sets
      · obtain ⟨v, hv⟩ := h.exists_gives
        exact ⟨v, latest_concat.mpr (Or.inl hv)⟩
      · rcases List.mem_append.mp mem with mem | mem
        · obtain ⟨v, latest⟩ := ih mem
          exact ⟨v, latest_concat.mpr (Or.inr ⟨h, latest⟩)⟩
        · rw [List.mem_singleton.mp mem] at sets
          exact absurd sets h

theorem lookup_answer_iff (lines : List String) (v : Value) :
    (start.enter lines).bindings.lookup answerName = some v ↔ Latest (start.calls lines) v := by
  induction lines using List.reverseRecOn with
  | nil => exact ⟨nofun, fun latest => absurd latest (not_latest_nil v)⟩
  | append_singleton lines line ih =>
    rw [enter_concat, calls_concat, latest_concat]
    by_cases h : (start.enter lines).Sets line
    · obtain ⟨w, hw⟩ := h.exists_gives
      rw [lookup_of_gives hw]
      constructor
      · rintro ⟨⟩
        exact Or.inl hw
      · rintro (hv | ⟨passed, -⟩)
        · exact (lookup_of_gives hw).symm.trans (lookup_of_gives hv)
        · exact absurd h passed
    · rw [lookup_of_not_sets h, ih]
      exact ⟨fun latest => Or.inr ⟨h, latest⟩, fun given => (given.resolve_left fun gives => h gives.sets).2⟩

/-- Whatever lines are entered in a new session, the answer has a value if and only if some of them gave it one, and then
    it is the value that the latest of these gave it. The next line leaves it as it is if it is blank, fails, is a query
    or assigns to another name; and if it is no assignment, it leaves all other variables as they are. -/
theorem answer_of_session (lines : List String) :
    ((start.enter lines).bindings.lookup answerName ≠ none ↔ ∃ call ∈ start.calls lines, call.Sets) ∧
    (∀ v, (start.enter lines).bindings.lookup answerName = some v ↔ Latest (start.calls lines) v) ∧
    ∀ line,
      ((start.enter lines).Passes line →
        ((start.enter lines).submit line).session.bindings.lookup answerName =
          (start.enter lines).bindings.lookup answerName) ∧
      ((∀ target value, ¬Node.OfLine line (.assignment target value)) → ∀ name, name ≠ answerName →
        ((start.enter lines).submit line).session.bindings.lookup name =
          (start.enter lines).bindings.lookup name) := by
  refine ⟨?_, lookup_answer_iff lines, fun line => ⟨fun passes => ?_, fun other name => ?_⟩⟩
  · rw [← exists_latest_iff, Option.ne_none_iff_exists']
    exact exists_congr fun v => lookup_answer_iff lines v
  · exact lookup_of_not_sets passes.not_sets
  · exact lookup_of_not_assignment other

end Calculator.Session
