import Calculator.Session
import Mathlib.Data.List.Destutter

/-! The history of a session in which lines are entered and the history is used directly, in any order. It holds the
    lines in order, and of the same line several times in a row only one; its cursor is at one of them, so that no step
    back or forth leaves them (`Session.history_of_uses`). -/

namespace Calculator

/-! ### Lists without repetitions in a row -/

section
variable {α : Type} [DecidableEq α]

theorem getLast?_destutter' (a : α) (l : List α) : (l.destutter' (· ≠ ·) a).getLast? = (a :: l).getLast? := by
  induction l generalizing a with
  | nil => rfl
  | cons b l ih =>
    rw [List.getLast?_cons_cons]
    by_cases h : a = b
    · subst h
      rw [List.destutter'_cons_neg l (by simp), ih]
    · obtain ⟨c, kept, hk⟩ := List.exists_cons_of_ne_nil (List.destutter'_ne_nil (R := (· ≠ ·)) (a := b) l)
      rw [List.destutter'_cons_pos l h, hk, List.getLast?_cons_cons, ← hk, ih]

theorem destutter'_concat (a : α) (l : List α) (x : α) :
    (l ++ [x]).destutter' (· ≠ ·) a =
      if (a :: l).getLast? = some x then l.destutter' (· ≠ ·) a else l.destutter' (· ≠ ·) a ++ [x] := by
  induction l generalizing a with
  | nil => by_cases h : a = x <;> simp [h]
  | cons b l ih =>
    rw [List.cons_append, List.getLast?_cons_cons]
    by_cases h : a = b
    · subst h
      rw [List.destutter'_cons_neg _ (by simp), List.destutter'_cons_neg _ (by simp), ih]
    · rw [List.destutter'_cons_pos _ h, List.destutter'_cons_pos _ h, ih]
      split <;> rfl

theorem destutter_concat (l : List α) (x : α) :
    (l ++ [x]).destutter (· ≠ ·) =
      if (l.destutter (· ≠ ·)).getLast? = some x then l.destutter (· ≠ ·) else l.destutter (· ≠ ·) ++ [x] := by
  cases l with
  | nil => rfl
  | cons a l =>
    rw [List.cons_append, List.destutter_cons', List.destutter_cons', destutter'_concat, getLast?_destutter']

end

/-! ### What a history holds -/

namespace History
variable {h : History} {lines : List String} {step : Option String × History}

/-- A history of certain lines, of which it holds none twice in a row. Its cursor, if set, is at an entry. -/
structure Holds (h : History) (lines : List String) : Prop where
  entries_eq : h.entries = lines.destutter (· ≠ ·)
  cursor_lt : ∀ {position}, h.cursor = some position → position < h.entries.length

theorem holds_empty : empty.Holds [] := ⟨rfl, nofun⟩

theorem Holds.reset (holds : h.Holds lines) : h.reset.Holds lines := ⟨holds.entries_eq, nofun⟩

theorem cursor_add (h : History) (line : String) : (h.add line).cursor = h.cursor := by
  rw [add]
  split <;> rfl

theorem exists_entries_add (h : History) (line : String) : ∃ more, (h.add line).entries = h.entries ++ more := by
  rw [add]
  split
  · exact ⟨[], (List.append_nil _).symm⟩
  · exact ⟨[line], rfl⟩

/-- What the cursor is at stays the same when a line is added. -/
theorem getElem?_entries_add {position : Nat} (lt : position < h.entries.length) (line : String) :
    (h.add line).entries[position]? = h.entries[position]? := by
  obtain ⟨more, entries⟩ := h.exists_entries_add line
  rw [entries, List.getElem?_append_left lt]

theorem Holds.add (holds : h.Holds lines) (line : String) : (h.add line).Holds (lines ++ [line]) where
  entries_eq := by
    rw [History.add, destutter_concat, ← holds.entries_eq]
    split <;> rfl
  cursor_lt := by
    intro position at_position
    rw [cursor_add] at at_position
    obtain ⟨more, entries⟩ := h.exists_entries_add line
    rw [entries, List.length_append]
    exact Nat.lt_add_right _ (holds.cursor_lt at_position)

/-! ### Steps back and forth -/

/-- What may come of a step: it goes to an entry, which is the answer; it goes nowhere; or it ends the walk. -/
inductive Walks (h : History) : Option String × History → Prop where
  | goes {position : Nat} (lt : position < h.entries.length) :
      Walks h (some h.entries[position], { h with cursor := some position })
  | stays : Walks h (none, h)
  | ends : Walks h (none, h.reset)

theorem walks_goTo {position : Nat} (lt : position < h.entries.length) : Walks h (h.goTo position) := by
  rw [goTo, List.getElem?_eq_getElem lt]
  exact .goes lt

theorem Holds.walks_older (holds : h.Holds lines) : Walks h h.older := by
  rw [older]
  split
  · exact .stays
  · rename_i filled
    have pos : 0 < h.entries.length := List.length_pos_iff.mpr fun none => filled (by simp [none])
    split
    · exact walks_goTo (Nat.sub_lt pos Nat.one_pos)
    · exact .stays
    · rename_i position at_position
      exact walks_goTo (Nat.lt_of_succ_lt (holds.cursor_lt at_position))

theorem walks_newer (h : History) : Walks h h.newer := by
  rw [newer]
  split
  · exact .stays
  · split
    · exact walks_goTo ‹_›
    · exact .ends

theorem Walks.holds (walk : h.Walks step) (holds : h.Holds lines) : step.2.Holds lines := by
  cases walk with
  | goes lt =>
    refine ⟨holds.entries_eq, ?_⟩
    rintro _ ⟨⟩
    exact lt
  | stays => exact holds
  | ends => exact holds.reset

/-- An answer is the entry at the new cursor. -/
theorem Walks.of_answer (walk : h.Walks step) {line : String} (answer : step.1 = some line) :
    ∃ position, step.2.cursor = some position ∧ step.2.entries[position]? = some line := by
  cases walk with
  | goes lt =>
    cases answer
    exact ⟨_, rfl, List.getElem?_eq_getElem lt⟩
  | stays => cases answer
  | ends => cases answer

/-- A cursor that has moved to a position is at an entry, which is the answer. -/
theorem Walks.of_cursor (walk : h.Walks step) {position : Nat} (at_position : step.2.cursor = some position)
    (moved : h.cursor ≠ some position) : ∃ lt : position < h.entries.length, step.1 = some h.entries[position] := by
  cases walk with
  | goes lt =>
    cases at_position
    exact ⟨lt, rfl⟩
  | stays => exact absurd at_position moved
  | ends => cases at_position

end History

/-! ### Sessions -/

namespace Session

/-- What can be done in a session: a line is entered, or the history is used directly. -/
inductive Use where
  | submit (line : String)
  | add (line : String)
  | older
  | newer
  | reset

/-- The session after something is done in it. -/
def use (s : Session) : Use → Session
  | .submit line => (s.submit line).session
  | .add line => { s with history := s.history.add line }
  | .older => { s with history := s.history.older.2 }
  | .newer => { s with history := s.history.newer.2 }
  | .reset => { s with history := s.history.reset }

/-- The session after several things are done in it, one after the other. -/
def useAll (s : Session) (uses : List Use) : Session := uses.foldl use s

/-- The line that goes into the history. Blank lines do not. -/
def Use.line? : Use → Option String
  | submit line => if isBlankText line then none else some line
  | add line => some line
  | older | newer | reset => none

variable {s : Session} {lines : List String}

theorem holds_submit (holds : s.history.Holds lines) (line : String) :
    (s.submit line).session.history.Holds (lines ++ (Use.submit line).line?.toList) := by
  rw [submit, submitIn, Use.line?]
  split
  · simpa using holds.reset
  · exact holds.reset.add line

theorem holds_use (holds : s.history.Holds lines) (u : Use) : (s.use u).history.Holds (lines ++ u.line?.toList) := by
  have same : ∀ {h : History}, h.Holds lines → h.Holds (lines ++ (none : Option String).toList) := by simp
  cases u with
  | submit line => exact holds_submit holds line
  | add line => exact holds.add line
  | older => exact same (holds.walks_older.holds holds)
  | newer => exact same (s.history.walks_newer.holds holds)
  | reset => exact same holds.reset

theorem holds_useAll (holds : s.history.Holds lines) (uses : List Use) :
    (s.useAll uses).history.Holds (lines ++ uses.filterMap Use.line?) := by
  induction uses generalizing s lines with
  | nil =>
    rw [List.filterMap_nil, List.append_nil]
    exact holds
  | cons u uses ih =>
    have split : (u :: uses).filterMap Use.line? = u.line?.toList ++ uses.filterMap Use.line? := by
      cases hl : u.line? <;> simp [hl]
    rw [split, ← List.append_assoc]
    exact ih (holds_use holds u)

/-- Whatever is done in a new session, its history holds the lines that were entered, but for blank ones, and those that
    were added, in order and with repetitions in a row as one. Its cursor, if set, is at an entry. A step back or forth
    that moves the cursor to a position finds an entry there and answers with it, and each answer is such an entry. A
    line that is added does not change what the cursor is at. -/
theorem history_of_uses (uses : List Use) :
    let h := (start.useAll uses).history
    h.entries = (uses.filterMap Use.line?).destutter (· ≠ ·) ∧ h.entries.IsChain (· ≠ ·) ∧
      (∀ position, h.cursor = some position → position < h.entries.length) ∧
      (∀ step ∈ [h.older, h.newer],
        (∀ position, step.2.cursor = some position → h.cursor ≠ some position →
          ∃ lt : position < h.entries.length, step.1 = some h.entries[position]) ∧
        ∀ line, step.1 = some line →
          ∃ position, step.2.cursor = some position ∧ step.2.entries[position]? = some line) ∧
      ∀ line position, h.cursor = some position →
        (h.add line).cursor = some position ∧ (h.add line).entries[position]? = h.entries[position]? := by
  intro h
  have holds : h.Holds (uses.filterMap Use.line?) := holds_useAll (s := start) History.holds_empty uses
  refine ⟨holds.entries_eq, ?_, fun position => holds.cursor_lt, fun step mem => ?_, fun line position at_position => ?_⟩
  · rw [holds.entries_eq]
    exact List.isChain_destutter _ _
  · have walk : h.Walks step := by
      rcases List.mem_pair.mp mem with rfl | rfl
      · exact holds.walks_older
      · exact h.walks_newer
    exact ⟨fun position => walk.of_cursor, fun line => walk.of_answer⟩
  · exact ⟨(h.cursor_add line).trans at_position, History.getElem?_entries_add (holds.cursor_lt at_position) line⟩

end Session

end Calculator
