import Calculator.Proofs.Session.History

/-! Walks through the history. From behind the newest line, steps back find all lines from the newest to the oldest and
    then nothing more, steps forth find them again in order, and one step more ends the walk (`History.walk_older`,
    `History.walk_newer`). A step that finds a line is undone by the opposite step, which finds the line that the walk
    was at (`History.newer_of_older`, `History.older_of_newer`). -/

namespace Calculator

namespace History
variable {entries : List String} {position : Nat}

/-- Takes steps one after the other. Gives what each of them finds, and the history behind the last. -/
def walk : List (History → Option String × History) → History → List (Option String) × History
  | [], h => ([], h)
  | step :: steps, h => ((step h).1 :: (walk steps (step h).2).1, (walk steps (step h).2).2)

theorem walk_append {steps more : List (History → Option String × History)} {h next : History}
    {found : List (Option String)} (first : walk steps h = (found, next)) :
    walk (steps ++ more) h = (found ++ (walk more next).1, (walk more next).2) := by
  induction steps generalizing h found with
  | nil =>
    cases first
    rfl
  | cons step steps ih =>
    cases first
    rw [List.cons_append, walk, ih rfl]
    rfl

/-! ### One step -/

theorem older_of_none (h : entries ≠ []) :
    older ⟨entries, none⟩ = (some (entries.getLast h), ⟨entries, some (entries.length - 1)⟩) := by
  have last := List.getLast?_eq_some_getLast h
  rw [List.getLast?_eq_getElem?] at last
  simp [older, goTo, h, last]

theorem older_of_zero : older ⟨entries, some 0⟩ = (none, ⟨entries, some 0⟩) := by
  rw [older]
  split <;> rfl

theorem older_of_succ (lt : position < entries.length) :
    older ⟨entries, some (position + 1)⟩ = (some entries[position], ⟨entries, some position⟩) := by
  have filled : entries ≠ [] := List.ne_nil_of_length_pos (Nat.zero_lt_of_lt lt)
  simp [older, goTo, filled, lt]

theorem newer_of_lt (lt : position + 1 < entries.length) :
    newer ⟨entries, some position⟩ = (some entries[position + 1], ⟨entries, some (position + 1)⟩) := by
  simp [newer, goTo, lt]

theorem newer_of_le (le : entries.length ≤ position + 1) :
    newer ⟨entries, some position⟩ = (none, ⟨entries, none⟩) := by
  simp [newer, reset, Nat.not_lt.mpr le]

theorem newer_of_older (lt : position < entries.length) (found : (older ⟨entries, some position⟩).1.isSome) :
    (older ⟨entries, some position⟩).2.newer = (some entries[position], ⟨entries, some position⟩) := by
  cases position with
  | zero =>
    rw [older_of_zero] at found
    cases found
  | succ position => rw [older_of_succ (Nat.lt_of_succ_lt lt), newer_of_lt lt]

theorem older_of_newer (lt : position < entries.length) (found : (newer ⟨entries, some position⟩).1.isSome) :
    (newer ⟨entries, some position⟩).2.older = (some entries[position], ⟨entries, some position⟩) := by
  rcases Nat.lt_or_ge (position + 1) entries.length with more | le
  · rw [newer_of_lt more, older_of_succ lt]
  · rw [newer_of_le le] at found
    cases found

/-! ### Steps in one direction -/

theorem walk_older_of_zero (n : Nat) :
    walk (List.replicate n older) ⟨entries, some 0⟩ = (List.replicate n none, ⟨entries, some 0⟩) := by
  induction n with
  | zero => rfl
  | succ n ih => rw [List.replicate_succ, walk, older_of_zero, ih, List.replicate_succ]

/-- Steps back find the lines before the cursor, the nearest first, and then nothing more. -/
theorem walk_older (lt : position < entries.length) (more : Nat) :
    walk (List.replicate (position + more) older) ⟨entries, some position⟩ =
      ((entries.take position).reverse.map some ++ List.replicate more none, ⟨entries, some 0⟩) := by
  induction position with
  | zero =>
    rw [Nat.zero_add, walk_older_of_zero]
    rfl
  | succ position ih =>
    have before := Nat.lt_of_succ_lt lt
    have lines : (entries.take (position + 1)).reverse = entries[position] :: (entries.take position).reverse := by
      rw [List.take_succ_eq_append_getElem before, List.reverse_concat]
    rw [Nat.add_right_comm, List.replicate_succ, walk, older_of_succ before, ih before, lines]
    rfl

/-- Steps forth find the lines behind the cursor in order. -/
theorem walk_newer {n : Nat} (length : position + n + 1 = entries.length) :
    walk (List.replicate n newer) ⟨entries, some position⟩ =
      ((entries.drop (position + 1)).map some, ⟨entries, some (position + n)⟩) := by
  induction n generalizing position with
  | zero =>
    rw [List.drop_of_length_le (by omega)]
    rfl
  | succ n ih =>
    have behind : position + 1 < entries.length := by omega
    rw [List.replicate_succ, walk, newer_of_lt behind, ih (by omega), List.drop_eq_getElem_cons behind,
      Nat.add_right_comm position 1 n]
    rfl

theorem walk_older_of_none (h : entries ≠ []) (more : Nat) :
    walk (List.replicate (entries.length + more) older) ⟨entries, none⟩ =
      (entries.reverse.map some ++ List.replicate more none, ⟨entries, some 0⟩) := by
  have pos := List.length_pos_iff.mpr h
  have steps : entries.length + more = entries.length - 1 + more + 1 := by omega
  have lines : entries.reverse = entries.getLast h :: (entries.take (entries.length - 1)).reverse := by
    rw [← List.dropLast_eq_take, ← List.reverse_concat, List.dropLast_append_getLast h]
  rw [steps, List.replicate_succ, walk, older_of_none h, walk_older (Nat.sub_lt pos Nat.one_pos), lines]
  rfl

end History

namespace Session

/-- Whatever is done in a new session, its history can be walked through from one end to the other and back. From behind
    the newest line, as many steps back as there are lines find all of them, the newest first; every step back more finds
    nothing and changes nothing; then steps forth find all lines but the oldest, in order; and one step forth more finds
    nothing and ends the walk. From a line, a step back and then one forth, or one forth and then one back, are at that
    line again and find it, if the first of them finds a line. -/
theorem walk_of_uses (uses : List Use) :
    let h := (start.useAll uses).history
    let n := h.entries.length
    (h.cursor = none → h.entries ≠ [] → ∀ more : Nat,
      let back := List.replicate (n + more) History.older
      let forth := List.replicate (n - 1) History.newer
      let found := h.entries.reverse.map some ++ List.replicate more none
      History.walk back h = (found, { h with cursor := some 0 }) ∧
        History.walk (back ++ forth) h = (found ++ h.entries.tail.map some, { h with cursor := some (n - 1) }) ∧
        History.walk (back ++ forth ++ [History.newer]) h = (found ++ h.entries.tail.map some ++ [none], h)) ∧
      ∀ position, h.cursor = some position → ∃ lt : position < n,
        (h.older.1.isSome → h.older.2.newer = (some h.entries[position], h)) ∧
          (h.newer.1.isSome → h.newer.2.older = (some h.entries[position], h)) := by
  intro h n
  -- All that matters of how the session was used: a cursor is at an entry.
  have holds : h.Holds (uses.filterMap Use.line?) := holds_useAll (s := start) History.holds_empty uses
  obtain ⟨entries, cursor⟩ := h
  constructor
  · rintro ⟨⟩ filled more back forth found
    have pos : 0 < entries.length := List.length_pos_iff.mpr filled
    have first : History.walk back ⟨entries, none⟩ = (found, ⟨entries, some 0⟩) := History.walk_older_of_none filled more
    have second : History.walk forth ⟨entries, some 0⟩ = (entries.tail.map some, ⟨entries, some (n - 1)⟩) := by
      have length : 0 + (n - 1) + 1 = entries.length := by
        rw [Nat.zero_add]
        exact Nat.sub_add_cancel pos
      rw [History.walk_newer length, Nat.zero_add, Nat.zero_add, List.drop_one]
    have both : History.walk (back ++ forth) ⟨entries, none⟩ =
        (found ++ entries.tail.map some, ⟨entries, some (n - 1)⟩) := by
      rw [History.walk_append first, second]
    have last : History.newer ⟨entries, some (n - 1)⟩ = (none, ⟨entries, none⟩) :=
      History.newer_of_le (Nat.le_add_of_sub_le (Nat.le_refl _))
    refine ⟨first, both, ?_⟩
    rw [History.walk_append both, History.walk, History.walk, last]
  · rintro position ⟨⟩
    have lt : position < entries.length := holds.cursor_lt rfl
    exact ⟨lt, History.newer_of_older lt, History.older_of_newer lt⟩

/-- A line that is entered in the middle of a walk is found behind the others. -/
example : History.walk [History.newer, History.newer, History.newer, History.older]
    (start.useAll [.add "1", .add "2", .older, .older, .add "3"]).history =
      ([some "2", some "3", none, some "3"], ⟨["1", "2", "3"], some 2⟩) := by
  decide +kernel

end Session

end Calculator
