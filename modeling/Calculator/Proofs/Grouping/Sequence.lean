import Calculator.Proofs.Grouping.Tiers

/-! Chains of actions. To read a chain of actions, where an operator runs its left side, then its right side, and joins
    what they give, is to run the operands in order and to read what they give (`Chain.reading_inTurn`): the tiers
    change neither the order of the operands nor their number. -/

namespace Calculator.Chain
variable {m : Type → Type} [Monad m] [LawfulMonad m] {α : Type}

/-- The actions of a chain, run in order. -/
def sequence (c : Chain (m α)) : m (Chain α) := do
  let a ← c.first
  let links ← c.links.mapM fun l => Link.mk l.op <$> l.operand
  pure ⟨a, links⟩

/-- Both sides of an operator, the left one first, joined by what `combine` makes of two values. -/
def inTurn (combine : Operator → α → α → α) (op : Operator) (x y : m α) : m α := do
  let a ← x
  let b ← y
  pure (combine op a b)

variable (combine : Operator → α → α → α)

theorem sequence_append_single (x : m α) (op : Operator) (c : Chain (m α)) :
    (append (single x) op c).sequence = (do
      let a ← x
      let d ← c.sequence
      pure (append (single a) op d)) := by
  simp [sequence, append, single]

theorem sequence_cons (x : m α) (l : Link (m α)) (links : List (Link (m α))) :
    sequence ⟨x, l :: links⟩ = (do
      let a ← x
      let d ← sequence ⟨l.operand, links⟩
      pure (append (single a) l.op d)) :=
  sequence_append_single x l.op ⟨l.operand, links⟩

theorem joinLeft_append_single_of_mem {tier : List Operator} {op : Operator} (h : op ∈ tier) (a : α) (d : Chain α) :
    joinLeft combine tier (append (single a) op d) = joinLeft combine tier ⟨combine op a d.first, d.links⟩ :=
  joinLeft_cons_of_mem combine (show (Link.mk op d.first).op ∈ tier from h) a d.links

theorem sequence_joinLeft (tier : List Operator) (c : Chain (m α)) :
    (c.joinLeft (inTurn combine) tier).sequence = joinLeft combine tier <$> c.sequence := by
  obtain ⟨x, links⟩ := c
  induction links generalizing x with
  | nil => simp [joinLeft, runs, runsFrom, map, single, sequence, foldLeft]
  | cons l links ih =>
    by_cases h : l.op ∈ tier
    · have step : sequence ⟨inTurn combine l.op x l.operand, links⟩ = (do
          let a ← x
          let d ← sequence ⟨l.operand, links⟩
          pure ⟨combine l.op a d.first, d.links⟩) := by
        simp [sequence, inTurn]
      rw [joinLeft_cons_of_mem _ h, ih, step, sequence_cons]
      simp [joinLeft_append_single_of_mem combine h]
    · rw [joinLeft_cons_of_notMem _ h, sequence_append_single, ih, sequence_cons]
      simp [joinLeft_append_of_notMem h]

theorem sequence_joinRight (tier : List Operator) (c : Chain (m α)) :
    (c.joinRight (inTurn combine) tier).sequence = joinRight combine tier <$> c.sequence := by
  obtain ⟨x, links⟩ := c
  induction links generalizing x with
  | nil => simp [joinRight, runs, runsFrom, map, single, sequence, foldRight, foldRightFrom]
  | cons l links ih =>
    have tail := ih l.operand
    by_cases h : l.op ∈ tier
    · have step (r : Chain (m α)) : sequence ⟨inTurn combine l.op x r.first, r.links⟩ = (do
          let a ← x
          let d ← r.sequence
          pure ⟨combine l.op a d.first, d.links⟩) := by
        simp [sequence, inTurn]
      rw [joinRight_cons_of_mem _ h, step, tail, sequence_cons]
      simp [append, single, joinRight_cons_of_mem combine (show (Link.mk l.op _).op ∈ tier from h)]
    · rw [joinRight_cons_of_notMem _ h, sequence_append_single, tail, sequence_cons]
      simp [joinRight_append_of_notMem h]

/-- To read a chain of actions is to run its operands in order and to read what they give. -/
theorem reading_inTurn (c : Chain (m α)) :
    c.reading (inTurn combine) = reading combine <$> c.sequence := by
  have whole : ((c.joinProducts (inTurn combine)).joinLeft (inTurn combine) [.add, .sub]).sequence =
      (fun d => (d.joinProducts combine).joinLeft combine [.add, .sub]) <$> c.sequence := by
    simp only [joinProducts, joinPowers, sequence_joinLeft, sequence_joinRight, Functor.map_map]
  rw [joinLeft_joinProducts] at whole
  have value := congrArg (Chain.first <$> ·) whole
  simpa [sequence, single, reading] using value

end Calculator.Chain
