import Calculator.Proofs.Grouping.Climb

/-! How a grouping goes on when its chain does. Behind its last operand a grouping may become the left side of more
    operators, at every place on its right edge; all that is left of that edge stays as it is (`Grouping.Grows`). A
    chain with more links behind it has such a grouping (`Grouping.ofChain_grows`): the climb either stops before the
    last link and never sees what follows, or it goes on with what it has made so far as a left side. So each part that
    does not have the last operand is a part of both (`Grouping.Grows.part`). -/

namespace Calculator.Grouping
variable {α : Type}

/-- A grouping that goes on behind the last operand of another one. -/
inductive Grows : Grouping α → Grouping α → Prop
  | same (g : Grouping α) : Grows g g
  | behind (op : Operator) {g left : Grouping α} (right : Grouping α) (h : Grows g left) :
      Grows g (binary op left right)
  | within (op : Operator) (left : Grouping α) {right right' : Grouping α} (h : Grows right right') :
      Grows (binary op left right) (binary op left right')

theorem Grows.trans {g g' g'' : Grouping α} (h : Grows g g') (h' : Grows g' g'') : Grows g g'' := by
  induction h' generalizing g with
  | same => exact h
  | behind op right _ ih => exact .behind op right (ih h)
  | within op left h' ih =>
    cases h with
    | same => exact .within op left h'
    | behind _ _ h => exact .behind op _ h
    | within _ _ h => exact .within op left (ih h)

/-! ### The climb -/

theorem climb_grows_all :
    (∀ (floor : Nat) (left : Grouping α) (links : List (Link α)), Grows left (climb floor left links).grouping) ∧
    (∀ (floor : Nat) (left : Grouping α) (link : Link α) (more : List (Link α)),
      Grows left (advance floor left link more).grouping) ∧
    (∀ (op : Operator) (right : Grouping α) (links : List (Link α)), Grows right (absorb op right links).grouping) := by
  apply climb.mutual_induct
  · intro floor left
    rw [climb]
    exact .same left
  · intro floor left link more hle grouping rest le h ih
    rw [climb, if_pos hle]
    exact ih
  · intro floor left link more hle
    rw [climb, if_neg hle]
    exact .same left
  · intro floor left link more right behind le h grouping rest le' h' ih ih'
    rw [h'] at ih'
    rw [advance, h]
    dsimp only
    rw [h']
    exact Grows.trans (.behind link.op right (.same left)) ih'
  · intro op right
    rw [absorb]
    exact .same right
  · intro op right next more ht inner behind le h grouping rest le' h' ih ih'
    rw [h] at ih
    rw [h'] at ih'
    rw [absorb, if_pos ht, h]
    dsimp only
    rw [h']
    exact ih.trans ih'
  · intro op right next more ht
    rw [absorb, if_neg ht]
    exact .same right

/-- What a call of the climb makes of links, and what it makes of them with more links behind. -/
inductive Continues (more : List (Link α)) (g : Grouping α) : List (Link α) → Grouping α → List (Link α) → Prop
  | stops (link : Link α) (links : List (Link α)) : Continues more g (link :: links) g (link :: links ++ more)
  | grows {g' : Grouping α} {rest : List (Link α)} (h : Grows g g') : Continues more g [] g' rest

theorem climb_continues_all (more : List (Link α)) :
    (∀ (floor : Nat) (left : Grouping α) (links : List (Link α)),
      Continues more (climb floor left links).grouping (climb floor left links).rest
        (climb floor left (links ++ more)).grouping (climb floor left (links ++ more)).rest) ∧
    (∀ (floor : Nat) (left : Grouping α) (link : Link α) (links : List (Link α)),
      Continues more (advance floor left link links).grouping (advance floor left link links).rest
        (advance floor left link (links ++ more)).grouping (advance floor left link (links ++ more)).rest) ∧
    (∀ (op : Operator) (right : Grouping α) (links : List (Link α)),
      Continues more (absorb op right links).grouping (absorb op right links).rest
        (absorb op right (links ++ more)).grouping (absorb op right (links ++ more)).rest) := by
  apply climb.mutual_induct
  · intro floor left
    rw [climb]
    exact .grows (climb_grows_all.1 floor left _)
  · intro floor left link links hle grouping rest le h ih
    rw [List.cons_append, climb, climb, if_pos hle, if_pos hle]
    exact ih
  · intro floor left link links hle
    rw [List.cons_append, climb, climb, if_neg hle, if_neg hle]
    exact .stops link links
  · intro floor left link links right behind le h grouping rest le' h' ih ih'
    rw [advance, advance, h]
    dsimp only
    rw [h'] at ih' ⊢
    rw [h] at ih
    dsimp only at ih ih' ⊢
    generalize absorb link.op (operand link.operand) (links ++ more) = x at ih ⊢
    obtain ⟨right', behind', le''⟩ := x
    dsimp only at ih ⊢
    cases ih with
    | stops l ls => exact ih'
    | grows hr =>
      -- The right side has taken all links, so nothing is left for the rest of the climb.
      rw [climb] at h'
      cases h'
      exact .grows (.trans (.within link.op left hr) (climb_grows_all.1 floor _ _))
  · intro op right
    rw [absorb]
    exact .grows (climb_grows_all.2.2 op right _)
  · intro op right next links ht inner behind le h grouping rest le' h' ih ih'
    rw [List.cons_append, absorb, absorb, if_pos ht, if_pos ht, h]
    dsimp only
    rw [h'] at ih' ⊢
    rw [h] at ih
    dsimp only at ih ih' ⊢
    generalize advance (floorWithin next.op op) right next (links ++ more) = x at ih ⊢
    obtain ⟨inner', behind', le''⟩ := x
    dsimp only at ih ⊢
    cases ih with
    | stops l ls => exact ih'
    | grows hi =>
      rw [absorb] at h'
      cases h'
      exact .grows (hi.trans (climb_grows_all.2.2 op _ _))
  · intro op right next links ht
    rw [List.cons_append, absorb, absorb, if_neg ht, if_neg ht]
    exact .stops next links

/-- The grouping of a chain with more links behind it. -/
theorem ofChain_grows (first : α) (links more : List (Link α)) :
    Grows (ofChain first links) (ofChain first (links ++ more)) := by
  have continues := (climb_continues_all more).1 0 (operand first) links
  have whole : (climb 0 (operand first) links).rest = [] := by
    rw [(climb_reads 0 (operand first) links).rest_eq]
    simp [reaches]
  rw [whole] at continues
  cases continues with
  | grows h => exact h

/-! ### Operands and parts -/

/-- The operands of a grouping, in order. -/
def leaves : Grouping α → List α
  | operand a => [a]
  | binary _ left right => left.leaves ++ right.leaves

def last : Grouping α → α
  | operand a => a
  | binary _ _ right => right.last

/-- A grouping, and those that its sides are made of. -/
inductive Part (p : Grouping α) : Grouping α → Prop
  | whole : Part p p
  | left (op : Operator) {left : Grouping α} (right : Grouping α) (h : Part p left) : Part p (binary op left right)
  | right (op : Operator) (left : Grouping α) {right : Grouping α} (h : Part p right) : Part p (binary op left right)

theorem getLast?_leaves (g : Grouping α) : g.leaves.getLast? = some g.last := by
  induction g with
  | operand a => rfl
  | binary op left right hl hr => rw [leaves, List.getLast?_append, hr, Option.some_or, last]

theorem last_mem_leaves (g : Grouping α) : g.last ∈ g.leaves := List.mem_of_getLast? g.getLast?_leaves

theorem leaves_ofChain (first : α) (links : List (Link α)) :
    (ofChain first links).leaves = first :: links.map (·.operand) := by
  have lists : ((pending (operand first) links).reading binary).leaves =
      ((pending (operand first) links).map leaves).reading fun _ => (· ++ ·) := Chain.map_reading (fun _ _ _ => rfl) _
  rw [ofChain_eq_reading, lists, Chain.reading_of_assoc List.append_assoc]
  clear lists
  induction links generalizing first with
  | nil => rfl
  | cons l links ih =>
    rw [List.map_cons, ← ih l.operand]
    rfl

theorem Part.leaves_subset {p g : Grouping α} (h : Part p g) : p.leaves ⊆ g.leaves := by
  induction h with
  | whole => exact List.Subset.refl _
  | left op right h ih => exact List.subset_append_of_subset_left _ ih
  | right op left h ih => exact List.subset_append_of_subset_right _ ih

/-- A part that does not have the last operand stays as it is. -/
theorem Grows.part {p g g' : Grouping α} (grows : Grows g g') (h : Part p g) (before : g.last ∉ p.leaves) :
    Part p g' := by
  induction grows with
  | same => exact h
  | behind op right _ ih => exact .left op right (ih h before)
  | within op left _ ih =>
    cases h with
    | whole => exact absurd (last_mem_leaves _) before
    | left _ _ h => exact .left op _ h
    | right _ _ h => exact .right op left (ih h before)

/-! ### Positions -/

/-- How operators group the operands between them, with each operand's position in its place. -/
def positions (operators : List Operator) : Grouping Nat := ofChain 0 (operators.mapIdx fun i op => ⟨op, i + 1⟩)

theorem leaves_positions (operators : List Operator) :
    (positions operators).leaves = List.range (operators.length + 1) := by
  rw [positions, leaves_ofChain, List.range_succ_eq_map]
  refine congrArg (0 :: ·) (List.ext_getElem (by simp) fun i hi hi' => ?_)
  simp

theorem last_positions (operators : List Operator) : (positions operators).last = operators.length := by
  have last := getLast?_leaves (positions operators)
  rw [leaves_positions, List.range_succ, List.getLast?_append, List.getLast?_singleton, Option.some_or] at last
  exact (Option.some.inj last).symm

theorem positions_grows (operators : List Operator) (k : Nat) :
    Grows (positions (operators.take k)) (positions operators) := by
  conv => rhs; rw [positions, ← List.take_append_drop k operators, List.mapIdx_append]
  exact ofChain_grows 0 _ _

end Calculator.Grouping
