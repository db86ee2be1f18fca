import Calculator.Proofs.Grouping.Tiers
import Mathlib.Data.List.TakeWhile

/-! The climb groups a chain as the tiers do. Each call takes the longest run of links that it reaches: a climb those at
    or above its floor, the right side of an operator those that bind tighter than the operator. What it makes of them
    is what the tiers read (`Grouping.climb_reads`), so the grouping of a whole chain is its reading
    (`Grouping.ofChain_eq_reading`). -/

namespace Calculator.Grouping
variable {α : Type}

/-- A grouping and the links that go on behind it. -/
def pending (left : Grouping α) (links : List (Link α)) : Chain (Grouping α) :=
  ⟨left, links.map fun l => ⟨l.op, operand l.operand⟩⟩

@[simp] theorem pending_nil (left : Grouping α) : pending left [] = .single left := rfl

theorem pending_append (left : Grouping α) (taken : List (Link α)) (l : Link α) (links : List (Link α)) :
    pending left (taken ++ l :: links) = .append (pending left taken) l.op (pending (operand l.operand) links) := by
  simp [pending, Chain.append]

theorem mem_ops_pending {left : Grouping α} {links : List (Link α)} {o : Operator} :
    o ∈ (pending left links).ops ↔ ∃ l ∈ links, l.op = o := by
  simp [pending, Chain.ops]

/-- What a call of the climb makes of links: it takes those up to the first that it does not reach, and groups them as
    they are read behind its left side. -/
structure Reads (reach : Operator → Bool) (left : Grouping α) (links : List (Link α)) (grouping : Grouping α)
    (rest : List (Link α)) : Prop where
  grouping_eq : grouping = (pending left (links.takeWhile fun l => reach l.op)).reading binary
  rest_eq : rest = links.dropWhile fun l => reach l.op

theorem reading_pending_append {left : Grouping α} {taken rest : List (Link α)}
    (h : ∀ next ∈ rest.head?, ∀ l ∈ taken, next.op.bindsTighter l.op = false) :
    (pending left (taken ++ rest)).reading binary = (pending ((pending left taken).reading binary) rest).reading binary := by
  cases rest with
  | nil => simp
  | cons next rest =>
    rw [pending_append, Chain.reading_append_of_not_tighter]
    · rfl
    · intro o ho
      obtain ⟨l, hl, rfl⟩ := mem_ops_pending.mp ho
      exact h next rfl l hl

/-! ### Precedences -/

theorem bindsTighter_eq_false_of_lt {next op : Operator} (h : next.precedence < op.precedence) :
    next.bindsTighter op = false := by
  rw [Operator.bindsTighter, if_neg (Nat.ne_of_lt h)]
  simpa using Nat.le_of_lt h

theorem precedence_le_of_bindsTighter {next op : Operator} (h : next.bindsTighter op = true) :
    op.precedence ≤ next.precedence := by
  rcases Nat.lt_or_ge next.precedence op.precedence with hlt | hle
  · rw [bindsTighter_eq_false_of_lt hlt] at h
    contradiction
  · exact hle

theorem bindsTighter_eq_false_trans {next inner op : Operator} (hi : inner.bindsTighter op = true)
    (hn : next.bindsTighter op = false) : next.bindsTighter inner = false := by
  revert hi hn
  cases next <;> cases inner <;> cases op <;> decide

theorem bindsTighter_of_floorWithin_le {next inner op : Operator} (h : next.bindsTighter op = true)
    (hi : floorWithin next op ≤ inner.precedence) : inner.bindsTighter op = true := by
  revert h hi
  cases next <;> cases inner <;> cases op <;> decide

/-! ### Runs of links -/

theorem takeWhile_of_imp {α : Type} {p q : α → Bool} (h : ∀ x, p x = true → q x = true) (l : List α) :
    l.takeWhile q = l.takeWhile p ++ (l.dropWhile p).takeWhile q := by
  induction l with
  | nil => rfl
  | cons x l ih =>
    by_cases hp : p x = true
    · simp [hp, h x hp, ih]
    · simp [hp]

theorem dropWhile_of_imp {α : Type} {p q : α → Bool} (h : ∀ x, p x = true → q x = true) (l : List α) :
    l.dropWhile q = (l.dropWhile p).dropWhile q := by
  induction l with
  | nil => rfl
  | cons x l ih =>
    by_cases hp : p x = true
    · simp [hp, h x hp, ih]
    · simp [hp]

theorem head?_dropWhile {α : Type} {p q : α → Bool} {l : List α} :
    ∀ x ∈ ((l.dropWhile p).takeWhile q).head?, p x = false := by
  intro x hx
  have := List.head?_dropWhile_not p l
  cases hd : (l.dropWhile p) with
  | nil => simp [hd] at hx
  | cons y m =>
    rw [hd] at hx this
    rw [List.head?_takeWhile] at hx
    simp only [List.head?_cons, Option.filter_some, Option.mem_def, Option.ite_none_right_eq_some, Option.some.injEq] at hx
    rw [← hx.2]
    exact this

/-! ### The climb -/

/-- The links that a climb from a floor reaches. -/
def reaches (floor : Nat) (op : Operator) : Bool := floor ≤ op.precedence

theorem reaches_of_bindsTighter {floor : Nat} {next op : Operator} (hop : floor ≤ op.precedence)
    (h : next.bindsTighter op = true) : reaches floor next = true := by
  simpa [reaches] using Nat.le_trans hop (precedence_le_of_bindsTighter h)

/-- A link, the right side of its operator, and the climb that goes on behind. -/
theorem Reads.advance {floor : Nat} {left right grouping : Grouping α} {link : Link α} {more behind rest : List (Link α)}
    (hle : floor ≤ link.op.precedence)
    (h : Reads (·.bindsTighter link.op) (operand link.operand) more right behind)
    (h' : Reads (reaches floor) (binary link.op left right) behind grouping rest) :
    Reads (reaches floor) left (link :: more) grouping rest := by
  have head : reaches floor link.op = true := by simpa [reaches] using hle
  have wider (l : Link α) (hl : l.op.bindsTighter link.op = true) : reaches floor l.op = true :=
    reaches_of_bindsTighter hle hl
  have tighter (l : Link α) (hl : l ∈ more.takeWhile fun l => l.op.bindsTighter link.op) :
      l.op.bindsTighter link.op = true := by
    have := List.mem_takeWhile_imp hl
    exact this
  obtain ⟨hr, hb⟩ := h
  obtain ⟨hg, hrest⟩ := h'
  constructor
  · -- The link with its right side is read first: the next operator takes nothing from any of them.
    have whole : (link :: more).takeWhile (fun l => reaches floor l.op) =
        (link :: more.takeWhile fun l => l.op.bindsTighter link.op) ++ behind.takeWhile fun l => reaches floor l.op := by
      rw [List.takeWhile_cons, if_pos head, takeWhile_of_imp wider, hb, List.cons_append]
    have side : (pending left (link :: more.takeWhile fun l => l.op.bindsTighter link.op)).reading binary =
        binary link.op left right := by
      have := pending_append left [] link (more.takeWhile fun l => l.op.bindsTighter link.op)
      rw [List.nil_append] at this
      rw [this, pending_nil, Chain.reading_append_of_tighter, hr]
      intro o ho
      obtain ⟨l, hl, rfl⟩ := mem_ops_pending.mp ho
      exact tighter l hl
    rw [whole, reading_pending_append, side, hg]
    intro next hnext l hl
    rw [hb] at hnext
    have free := head?_dropWhile next hnext
    rcases List.mem_cons.mp hl with rfl | hl
    · exact free
    · exact bindsTighter_eq_false_trans (tighter l hl) free
  · rw [List.dropWhile_cons, if_pos head, hrest, hb, ← dropWhile_of_imp wider]

/-- A tighter operator with what its floor lets through, and the right side that goes on behind. -/
theorem Reads.absorb {op : Operator} {right inner grouping : Grouping α} {next : Link α} {more behind rest : List (Link α)}
    (ht : next.op.bindsTighter op = true)
    (h : Reads (reaches (floorWithin next.op op)) right (next :: more) inner behind)
    (h' : Reads (·.bindsTighter op) inner behind grouping rest) :
    Reads (·.bindsTighter op) right (next :: more) grouping rest := by
  have wider (l : Link α) (hl : reaches (floorWithin next.op op) l.op = true) : l.op.bindsTighter op = true :=
    bindsTighter_of_floorWithin_le ht (by simpa [reaches] using hl)
  obtain ⟨hi, hb⟩ := h
  obtain ⟨hg, hrest⟩ := h'
  constructor
  · rw [takeWhile_of_imp wider, reading_pending_append, ← hi, ← hb, hg]
    intro l' hl' l hl
    have below := head?_dropWhile l' hl'
    have above := List.mem_takeWhile_imp hl
    simp only [reaches, decide_eq_false_iff_not, decide_eq_true_eq] at below above
    exact bindsTighter_eq_false_of_lt (by omega)
  · rw [hrest, hb, ← dropWhile_of_imp wider]

theorem climb_reads_all :
    (∀ (floor : Nat) (left : Grouping α) (links : List (Link α)),
      Reads (reaches floor) left links (climb floor left links).grouping (climb floor left links).rest) ∧
    (∀ (floor : Nat) (left : Grouping α) (link : Link α) (more : List (Link α)), floor ≤ link.op.precedence →
      Reads (reaches floor) left (link :: more) (advance floor left link more).grouping
        (advance floor left link more).rest) ∧
    (∀ (op : Operator) (right : Grouping α) (links : List (Link α)),
      Reads (·.bindsTighter op) right links (absorb op right links).grouping (absorb op right links).rest) := by
  apply climb.mutual_induct
  · intro floor left
    rw [climb]
    exact ⟨rfl, rfl⟩
  · intro floor left link more hle grouping rest le h ih
    rw [climb, if_pos hle]
    exact ih hle
  · intro floor left link more hle
    rw [climb, if_neg hle]
    have stop : reaches floor link.op = false := by simpa [reaches] using hle
    exact ⟨by simp [stop], by simp [stop]⟩
  · intro floor left link more right behind le h grouping rest le' h' ih ih' hle
    rw [h] at ih
    rw [h'] at ih'
    rw [advance, h]
    dsimp only
    rw [h']
    exact ih.advance hle ih'
  · intro op right
    rw [absorb]
    exact ⟨rfl, rfl⟩
  · intro op right next more ht inner behind le h grouping rest le' h' ih ih'
    rw [absorb, if_pos ht, h]
    dsimp only
    rw [h']
    have ih := ih (floorWithin_le ht)
    rw [h] at ih
    rw [h'] at ih'
    exact ih.absorb ht ih'
  · intro op right next more ht
    rw [absorb, if_neg ht]
    have stop : next.op.bindsTighter op = false := by simpa using ht
    exact ⟨by simp [stop], by simp [stop]⟩

/-- A climb takes the links up to the first below its floor, and groups them as the tiers read them. -/
theorem climb_reads (floor : Nat) (left : Grouping α) (links : List (Link α)) :
    Reads (reaches floor) left links (climb floor left links).grouping (climb floor left links).rest :=
  climb_reads_all.1 floor left links

/-- The grouping of a whole chain is what its tiers read. -/
theorem ofChain_eq_reading (first : α) (links : List (Link α)) :
    ofChain first links = (pending (operand first) links).reading binary := by
  rw [ofChain, (climb_reads 0 (operand first) links).grouping_eq, List.takeWhile_eq_self_iff.mpr]
  simp [reaches]

end Calculator.Grouping
