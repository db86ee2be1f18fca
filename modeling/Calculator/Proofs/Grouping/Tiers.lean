import Calculator.Grouping

/-! Chains read tier by tier. A chain is cut into its maximal runs of the operators of a tier, and each run is folded
    from the side from which these operators group; the tiers follow one another from the tightest to the loosest.
    What a chain is read as is therefore told without any climb. Main statements: a chain can be read behind an operator
    at once if all operators there bind tighter (`reading_append_of_tighter`), and up to an operator if none before it
    leaves it the operand between them (`reading_append_of_not_tighter`). -/

namespace Calculator

/-- Operands joined by operators, ungrouped: the first operand, and the links behind it. -/
structure Chain (α : Type) where
  first : α
  links : List (Link α)
  deriving DecidableEq, Repr

namespace Chain
variable {α β : Type}

def single (a : α) : Chain α := ⟨a, []⟩

/-- Two chains with an operator between them. -/
def append (c : Chain α) (op : Operator) (d : Chain α) : Chain α := ⟨c.first, c.links ++ ⟨op, d.first⟩ :: d.links⟩

/-- The chain with each operand replaced. -/
def map (f : α → β) (c : Chain α) : Chain β := ⟨f c.first, c.links.map fun l => ⟨l.op, f l.operand⟩⟩

/-- The operators of a chain, in order. -/
def ops (c : Chain α) : List Operator := c.links.map (·.op)

/-- The maximal runs of the operators of a tier, in a chain of runs that only other operators join. -/
def runsFrom (tier : List Operator) (a : α) : List (Link α) → Chain (Chain α)
  | [] => single (single a)
  | l :: links =>
    let runs := runsFrom tier l.operand links
    if l.op ∈ tier then ⟨append (single a) l.op runs.first, runs.links⟩ else append (single (single a)) l.op runs

/-- The maximal runs of the operators of a tier. -/
def runs (tier : List Operator) (c : Chain α) : Chain (Chain α) := runsFrom tier c.first c.links

variable (combine : Operator → α → α → α)

/-- A chain folded from the left. -/
def foldLeft (c : Chain α) : α := c.links.foldl (fun a l => combine l.op a l.operand) c.first

/-- Links folded from the right, behind an operand. -/
def foldRightFrom (a : α) : List (Link α) → α
  | [] => a
  | l :: links => combine l.op a (foldRightFrom l.operand links)

/-- A chain folded from the right. -/
def foldRight (c : Chain α) : α := foldRightFrom combine c.first c.links

/-- The chain with the runs of a tier folded from the left. -/
def joinLeft (tier : List Operator) (c : Chain α) : Chain α := (c.runs tier).map (foldLeft combine)

/-- The chain with the runs of a tier folded from the right. -/
def joinRight (tier : List Operator) (c : Chain α) : Chain α := (c.runs tier).map (foldRight combine)

/-- The chain with remainders and powers joined, the two tiers that bind tightest. -/
def joinPowers (c : Chain α) : Chain α := (c.joinLeft combine [.rem]).joinRight combine [.pow]

/-- The chain with all but sums and differences joined. -/
def joinProducts (c : Chain α) : Chain α := (c.joinPowers combine).joinLeft combine [.mul, .div]

/-- What a chain is read as: remainders are folded from the left, the powers of these from the right, the products and
    quotients of these from the left, and the sums and differences of these from the left. -/
def reading (c : Chain α) : α := ((c.joinProducts combine).joinLeft combine [.add, .sub]).first

/-! ### Operators that are left -/

@[simp] theorem ops_single (a : α) : (single a).ops = [] := rfl

@[simp] theorem ops_append (c d : Chain α) (op : Operator) : (append c op d).ops = c.ops ++ op :: d.ops := by
  simp [ops, append]

@[simp] theorem ops_map (f : α → β) (c : Chain α) : (c.map f).ops = c.ops := by
  simp [ops, map, Function.comp_def]

theorem eq_single_of_ops {c : Chain α} (h : c.ops = []) : c = single c.first := by
  obtain ⟨first, links⟩ := c
  rw [ops, List.map_eq_nil_iff] at h
  dsimp only at h
  rw [h, single]

theorem ops_runs (tier : List Operator) (c : Chain α) : (c.runs tier).ops = c.ops.filter (· ∉ tier) := by
  obtain ⟨a, links⟩ := c
  simp only [runs]
  induction links generalizing a with
  | nil => rfl
  | cons l links ih =>
    have tail := ih l.operand
    simp only [ops, List.map_cons] at tail ⊢
    rw [runsFrom]
    by_cases h : l.op ∈ tier
    · simp only [h, ↓reduceIte, not_true_eq_false, decide_false, Bool.false_eq_true, not_false_eq_true,
        List.filter_cons_of_neg]
      exact tail
    · simp only [h, ↓reduceIte, append, single, List.nil_append, List.map_cons, tail, not_false_eq_true, decide_true,
        List.filter_cons_of_pos]

theorem ops_joinLeft (tier : List Operator) (c : Chain α) :
    (c.joinLeft combine tier).ops = c.ops.filter (· ∉ tier) := by
  rw [joinLeft, ops_map, ops_runs]

theorem ops_joinRight (tier : List Operator) (c : Chain α) :
    (c.joinRight combine tier).ops = c.ops.filter (· ∉ tier) := by
  rw [joinRight, ops_map, ops_runs]

/-! ### Runs of a chain in two parts -/

@[simp] theorem map_single (f : α → β) (a : α) : (single a).map f = single (f a) := rfl

theorem map_append (f : α → β) (c d : Chain α) (op : Operator) :
    (append c op d).map f = append (c.map f) op (d.map f) := by
  simp [append, map]

theorem runs_append_of_notMem {tier : List Operator} {op : Operator} (h : op ∉ tier) (c d : Chain α) :
    (append c op d).runs tier = append (c.runs tier) op (d.runs tier) := by
  obtain ⟨a, links⟩ := c
  induction links generalizing a with
  | nil => simp [runs, append, runsFrom, h, single]
  | cons l links ih =>
    have tail := ih l.operand
    simp only [runs, append] at tail
    simp only [runs, append, List.cons_append, runsFrom, tail]
    split <;> simp

theorem runs_append_of_mem {tier : List Operator} {op : Operator} {c : Chain α} (hc : ∀ o ∈ c.ops, o ∈ tier)
    (h : op ∈ tier) (d : Chain α) :
    (append c op d).runs tier = ⟨append c op (d.runs tier).first, (d.runs tier).links⟩ := by
  obtain ⟨a, links⟩ := c
  induction links generalizing a with
  | nil => simp [runs, append, runsFrom, h, single]
  | cons l links ih =>
    have head : l.op ∈ tier := hc l.op (by simp [ops])
    have tail := ih l.operand fun o ho => hc o (by
      simp only [ops, List.map_cons, List.mem_cons]
      exact Or.inr ho)
    simp only [runs, append] at tail
    simp only [runs, append, List.cons_append, runsFrom, tail, head, ↓reduceIte, single, List.nil_append]

theorem runs_of_mem {tier : List Operator} {c : Chain α} (hc : ∀ o ∈ c.ops, o ∈ tier) :
    c.runs tier = single c := by
  obtain ⟨a, links⟩ := c
  induction links generalizing a with
  | nil => rfl
  | cons l links ih =>
    have head : l.op ∈ tier := hc l.op (by simp [ops])
    have tail := ih l.operand fun o ho => hc o (by
      simp only [ops, List.map_cons, List.mem_cons]
      exact Or.inr ho)
    simp only [runs] at tail
    simp [runs, runsFrom, tail, head, single, append]

/-! ### Joining a chain operand by operand -/

section Steps
variable (combine : Operator → α → α → α)

theorem runsFrom_first (tier : List Operator) (a x : α) (links : List (Link α)) :
    runsFrom tier a links = ⟨⟨a, (runsFrom tier x links).first.links⟩, (runsFrom tier x links).links⟩ := by
  cases links with
  | nil => rfl
  | cons l links =>
    rw [runsFrom, runsFrom]
    split <;> rfl

theorem joinLeft_cons_of_mem {tier : List Operator} {l : Link α} (h : l.op ∈ tier) (a : α) (links : List (Link α)) :
    joinLeft combine tier ⟨a, l :: links⟩ = joinLeft combine tier ⟨combine l.op a l.operand, links⟩ := by
  simp only [joinLeft, runs, runsFrom, h, ↓reduceIte]
  rw [runsFrom_first tier (combine l.op a l.operand) l.operand, runsFrom_first tier l.operand a]
  simp [map, foldLeft, append, single]

theorem joinLeft_cons_of_notMem {tier : List Operator} {l : Link α} (h : l.op ∉ tier) (a : α) (links : List (Link α)) :
    joinLeft combine tier ⟨a, l :: links⟩ = append (single a) l.op (joinLeft combine tier ⟨l.operand, links⟩) := by
  simp only [joinLeft, runs, runsFrom, h, ↓reduceIte, map_append]
  rfl

theorem joinRight_cons_of_mem {tier : List Operator} {l : Link α} (h : l.op ∈ tier) (a : α) (links : List (Link α)) :
    joinRight combine tier ⟨a, l :: links⟩ =
      ⟨combine l.op a (joinRight combine tier ⟨l.operand, links⟩).first,
        (joinRight combine tier ⟨l.operand, links⟩).links⟩ := by
  simp only [joinRight, runs, runsFrom, h, ↓reduceIte]
  rfl

theorem joinRight_cons_of_notMem {tier : List Operator} {l : Link α} (h : l.op ∉ tier) (a : α)
    (links : List (Link α)) :
    joinRight combine tier ⟨a, l :: links⟩ = append (single a) l.op (joinRight combine tier ⟨l.operand, links⟩) := by
  simp only [joinRight, runs, runsFrom, h, ↓reduceIte, map_append]
  rfl

variable {combine} {combine' : Operator → β → β → β} {f : α → β}

theorem map_joinLeft (hf : ∀ op x y, f (combine op x y) = combine' op (f x) (f y)) (tier : List Operator)
    (c : Chain α) : (c.joinLeft combine tier).map f = (c.map f).joinLeft combine' tier := by
  obtain ⟨a, links⟩ := c
  induction links generalizing a with
  | nil => rfl
  | cons l links ih =>
    simp only [map, List.map_cons] at ih ⊢
    by_cases h : l.op ∈ tier
    · rw [joinLeft_cons_of_mem combine h, joinLeft_cons_of_mem combine' (by exact h), ih, hf]
    · rw [joinLeft_cons_of_notMem combine h, joinLeft_cons_of_notMem combine' (by exact h), ← ih]
      rfl

theorem map_joinRight (hf : ∀ op x y, f (combine op x y) = combine' op (f x) (f y)) (tier : List Operator)
    (c : Chain α) : (c.joinRight combine tier).map f = (c.map f).joinRight combine' tier := by
  obtain ⟨a, links⟩ := c
  induction links generalizing a with
  | nil => rfl
  | cons l links ih =>
    simp only [map, List.map_cons] at ih ⊢
    by_cases h : l.op ∈ tier
    · rw [joinRight_cons_of_mem combine h, joinRight_cons_of_mem combine' (by exact h), ← ih, hf]
    · rw [joinRight_cons_of_notMem combine h, joinRight_cons_of_notMem combine' (by exact h), ← ih]
      rfl

theorem map_reading (hf : ∀ op x y, f (combine op x y) = combine' op (f x) (f y)) (c : Chain α) :
    f (c.reading combine) = (c.map f).reading combine' := by
  rw [reading, reading, joinProducts, joinProducts, joinPowers, joinPowers, ← map_joinLeft hf, ← map_joinRight hf,
    ← map_joinLeft hf, ← map_joinLeft hf]
  rfl

theorem reading_induction {p : α → Prop} (hp : ∀ op x y, p x → p y → p (combine op x y)) {c : Chain α}
    (first : p c.first) (links : ∀ l ∈ c.links, p l.operand) : p (c.reading combine) := by
  let bundled : Chain (Subtype p) :=
    ⟨⟨c.first, first⟩, c.links.attach.map fun l => ⟨l.1.op, ⟨l.1.operand, links l.1 l.2⟩⟩⟩
  have hc : bundled.map Subtype.val = c := by
    rw [map, List.map_map]
    exact congrArg (Chain.mk c.first) (List.attach_map_subtype_val c.links)
  let within (op : Operator) (x y : Subtype p) : Subtype p := ⟨combine op x y, hp op x y x.2 y.2⟩
  have value : (bundled.reading within).val = (bundled.map Subtype.val).reading combine :=
    map_reading (fun _ _ _ => rfl) bundled
  rw [← hc, ← value]
  exact (bundled.reading within).2

end Steps

/-! ### Joining a chain in two parts -/

variable {combine}

theorem joinLeft_append_of_notMem {tier : List Operator} {op : Operator} (h : op ∉ tier) (c d : Chain α) :
    (append c op d).joinLeft combine tier = append (c.joinLeft combine tier) op (d.joinLeft combine tier) := by
  rw [joinLeft, runs_append_of_notMem h, map_append]
  rfl

theorem joinRight_append_of_notMem {tier : List Operator} {op : Operator} (h : op ∉ tier) (c d : Chain α) :
    (append c op d).joinRight combine tier = append (c.joinRight combine tier) op (d.joinRight combine tier) := by
  rw [joinRight, runs_append_of_notMem h, map_append]
  rfl

theorem joinLeft_of_mem {tier : List Operator} {c : Chain α} (hc : ∀ o ∈ c.ops, o ∈ tier) :
    c.joinLeft combine tier = single (c.foldLeft combine) := by
  rw [joinLeft, runs_of_mem hc, map_single]

theorem joinRight_of_mem {tier : List Operator} {c : Chain α} (hc : ∀ o ∈ c.ops, o ∈ tier) :
    c.joinRight combine tier = single (c.foldRight combine) := by
  rw [joinRight, runs_of_mem hc, map_single]

@[simp] theorem joinLeft_single (tier : List Operator) (a : α) : (single a).joinLeft combine tier = single a := rfl

@[simp] theorem joinRight_single (tier : List Operator) (a : α) : (single a).joinRight combine tier = single a := rfl

/-- From the left, a run may be folded up to any of its operators first. -/
theorem joinLeft_append_of_mem {tier : List Operator} {op : Operator} {c : Chain α} (hc : ∀ o ∈ c.ops, o ∈ tier)
    (h : op ∈ tier) (d : Chain α) :
    (append c op d).joinLeft combine tier = (append (single (c.foldLeft combine)) op d).joinLeft combine tier := by
  rw [joinLeft, joinLeft, runs_append_of_mem hc h, runs_append_of_mem (by simp) h]
  simp [map, foldLeft, append, single]

theorem foldRight_append_single (a : α) (op : Operator) (d : Chain α) :
    (append (single a) op d).foldRight combine = combine op a (d.foldRight combine) := rfl

/-! ### Tier upon tier -/

theorem mem_ops_joinPowers {c : Chain α} {o : Operator} :
    o ∈ (c.joinPowers combine).ops ↔ o ∈ c.ops ∧ o ≠ .rem ∧ o ≠ .pow := by
  simp [joinPowers, ops_joinRight, ops_joinLeft, and_comm]

theorem mem_ops_joinProducts {c : Chain α} {o : Operator} :
    o ∈ (c.joinProducts combine).ops ↔ o ∈ c.ops ∧ (o = .add ∨ o = .sub) := by
  rw [joinProducts, ops_joinLeft, List.mem_filter, mem_ops_joinPowers]
  cases o <;> simp

theorem joinLeft_joinProducts (c : Chain α) :
    (c.joinProducts combine).joinLeft combine [.add, .sub] = single (c.reading combine) := by
  rw [reading]
  refine eq_single_of_ops ?_
  rw [ops_joinLeft, List.filter_eq_nil_iff]
  intro o ho
  obtain ⟨-, rfl | rfl⟩ := mem_ops_joinProducts.mp ho <;> simp

theorem joinPowers_append {op : Operator} (hr : op ≠ .rem) (hp : op ≠ .pow) (c d : Chain α) :
    (append c op d).joinPowers combine = append (c.joinPowers combine) op (d.joinPowers combine) := by
  rw [joinPowers, joinLeft_append_of_notMem (by simpa using hr), joinRight_append_of_notMem (by simpa using hp)]
  rfl

theorem joinProducts_append {op : Operator} (h : op = .add ∨ op = .sub) (c d : Chain α) :
    (append c op d).joinProducts combine = append (c.joinProducts combine) op (d.joinProducts combine) := by
  have hne : op ∉ [Operator.mul, .div] := by rcases h with rfl | rfl <;> simp
  rw [joinProducts, joinPowers_append (by rcases h with rfl | rfl <;> simp) (by rcases h with rfl | rfl <;> simp),
    joinLeft_append_of_notMem hne]
  rfl

@[simp] theorem joinPowers_single (a : α) : (single a).joinPowers combine = single a := rfl

@[simp] theorem joinProducts_single (a : α) : (single a).joinProducts combine = single a := rfl

@[simp] theorem reading_single (a : α) : (single a).reading combine = a := rfl

theorem reading_of_joinProducts {c : Chain α} {a : α} (h : c.joinProducts combine = single a) :
    c.reading combine = a := by
  rw [reading, h]
  rfl

theorem reading_of_joinPowers {c : Chain α} {a : α} (h : c.joinPowers combine = single a) : c.reading combine = a :=
  reading_of_joinProducts (by rw [joinProducts, h, joinLeft_single])

/-! ### The right side of an operator -/

theorem joinProducts_of_tighter {op : Operator} (hop : op = .add ∨ op = .sub) {d : Chain α}
    (h : ∀ o ∈ d.ops, o.bindsTighter op = true) : d.joinProducts combine = single (d.reading combine) := by
  have hd : d.joinProducts combine = single (d.joinProducts combine).first := by
    refine eq_single_of_ops (List.eq_nil_iff_forall_not_mem.mpr fun o ho => ?_)
    obtain ⟨ho, ho'⟩ := mem_ops_joinProducts.mp ho
    have := h o ho
    rcases hop with rfl | rfl <;> rcases ho' with rfl | rfl <;> contradiction
  rw [reading_of_joinProducts hd]
  exact hd

theorem joinPowers_of_tighter {op : Operator} (hop : op = .mul ∨ op = .div) {d : Chain α}
    (h : ∀ o ∈ d.ops, o.bindsTighter op = true) : d.joinPowers combine = single (d.reading combine) := by
  have hd : d.joinPowers combine = single (d.joinPowers combine).first := by
    refine eq_single_of_ops (List.eq_nil_iff_forall_not_mem.mpr fun o ho => ?_)
    obtain ⟨ho, hr, hp⟩ := mem_ops_joinPowers.mp ho
    have := h o ho
    rcases hop with rfl | rfl <;> cases o <;> contradiction
  rw [reading_of_joinPowers hd]
  exact hd

theorem ops_joinLeft_rem_of_tighter (combine : Operator → α → α → α) {d : Chain α} (h : ∀ o ∈ d.ops, o.bindsTighter .pow = true) :
    ∀ o ∈ (d.joinLeft combine [.rem]).ops, o ∈ [Operator.pow] := by
  intro o ho
  rw [ops_joinLeft, List.mem_filter] at ho
  have := h o ho.1
  cases o <;> simp_all [Operator.bindsTighter, Operator.precedence]

theorem eq_single_of_tighter_rem {d : Chain α} (h : ∀ o ∈ d.ops, o.bindsTighter .rem = true) : d = single d.first := by
  refine eq_single_of_ops (List.eq_nil_iff_forall_not_mem.mpr fun o ho => ?_)
  have := h o ho
  cases o <;> contradiction

/-- Where all operators behind `op` bind tighter, its right side is all that follows. -/
theorem reading_append_of_tighter {op : Operator} {d : Chain α} (h : ∀ o ∈ d.ops, o.bindsTighter op = true) (a : α) :
    (append (single a) op d).reading combine = combine op a (d.reading combine) := by
  have sums (hop : op = .add ∨ op = .sub) :
      (append (single a) op d).reading combine = combine op a (d.reading combine) := by
    rw [reading, joinProducts_append hop, joinProducts_single, joinProducts_of_tighter hop h,
      joinLeft_of_mem (by simpa using hop)]
    rfl
  have products (hop : op = .mul ∨ op = .div) :
      (append (single a) op d).reading combine = combine op a (d.reading combine) := by
    refine reading_of_joinProducts ?_
    rw [joinProducts, joinPowers_append (by rintro rfl; simp at hop) (by rintro rfl; simp at hop), joinPowers_single,
      joinPowers_of_tighter hop h, joinLeft_of_mem (by simpa using hop)]
    rfl
  cases op with
  | add => exact sums (Or.inl rfl)
  | sub => exact sums (Or.inr rfl)
  | mul => exact products (Or.inl rfl)
  | div => exact products (Or.inr rfl)
  | pow =>
    have hd := ops_joinLeft_rem_of_tighter combine h
    have value : d.reading combine = (d.joinLeft combine [.rem]).foldRight combine :=
      reading_of_joinPowers (by rw [joinPowers, joinRight_of_mem hd])
    refine reading_of_joinPowers ?_
    rw [joinPowers, joinLeft_append_of_notMem (by simp), joinLeft_single, joinRight_of_mem (by simpa using hd),
      foldRight_append_single, value]
  | rem =>
    rw [eq_single_of_tighter_rem h]
    rfl

/-! ### The left side of an operator -/

theorem foldLeft_joinProducts (c : Chain α) : (c.joinProducts combine).foldLeft combine = c.reading combine := by
  rw [reading, joinLeft_of_mem fun o ho => by simpa using (mem_ops_joinProducts.mp ho).2]
  rfl

theorem ops_joinPowers_of_not_tighter (combine : Operator → α → α → α) {op : Operator} (hop : op = .mul ∨ op = .div) {c : Chain α}
    (h : ∀ o ∈ c.ops, op.bindsTighter o = false) : ∀ o ∈ (c.joinPowers combine).ops, o ∈ [Operator.mul, .div] := by
  intro o ho
  obtain ⟨ho, hr, hp⟩ := mem_ops_joinPowers.mp ho
  have := h o ho
  rcases hop with rfl | rfl <;> cases o <;> first | contradiction | simp

theorem ops_of_not_tighter_pow {op : Operator} (hop : op = .pow ∨ op = .rem) {c : Chain α}
    (h : ∀ o ∈ c.ops, op.bindsTighter o = false) : ∀ o ∈ c.ops, o ∈ [Operator.rem] := by
  intro o ho
  have := h o ho
  rcases hop with rfl | rfl <;> cases o <;> first | contradiction | simp

/-- Where no operator in front leaves its right operand to `op`, all in front of `op` is read first. -/
theorem reading_append_of_not_tighter {op : Operator} {c : Chain α} (h : ∀ o ∈ c.ops, op.bindsTighter o = false)
    (d : Chain α) :
    (append c op d).reading combine = (append (single (c.reading combine)) op d).reading combine := by
  have sums (hop : op = .add ∨ op = .sub) :
      (append c op d).reading combine = (append (single (c.reading combine)) op d).reading combine := by
    have hc : ∀ o ∈ (c.joinProducts combine).ops, o ∈ [Operator.add, .sub] := fun o ho => by
      simpa using (mem_ops_joinProducts.mp ho).2
    rw [← foldLeft_joinProducts c, reading, joinProducts_append hop, joinLeft_append_of_mem hc (by simpa using hop),
      reading, joinProducts_append hop, joinProducts_single]
  have products (hop : op = .mul ∨ op = .div) :
      (append c op d).reading combine = (append (single (c.reading combine)) op d).reading combine := by
    have hr : op ≠ .rem := by rintro rfl; simp at hop
    have hp : op ≠ .pow := by rintro rfl; simp at hop
    have hc := ops_joinPowers_of_not_tighter combine hop h
    have value : c.reading combine = (c.joinPowers combine).foldLeft combine :=
      reading_of_joinProducts (by rw [joinProducts, joinLeft_of_mem hc])
    rw [value, reading, joinProducts, joinPowers_append hr hp, joinLeft_append_of_mem hc (by simpa using hop), reading,
      joinProducts, joinPowers_append hr hp, joinPowers_single]
  have value (hop : op = .pow ∨ op = .rem) : c.reading combine = c.foldLeft combine :=
    reading_of_joinPowers (by rw [joinPowers, joinLeft_of_mem (ops_of_not_tighter_pow hop h), joinRight_single])
  cases op with
  | add => exact sums (Or.inl rfl)
  | sub => exact sums (Or.inr rfl)
  | mul => exact products (Or.inl rfl)
  | div => exact products (Or.inr rfl)
  | pow =>
    have hc := ops_of_not_tighter_pow (Or.inl rfl) h
    rw [value (Or.inl rfl), reading, joinProducts, joinPowers, joinLeft_append_of_notMem (by simp),
      joinLeft_of_mem hc, reading, joinProducts, joinPowers, joinLeft_append_of_notMem (by simp), joinLeft_single]
  | rem =>
    have hc := ops_of_not_tighter_pow (Or.inr rfl) h
    rw [value (Or.inr rfl), reading, joinProducts, joinPowers, joinLeft_append_of_mem hc (by simp)]
    rfl

/-! ### Associative operations -/

section Associative
variable {f : α → α → α} (assoc : ∀ x y z, f (f x y) z = f x (f y z))
include assoc

theorem foldRight_first (a b : α) (links : List (Link α)) :
    foldRight (fun _ => f) ⟨f a b, links⟩ = f a (foldRight (fun _ => f) ⟨b, links⟩) := by
  cases links with
  | nil => rfl
  | cons l links => exact assoc _ _ _

theorem foldRight_joinLeft (tier : List Operator) (c : Chain α) :
    (c.joinLeft (fun _ => f) tier).foldRight (fun _ => f) = c.foldRight fun _ => f := by
  obtain ⟨a, links⟩ := c
  induction links generalizing a with
  | nil => rfl
  | cons l links ih =>
    by_cases h : l.op ∈ tier
    · rw [joinLeft_cons_of_mem _ h, ih, foldRight_first assoc]
      rfl
    · rw [joinLeft_cons_of_notMem _ h, foldRight_append_single, ih]
      rfl

theorem foldRight_joinRight (tier : List Operator) (c : Chain α) :
    (c.joinRight (fun _ => f) tier).foldRight (fun _ => f) = c.foldRight fun _ => f := by
  obtain ⟨a, links⟩ := c
  induction links generalizing a with
  | nil => rfl
  | cons l links ih =>
    have tail := ih l.operand
    by_cases h : l.op ∈ tier
    · rw [joinRight_cons_of_mem _ h, foldRight_first assoc, tail]
      rfl
    · rw [joinRight_cons_of_notMem _ h, foldRight_append_single, tail]
      rfl

/-- Where all operators stand for the same associative operation, grouping makes no difference. -/
theorem reading_of_assoc (c : Chain α) : c.reading (fun _ => f) = c.foldRight fun _ => f := by
  have whole : ((c.joinProducts fun _ => f).joinLeft (fun _ => f) [.add, .sub]).foldRight (fun _ => f) =
      c.foldRight fun _ => f := by
    rw [foldRight_joinLeft assoc, joinProducts, foldRight_joinLeft assoc, joinPowers, foldRight_joinRight assoc,
      foldRight_joinLeft assoc]
  rw [← whole, joinLeft_joinProducts]
  rfl

end Associative

end Chain

end Calculator
