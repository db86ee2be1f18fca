import Calculator.Proofs.Evaluation.Chain
import Calculator.Proofs.Node.Grammar
import Calculator.Proofs.Token.Form

/-! What the evaluation of an operand does. It is put together from those of its tokens by operations alone
    (`Node.action_induction`), and so it leaves the bindings as they are, even where it goes too deep
    (`Node.action_keeps`). Unless it goes too deep, what it gives is told by recursion on the operand, without room and
    without effects (`Node.meaning`, `Node.settles_action`). -/

namespace Calculator

/-! ### Induction -/

theorem Grouping.evaluate_induction {p : Evaluation Value → Prop}
    (join : ∀ room op x y, p x → p y → p (perform room op x y)) {first : Action} {links : List (Link Action)}
    (hf : ∀ room, p (first room)) (hl : ∀ l ∈ links, ∀ room, p (l.operand room)) (own inner room : Nat) :
    p ((ofChain first links).evaluate own inner room) := by
  refine ofChain_induction (p := fun g => ∀ own inner room, p (g.evaluate own inner room)) ?_ ?_ ?_ own inner room
  · intro op x y hx hy own inner room
    exact join _ op _ _ (hx own inner room) (hy inner (inner + 1) room)
  · intro own inner room
    exact hf _
  · intro l h own inner room
    exact hl l h _

namespace Node

/-- A property that the evaluation of an operand has if the tokens of the operand have another one: it holds where an
    evaluation goes too deep, for the operands that are tokens, and for an operation on what it holds for. -/
structure Hereditary (p : Evaluation Value → Prop) (q : Token → Prop) : Prop where
  deep : p (.fail .tooDeep)
  join : ∀ room op x y, p x → p y → p (Grouping.perform room op x y)
  integer : ∀ text, q ⟨.integer, text⟩ → p (.ofExcept (integerLiteral text))
  float : ∀ text, q ⟨.float, text⟩ → p (.ofExcept (floatLiteral text))
  rational : ∀ text, q ⟨.rational, text⟩ → p (pure (.error .rationalNumber))
  symbol : ∀ name, q ⟨.identifier, name⟩ → p (.lookup name)

variable {p : Evaluation Value → Prop} {q : Token → Prop}

theorem Hereditary.within (hp : Hereditary p q) {action : Action} (h : ∀ room, p (action room)) (room : Nat) :
    p (action.within room) := by
  rw [Action.within]
  split
  · exact hp.deep
  · exact h room

mutual

theorem action_induction (hp : Hereditary p q) : (node : Node) → node.isOperand = true →
    (∀ t ∈ node.operandTokens, q t) → ∀ room, p (node.action room)
  | .integer text, _, tokens => by
    rw [action]
    exact hp.within fun _ => hp.integer text (tokens _ (List.mem_cons_self ..))
  | .float text, _, tokens => by
    rw [action]
    exact hp.within fun _ => hp.float text (tokens _ (List.mem_cons_self ..))
  | .rational text, _, tokens => by
    rw [action]
    exact hp.within fun _ => hp.rational text (tokens _ (List.mem_cons_self ..))
  | .symbol name, _, tokens => by
    rw [action]
    exact hp.within fun _ => hp.symbol name (tokens _ (List.mem_cons_self ..))
  | .chain operands operators, h, tokens => by
    obtain ⟨lengths, operands_ok⟩ := isOperand_chain.mp h
    have inside : ∀ t ∈ chainTokens operands operators, q t := fun t ht =>
      tokens t (List.mem_append_left _ (List.mem_cons_of_mem _ ht))
    have all := actions_induction hp operands operators operands_ok inside
    obtain ⟨first, more, rfl⟩ := List.exists_cons_of_length_eq_add_one lengths
    obtain ⟨hfirst, hmore⟩ := List.forall_mem_cons.mp all
    rw [action, group_actions (Nat.succ.inj lengths)]
    refine hp.within (Grouping.evaluate_induction hp.join hfirst (fun l hl => ?_) 0 1)
    obtain ⟨i, hi, rfl⟩ := List.mem_iff_getElem.mp hl
    rw [List.getElem_zipWith, List.getElem_map]
    exact hmore _ (List.getElem_mem _)

theorem actions_induction (hp : Hereditary p q) : (nodes : List Node) → (operators : List Operator) →
    areOperands nodes = true → (∀ t ∈ chainTokens nodes operators, q t) → ∀ node ∈ nodes, ∀ room, p (node.action room)
  | [], _, _, _ => by simp
  | node :: more, operators, h, tokens => by
    rw [areOperands, Bool.and_eq_true] at h
    cases operators with
    | nil =>
      rw [chainTokens] at tokens
      obtain ⟨hnode, hmore⟩ := List.forall_mem_append.mp tokens
      exact List.forall_mem_cons.mpr ⟨action_induction hp node h.1 hnode, actions_induction hp more [] h.2 hmore⟩
    | cons op operators =>
      rw [chainTokens] at tokens
      obtain ⟨hnode, hmore⟩ := List.forall_mem_append.mp tokens
      exact List.forall_mem_cons.mpr ⟨action_induction hp node h.1 hnode,
        actions_induction hp more operators h.2 (List.forall_mem_cons.mp hmore).2⟩

end

/-- The same of an expression. The brackets that an operand has around it are tokens like others. -/
theorem expression_induction (hp : Hereditary p q) (opens : q ⟨.bracketOpen, "("⟩) (closes : q ⟨.bracketClose, ")"⟩)
    {node : Node} (h : node.isExpression = true) (tokens : ∀ t ∈ node.tokens, q t) (room : Nat) :
    p (node.action room) := by
  obtain ⟨operands, operators, rfl, hc⟩ := isExpression_iff.mp h
  -- An expression has an operand's tokens but for the brackets around them.
  refine action_induction hp _ hc (fun t ht => ?_) room
  rcases List.mem_append.mp ht with ht | ht
  · rcases List.mem_cons.mp ht with rfl | ht
    · exact opens
    · exact tokens t ht
  · rw [List.mem_singleton.mp ht]
    exact closes

end Node

/-! ### Evaluations that leave the bindings as they are -/

namespace Evaluation
variable {α β : Type} {x : Evaluation α} {f : α → Evaluation β}

/-- An evaluation that leaves the bindings as they are. -/
def Keeps (x : Evaluation α) : Prop := ∀ b, (x.run b).bindings = b

theorem Keeps.bind (h : x.Keeps) (h' : ∀ a, (f a).Keeps) : (x >>= f).Keeps := by
  intro b
  cases result : (x.run b).result with
  | ok a =>
    rw [run_bind_of_ok result, h b]
    exact h' a b
  | error fault =>
    rw [run_bind_of_error result]
    exact h b

theorem Keeps.mapM {γ : Type} {f : γ → Evaluation β} {l : List γ} (h : ∀ c ∈ l, (f c).Keeps) : (l.mapM f).Keeps := by
  induction l with
  | nil => exact fun _ => rfl
  | cons c l ih =>
    obtain ⟨hc, hl⟩ := List.forall_mem_cons.mp h
    rw [List.mapM_cons]
    exact hc.bind fun _ => (ih hl).bind fun _ _ => rfl

/-- What follows an evaluation that leaves the bindings as they are starts from the same bindings. -/
theorem Keeps.result_bind (h : x.Keeps) (f : α → Evaluation β) (b : Bindings) :
    ((x >>= f).run b).result = (x.run b).result >>= fun a => ((f a).run b).result := by
  cases result : (x.run b).result with
  | ok a =>
    rw [run_bind_of_ok result, h b]
    rfl
  | error fault =>
    rw [run_bind_of_error result]
    rfl

theorem Keeps.result_mapM {γ : Type} {f : γ → Evaluation β} {l : List γ} (h : ∀ c ∈ l, (f c).Keeps) (b : Bindings) :
    ((l.mapM f).run b).result = l.mapM fun c => ((f c).run b).result := by
  induction l with
  | nil => rfl
  | cons c l ih =>
    obtain ⟨hc, hl⟩ := List.forall_mem_cons.mp h
    rw [List.mapM_cons, List.mapM_cons, hc.result_bind]
    refine bind_congr fun v => ?_
    rw [(Keeps.mapM hl).result_bind, ih hl]
    rfl

end Evaluation

namespace Node

theorem keeps_hereditary : Hereditary Evaluation.Keeps fun _ => True where
  deep := fun _ => rfl
  join := fun _ _ _ _ hx hy => hx.bind fun _ => hy.bind fun _ _ => by rw [Evaluation.run_operation]
  integer := fun _ _ _ => rfl
  float := fun _ _ _ => rfl
  rational := fun _ _ _ => rfl
  symbol := fun _ _ _ => rfl

theorem action_keeps {node : Node} (h : node.isOperand = true) (room : Nat) : (node.action room).Keeps :=
  action_induction keeps_hereditary node h (fun _ _ => trivial) room

end Node

/-! ### What an operand means -/

/-- The value of a chain whose operands have values. -/
def Chain.value (operators : List Operator) : List Value → Except Fault Value
  | [] => .error .missing
  | v :: vs => .ok ((ofLists v operators vs).reading Operator.apply)

namespace Node

mutual

/-- The value of a node on bindings that nothing changes, with room for all its levels. -/
def meaning (b : Bindings) : Node → Except Fault Value
  | .integer text => integerLiteral text
  | .float text => floatLiteral text
  | .rational _ => .ok (.error .rationalNumber)
  | .symbol name => .ok ((b.lookup name).getD (.error (.unbound name)))
  | .chain operands operators => meanings b operands >>= Chain.value operators
  | .assignment _ value => meaning b value >>= fun _ => .ok .nil
  | .help => .ok (.info .help)
  | .about => .ok (.info .about)
  | .foreign description => .error (.foreignNode description)

/-- The values of several nodes. -/
def meanings (b : Bindings) : List Node → Except Fault (List Value)
  | [] => .ok []
  | node :: more => meaning b node >>= fun v => meanings b more >>= fun vs => .ok (v :: vs)

end

end Node

/-- A result that is another one, unless it is the fault of going too deep. -/
def Settles {α : Type} (x y : Except Fault α) : Prop := x ≠ .error .tooDeep → x = y

theorem Settles.bind {α β : Type} {x y : Except Fault α} {f g : α → Except Fault β} (h : Settles x y)
    (h' : ∀ a, Settles (f a) (g a)) : Settles (x >>= f) (y >>= g) := by
  intro shallow
  cases x with
  | error fault =>
    rw [← h fun he => shallow (congrArg (· >>= f) he)]
    rfl
  | ok a =>
    rw [← h nofun]
    exact h' a shallow

namespace Node

theorem settles_leaf {action : Action} {result : Except Fault Value} {room : Nat} {b : Bindings}
    (h : ((action room).run b).result = result) : Settles ((action.within room).run b).result result := by
  rw [Action.within]
  split
  · exact fun shallow => absurd rfl shallow
  · exact fun _ => h

/-- A chain that does not go too deep evaluates its operands one after the other, and each on the same bindings. -/
theorem result_chain {operands : List Node} {operators : List Operator}
    (h : (chain operands operators).isOperand = true) {room : Nat} {b : Bindings}
    (shallow : (((chain operands operators).action room).run b).result ≠ .error .tooDeep) :
    (((chain operands operators).action room).run b).result =
      operands.mapM (fun node => ((node.action room).run b).result) >>= Chain.value operators := by
  obtain ⟨lengths, operands_ok⟩ := isOperand_chain.mp h
  have keeps : ∀ node ∈ operands, (node.action room).Keeps := fun node hn => by
    rw [areOperands_eq_all] at operands_ok
    exact action_keeps (List.all_eq_true.mp operands_ok node hn) room
  obtain ⟨first, more, rfl⟩ := List.exists_cons_of_length_eq_add_one lengths
  obtain ⟨hfirst, hmore⟩ := List.forall_mem_cons.mp keeps
  rw [(chain_agrees_fold shallow).result_eq, group_actions (Nat.succ.inj lengths),
    Grouping.fold_inTurn_ofChain (Nat.succ.inj lengths), hfirst.result_bind, List.mapM_cons, bind_assoc]
  refine bind_congr fun v => ?_
  rw [(Evaluation.Keeps.mapM hmore).result_bind, Evaluation.Keeps.result_mapM hmore, bind_assoc]
  rfl

mutual

/-- Unless it goes too deep, the evaluation of an operand gives what the operand means. -/
theorem settles_action : (node : Node) → node.isOperand = true → ∀ (room : Nat) (b : Bindings),
    Settles ((node.action room).run b).result (node.meaning b)
  | .integer _, _, room, b | .float _, _, room, b | .rational _, _, room, b | .symbol _, _, room, b => by
    rw [action, meaning]
    exact settles_leaf rfl
  | .chain operands operators, h, room, b => by
    have settles := settles_actions operands (isOperand_chain.mp h).2 room b
    intro shallow
    have same := result_chain h shallow
    rw [same] at shallow ⊢
    rw [meaning]
    exact settles.bind (fun _ _ => rfl) shallow

theorem settles_actions : (nodes : List Node) → areOperands nodes = true → ∀ (room : Nat) (b : Bindings),
    Settles (nodes.mapM fun node => ((node.action room).run b).result) (meanings b nodes)
  | [], _, _, _ => fun _ => rfl
  | node :: more, h, room, b => by
    rw [areOperands, Bool.and_eq_true] at h
    rw [List.mapM_cons, meanings]
    exact (settles_action node h.1 room b).bind fun v =>
      (settles_actions more h.2 room b).bind fun vs _ => rfl

end

end Node

end Calculator
