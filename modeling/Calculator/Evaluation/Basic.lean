import Calculator.Bindings
import Calculator.Remark

/-! Evaluations. An evaluation reads the variables of a session and may give them values; it makes remarks, which it
    cannot read; and it ends with a value or with a fault. What it has done before a fault stays done. Where remarks go to
    a log, a remark from too deep inside is a fault as well. -/

namespace Calculator

/-- Why an evaluation has no value. -/
inductive Fault where
  /-- A chain has fewer operands than its operators ask for, or a line ends before its statement does. -/
  | missing
  /-- This is no node of a statement. -/
  | foreignNode (description : String)
  /-- A literal spells no number. -/
  | malformed (text : String)
  /-- The evaluation would go too deep. -/
  | tooDeep
  deriving DecidableEq, Repr

/-- What comes of an evaluation: its value, the variables behind it, and the remarks it makes. -/
structure Outcome (α : Type) where
  result : Except Fault α
  bindings : Bindings
  remarks : List Remark

/-- An evaluation, as a function of the variables before it and of whether its remarks go to a log. -/
@[ext]
structure Evaluation (α : Type) where
  runIn : (verbose : Bool) → Bindings → Outcome α

namespace Evaluation

variable {α β : Type}

/-- Runs an evaluation without a log. -/
def run (evaluation : Evaluation α) : Bindings → Outcome α := evaluation.runIn false

/-- The evaluation that goes on with `next` where the first has a value. -/
def andThen (first : Evaluation α) (next : α → Evaluation β) : Evaluation β where
  runIn verbose b :=
    let o := first.runIn verbose b
    match o.result with
    | .ok a =>
      let p := (next a).runIn verbose o.bindings
      { p with remarks := o.remarks ++ p.remarks }
    | .error fault => ⟨.error fault, o.bindings, o.remarks⟩

instance : Monad Evaluation where
  pure a := ⟨fun _ b => ⟨.ok a, b, []⟩⟩
  bind := andThen

/-- The evaluation that is a fault. -/
def fail (fault : Fault) : Evaluation α := ⟨fun _ b => ⟨.error fault, b, []⟩⟩

/-- A value or a fault that depends on nothing. -/
def ofExcept (result : Except Fault α) : Evaluation α := ⟨fun _ b => ⟨result, b, []⟩⟩

/-- The evaluation with another result in the place of each fault. -/
def recover (evaluation : Evaluation α) (other : Fault → Except Fault α) : Evaluation α where
  runIn verbose b :=
    let o := evaluation.runIn verbose b
    match o.result with
    | .ok _ => o
    | .error fault => { o with result := other fault }

/-- How many levels a remark takes on its way into a log. Of the fourteen stack frames from an operation to the text of
    its operands there, six are left free below every level. -/
def logLevels : Nat := 8

/-- Makes a remark. One that goes to a log needs room for its way there. -/
def remark (r : Remark) (room : Nat) : Evaluation Unit where
  runIn verbose b := if verbose && room < logLevels then ⟨.error .tooDeep, b, []⟩ else ⟨.ok (), b, [r]⟩

/-- Gives a variable a value, and remarks on it. This is done outside all brackets, where a log has room. -/
def assign (name : String) (value : Value) : Evaluation Unit :=
  ⟨fun _ b => ⟨.ok (), b.assign name value, [.assigned name value]⟩⟩

/-- The value of a variable; an unbound name is a failure. -/
def lookup (name : String) : Evaluation Value :=
  ⟨fun _ b => ⟨.ok ((b.lookup name).getD (.error (.unbound name))), b, []⟩⟩

/-- The value of an operation, with a remark where it calls for one. -/
def operation (op : Operator) (x y : Value) (room : Nat) : Evaluation Value :=
  match Remark.onOperation? op x y with
  | some r => do
    remark r room
    pure (op.apply x y)
  | none => pure (op.apply x y)

@[simp] theorem runIn_pure (a : α) (verbose : Bool) (b : Bindings) :
    (pure a : Evaluation α).runIn verbose b = ⟨.ok a, b, []⟩ := rfl

@[simp] theorem run_pure (a : α) (b : Bindings) : (pure a : Evaluation α).run b = ⟨.ok a, b, []⟩ := rfl

@[simp] theorem run_fail (fault : Fault) (b : Bindings) :
    (fail fault : Evaluation α).run b = ⟨.error fault, b, []⟩ := rfl

@[simp] theorem run_assign (name : String) (value : Value) (b : Bindings) :
    (assign name value).run b = ⟨.ok (), b.assign name value, [.assigned name value]⟩ := rfl

@[simp] theorem run_lookup (name : String) (b : Bindings) :
    (lookup name).run b = ⟨.ok ((b.lookup name).getD (.error (.unbound name))), b, []⟩ := rfl

@[simp] theorem run_operation (op : Operator) (x y : Value) (room : Nat) (b : Bindings) :
    (operation op x y room).run b = ⟨.ok (op.apply x y), b, (Remark.onOperation? op x y).toList⟩ := by
  rw [operation]
  cases Remark.onOperation? op x y <;> rfl

theorem andThen_pure (x : Evaluation α) : andThen x pure = x := by
  refine Evaluation.ext (funext fun verbose => funext fun b => ?_)
  simp only [andThen]
  split
  · rename_i a h
    simp only [runIn_pure, List.append_nil, ← h]
  · rename_i fault h
    simp only [← h]

theorem pure_andThen (a : α) (f : α → Evaluation β) : andThen (pure a) f = f a := by
  refine Evaluation.ext (funext fun verbose => funext fun b => ?_)
  simp [andThen]

theorem andThen_assoc {γ : Type} (x : Evaluation α) (f : α → Evaluation β) (g : β → Evaluation γ) :
    andThen (andThen x f) g = andThen x fun a => andThen (f a) g := by
  refine Evaluation.ext (funext fun verbose => funext fun b => ?_)
  cases h : (x.runIn verbose b).result with
  | error fault => simp [andThen, h]
  | ok a =>
    cases h' : ((f a).runIn verbose (x.runIn verbose b).bindings).result with
    | error fault => simp [andThen, h, h']
    | ok c => simp [andThen, h, h']

instance : LawfulMonad Evaluation :=
  LawfulMonad.mk' Evaluation (fun x => andThen_pure x) pure_andThen andThen_assoc

theorem runIn_bind_of_ok {first : Evaluation α} {next : α → Evaluation β} {verbose : Bool} {b : Bindings} {a : α}
    (h : (first.runIn verbose b).result = .ok a) :
    (first >>= next).runIn verbose b =
      { (next a).runIn verbose (first.runIn verbose b).bindings with
        remarks := (first.runIn verbose b).remarks ++
          ((next a).runIn verbose (first.runIn verbose b).bindings).remarks } := by
  change (andThen first next).runIn verbose b = _
  simp only [andThen, h]

theorem runIn_bind_of_error {first : Evaluation α} {next : α → Evaluation β} {verbose : Bool} {b : Bindings}
    {fault : Fault} (h : (first.runIn verbose b).result = .error fault) :
    (first >>= next).runIn verbose b =
      ⟨.error fault, (first.runIn verbose b).bindings, (first.runIn verbose b).remarks⟩ := by
  change (andThen first next).runIn verbose b = _
  simp only [andThen, h]

theorem run_bind_of_ok {first : Evaluation α} {next : α → Evaluation β} {b : Bindings} {a : α}
    (h : (first.run b).result = .ok a) :
    (first >>= next).run b =
      { (next a).run (first.run b).bindings with
        remarks := (first.run b).remarks ++ ((next a).run (first.run b).bindings).remarks } :=
  runIn_bind_of_ok h

theorem run_bind_of_error {first : Evaluation α} {next : α → Evaluation β} {b : Bindings} {fault : Fault}
    (h : (first.run b).result = .error fault) :
    (first >>= next).run b = ⟨.error fault, (first.run b).bindings, (first.run b).remarks⟩ :=
  runIn_bind_of_error h

section
variable {evaluation : Evaluation α} {other : Fault → Except Fault α} {verbose : Bool} {b : Bindings}

theorem runIn_recover_of_ok {a : α} (h : (evaluation.runIn verbose b).result = .ok a) :
    (evaluation.recover other).runIn verbose b = evaluation.runIn verbose b := by
  simp only [recover, h]

theorem runIn_recover_of_error {fault : Fault} (h : (evaluation.runIn verbose b).result = .error fault) :
    (evaluation.recover other).runIn verbose b = { evaluation.runIn verbose b with result := other fault } := by
  simp only [recover, h]

end

end Evaluation

end Calculator
