import Calculator.CommandLine
import Calculator.Session

/-! The transcript of a conversation: everything that the console program prints for the lines it is given. Results go to
    one stream, failures and remarks to the other. The prompt is printed before every line and once more at the end. -/

namespace Calculator

/-- How a program ends. -/
inductive Ending where
  /-- After the last line. -/
  | finished
  /-- On its own, with a status. -/
  | exit (status : Nat)
  /-- In an evaluation that has no value. -/
  | stopped (fault : Fault)
  deriving DecidableEq, Repr

/-- What is printed for results, what is printed for failures and remarks, and how it ends. -/
structure Transcript where
  output : String
  errors : String
  ending : Ending
  deriving DecidableEq, Repr

namespace Console

/-- The lines of a text. A line ends with a line feed; the last one may go without. `line` is what is read of the line
    already, last character first. -/
def linesFrom (line : List Char) : List Char → List (List Char)
  | [] => if line.isEmpty then [] else [line.reverse]
  | c :: cs => if c = '\n' then line.reverse :: linesFrom [] cs else linesFrom (c :: line) cs

/-- The lines of a text. -/
def lines (text : String) : List String := (linesFrom [] text.toList).map String.ofList

/-- A text on a line of its own. -/
def onLine (text : String) : String := text ++ "\n"

/-- What is printed for a value among results. -/
def resultText : Option Value → String
  | none | some (.error _) => ""
  | some value =>
    match value.shown with
    | .text text => onLine text
    | _ => ""

/-- What is printed for a value among failures. -/
def failureText : Option Value → String
  | some (.error cause) => onLine cause.message
  | _ => ""

/-- The remarks of a log. -/
def logText (verbose : Bool) (remarks : List Remark) : String :=
  if verbose then "".intercalate (remarks.map fun r => onLine r.text) else ""

/-- A transcript with more in front of it. -/
def after (output errors : String) (t : Transcript) : Transcript :=
  { t with output := output ++ t.output, errors := errors ++ t.errors }

/-- What comes of a turn of a conversation: what is printed in it, and the session that the conversation goes on with,
    unless a fault ends it. -/
structure Turn where
  output : String
  errors : String
  next : Except Fault Session

namespace Turn

/-- The turn that a reply makes. -/
def ofReply (verbose : Bool) (reply : Reply (Option Value)) : Turn :=
  let log := logText verbose reply.remarks
  match reply.result with
  | .ok value => ⟨resultText value, log ++ failureText value, .ok reply.session⟩
  | .error fault => ⟨"", log, .error fault⟩

/-- The transcript of a turn and of what follows it. -/
def followedBy (turn : Turn) (rest : Session → Transcript) : Transcript :=
  match turn.next with
  | .ok s => after turn.output turn.errors (rest s)
  | .error fault => ⟨turn.output, turn.errors, .stopped fault⟩

end Turn

/-- What the program says first. -/
def greeting : Evaluation (Option Value) := some <$> evaluateLine "about()"

/-- The first turn of a conversation, before any line is entered. -/
def greet (settings : Settings) : Turn := .ofReply settings.verbose (Session.start.runIn settings.verbose greeting)

/-- The turn in which a line is entered. -/
def turn (settings : Settings) (s : Session) (line : String) : Turn :=
  .ofReply settings.verbose (s.submitIn settings.verbose line)

/-- What is printed when there are no more lines, behind the prompt. -/
def farewell : String := onLine ""

/-- The conversation of a session about these lines. -/
def converse (settings : Settings) (s : Session) : List String → Transcript
  | [] => ⟨settings.prompt ++ farewell, "", .finished⟩
  | line :: lines =>
    after settings.prompt "" ((turn settings s line).followedBy fun s => converse settings s lines)

/-- A whole conversation: the greeting, then the lines. -/
def conversation (settings : Settings) (lines : List String) : Transcript :=
  (greet settings).followedBy fun s => converse settings s lines

/-- The console program, called with these arguments and given this text. -/
def program (args : List String) (input : String) : Transcript :=
  match Command.ofArguments args with
  | .converse settings => conversation settings (lines input)
  | .help => ⟨helpPage, "", .exit 0⟩
  | .refuse e => ⟨"", e.message, .exit 2⟩

end Console

end Calculator
