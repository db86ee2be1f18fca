import Calculator.Session

/-! A demonstration of every stage: for each of a few lines its tokens, its tree, its value, and what is shown for it. -/

namespace Calculator.Demonstration

/-- The lines that are demonstrated. -/
def lines : List String :=
  ["5", "-1", "1 + 1", "-1 + 1", "1 - -1", "4 + 6 * 3", "(4 + 6)", "(4+6) * 3", "2 ^ 3 ^ 2", "10 % 3 + 1", "7/6/2000",
    "7 / 6 / 2000", "1.5e3 * 2", "var = (1 + 14 * (54^2))", "a = b = 10", "-(1 + 2)", "help()"]

/-- What is shown for the value of a statement, in a session of its own. -/
def evaluated (node : Node) : List String :=
  match (Session.start.run node.evaluation).result with
  | .error _ => []
  | .ok value =>
    let shown := match value.shown with
      | .text text => text
      | _ => "None"
    ["result: " ++ value.described, "rendered: " ++ shown]

/-- What is shown for tokens: the tree and its value, or the message why there is none. -/
def parsed (tokens : List Token) : List String :=
  match Node.ofTokens tokens with
  | .ok node => ("ast: " ++ node.described) :: evaluated node
  | .error (.rejected cause rest) => [(ParseError.locate cause tokens rest).message]
  | .error _ => []

/-- What is shown for a line. -/
def scanned (line : String) : List String :=
  match Token.scan line with
  | .ok tokens => ("tokens: " ++ " ".intercalate (tokens.map (·.shown))) :: parsed tokens
  | .error e => [e.message]

/-- The demonstration of a line. -/
def demonstrate (line : String) : List String :=
  [String.ofList (List.replicate 10 '='), "code: " ++ quoted line] ++ scanned line

/-- The whole demonstration. -/
def text : String := "".intercalate ((lines.flatMap demonstrate).map (· ++ "\n"))

end Calculator.Demonstration
