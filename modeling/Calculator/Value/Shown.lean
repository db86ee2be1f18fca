import Calculator.Value.Basic

/-! What is shown for a value. -/

namespace Calculator

/-- The text that answers a query. -/
def Topic.text : Topic → String
  | .about =>
    "This is a REPL calculator: type a statement, press Enter, and it is evaluated on the spot.\n" ++
    "Variables you assign are kept until the session ends.\n" ++
    "\n" ++
    "Try running `help()` for more info."
  | .help =>
    "Use any of the following operations:\n" ++
    "+ for addition\n" ++
    "- for subtraction\n" ++
    "* for multiplication\n" ++
    "/ for division\n" ++
    "^ for exponentation\n" ++
    "% for remainder\n" ++
    "= for assignment of variables (ex: `a = b`)\n" ++
    "\n" ++
    "Try using a few well known constants, like `pi` and `e`. " ++
    "`ans` is a special variable that is always the last result.\n" ++
    "\n" ++
    "Negative numbers can only be written as literals (ex: `-3`), `-(1 + 2)` is not supported!"

/-- What there is to show for a value. -/
inductive Shown where
  | text (text : String)
  | nothing
  /-- A value of this type cannot be shown. -/
  | unknown (typeName : String)
  deriving DecidableEq, Repr

/-- What is shown for a value: a number in digits, the words for a failure, the text on a topic. -/
def Value.shown : Value → Shown
  | integer v => .text (integerText v)
  | float x => .text (floatText x)
  | error cause => .text cause.message
  | info topic => .text topic.text
  | nil => .nothing
  | foreign name => .unknown name

end Calculator
