import Calculator.Text.Numeral
import Calculator.Text.Quoted

/-! The options of the console program. Long options may be abbreviated and may have their value attached with an equals
    sign; short options may stand together behind one dash, with an equals sign behind the first or without. What looks
    like an option cannot be the value of one, unless it looks like a negative number or holds a space. Behind a double
    dash there are no options. -/

namespace Calculator

/-- An option. -/
inductive Flag where
  | help
  | prompt
  | verbose
  deriving DecidableEq, Repr

/-- What the options settle. -/
structure Settings where
  prompt : String
  verbose : Bool
  deriving DecidableEq, Repr

/-- What is wrong with a command line. -/
inductive UsageError where
  /-- An option's value is missing. -/
  | valueMissing (flag : Flag)
  /-- A text is attached to an option that takes no value. -/
  | valueIgnored (flag : Flag) (value : String)
  /-- An abbreviation fits several options. -/
  | ambiguous (spelling : String) (options : List String)
  /-- These arguments belong to no option. -/
  | unrecognized (arguments : List String)
  deriving DecidableEq, Repr

/-- What a command line asks for. -/
inductive Command where
  | converse (settings : Settings)
  | help
  | refuse (error : UsageError)
  deriving DecidableEq, Repr

namespace Settings

/-- The settings without any option. -/
def default : Settings := ⟨"calc > ", false⟩

end Settings

namespace Flag

/-- The long options. -/
def long : List (String × Flag) := [("--help", help), ("--prompt", prompt), ("--verbose", verbose)]

/-- The option that a letter behind a single dash stands for. -/
def ofLetter? : Char → Option Flag
  | 'h' => some help
  | 'v' => some verbose
  | _ => none

/-- All spellings of an option. -/
def spellings : Flag → String
  | help => "-h/--help"
  | prompt => "--prompt"
  | verbose => "-v/--verbose"

end Flag

/-- What an argument looks like on its own. -/
inductive Item where
  /-- Not an option; it can be the value of one. -/
  | word (text : String)
  /-- The double dash that ends the options. -/
  | separator
  /-- An option behind a single dash (`short`) or a double dash, and the text attached to it. -/
  | option (flag : Flag) (short : Bool) (attached : Option (List Char))
  /-- An option that there is not. -/
  | unknown (text : String)
  deriving DecidableEq, Repr

namespace Item

/-- Whether a text looks like a negative number: a dash, digits, and at most one point that has a digit behind it. A line
    end behind it does no harm. -/
def looksNegative (cs : List Char) : Bool :=
  let cs := if cs.getLast? = some '\n' then cs.dropLast else cs
  match cs with
  | '-' :: number =>
    let fraction := number.dropWhile isNumeral
    let whole := number.takeWhile isNumeral
    match fraction with
    | [] => !whole.isEmpty
    | '.' :: digits => !digits.isEmpty && digits.all isNumeral
    | _ => false
  | _ => false

/-- An argument that starts with a dash and spells no option. -/
def stray (arg : String) : Item :=
  if looksNegative arg.toList || arg.toList.contains ' ' then .word arg else .unknown arg

/-- The part of a text before the first equals sign, and the part behind it if there is one. -/
def splitMark (cs : List Char) : List Char × Option (List Char) :=
  match cs.dropWhile (· != '=') with
  | [] => (cs, none)
  | _ :: value => (cs.takeWhile (· != '='), some value)

/-- What an argument looks like that starts with two dashes: a long option or its abbreviation. -/
def ofLong (arg : String) : Except UsageError Item :=
  let (name, attached) := splitMark arg.toList
  match Flag.long.lookup (String.ofList name) with
  | some flag => .ok (.option flag false attached)
  | none =>
    match Flag.long.filter fun entry => name.isPrefixOf entry.1.toList with
    | [] => .ok (stray arg)
    | [(_, flag)] => .ok (.option flag false attached)
    | candidates => .error (.ambiguous arg (candidates.map (·.1)))

/-- What an argument looks like where options are allowed. -/
def ofArgument (arg : String) : Except UsageError Item :=
  match arg.toList with
  | '-' :: '-' :: _ => ofLong arg
  | '-' :: letter :: attached =>
    match Flag.ofLetter? letter, attached with
    | some flag, [] => .ok (.option flag true none)
    | some flag, '=' :: text => .ok (.option flag true (some text))
    | some flag, text => .ok (.option flag true (some text))
    | none, _ => .ok (stray arg)
  | _ => .ok (.word arg)

/-- What the arguments of a command line look like. -/
def ofArguments : List String → Except UsageError (List Item)
  | [] => .ok []
  | arg :: args =>
    if arg = "--" then .ok (.separator :: args.map .word)
    else do
      let item ← ofArgument arg
      let items ← ofArguments args
      return item :: items

end Item

/-- The options that stand together behind one dash: `flag`, and those whose letters are attached to it. None of them
    takes a value, so a letter that is no option is a value too many for the option before it. -/
def Flag.cluster (flag : Flag) : List Char → Except UsageError (List Flag)
  | [] => .error (.valueIgnored flag "")
  | c :: cs =>
    match Flag.ofLetter? c, cs with
    | none, _ => .error (.valueIgnored flag (String.ofList (c :: cs)))
    | some next, [] => .ok [flag, next]
    | some next, d :: ds => (next.cluster (d :: ds)).map (flag :: ·)

/-- A command line as far as it is read: the settings so far, and the arguments that belong to no option. -/
structure Progress where
  settings : Settings
  leftOver : List String

namespace Progress

/-- Acts on options without a value; one of them asks for help and ends everything. -/
def acts (p : Progress) (flags : List Flag) : Option Progress :=
  if flags.contains .help then none
  else if flags.contains .verbose then some { p with settings := { p.settings with verbose := true } }
  else some p

/-- Takes the value of the option that has one. -/
def takePrompt (p : Progress) (text : String) : Progress := { p with settings := { p.settings with prompt := text } }

/-- The value of a text attached to the option that has one. A double dash ends the options even there and is no value;
    the values are then an empty list, and the prompt is that list in square brackets. -/
def attachedValue (text : String) : String := if text = "--" then "[]" else text

/-- Leaves arguments over. -/
def leave (p : Progress) (args : List String) : Progress := { p with leftOver := p.leftOver ++ args }

/-- What a command line asks for that goes on with these items. -/
def command (p : Progress) : List Item → Command
  | [] => if p.leftOver.isEmpty then .converse p.settings else .refuse (.unrecognized p.leftOver)
  | .word text :: items => (p.leave [text]).command items
  | .separator :: items => (p.leave ["--"]).command items
  | .unknown text :: items => (p.leave [text]).command items
  | .option .prompt _ (some text) :: items => (p.takePrompt (attachedValue (String.ofList text))).command items
  | .option .prompt _ none :: .word text :: items => (p.takePrompt text).command items
  | .option .prompt _ none :: _ => .refuse (.valueMissing .prompt)
  | .option flag _ none :: items =>
    match p.acts [flag] with
    | some p => p.command items
    | none => .help
  | .option flag false (some text) :: _ => .refuse (.valueIgnored flag (String.ofList text))
  | .option flag true (some text) :: items =>
    match flag.cluster text with
    | .error e => .refuse e
    | .ok flags =>
      match p.acts flags with
      | some p => p.command items
      | none => .help

end Progress

namespace Command

/-- What a command line asks for. -/
def ofArguments (args : List String) : Command :=
  match Item.ofArguments args with
  | .error e => .refuse e
  | .ok items => (Progress.mk .default []).command items

end Command

/-! ### Texts -/

/-- How the program is called. -/
def usage : String := "usage: repl.py [-h] [--prompt PROMPT] [-v]\n"

/-- What the program says about itself. -/
def helpPage : String :=
  usage ++
  "\n" ++
  "Line-oriented calculator console\n" ++
  "\n" ++
  "options:\n" ++
  "  -h, --help       show this help message and exit\n" ++
  "  --prompt PROMPT  prompt printed before each input line\n" ++
  "  -v, --verbose    log tokenizer and parser diagnostics\n"

namespace UsageError

/-- What is wrong, in one line. -/
def headline : UsageError → String
  | valueMissing flag => "argument " ++ flag.spellings ++ ": expected one argument"
  | valueIgnored flag value => "argument " ++ flag.spellings ++ ": ignored explicit argument " ++ quoted value
  | ambiguous spelling options =>
    "ambiguous option: " ++ spelling ++ " could match " ++ ", ".intercalate options
  | unrecognized arguments => "unrecognized arguments: " ++ " ".intercalate arguments

/-- The message about a command line. -/
def message (e : UsageError) : String := usage ++ "repl.py: error: " ++ e.headline ++ "\n"

end UsageError

end Calculator
