import Calculator.Token.Basic
import Calculator.Text.Blank
import Calculator.Text.Digits
import Calculator.Text.Name
import Calculator.Text.Quoted
import Calculator.Excerpt

/-! Scanning: the tokens of a line. Blanks separate tokens and belong to none. A number is read as far as it goes, with
    no blank inside, and so is a name. A minus directly before a digit is the sign of a number where an operand may
    start, and the operator behind an operand. -/

namespace Calculator

/-- Why no token starts at a place. -/
inductive ScanCause where
  /-- No token starts with this character. -/
  | unexpected (c : Char)
  /-- A reserved word stands without its brackets. -/
  | reserved (word : String)
  deriving DecidableEq, Repr

/-- A place where scanning stops: the rest of the line starts with no token. -/
structure ScanStop where
  cause : ScanCause
  rest : List Char
  deriving DecidableEq, Repr

/-- A line that has no tokens, and the position of the first character that belongs to none. -/
structure ScanError where
  cause : ScanCause
  line : String
  position : Nat
  deriving DecidableEq, Repr

namespace Token

/-! ### Numbers -/

/-- The sign that a text starts with, as it is written, and what follows it. -/
def writtenSign : List Char → List Char × List Char
  | '+' :: cs => (['+'], cs)
  | '-' :: cs => (['-'], cs)
  | cs => ([], cs)

/-- The exponent that a text starts with, and what follows it. It is empty where the mark is missing or no digit
    follows. -/
def exponent : List Char → List Char × List Char
  | [] => ([], [])
  | mark :: cs =>
    if mark = 'e' ∨ mark = 'E' then
      match digits? (writtenSign cs).2 with
      | some (digits, rest) => (mark :: (writtenSign cs).1 ++ digits, rest)
      | none => ([], mark :: cs)
    else ([], mark :: cs)

/-- What follows the first digits of a number: a denominator, or a fraction with an exponent that may be missing, or
    nothing. It settles the kind of the number. -/
def numberTail : List Char → Kind × List Char × List Char
  | '/' :: cs =>
    match digits? cs with
    | some (digits, rest) => (.rational, '/' :: digits, rest)
    | none => (.integer, [], '/' :: cs)
  | '.' :: cs =>
    match digits? cs with
    | some (digits, rest) => (.float, '.' :: digits ++ (exponent rest).1, (exponent rest).2)
    | none => (.integer, [], '.' :: cs)
  | cs => (.integer, [], cs)

/-- The number that a text starts with, behind its sign, and what follows it. -/
def number (sign cs : List Char) : Token × List Char :=
  let tail := numberTail (cs.dropWhile Char.isDigit)
  (⟨tail.1, String.ofList (sign ++ cs.takeWhile Char.isDigit ++ tail.2.1)⟩, tail.2.2)

/-! ### Single tokens -/

/-- Whether a text starts with a digit. -/
def startsDigit : List Char → Bool
  | c :: _ => c.isDigit
  | [] => false

/-- The name or the query that a text starts with, and what follows it. -/
def word (c : Char) (cs : List Char) : Except ScanCause (Token × List Char) :=
  let name := c :: cs.takeWhile continuesName
  match Kind.reserved? name, cs.dropWhile continuesName with
  | none, rest => .ok (⟨.identifier, String.ofList name⟩, rest)
  | some kind, '(' :: ')' :: rest => .ok (⟨kind, String.ofList (name ++ ['(', ')'])⟩, rest)
  | some _, _ => .error (.reserved (String.ofList name))

/-- The token that a text starts with, and what follows it. With `signed`, a minus before a digit is a sign. -/
def first (signed : Bool) (c : Char) (cs : List Char) : Except ScanCause (Token × List Char) :=
  if c.isDigit then .ok (number [] (c :: cs))
  else if signed && c == '-' && startsDigit cs then .ok (number ['-'] cs)
  else if startsName c then word c cs
  else
    match Kind.ofChar? c with
    | some kind => .ok (⟨kind, String.ofList [c]⟩, cs)
    | none => .error (.unexpected c)

/-! ### What is left gets shorter -/

theorem length_dropWhile_le {α : Type} (p : α → Bool) (l : List α) : (l.dropWhile p).length ≤ l.length :=
  (List.dropWhile_sublist p).length_le

theorem length_of_digits? {cs digits rest : List Char} (h : digits? cs = some (digits, rest)) :
    rest.length ≤ cs.length := by
  unfold digits? at h
  split at h
  · cases h
  · simp only [Option.some.injEq, Prod.mk.injEq] at h
    rw [← h.2]
    exact length_dropWhile_le _ _

theorem length_writtenSign_le (cs : List Char) : (writtenSign cs).2.length ≤ cs.length := by
  unfold writtenSign
  split <;> simp

theorem length_exponent_le (cs : List Char) : (exponent cs).2.length ≤ cs.length := by
  cases cs with
  | nil => exact Nat.le_refl _
  | cons mark cs =>
    rw [exponent]
    split
    · split
      · rename_i h
        exact Nat.le_succ_of_le (Nat.le_trans (length_of_digits? h) (length_writtenSign_le cs))
      · exact Nat.le_refl _
    · exact Nat.le_refl _

theorem length_numberTail_le (cs : List Char) : (numberTail cs).2.2.length ≤ cs.length := by
  unfold numberTail
  split
  · split
    · rename_i h
      exact Nat.le_succ_of_le (length_of_digits? h)
    · exact Nat.le_refl _
  · split
    · rename_i h
      exact Nat.le_succ_of_le (Nat.le_trans (length_exponent_le _) (length_of_digits? h))
    · exact Nat.le_refl _
  · exact Nat.le_refl _

theorem length_number_le (sign cs : List Char) : (number sign cs).2.length ≤ (cs.dropWhile Char.isDigit).length :=
  length_numberTail_le _

theorem length_of_word {c : Char} {cs : List Char} {t : Token} {rest : List Char} (h : word c cs = .ok (t, rest)) :
    rest.length ≤ cs.length := by
  have drop := length_dropWhile_le continuesName cs
  unfold word at h
  dsimp only at h
  split at h
  · cases h
    exact drop
  · rename_i after
    cases h
    rw [after] at drop
    simp only [List.length_cons] at drop
    omega
  · cases h

/-- A token takes at least one character. -/
theorem length_of_first {signed : Bool} {c : Char} {cs : List Char} {t : Token} {rest : List Char}
    (h : first signed c cs = .ok (t, rest)) : rest.length ≤ cs.length := by
  unfold first at h
  split at h
  · rename_i digit
    cases h
    have shorter := length_number_le [] (c :: cs)
    rw [List.dropWhile_cons_of_pos digit] at shorter
    exact Nat.le_trans shorter (length_dropWhile_le _ _)
  · split at h
    · cases h
      exact Nat.le_trans (length_number_le ['-'] cs) (length_dropWhile_le _ _)
    · split at h
      · exact length_of_word h
      · split at h
        · cases h
          exact Nat.le_refl _
        · cases h

/-! ### Lines -/

/-- The tokens of a text that follows an operand or does not. -/
def scanFrom (afterOperand : Bool) : List Char → Except ScanStop (List Token)
  | [] => .ok []
  | c :: cs =>
    if isBlank c then scanFrom afterOperand cs
    else
      match h : first (!afterOperand) c cs with
      | .error cause => .error ⟨cause, c :: cs⟩
      | .ok (t, rest) =>
        have : rest.length ≤ cs.length := length_of_first h
        (scanFrom t.kind.endsOperand rest).map (t :: ·)
termination_by cs => cs.length

/-- Tokens closed as a line is: no tokens make no line. -/
def close : List Token → List Token
  | [] => []
  | ts => ts ++ [closing]

/-- The tokens of a line; a blank line has none. -/
def scan (line : String) : Except ScanError (List Token) :=
  match scanFrom false line.toList with
  | .ok ts => .ok (close ts)
  | .error stop => .error ⟨stop.cause, line, line.length - stop.rest.length⟩

end Token

/-! ### Messages -/

/-- What is wrong, in one line. -/
def ScanCause.headline : ScanCause → String
  | .unexpected c => "Unexpected character: " ++ quoted (String.singleton c)
  | .reserved word => quoted word ++ " is reserved, did you mean " ++ quoted (word ++ "()") ++ "?"

/-- A message about a position of a line: what is wrong, the neighbourhood of the position, a pointer to it. -/
def ScanError.report (headline line : String) (position : Nat) : String :=
  let excerpt := Excerpt.around line position
  "[Tokenizer error] " ++ headline ++ "\n" ++ excerpt.line ++ "\n" ++ pointer excerpt.column

/-- The message of an error. -/
def ScanError.message (e : ScanError) : String := ScanError.report e.cause.headline e.line e.position

end Calculator
