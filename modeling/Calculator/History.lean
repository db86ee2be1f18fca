/-! The history of a session: its lines, oldest first, and a cursor for walking back and forth among them. -/

namespace Calculator

/-- Lines, oldest first, and the position of the line that the walk has come to. Without a cursor the walk stands
    behind the newest line. -/
structure History where
  entries : List String
  cursor : Option Nat
  deriving DecidableEq, Repr

namespace History

/-- A history without lines. -/
def empty : History := ⟨[], none⟩

/-- The history with one line more, unless it repeats the newest. The cursor stays where it is. -/
def add (h : History) (line : String) : History :=
  if h.entries.getLast? = some line then h else { h with entries := h.entries ++ [line] }

/-- The history with its cursor behind the newest line. -/
def reset (h : History) : History := { h with cursor := none }

/-- Moves the cursor to a position and gives the line there. -/
def goTo (h : History) (position : Nat) : Option String × History :=
  (h.entries[position]?, { h with cursor := some position })

/-- One line back. At the oldest line nothing moves. -/
def older (h : History) : Option String × History :=
  if h.entries.isEmpty then (none, h)
  else
    match h.cursor with
    | none => h.goTo (h.entries.length - 1)
    | some 0 => (none, h)
    | some (position + 1) => h.goTo position

/-- One line forth. Behind the newest line the walk ends. -/
def newer (h : History) : Option String × History :=
  match h.cursor with
  | none => (none, h)
  | some position => if position + 1 < h.entries.length then h.goTo (position + 1) else (none, h.reset)

end History

end Calculator
