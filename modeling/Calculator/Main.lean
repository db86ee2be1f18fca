import Calculator.Transcript

/-! The console program. It takes the turns of the conversation one by one, as the lines come, and prints each when it is
    taken. -/

namespace Calculator.Program

/-- Prints something for either stream. -/
def print (output errors : String) : IO Unit := do
  (← IO.getStdout).putStr output
  (← IO.getStdout).flush
  (← IO.getStderr).putStr errors

/-- The status that a program ends with. -/
def status : Ending → UInt32
  | .finished => 0
  | .exit status => status.toUInt32
  | .stopped _ => 1

/-- Prints a turn, and goes on where it does. -/
def take (turn : Console.Turn) (rest : Session → IO UInt32) : IO UInt32 := do
  print turn.output turn.errors
  match turn.next with
  | .ok s => rest s
  | .error fault => return status (.stopped fault)

/-- Goes on with a conversation until the input ends. -/
partial def converse (settings : Settings) (s : Session) : IO UInt32 := do
  print settings.prompt ""
  match Console.lines (← (← IO.getStdin).getLine) with
  | line :: _ => take (Console.turn settings s line) (converse settings)
  | [] =>
    print Console.farewell ""
    return status .finished

end Calculator.Program

/-- Runs the console program. -/
def main (args : List String) : IO UInt32 := do
  match Calculator.Command.ofArguments args with
  | .converse settings => Calculator.Program.take (Calculator.Console.greet settings) (Calculator.Program.converse settings)
  | _ =>
    let t := Calculator.Console.program args ""
    Calculator.Program.print t.output t.errors
    return Calculator.Program.status t.ending
