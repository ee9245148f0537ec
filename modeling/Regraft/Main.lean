import Regraft.CommandLine
/-!
# The program

Reads the files that a command line names, and delivers what it asks for.
-/

namespace Regraft.Main

open CommandLine

/-- The contents of a file, if it can be read. -/
def contentsOf? (name : String) : IO (Option String) :=
  try return some (← IO.FS.readFile name) catch _ => return none

/-- Delivers a result, or says why there is none.  Returns the exit code. -/
def deliver : Except Failure Delivery → IO UInt32
  | .ok (.print text) => do
    IO.print text
    return 0
  | .ok (.save file text) =>
    try
      IO.FS.writeFile file text
      return 0
    catch _ => do
      IO.eprintln (Failure.unwritableOutput file).message
      return 1
  | .error failure => do
    IO.eprintln failure.message
    return 1

/-- Says why a command line is not run.  Returns the exit code. -/
def refuse : Halt → IO UInt32
  | .help => do
    IO.print help
    return 0
  | .version => do
    IO.print version
    return 0
  | .misuse => do
    IO.eprint usage
    return 2

end Regraft.Main

/-- The program. -/
def main (arguments : List String) : IO UInt32 := do
  match Regraft.CommandLine.parse arguments with
  | .ok invocation =>
    let rules ← Regraft.Main.contentsOf? invocation.rules
    let input ← Regraft.Main.contentsOf? invocation.input
    Regraft.Main.deliver (invocation.perform fun name => if name = invocation.rules then rules else input)
  | .error halt => Regraft.Main.refuse halt
