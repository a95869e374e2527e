import GridLayout.Command

/-!
# The program

Reads the file that the arguments name and prints what the command gives. A wrong command line
ends with 2, any other failure with 1.
-/

open GridLayout

/-- The content of a file, if it can be read. -/
def readFile? (file : String) : IO (Option String) := do
  try return some (← IO.FS.readFile file)
  catch _ => return none

/-- Print the outcome; the result is the exit code. -/
def printOutcome : Except CommandFault String → IO UInt32
  | .ok output => do
    IO.print output
    return 0
  | .error .usage => do
    IO.eprintln (CommandFault.message .usage)
    return 2
  | .error fault => do
    IO.eprintln ("Error: " ++ fault.message)
    return 1

def main (arguments : List String) : IO UInt32 := do
  match Invocation.ofArguments? arguments with
  | some i => printOutcome (i.run (← readFile? i.file))
  | none => printOutcome (.error .usage)
