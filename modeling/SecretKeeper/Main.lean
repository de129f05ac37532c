/-
# The program

Reads the command line, prints what it comes to, and exits.
-/
import SecretKeeper.Cli.Offline

open SecretKeeper in
/-- The command line of the program. -/
def main (args : List String) : IO UInt32 := do
  let ending := (Cli.Request.ofWords args).offline
  (← IO.getStdout).putStr ending.output
  (← IO.getStderr).putStr ending.errorOutput
  return ending.code.toUInt32
