/-
# The console

What a command of the command line asks for: it prints, it sends requests, it reads a line,
and it looks at the clock.  A command ends well, or with a chain of messages, outermost
first.
-/
import SecretKeeper.Api.Request
import SecretKeeper.Api.Response
import SecretKeeper.Program

namespace SecretKeeper.Cli

/-- A request of a command. -/
inductive Ask where
  /-- Prints the text. -/
  | say (text : String)
  | send (request : Api.Request)
  /-- Reads up to the end of the line, or of the input. -/
  | readLine
  /-- The time to milliseconds. -/
  | now

/-- What a request is answered with. -/
def Ask.Answer : Ask → Type
  | .say _ => Unit
  | .send _ => Api.Exchange
  | .readLine => Bytes
  | .now => String

/-- The interface of commands. -/
abbrev consoleInterface : Interface := ⟨Ask, Ask.Answer⟩

/-- A program on the console. -/
abbrev Console (α : Type) := Program consoleInterface α

/-- How a command ends: well, or with a chain of messages. -/
abbrev Ending := Except (List String) Unit

namespace Console

/-- Prints a text. -/
def say (text : String) : Console Unit := Program.request (I := consoleInterface) (.say text)

/-- Prints a line. -/
def sayLine (text : String) : Console Unit := say (text ++ "\n")

/-- Prints lines. -/
def sayLines : List String → Console Unit
  | [] => pure ()
  | line :: rest => do
    sayLine line
    sayLines rest

/-- Reads a line. -/
def readLine : Console Bytes := Program.request (I := consoleInterface) .readLine

/-- Looks at the clock. -/
def now : Console String := Program.request (I := consoleInterface) .now

/-- Sends a request, unless it could not be built, and reads what `f` makes of the answer.
A failure is put under the heading `context`. -/
def exchange {α : Type} (context : String) (r : Except Api.RequestFault Api.Request)
    (f : Api.Exchange → Except Api.Failure α) : Console (Except (List String) α) := do
  match r with
  | .error fault => pure (.error (context :: (Api.Failure.invalid fault).chain))
  | .ok request => do
    let answer ← Program.request (I := consoleInterface) (.send request)
    pure ((f answer).mapError fun e => context :: e.chain)

end Console

end SecretKeeper.Cli
