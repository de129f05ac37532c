/-
# A terminal

Where commands of the command line are run: it keeps what was printed, sends requests to a
scripted API server, and reads from given bytes.
-/
import SecretKeeper.Cli.Commands
import SecretKeeper.Simulation.Script

namespace SecretKeeper.Simulation

/-- A terminal. -/
structure Terminal where
  script : Script
  /-- The bytes that have not been read. -/
  input : Bytes
  /-- The time, as commands see it. -/
  stamp : String
  printed : String := ""

namespace Terminal

/-- The bytes up to and with the first line feed, and those after it. -/
def cutLine (input : Bytes) : Bytes × Bytes :=
  let line := input.takeWhile (· != 10)
  let rest := input.dropWhile (· != 10)
  (line ++ rest.take 1, rest.drop 1)

/-- The answer to a request that takes no time. -/
def atOnce {A : Type} (answer : A) (after : Terminal) : Program.Reply Terminal A :=
  { issued := after, delay := 0, answer := answer, after := after }

/-- Answers the requests of commands. -/
def serve : Program.Server Cli.consoleInterface Terminal
  | .say text, t => atOnce () { t with printed := t.printed ++ text }
  | .send request, t =>
    let reply := t.script.send request
    { queued := reply.queued
      issued := { t with script := reply.issued }
      delay := reply.delay
      answer := reply.answer
      after := { t with script := reply.after } }
  | .readLine, t =>
    let (line, rest) := cutLine t.input
    atOnce line { t with input := rest }
  | .now, t => atOnce t.stamp t

/-- Runs a command to its end. -/
def run (ns : Option String) (command : Cli.Command) (t : Terminal) : Cli.Ending × Terminal :=
  (command.program ns).run serve t

end Terminal

end SecretKeeper.Simulation
