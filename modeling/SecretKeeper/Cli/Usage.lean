/-
# Help

The help on the program and on each of its commands, as it is printed.
-/
import SecretKeeper.Cli.Arguments

namespace SecretKeeper.Cli

/-- A part of a page that lists things with what they mean. -/
structure Section where
  title : String
  entries : List (String × String)

/-- A page of help. -/
structure Page where
  about : String
  usage : String
  sections : List Section
  examples : List String := []

namespace Section

/-- The width of the longest term. -/
def width (s : Section) : Nat := s.entries.foldl (fun n e => max n e.1.length) 0

/-- The title and an entry on each line, the meanings in one column. -/
def lines (s : Section) : List String :=
  (s.title ++ ":") :: s.entries.map fun (term, meaning) =>
    "  " ++ Text.padRight s.width term ++ "  " ++ meaning

end Section

/-- The lines of a page, its parts divided by empty lines. -/
def Page.lines (p : Page) : List String :=
  let examples := if p.examples.isEmpty then [] else "" :: "Examples:" :: p.examples
  [p.about, "", "Usage: " ++ p.usage] ++ p.sections.flatMap (fun s => "" :: s.lines) ++ examples

namespace Verb

/-- What the command does. -/
def about : Verb → String
  | .list => "List SecretClaim resources"
  | .status => "Show status of a SecretClaim resource"
  | .regenerate => "Regenerate the values of an AutoGenerated SecretClaim Sets " ++
      "`spec.generation.reconcileTrigger` to a fresh token"
  | .delete =>
    "Delete a SecretClaim resource The owned Secret is garbage-collected with it"

/-- The names beside the command's own, as they are shown. -/
def aliasText (v : Verb) : String :=
  if v.aliases.isEmpty then "" else " [aliases: " ++ ", ".intercalate v.aliases ++ "]"

end Verb

/-- What the word `help` does. -/
def helpAbout : String := "Print this message or the help of the given subcommand(s)"

/-- The option for the namespace. -/
def namespaceOption : String × String :=
  ("-n, --namespace <NAMESPACE>",
    "Kubernetes namespace (`list` defaults to all namespaces, other commands to `default`)")

/-- The option that asks for help. -/
def helpOption : String × String := ("-h, --help", "Print help")

/-- The option that skips the question. -/
def forceOption : String × String := ("-f, --force", "Skip the confirmation prompt")

namespace Topic

/-- The page on the program. -/
def programPage : Page where
  about := "SecretClaim Controller CLI"
  usage := "scctl [OPTIONS] <COMMAND>"
  sections :=
    [⟨"Commands", Verb.all.map (fun v => (v.text, v.about ++ v.aliasText)) ++
        [("help", helpAbout)]⟩,
      ⟨"Options", [namespaceOption, helpOption]⟩]
  examples :=
    ["  scctl list", "  scctl status my-secret --namespace default",
      "  scctl regenerate my-secret -n default", "  scctl delete my-secret -n default --force"]

/-- The page on a command. -/
def verbPage (v : Verb) : Page where
  about := v.about
  usage := "scctl " ++ v.text ++ " [OPTIONS]" ++ (if v.takesName then " <NAME>" else "")
  sections :=
    (if v.takesName then [⟨"Arguments", [("<NAME>", "Name of the SecretClaim resource")]⟩]
      else []) ++
    [⟨"Options", (if v.takesForce then [forceOption] else []) ++
      [namespaceOption, helpOption]⟩]

/-- The page on the word `help`. -/
def helpPage : Page where
  about := helpAbout
  usage := "scctl help [COMMAND]..."
  sections := [⟨"Arguments", [("[COMMAND]...", "Print help for the subcommand(s)")]⟩]

/-- The page on a topic. -/
def page : Topic → Page
  | .program => programPage
  | .verb v => verbPage v
  | .help => helpPage

/-- The page as it is printed. -/
def text (t : Topic) : String := String.join (t.page.lines.map (· ++ "\n"))

end Topic

end SecretKeeper.Cli
