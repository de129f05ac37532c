/-
# The command line

What the words of a command line come to: a command with its namespace, a request for help,
or a misuse.  The words are taken from left to right, and the first one that is wrong, or
that asks for help, decides.

There are two levels, the program and its command, and each takes `-n` once; the value
given to the command wins.  A value that stands in a word of its own is held back until
something makes it final, so a second `-n` is only noticed then.
-/
import SecretKeeper.Cli.Commands

namespace SecretKeeper.Cli

/-! ## 1. Words -/

/-- The commands by name. -/
inductive Verb where
  | list
  | status
  | regenerate
  | delete
deriving DecidableEq

namespace Verb

/-- The name of the command. -/
def text : Verb → String
  | .list => "list"
  | .status => "status"
  | .regenerate => "regenerate"
  | .delete => "delete"

/-- Other names of the command. -/
def aliases : Verb → List String
  | .delete => ["del", "rm"]
  | _ => []

/-- All commands, in the order in which they are shown. -/
def all : List Verb := [.list, .status, .regenerate, .delete]

/-- The command that a word names. -/
def ofWord? (word : String) : Option Verb :=
  all.find? fun v => v.text == word || v.aliases.contains word

/-- The command is about one claim. -/
def takesName (v : Verb) : Bool := v != .list

/-- The command can be told not to ask. -/
def takesForce (v : Verb) : Bool := v == .delete

end Verb

/-- What help is about. -/
inductive Topic where
  | program
  | verb (v : Verb)
  /-- The help on help. -/
  | help
deriving DecidableEq

/-- What a command line comes to. -/
inductive Request where
  | run (ns : Option String) (command : Command)
  | help (topic : Topic)
  | misuse
deriving DecidableEq

/-- A word by its form. -/
inductive Word where
  /-- Two hyphens: all that follows is plain. -/
  | escape
  /-- A long option, with the value after its equals sign. -/
  | long (name : List Char) (value : Option (List Char))
  /-- Short options in one word. -/
  | short (letters : List Char)
  /-- All else, a single hyphen among it. -/
  | plain (text : String)
deriving DecidableEq

/-- The form of a word. -/
def Word.ofText (s : String) : Word :=
  match s.toList with
  | ['-', '-'] => .escape
  | '-' :: '-' :: rest =>
    .long (rest.takeWhile (· != '=')) ((rest.dropWhile (· != '=')).tail?)
  | '-' :: letter :: letters => .short (letter :: letters)
  | _ => .plain s

/-! ## 2. What one level was given -/

/-- Why the reading of a level ends early. -/
inductive Stop where
  | help
  | misuse
deriving DecidableEq

/-- The last option that takes a value. -/
inductive Pending where
  | nothing
  /-- The next plain word is its value. -/
  | awaiting
  /-- It has its value, which is not final yet. -/
  | holding (value : String)
deriving DecidableEq

/-- What one level was given so far. -/
structure Given where
  ns : Option String := none
  pending : Pending := .nothing
  force : Bool := false
  name : Option String := none
  /-- Two hyphens were met. -/
  escaped : Bool := false
deriving DecidableEq

namespace Given

/-- The final namespace is set, which happens once. -/
def setNs (value : String) (g : Given) : Except Stop Given :=
  if g.ns.isSome then .error .misuse else .ok { g with ns := some value }

/-- Makes the pending option final. -/
def settle (g : Given) : Except Stop Given :=
  match g.pending with
  | .nothing => .ok g
  | .awaiting => .error .misuse
  | .holding value => { g with pending := .nothing }.setNs value

/-- The flag that skips the question is set, which happens once. -/
def setForce (g : Given) : Except Stop Given := do
  let g ← g.settle
  if g.force then .error .misuse else .ok { g with force := true }

/-- Help is asked for. -/
def askHelp (g : Given) : Except Stop Given := do
  let _ ← g.settle
  .error .help

/-- The namespace, with its value if that is in the same word. -/
def takeNs (value : Option String) (g : Given) : Except Stop Given := do
  let g ← g.settle
  match value with
  | some v => g.setNs v
  | none => .ok { g with pending := .awaiting }

/-- A long option. -/
def takeLong (force : Bool) (name : String) (value : Option String) (g : Given) :
    Except Stop Given :=
  match name, value with
  | "namespace", _ => g.takeNs value
  | "help", none => g.askHelp
  | "force", none => if force then g.setForce else .error .misuse
  | _, _ => .error .misuse

/-- The value that follows the letter of an option in the same word, after an equals sign or
at once. -/
def attached : List Char → Option String
  | [] => none
  | '=' :: value => some (String.ofList value)
  | value => some (String.ofList value)

/-- Short options in one word; the rest of the word after `n` is its value. -/
def takeShort (force : Bool) : (letters : List Char) → Given → Except Stop Given
  | [], g => .ok g
  | 'n' :: rest, g => g.takeNs (attached rest)
  | 'h' :: _, g => g.askHelp
  | 'f' :: rest, g =>
    if force then g.setForce >>= takeShort force rest else .error .misuse
  | _, _ => .error .misuse

/-- The name of the claim is set, which happens once and only where one is expected. -/
def setName (v : Verb) (text : String) (g : Given) : Except Stop Given := do
  let g ← g.settle
  if v.takesName && g.name.isNone then .ok { g with name := some text } else .error .misuse

/-- One more word of the command `v`. -/
def take (v : Verb) (word : String) (g : Given) : Except Stop Given :=
  if g.escaped then g.setName v word
  else
    match Word.ofText word with
    | .escape => .ok { g with escaped := true }
    | .long name value =>
      g.takeLong v.takesForce (String.ofList name) (value.map String.ofList)
    | .short letters => takeShort v.takesForce letters g
    | .plain text =>
      if g.pending == .awaiting then .ok { g with pending := .holding text }
      else g.setName v text

/-- The command that was given; one about a claim needs its name. -/
def command? (v : Verb) (g : Given) : Option Command :=
  match v, g.name with
  | .list, _ => some .list
  | .status, some name => some (.status name)
  | .regenerate, some name => some (.regenerate name)
  | .delete, some name => some (.delete name g.force)
  | _, none => none

end Given

/-! ## 3. Reading -/

/-- All words of the command `v`. -/
def readCommand (v : Verb) (words : List String) : Except Stop Given := do
  let g ← words.foldlM (fun (g : Given) word => g.take v word) {}
  g.settle

/-- The topic of a request for help by the word `help`. -/
def readTopic : (words : List String) → Request
  | [] => .help .program
  | ["help"] => .help .help
  | [word] =>
    match Verb.ofWord? word with
    | some v => .help (.verb v)
    | none => .misuse
  | _ => .misuse

/-- The words of the command `v`, after `g` was given to the program. -/
def finish (g : Given) (v : Verb) (words : List String) : Request :=
  match readCommand v words with
  | .error .help => .help (.verb v)
  | .error .misuse => .misuse
  | .ok inner =>
    match g.settle, inner.command? v with
    | .ok outer, some command => .run (inner.ns <|> outer.ns) command
    | _, _ => .misuse

/-- The words of the program, after `g` was given to it. -/
def readFrom : (words : List String) → Given → Request
  | [], _ => .misuse
  | word :: rest, g =>
    match Word.ofText word with
    | .escape => .misuse
    | .long name value =>
      match g.takeLong false (String.ofList name) (value.map String.ofList) with
      | .ok g => readFrom rest g
      | .error .help => .help .program
      | .error .misuse => .misuse
    | .short letters =>
      match Given.takeShort false letters g with
      | .ok g => readFrom rest g
      | .error .help => .help .program
      | .error .misuse => .misuse
    | .plain text =>
      if g.pending == .awaiting then readFrom rest { g with pending := .holding text }
      else if text == "help" then readTopic rest
      else
        match Verb.ofWord? text with
        | some v => finish g v rest
        | none => .misuse

/-- What the words of a command line come to. -/
def Request.ofWords (words : List String) : Request := readFrom words {}

end SecretKeeper.Cli
