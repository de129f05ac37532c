/-
# YAML

Writes JSON values as YAML in block style.  The items of a list stand directly under their
key, everything else two columns further in.  A text of several lines is written as a
literal; one that would not read back as the same text is put between single quotes.
-/
import SecretKeeper.Json.Writer

namespace SecretKeeper.Yaml

/-! ## 1. Texts -/

/-- The characters that mean something at the start of a scalar. -/
def indicators : List Char :=
  ['-', '?', ':', ',', '[', ']', '\x7b', '\x7d', '#', '&', '*', '!', '|', '>', '\'', '"',
    '%', '@', Char.ofNat 0x60]

/-- The words that are read as truth values or as null. -/
def reserved : List String :=
  ["~", "null", "Null", "NULL", "true", "True", "TRUE", "false", "False", "FALSE"]

/-- The text could be read as a number. -/
def looksNumeric (s : String) : Bool :=
  match s.toList with
  | c :: cs => c.isDigit || ((c == '+' || c == '.') && cs.any Char.isDigit)
  | [] => false

/-- Two neighbours that end a plain scalar. -/
def breaksPlain : List Char → Bool
  | ':' :: ' ' :: _ => true
  | [':'] => true
  | ' ' :: '#' :: _ => true
  | [' '] => true
  | _ :: rest => breaksPlain rest
  | [] => false

/-- The text reads back as itself without quotes. -/
def isPlain (s : String) : Bool :=
  match s.toList with
  | [] => false
  | c :: cs =>
    c != ' ' && !indicators.contains c && !breaksPlain (c :: cs) && !reserved.contains s &&
      !looksNumeric s

/-- A text of one line; a quote between quotes is written twice. -/
def scalar (s : String) : String :=
  if isPlain s then s
  else
    let inner := s.toList.flatMap fun c => if c == '\'' then ['\'', '\''] else [c]
    String.ofList (['\''] ++ inner ++ ['\''])

/-! ## 2. Values -/

/-- A value in lines that are not yet placed. -/
inductive Block where
  /-- Stands in the line of its key. -/
  | inLine (text : String)
  /-- The lines of a text. -/
  | literal (lines : List String)
  | members (lines : List String)
  | items (lines : List String)

/-- Two columns further in; empty lines stay empty. -/
def indent (lines : List String) : List String :=
  lines.map fun line => if line.isEmpty then line else "  " ++ line

/-- The value of a key. -/
def Block.under (key : String) : Block → List String
  | .inLine text => [scalar key ++ ": " ++ text]
  | .literal lines => (scalar key ++ ": |-") :: indent lines
  | .members lines => (scalar key ++ ":") :: indent lines
  | .items lines => (scalar key ++ ":") :: lines

/-- The first line after a hyphen, the others in the same column. -/
def hang : List String → List String
  | [] => []
  | first :: rest => ("- " ++ first) :: indent rest

/-- The value as an item of a list. -/
def Block.item : Block → List String
  | .inLine text => ["- " ++ text]
  | .literal lines => "- |-" :: indent lines
  | .members lines => hang lines
  | .items lines => hang lines

/-- The lines of a value that stands alone. -/
def Block.alone : Block → List String
  | .inLine text => [text]
  | .literal lines => "|-" :: indent lines
  | .members lines => lines
  | .items lines => lines

mutual

/-- The lines of a value. -/
def block : Json → Block
  | .null => .inLine "null"
  | .broken => .inLine "null"
  | .bool b => .inLine (if b then "true" else "false")
  | .num n => .inLine n.text
  | .str s =>
    if s.contains '\n' then .literal (s.splitOn "\n") else .inLine (scalar s)
  | .arr [] => .inLine "[]"
  | .arr (j :: rest) => .items ((block j).item ++ itemLines rest)
  | .obj [] => .inLine "\x7b\x7d"
  | .obj ((key, j) :: rest) => .members ((block j).under key ++ memberLines rest)

/-- The lines of the items of a list. -/
def itemLines : List Json → List String
  | [] => []
  | j :: rest => (block j).item ++ itemLines rest

/-- The lines of the members of an object. -/
def memberLines : List (String × Json) → List String
  | [] => []
  | (key, j) :: rest => (block j).under key ++ memberLines rest

end

/-- The text of a value. -/
def render (j : Json) : String := String.join ((block j).alone.map (· ++ "\n"))

end SecretKeeper.Yaml
