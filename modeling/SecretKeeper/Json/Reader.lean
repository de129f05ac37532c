/-
# Reading JSON

A text is read one character at a time.  `State` holds the containers that are still open,
innermost first, and what may come next; `State.step` takes one character, and the text is
a value if the state after its last character says so.  Since every step takes a character,
reading ends on every text.

The grammar is that of RFC 8259, and `Json.parse?` asks for no more than it: numbers and
strings that stand for nothing are broken, as are containers that stand in too many others,
and members of one name are all kept.  `Json.read?` gives the settled value.
-/
import SecretKeeper.Json.Numeral
import SecretKeeper.Json.Value
import SecretKeeper.Text.Hex
import SecretKeeper.Text.Units

namespace SecretKeeper

namespace Json.Reader

/-! ## 1. States -/

/-- A member of an object; its name is none where the string is no text. -/
abbrev Entry := Option String × Json

/-- An open container: the items or members read so far, last first, and the name of the
member that is being read. -/
inductive Frame where
  | items (done : List Json)
  | members (done : List Entry) (name : Option String)

/-- A string being read: whether it is the name of a member, and its characters and the
units of its `\u` escapes so far, last first. -/
structure Pending where
  isName : Bool
  done : List Nat

/-- What may come next. -/
inductive Mode where
  /-- A value. -/
  | value
  /-- A value, or the end of the list just opened. -/
  | firstItem
  /-- A name, or the end of the object just opened. -/
  | firstName
  /-- A name. -/
  | name
  /-- The colon after a name. -/
  | colon
  /-- A comma or the end of the innermost container. -/
  | after
  /-- Only blanks: the value is complete. -/
  | finished (j : Json)
  /-- The next character of a string. -/
  | text (s : Pending)
  /-- The character after a backslash. -/
  | escape (s : Pending)
  /-- Hexadecimal digits after `\u`: how many were read so far, and their value. -/
  | code (s : Pending) (count value : Nat)
  /-- A number, its characters so far last first. -/
  | number (done : List Char)
  /-- A literal word, its characters so far last first. -/
  | word (done : List Char)

/-- The open containers, innermost first, and what may come next. -/
structure State where
  stack : List Frame
  mode : Mode

/-! ## 2. Completing values -/

/-- A value is complete: it joins the innermost container, or is the whole text. -/
def State.put (stack : List Frame) (j : Json) : State :=
  match stack with
  | [] => ⟨[], .finished j⟩
  | .items done :: rest => ⟨.items (j :: done) :: rest, .after⟩
  | .members done name :: rest => ⟨.members ((name, j) :: done) name :: rest, .after⟩

/-- The most containers that may stand in each other. -/
def depthLimit : Nat := 127

/-- A container is complete: it is broken if it stands in too many others. -/
def State.putContainer (stack : List Frame) (j : Json) : State :=
  .put stack (if (stack.drop (depthLimit - 1)).isEmpty then j else .broken)

/-- The innermost container is a list and ends. -/
def State.closeItems? : List Frame → Option State
  | .items done :: rest => some (.putContainer rest (.arr done.reverse))
  | _ => none

/-- The object of some members, given last first; it is broken if one of them has no
name. -/
def object (reversed : List Entry) : Json :=
  match reversed.reverse.mapM fun (name, j) => name.map (·, j) with
  | some members => .obj members
  | none => .broken

/-- The innermost container is an object and ends. -/
def State.closeMembers? : List Frame → Option State
  | .members done _ :: rest => some (.putContainer rest (object done))
  | _ => none

/-- A string is complete: it is a value, or the name of the next member. -/
def State.putText (stack : List Frame) (s : Pending) : State :=
  let t := Text.Units.text? s.done
  if s.isName then
    match stack with
    | .members done _ :: rest => ⟨.members done t :: rest, .colon⟩
    | _ => ⟨stack, .after⟩
  else .put stack ((t.map Json.str).getD .broken)

/-- The value of a numeral. -/
def ofNumeral (x : Numeral) : Json := (x.value?.map Json.num).getD .broken

/-- The value of a literal word. -/
def word? (reversed : List Char) : Option Json :=
  match String.ofList reversed.reverse with
  | "null" => some .null
  | "true" => some (.bool true)
  | "false" => some (.bool false)
  | _ => none

/-- A number or a word is complete. -/
def State.complete? (s : State) : Option State :=
  match s.mode with
  | .number done => (Numeral.ofChars? done.reverse).map fun x => .put s.stack (ofNumeral x)
  | .word done => (word? done).map (.put s.stack)
  | _ => some s

/-! ## 3. One character -/

/-- Space, tab, line feed or carriage return. -/
def isSpace (c : Char) : Bool := c == ' ' || c == '\n' || c == '\t' || c == '\r'

/-- The character may stand in a number. -/
def isNumberChar (c : Char) : Bool :=
  c.isDigit || c == '-' || c == '+' || c == '.' || c == 'e' || c == 'E'

/-- A value starts with the character. -/
def State.open? (stack : List Frame) (c : Char) : Option State :=
  if c == '[' then some ⟨.items [] :: stack, .firstItem⟩
  else if c == '\x7b' then some ⟨.members [] none :: stack, .firstName⟩
  else if c == '"' then some ⟨stack, .text ⟨false, []⟩⟩
  else if c == '-' || c.isDigit then some ⟨stack, .number [c]⟩
  else if c.isLower then some ⟨stack, .word [c]⟩
  else none

/-- The character that a one-letter escape stands for. -/
def simpleEscape? (c : Char) : Option Nat :=
  if c == '"' || c == '\\' || c == '/' then some c.toNat
  else if c == 'b' then some 8
  else if c == 'f' then some 12
  else if c == 'n' then some 10
  else if c == 'r' then some 13
  else if c == 't' then some 9
  else none

/-- The string with one more character or unit. -/
def Pending.push (n : Nat) (s : Pending) : Pending := { s with done := n :: s.done }

/-- What a character does outside strings, numbers and words. -/
def State.between? (s : State) (c : Char) : Option State :=
  if isSpace c then some s
  else
    match s.mode with
    | .value => State.open? s.stack c
    | .firstItem => if c == ']' then State.closeItems? s.stack else State.open? s.stack c
    | .firstName =>
      if c == '\x7d' then State.closeMembers? s.stack
      else if c == '"' then some ⟨s.stack, .text ⟨true, []⟩⟩
      else none
    | .name => if c == '"' then some ⟨s.stack, .text ⟨true, []⟩⟩ else none
    | .colon => if c == ':' then some ⟨s.stack, .value⟩ else none
    | .after =>
      match s.stack with
      | .items _ :: _ =>
        if c == ',' then some ⟨s.stack, .value⟩
        else if c == ']' then State.closeItems? s.stack
        else none
      | .members _ _ :: _ =>
        if c == ',' then some ⟨s.stack, .name⟩
        else if c == '\x7d' then State.closeMembers? s.stack
        else none
      | [] => none
    | _ => none

/-- The state after one more character, if the text may go on so. -/
def State.step (s : State) (c : Char) : Option State :=
  match s.mode with
  | .text t =>
    if c == '"' then some (.putText s.stack t)
    else if c == '\\' then some ⟨s.stack, .escape t⟩
    else if c.toNat < 0x20 then none
    else some ⟨s.stack, .text (t.push c.toNat)⟩
  | .escape t =>
    if c == 'u' then some ⟨s.stack, .code t 0 0⟩
    else (simpleEscape? c).map fun n => ⟨s.stack, .text (t.push n)⟩
  | .code t count value => do
    let d ← Text.Hex.value? c
    let value := value * 16 + d
    if count + 1 < 4 then return ⟨s.stack, .code t (count + 1) value⟩
    else return ⟨s.stack, .text (t.push value)⟩
  | .number done =>
    if isNumberChar c then some ⟨s.stack, .number (c :: done)⟩
    else s.complete?.bind (·.between? c)
  | .word done =>
    if c.isLower then some ⟨s.stack, .word (c :: done)⟩
    else s.complete?.bind (·.between? c)
  | _ => s.between? c

/-! ## 4. Whole texts -/

/-- The value read, if the text may end here. -/
def State.result? (s : State) : Option Json := do
  let s ← s.complete?
  match s.mode with
  | .finished j => some j
  | _ => none

end Json.Reader

open Json.Reader in
/-- The value whose form a text has. -/
def Json.parse? (text : String) : Option Json := do
  let s ← text.toList.foldlM State.step ⟨[], .value⟩
  s.result?

/-- The settled value that a text stands for. -/
def Json.read? (text : String) : Option Json := do
  let j ← Json.parse? text
  j.settle?

end SecretKeeper
