/-
# Trace context

A client may leave the context of its trace on a claim, as a `traceparent` annotation.  It
is only ever shown: a cycle does the same with it and without it.

A context is a version, a trace id, a span id and flags, in hexadecimal, joined by hyphens.
-/
import SecretKeeper.Dict
import SecretKeeper.Text.Blank
import SecretKeeper.Text.Hex

namespace SecretKeeper.Trace

/-- The annotation that holds the context. -/
def annotationKey : String := "secret-claim.io/traceparent"

/-- The name of the context among the headers of a request. -/
def header : String := "traceparent"

/-- The context on an object with these annotations, without the blanks around it; none if
nothing is left. -/
def carrier? (annotations : Option (Dict String)) : Option String := do
  let dict ← annotations
  let value ← dict[annotationKey]?
  let trimmed := Text.trim value
  if trimmed.isEmpty then none else some trimmed

/-- The context under the name of a header, whose case does not matter. -/
def get? (carrier name : String) : Option String :=
  if Text.lowerAscii name == header then some carrier else none

/-- The names under which the context answers. -/
def keys : List String := [header]

/-- The parts of a text between its hyphens; an empty part at the end does not count. -/
def parts (s : String) : List (List Char) :=
  let all := s.toList.splitOn '-'
  if all.getLast? == some [] then all.dropLast else all

/-- A hexadecimal number of at most `bits` bits, with an optional plus sign in front. -/
def field? (bits : Nat) (cs : List Char) : Option Nat := do
  let n ← Text.Hex.number? (match cs with
    | '+' :: rest => rest
    | digits => digits)
  if n < Nat.pow 2 bits then some n else none

/-- The greatest version that has a meaning. -/
def maxVersion : Nat := 254

/-- The greatest flags of version zero. -/
def maxFlags : Nat := 2

/-- The trace id of a well-formed context.  The ids are in small letters and not zero; in
version zero nothing follows the flags. -/
def traceId? (carrier : String) : Option Nat :=
  match parts carrier with
  | version :: trace :: span :: flags :: more => do
    let v ← field? 8 version
    let t ← field? 128 trace
    let s ← field? 64 span
    let f ← field? 8 flags
    if v ≤ maxVersion ∧ (v = 0 → more = [] ∧ f ≤ maxFlags) ∧
        !(trace.any Char.isUpper) ∧ !(span.any Char.isUpper) ∧ t ≠ 0 ∧ s ≠ 0 then
      some t
    else none
  | _ => none

/-- A trace id is shown in 32 digits. -/
def idText (id : Nat) : String := String.ofList (Text.Hex.padded 32 id)

end SecretKeeper.Trace
