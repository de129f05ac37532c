/-
# Reading typed values

Readers from JSON to the types of this library.  A reader either gives a value or refuses,
and what it does not look at may even be broken.

A *record* is read from an object in which none of its fields stands twice, and whose
unknown members do not matter, or from a list of its fields in order.  A field is
*required*, *optional* (null and missing both mean none), or has a *default* for when it is
missing; null is no value of a field with a default.

In an *open* object fields may be repeated: every one of them must read, and the last
counts.  The same holds for the names of a map.
-/
import SecretKeeper.Json.Value

namespace SecretKeeper.Json

/-! ## 1. Plain values -/

/-- A text. -/
def str? : Json → Option String
  | .str s => some s
  | _ => none

/-- A truth value. -/
def bool? : Json → Option Bool
  | .bool b => some b
  | _ => none

/-- An integer, written without fraction and exponent. -/
def int? : Json → Option Int
  | .num (.int n) => some n
  | _ => none

/-- An integer of 64 bits. -/
def int64? (j : Json) : Option Int64 := do
  let n ← j.int?
  if -Int.pow 2 63 ≤ n ∧ n < Int.pow 2 63 then some (Int64.ofInt n) else none

/-- A natural number of at most `bits` bits. -/
def natOfBits? (bits : Nat) (j : Json) : Option Nat := do
  let n ← j.int?
  if 0 ≤ n ∧ n < Int.pow 2 bits then some n.toNat else none

/-- A number that is not necessarily an integer, as a double. -/
def float? : Json → Option Float
  | .num n => some n.toFloat
  | _ => none

/-- A list whose items are read by `f`. -/
def list? {α : Type} (f : Json → Option α) : Json → Option (List α)
  | .arr items => items.mapM f
  | _ => none

/-- A map whose values are read by `f`; of several values of one name the last counts. -/
def dict? {α : Type} (f : Json → Option α) : Json → Option (Dict α)
  | .obj members => do
    let entries ← members.mapM fun (name, j) => (f j).map (name, ·)
    return Std.ExtTreeMap.ofList entries
  | _ => none

/-- The value, or none for null. -/
def nullable? {α : Type} (f : Json → Option α) : Json → Option (Option α)
  | .null => some none
  | j => (f j).map some

/-! ## 2. Records -/

/-- The members of a record with the fields `names`: those of an object, or the items of a
list under the names in order, the last of which may be missing. -/
def record? (names : List String) : Json → Option Members
  | .obj members => if names.any (Members.repeats members) then none else some members
  | .arr items => if items.length ≤ names.length then some (names.zip items) else none
  | _ => none

/-- The same where a list must have an item for every field. -/
def fullRecord? (names : List String) : Json → Option Members
  | .arr items => if items.length = names.length then some (names.zip items) else none
  | j => j.record? names

namespace Members

/-- A field that must be there. -/
def required? {α : Type} (m : Members) (name : String) (f : Json → Option α) : Option α := do
  let j ← m.lookup name
  f j

/-- A field that may be missing, with the value it then has. -/
def orDefault? {α : Type} (m : Members) (name : String) (f : Json → Option α) (d : α) :
    Option α :=
  match m.lookup name with
  | some j => f j
  | none => some d

/-- A field that may be missing or null. -/
def optional? {α : Type} (m : Members) (name : String) (f : Json → Option α) :
    Option (Option α) :=
  match m.lookup name with
  | some j => nullable? f j
  | none => some none

/-! ## 3. Open objects -/

/-- A field that may be missing, null, or repeated; the last one counts. -/
def latest? {α : Type} (m : Members) (name : String) (f : Json → Option α) :
    Option (Option α) := do
  let values ← (m.filter (·.1 == name)).mapM fun (_, j) => nullable? f j
  return values.getLast?.join

/-- The members of that name, if there are any, are all this text. -/
def hasText? (m : Members) (name text : String) : Option Unit :=
  if m.all fun (n, j) => n != name || j.str? == some text then some () else none

end Members

end SecretKeeper.Json
