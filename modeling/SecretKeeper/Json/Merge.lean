/-
# Merge patches

Applying a merge patch to a value, as in RFC 7386: a patch that is an object changes the
members it names, one by one, and removes those it names with null; any other patch
replaces the value.
-/
import SecretKeeper.Json.Value

namespace SecretKeeper.Json

/-- The members without `name`. -/
def Members.remove (name : String) (m : Members) : Members := m.filter (·.1 != name)

/-- The members with `name` set: in the place where it first stands, or else at the end, and
nowhere else. -/
def Members.set (name : String) (j : Json) : Members → Members
  | [] => [(name, j)]
  | (n, old) :: rest =>
    if n == name then (name, j) :: remove name rest else (n, old) :: set name j rest

mutual

/-- The value after the patch. -/
def merge (target : Json) : (patch : Json) → Json
  | .obj changes => .obj (mergeMembers target.members changes)
  | .null => .null
  | .bool b => .bool b
  | .num n => .num n
  | .str s => .str s
  | .arr items => .arr items
  | .broken => .broken

/-- The members after the changes, taken in order. -/
def mergeMembers (target : Members) : (changes : List (String × Json)) → Members
  | [] => target
  | (name, .null) :: rest => mergeMembers (target.remove name) rest
  | (name, patch) :: rest =>
    mergeMembers (target.set name (merge ((target.lookup name).getD .null) patch)) rest

end

end SecretKeeper.Json
