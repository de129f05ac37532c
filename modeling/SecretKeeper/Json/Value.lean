/-
# JSON values

The values that claims, Secrets and requests are exchanged in.

The members of an object are a list, in which a name may stand more than once: what that
means depends on who reads the object.  `settle?` gives the value that a text stands for by
itself: names are in order, and of several members of one name the last counts.

A text may also have the form of a value and still stand for none, as a number beyond all
doubles does, a string with half a pair of surrogates, or a list inside too many others.
Such a part is `broken`: it matters only to readers that look at it.
-/
import SecretKeeper.Dict
import SecretKeeper.Number

namespace SecretKeeper

/-- A JSON value. -/
inductive Json where
  | null
  | bool (b : Bool)
  | num (n : Number)
  | str (s : String)
  | arr (items : List Json)
  | obj (members : List (String × Json))
  /-- What has the form of a value but stands for none. -/
  | broken

namespace Json

/-! ## Equality -/

mutual

/-- The values are the same. -/
def same : Json → Json → Bool
  | .null, .null => true
  | .bool a, .bool b => a == b
  | .num a, .num b => a == b
  | .str a, .str b => a == b
  | .arr a, .arr b => sameItems a b
  | .obj a, .obj b => sameMembers a b
  | .broken, .broken => true
  | _, _ => false

/-- The items of two lists are the same, one by one. -/
def sameItems : List Json → List Json → Bool
  | [], [] => true
  | a :: as, b :: bs => same a b && sameItems as bs
  | _, _ => false

/-- The members of two objects are the same, one by one. -/
def sameMembers : List (String × Json) → List (String × Json) → Bool
  | [], [] => true
  | (n, a) :: as, (m, b) :: bs => n == m && same a b && sameMembers as bs
  | _, _ => false

end

mutual

theorem same_iff : (a b : Json) → (same a b = true ↔ a = b)
  | .null, b | .bool _, b | .num _, b | .str _, b | .broken, b => by cases b <;> simp [same]
  | .arr as, b => by cases b <;> simp [same, sameItems_iff as]
  | .obj as, b => by cases b <;> simp [same, sameMembers_iff as]

theorem sameItems_iff : (as bs : List Json) → (sameItems as bs = true ↔ as = bs)
  | [], bs => by cases bs <;> simp [sameItems]
  | a :: as, bs => by cases bs <;> simp [sameItems, same_iff a, sameItems_iff as]

theorem sameMembers_iff :
    (as bs : List (String × Json)) → (sameMembers as bs = true ↔ as = bs)
  | [], bs => by cases bs <;> simp [sameMembers]
  | (n, a) :: as, bs => by
    rcases bs with _ | ⟨⟨m, b⟩, bs⟩ <;> simp [sameMembers, same_iff a, sameMembers_iff as]

end

instance : DecidableEq Json := fun a b => decidable_of_iff _ (same_iff a b)

/-! ## Parts -/

/-- The members of an object. -/
abbrev Members := List (String × Json)

/-- An integer. -/
def int (n : Int) : Json := .num (.int n)

/-- A natural number. -/
def nat (n : Nat) : Json := .num (.int n)

/-- A list of texts. -/
def strings (xs : List String) : Json := .arr (xs.map .str)

/-- The value, or null where there is none. -/
def orNull {α : Type} (f : α → Json) : Option α → Json
  | some a => f a
  | none => .null

/-- An object with a member for every entry, in the order of the keys. -/
def ofDict {α : Type} (f : α → Json) (d : Dict α) : Json :=
  .obj (d.toList.map fun (k, v) => (k, f v))

/-- A single member, left out where there is no value. -/
def optional {α : Type} (name : String) (f : α → Json) : Option α → Members
  | some a => [(name, f a)]
  | none => []

/-- The members of an object; none for any other value. -/
def members : Json → Members
  | .obj m => m
  | _ => []

/-- The first member of that name, if the value is an object that has one. -/
def member? (name : String) : Json → Option Json
  | .obj members => members.lookup name
  | _ => none

/-- The first member of that name, or null. -/
def member (name : String) (j : Json) : Json := (j.member? name).getD .null

/-- The value is null. -/
def isNull : Json → Bool
  | .null => true
  | _ => false

/-- The name stands more than once among the members. -/
def Members.repeats (m : Members) (name : String) : Bool := 1 < m.countP (·.1 == name)

/-! ## Settling -/

mutual

/-- The value with one member for every name, the last of those there are, and the names in
order; none if a part of it is broken. -/
def settle? : Json → Option Json
  | .null => some .null
  | .bool b => some (.bool b)
  | .num n => some (.num n)
  | .str s => some (.str s)
  | .arr items => (settleItems? items).map .arr
  | .obj members => do
    let settled ← settleMembers? members
    return ofDict id (Std.ExtTreeMap.ofList settled)
  | .broken => none

/-- The settled items of a list. -/
def settleItems? : List Json → Option (List Json)
  | [] => some []
  | j :: rest => do
    let j ← settle? j
    return j :: (← settleItems? rest)

/-- The settled members of an object, none of them left out. -/
def settleMembers? : List (String × Json) → Option (List (String × Json))
  | [] => some []
  | (name, j) :: rest => do
    let j ← settle? j
    return (name, j) :: (← settleMembers? rest)

end

end Json

end SecretKeeper
