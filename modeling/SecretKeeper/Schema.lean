/-
# Schemas

A schema says which JSON values have a form: texts, truth values, integers of 64 bits, lists,
maps, and records with named properties.  A nullable schema also has null.  A record may have
properties that its schema does not know; one that it knows stands at most once.

A schema is published as an object, and `Schema.accepts` is what that object means to a
server that checks values against it.
-/
import SecretKeeper.Json.Value

namespace SecretKeeper

namespace Schema

/-- What is said about a schema beside its form. -/
structure Notes where
  title : Option String := none
  description : Option String := none
  /-- The value of a property that is missing. -/
  default : Option Json := none
  nullable : Bool := false

namespace Notes

/-- A description and nothing else. -/
def about (description : String) : Notes := { description := some description }

/-- A property that has a value where it is missing. -/
def withDefault (description : String) (value : Json) : Notes :=
  { description := some description, default := some value }

/-- A property that may be null. -/
def orNull (description : String) : Notes :=
  { description := some description, nullable := true }

end Notes

end Schema

/-- The form of a JSON value. -/
inductive Schema where
  | text (notes : Schema.Notes)
  | flag (notes : Schema.Notes)
  /-- An integer of 64 bits, within a range. -/
  | integer (notes : Schema.Notes) (range : Option (Nat × Nat))
  | list (notes : Schema.Notes) (items : Schema)
  | dict (notes : Schema.Notes) (values : Schema)
  | record (notes : Schema.Notes) (properties : List (String × Schema))
      (required : List String)

namespace Schema

/-- What is said about the schema. -/
def notes : Schema → Notes
  | .text n => n
  | .flag n => n
  | .integer n _ => n
  | .list n _ => n
  | .dict n _ => n
  | .record n _ _ => n

/-! ## 1. Publishing -/

/-- A whole number written with a decimal place. -/
def bound (n : Nat) : Json := .num (.wholeReal n)

/-- The value that stands for a missing property. -/
def defaultMember (n : Notes) : Json.Members := Json.optional "default" id n.default

/-- The description, which comes after the default. -/
def openingMembers (n : Notes) : Json.Members :=
  defaultMember n ++ Json.optional "description" .str n.description

/-- Null is allowed; said only where it is. -/
def nullableMember (n : Notes) : Json.Members :=
  if n.nullable then [("nullable", .bool true)] else []

/-- The names of the properties that must be there; said only where there are some. -/
def requiredMember (names : List String) : Json.Members :=
  if names.isEmpty then [] else [("required", Json.strings names)]

/-- The greatest and the least integer; said only where there is a range. -/
def rangeMembers : Option (Nat × Nat) → Json.Members
  | none => []
  | some (least, most) => [("maximum", bound most), ("minimum", bound least)]

mutual

/-- The object that publishes the schema, its members in the order of their names. -/
def toJson : Schema → Json
  | .text n => .obj (openingMembers n ++ nullableMember n ++ [("type", .str "string")])
  | .flag n => .obj (openingMembers n ++ nullableMember n ++ [("type", .str "boolean")])
  | .integer n range =>
    .obj (openingMembers n ++ [("format", .str "int64")] ++ rangeMembers range ++
      nullableMember n ++ [("type", .str "integer")])
  | .list n items =>
    .obj (openingMembers n ++ [("items", toJson items)] ++ nullableMember n ++
      [("type", .str "array")])
  | .dict n values =>
    .obj ([("additionalProperties", toJson values)] ++ openingMembers n ++ nullableMember n ++
      [("type", .str "object")])
  | .record n properties required =>
    .obj (openingMembers n ++ nullableMember n ++
      [("properties", .obj (propertiesJson properties))] ++ requiredMember required ++
      Json.optional "title" .str n.title ++ [("type", .str "object")])

/-- The objects of the properties under their names. -/
def propertiesJson : List (String × Schema) → Json.Members
  | [] => []
  | (name, s) :: rest => (name, toJson s) :: propertiesJson rest

end

/-! ## 2. Checking -/

/-- The integer has at most 64 bits and is in the range. -/
def integerOk (range : Option (Nat × Nat)) (n : Int) : Bool :=
  decide (-Int.pow 2 63 ≤ n) && decide (n < Int.pow 2 63) &&
    match range with
    | none => true
    | some (least, most) => decide (least ≤ n) && decide (n ≤ most)

/-- None of the properties stands twice among the members. -/
def noneRepeated (properties : List (String × Schema)) (members : Json.Members) : Bool :=
  properties.all fun p => !members.repeats p.1

/-- The members have all the names. -/
def hasAll (members : Json.Members) (names : List String) : Bool :=
  names.all fun name => members.any (·.1 == name)

mutual

/-- The value has the form. -/
def accepts : Schema → Json → Bool
  | .text n, j =>
    match j with
    | .str _ => true
    | j => n.nullable && j.isNull
  | .flag n, j =>
    match j with
    | .bool _ => true
    | j => n.nullable && j.isNull
  | .integer n range, j =>
    match j with
    | .num (.int i) => integerOk range i
    | j => n.nullable && j.isNull
  | .list n items, j =>
    match j with
    | .arr js => js.all (accepts items)
    | j => n.nullable && j.isNull
  | .dict n values, j =>
    match j with
    | .obj members => members.all fun m => accepts values m.2
    | j => n.nullable && j.isNull
  | .record n properties required, j =>
    match j with
    | .obj members =>
      noneRepeated properties members && hasAll members required &&
        acceptsMembers properties members
    | j => n.nullable && j.isNull

/-- The members that the properties name have their forms. -/
def acceptsMembers : List (String × Schema) → Json.Members → Bool
  | [], _ => true
  | (name, s) :: rest, members =>
    (members.all fun m => m.1 != name || accepts s m.2) && acceptsMembers rest members

end

end Schema

end SecretKeeper
