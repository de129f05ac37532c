/-
# Secrets

The object that a claim asks for.  Its data are bytes under text keys, written in base64.
-/
import SecretKeeper.Object.Metadata
import SecretKeeper.Text.Base64

namespace SecretKeeper

/-- A Secret. -/
structure Secret where
  metadata : Metadata := {}
  data : Option (Dict Bytes) := none
  type : Option String := none
  immutable : Option Bool := none
  stringData : Option (Dict String) := none
deriving DecidableEq

namespace Secret

/-- The version of the Secret resource. -/
def apiVersion : String := "v1"

/-- The kind of the Secret resource. -/
def kind : String := "Secret"

/-- The key of the Secret; none unless it has both a namespace and a name. -/
def key? (s : Secret) : Option Key := s.metadata.key?

/-- The data, none read as empty. -/
def contents (s : Secret) : Dict Bytes := s.data.getD ∅

/-- A Secret is written with its version, kind and metadata; absent fields are left out. -/
def toJson (s : Secret) : Json :=
  .obj ([("apiVersion", .str apiVersion)] ++
    Json.optional "data" (Json.ofDict fun bs => Json.str (Text.Base64.encode bs)) s.data ++
    Json.optional "immutable" Json.bool s.immutable ++
    [("kind", .str kind), ("metadata", s.metadata.toJson)] ++
    Json.optional "stringData" (Json.ofDict Json.str) s.stringData ++
    Json.optional "type" Json.str s.type)

/-- Reads the bytes of an entry, of which null has none. -/
def entry? (j : Json) : Option Bytes := do
  let text ← Json.nullable? Json.str? j
  Text.Base64.decode? (text.getD "")

/-- Reads a Secret from an open object.  A version or kind that is given must be the
Secret's own. -/
def ofJson? (j : Json) : Option Secret := do
  let .obj m := j | none
  Json.Members.hasText? m "apiVersion" apiVersion
  Json.Members.hasText? m "kind" kind
  return {
    metadata := (← Json.Members.latest? m "metadata" Metadata.ofJson?).getD {}
    data := ← Json.Members.latest? m "data" (Json.dict? entry?)
    type := ← Json.Members.latest? m "type" Json.str?
    immutable := ← Json.Members.latest? m "immutable" Json.bool?
    stringData := ← Json.Members.latest? m "stringData" (Json.dict? Json.str?) }

end Secret

end SecretKeeper
