/-
# Requests

The requests to the API server, each built from a resource and the name of an object, or
refused before it is sent.
-/
import SecretKeeper.Api.Error
import SecretKeeper.Api.Uri

namespace SecretKeeper.Api

/-- What a request does. -/
inductive Method where
  | get
  | post
  | put
  | patch
  | delete
deriving DecidableEq

/-- The method as it is sent. -/
def Method.text : Method → String
  | .get => "GET"
  | .post => "POST"
  | .put => "PUT"
  | .patch => "PATCH"
  | .delete => "DELETE"

/-- The form of a body. -/
inductive ContentType where
  | json
  | mergePatch
deriving DecidableEq

/-- The content type as it is sent. -/
def ContentType.text : ContentType → String
  | .json => "application/json"
  | .mergePatch => "application/merge-patch+json"

/-- A request to the API server. -/
structure Request where
  method : Method
  target : Target
  contentType : Option ContentType := none
  body : Option Json := none

/-- A kind of objects: the root of their paths, and their plural. -/
structure Resource where
  root : String
  plural : String
deriving DecidableEq

namespace Resource

/-- The claims. -/
def claims : Resource := ⟨"/apis/secrets.secret-claim.io/v1alpha1", "secretclaims"⟩

/-- The Secrets. -/
def secrets : Resource := ⟨"/api/v1", "secrets"⟩

/-- The path of all objects, in one namespace or in all of them. -/
def path (r : Resource) : (ns : Option String) → String
  | some ns => r.root ++ "/namespaces/" ++ ns ++ "/" ++ r.plural
  | none => r.root ++ "/" ++ r.plural

end Resource

namespace Request

/-- The most bytes that the name of a field manager may have. -/
def maxManagerBytes : Nat := 128

/-- The target, unless a URI cannot have it. -/
def targetOf (s : String) : Except RequestFault Target :=
  if Uri.maxBytes < s.utf8ByteSize then .error .tooLong
  else
    match Uri.target? s with
    | some t => .ok t
    | none => .error .badCharacter

/-- A name must not be empty. -/
def checkName (name : String) : Except RequestFault Unit :=
  if name.isEmpty then .error .emptyName else .ok ()

/-- The name of a field manager must not be too long. -/
def checkManager (manager : String) (fault : RequestFault) : Except RequestFault Unit :=
  if maxManagerBytes < manager.utf8ByteSize then .error fault else .ok ()

/-- The query that names the field manager. -/
def managerQuery (manager : String) : String := "fieldManager=" ++ Uri.formText manager

/-- Reads one object. -/
def get (r : Resource) (key : Key) : Except RequestFault Request := do
  checkName key.name
  let target ← targetOf (r.path key.ns ++ "/" ++ key.name)
  return { method := .get, target := target }

/-- Reads all objects, of one namespace or of all. -/
def list (r : Resource) (ns : Option String) : Except RequestFault Request := do
  let target ← targetOf (r.path ns ++ "?")
  return { method := .get, target := target }

/-- Creates an object. -/
def create (r : Resource) (ns manager : String) (body : Json) :
    Except RequestFault Request := do
  checkManager manager .longManagerOfPost
  let target ← targetOf (r.path ns ++ "?&" ++ managerQuery manager)
  return { method := .post, target := target, contentType := some .json, body := some body }

/-- Replaces an object. -/
def replace (r : Resource) (key : Key) (manager : String) (body : Json) :
    Except RequestFault Request := do
  checkName key.name
  let target ← targetOf (r.path key.ns ++ "/" ++ key.name ++ "?&" ++ managerQuery manager)
  return { method := .put, target := target, contentType := some .json, body := some body }

/-- Applies a merge patch to an object, or to one of its subresources. -/
def patch (r : Resource) (key : Key) (subresource : Option String) (manager : String)
    (body : Json) : Except RequestFault Request := do
  checkName key.name
  checkManager manager .longManagerOfPatch
  let object := r.path key.ns ++ "/" ++ key.name
  let place := match subresource with
    | some s => object ++ "/" ++ s
    | none => object
  let target ← targetOf (place ++ "?&" ++ managerQuery manager)
  return { method := .patch, target := target, contentType := some .mergePatch, body := some body }

/-- Deletes an object. -/
def delete (r : Resource) (key : Key) : Except RequestFault Request := do
  checkName key.name
  let target ← targetOf (r.path key.ns ++ "/" ++ key.name ++ "?")
  return { method := .delete, target := target, contentType := some .json, body := some (.obj []) }

end Request

end SecretKeeper.Api
