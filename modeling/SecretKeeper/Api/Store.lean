/-
# Stores behind the API server

Every store call is at most one request: `prepare` builds it, `interpret` reads its answer.
A write that the server refuses with code 409 names the object: it is there already, or it
was written in the meantime.  A call about an object without a key is refused at once.
-/
import SecretKeeper.Api.Request
import SecretKeeper.Api.Response
import SecretKeeper.Store

namespace SecretKeeper.Api.Store

/-- The key of an object, which must have one. -/
def keyOf (what : String) : Option Key → Except StoreError Key
  | some key => .ok key
  | none => .error (.unavailable (what ++ " has no name or namespace"))

/-- The request, or the fault as an error of the store. -/
def built (r : Except RequestFault Request) : Except StoreError Request :=
  r.mapError fun fault => .api (.invalid fault)

/-- The patch that replaces the status of a claim. -/
def statusPatch (s : Status) : Json := .obj [("status", s.toJson)]

/-- The request for a call. -/
def prepare (manager : String) : StoreCall → Except StoreError Request
  | .readClaim key => built (Request.get .claims key)
  | .readSecret key => built (Request.get .secrets key)
  | .writeStatus claim status => do
    let key ← keyOf "claim" claim.key?
    built (Request.patch .claims key (some "status") manager (statusPatch status))
  | .createSecret secret => do
    let key ← keyOf "secret" secret.key?
    built (Request.create .secrets key.ns manager secret.toJson)
  | .replaceSecret secret => do
    let key ← keyOf "secret" secret.key?
    built (Request.replace .secrets key manager secret.toJson)

/-- The error of a write to the object `what`. -/
def writeError (what : Key) (f : Failure) : StoreError :=
  match f with
  | .refused r =>
    if r.code = 409 then
      if r.reason = "AlreadyExists" then .alreadyExists what.text else .conflict what.text
    else .api f
  | _ => .api f

/-- The answer to a write, whose response must read as an object of its kind. -/
def writeAnswer {α : Type} (what : Key) (f : Json → Option α) (x : Exchange) :
    Except StoreError Unit :=
  match Response.value? f x with
  | .ok _ => .ok ()
  | .error e => .error (writeError what e)

/-- The answer to a call, from what came back for its request. -/
def interpret : (call : StoreCall) → Exchange → call.Answer
  | .readClaim _, x => (Response.optionalValue? Claim.ofJson? x).mapError .api
  | .readSecret _, x => (Response.optionalValue? Secret.ofJson? x).mapError .api
  | .writeStatus claim _, x => writeAnswer claim.metadata.place Claim.ofJson? x
  | .createSecret secret, x => writeAnswer secret.metadata.place Secret.ofJson? x
  | .replaceSecret secret, x => writeAnswer secret.metadata.place Secret.ofJson? x

end SecretKeeper.Api.Store
