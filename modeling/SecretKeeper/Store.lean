/-
# Stores

The five calls through which the controller sees the world: it reads claims and writes their
status, and it reads and writes Secrets.  A call is answered with its value or an error.
-/
import SecretKeeper.Api.Error
import SecretKeeper.Object.Claim
import SecretKeeper.Object.Secret

namespace SecretKeeper

/-- Why a store call failed. -/
inductive StoreError where
  | api (failure : Api.Failure)
  | alreadyExists (what : String)
  /-- The object was written by somebody else in the meantime. -/
  | conflict (what : String)
  | unavailable (why : String)
deriving DecidableEq

/-- What is written about the error. -/
def StoreError.message : StoreError → String
  | .api failure => "kubernetes API error: " ++ failure.message
  | .alreadyExists what => "object already exists: " ++ what
  | .conflict what => "write conflict: " ++ what
  | .unavailable why => "store unavailable: " ++ why

/-- A call to the stores. -/
inductive StoreCall where
  | readClaim (key : Key)
  /-- Replaces the status of the claim. -/
  | writeStatus (claim : Claim) (status : Status)
  | readSecret (key : Key)
  | createSecret (secret : Secret)
  | replaceSecret (secret : Secret)
deriving DecidableEq

namespace StoreCall

/-- What a call yields if it succeeds; a read yields none where nothing is stored. -/
def Value : StoreCall → Type
  | .readClaim _ => Option Claim
  | .readSecret _ => Option Secret
  | .writeStatus _ _ => Unit
  | .createSecret _ => Unit
  | .replaceSecret _ => Unit

/-- What a call is answered with. -/
abbrev Answer (c : StoreCall) : Type := Except StoreError c.Value

/-- The place of the object that the call is about. -/
def place : StoreCall → Key
  | .readClaim key => key
  | .writeStatus claim _ => claim.metadata.place
  | .readSecret key => key
  | .createSecret secret => secret.metadata.place
  | .replaceSecret secret => secret.metadata.place

/-- The call writes a Secret. -/
def writesSecret : StoreCall → Bool
  | .createSecret _ => true
  | .replaceSecret _ => true
  | _ => false

end StoreCall

end SecretKeeper
