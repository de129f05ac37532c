/-
# Failed requests

What can go wrong between this program and the API server: the request cannot be built, it
does not get through, the server refuses it, or its answer cannot be read.  Each has a
message, and a chain of causes in which every message is followed by that of its own cause.
-/
import SecretKeeper.Json.Record
import SecretKeeper.Text.Quoted

namespace SecretKeeper.Api

/-- How the server says no. -/
structure Refusal where
  status : String
  message : String := ""
  reason : String := ""
  code : Nat
deriving DecidableEq

namespace Refusal

/-- Reads a refusal; its status and its code must be there. -/
def ofJson? (j : Json) : Option Refusal := do
  let m ← j.record? ["status", "message", "reason", "code"]
  return {
    status := ← m.required? "status" Json.str?
    message := ← m.orDefault? "message" Json.str? ""
    reason := ← m.orDefault? "reason" Json.str? ""
    code := ← m.required? "code" (Json.natOfBits? 16) }

/-- Message and reason. -/
def brief (r : Refusal) : String := r.message ++ ": " ++ r.reason

/-- All four fields, the texts quoted. -/
def full (r : Refusal) : String :=
  "ErrorResponse \x7b status: " ++ Text.Quoted.encode r.status ++ ", message: " ++
    Text.Quoted.encode r.message ++ ", reason: " ++ Text.Quoted.encode r.reason ++
    ", code: " ++ toString r.code ++ " \x7d"

end Refusal

/-- Why a request cannot be built. -/
inductive RequestFault where
  /-- The object has an empty name. -/
  | emptyName
  /-- The field manager of a created object is longer than 128 bytes. -/
  | longManagerOfPost
  /-- The field manager of a patch is longer than 128 bytes. -/
  | longManagerOfPatch
  /-- The target has a character that a URI cannot have. -/
  | badCharacter
  /-- The target is longer than a URI may be. -/
  | tooLong
deriving DecidableEq

namespace RequestFault

/-- The messages of the fault and of its cause. -/
def chain : RequestFault → List String
  | .emptyName => ["failed to validate request: A non-empty name is required"]
  | .longManagerOfPost =>
    ["failed to validate request: Failed to validate PostParams::field_manager!"]
  | .longManagerOfPatch =>
    ["failed to validate request: Failed to validate PatchParams::field_manager!"]
  | .badCharacter => ["failed to build request: invalid uri character", "invalid uri character"]
  | .tooLong => ["failed to build request: uri too long", "uri too long"]

end RequestFault

/-- A request that did not succeed. -/
inductive Failure where
  | refused (r : Refusal)
  /-- The request did not get through. -/
  | transport (text : String)
  | invalid (fault : RequestFault)
  /-- The answer is not what it should be, and this is what the parser complains of. -/
  | unreadable (complaint : String)
deriving DecidableEq

namespace Failure

/-- The messages of the failure and of its causes, outermost first. -/
def chain : Failure → List String
  | .refused r => ["ApiError: " ++ r.brief ++ " (" ++ r.full ++ ")", r.brief]
  | .transport text => ["ServiceError: " ++ text, text]
  | .invalid fault => ("Failed to build request: " ++ fault.chain.headD "") :: fault.chain
  | .unreadable complaint => ["Error deserializing response: " ++ complaint, complaint]

/-- What is written about the failure. -/
def message (f : Failure) : String := f.chain.headD ""

end Failure

end SecretKeeper.Api
