/-
# Responses

What comes back for a request: nothing, because it did not get through, or a status and a
body.  A status from 400 to 599 is a refusal; the body then says why, and where it does not,
a refusal is made up from the status and the body as it is.  All other bodies are the value
asked for.

Of a body that is not, the parser says what it misses and where it stood.  These words are the
parser's own, so they come with the response, whatever they are; what is read never depends on
them.
-/
import SecretKeeper.Api.Error
import SecretKeeper.Json.Reader
import SecretKeeper.Object.Claim
import SecretKeeper.Text.Quoted

namespace SecretKeeper.Api

/-- What comes back for a request. -/
inductive Exchange where
  /-- The request did not get through. -/
  | failed (text : String)
  /-- A status and a body, and what the parser says of the body if it cannot read it. -/
  | answered (status : Nat) (body complaint : String)
deriving DecidableEq

/-- What the parser says of a body that it cannot read. -/
def Exchange.complaint : Exchange → String
  | .failed _ => ""
  | .answered _ _ complaint => complaint

namespace Response

/-! ## 1. Refusals -/

/-- The phrases of the known statuses. -/
def phrases : List (Nat × String) :=
  [(100, "Continue"), (101, "Switching Protocols"), (102, "Processing"),
    (103, "Early Hints"), (200, "OK"), (201, "Created"),
    (202, "Accepted"), (203, "Non Authoritative Information"), (204, "No Content"),
    (205, "Reset Content"), (206, "Partial Content"), (207, "Multi-Status"),
    (208, "Already Reported"), (226, "IM Used"), (300, "Multiple Choices"),
    (301, "Moved Permanently"), (302, "Found"), (303, "See Other"), (304, "Not Modified"),
    (305, "Use Proxy"), (307, "Temporary Redirect"), (308, "Permanent Redirect"),
    (400, "Bad Request"), (401, "Unauthorized"), (402, "Payment Required"),
    (403, "Forbidden"), (404, "Not Found"), (405, "Method Not Allowed"),
    (406, "Not Acceptable"), (407, "Proxy Authentication Required"),
    (408, "Request Timeout"), (409, "Conflict"), (410, "Gone"), (411, "Length Required"),
    (412, "Precondition Failed"), (413, "Payload Too Large"), (414, "URI Too Long"),
    (415, "Unsupported Media Type"), (416, "Range Not Satisfiable"),
    (417, "Expectation Failed"), (418, "I'm a teapot"), (421, "Misdirected Request"),
    (422, "Unprocessable Entity"), (423, "Locked"), (424, "Failed Dependency"),
    (425, "Too Early"), (426, "Upgrade Required"), (428, "Precondition Required"),
    (429, "Too Many Requests"), (431, "Request Header Fields Too Large"),
    (451, "Unavailable For Legal Reasons"), (500, "Internal Server Error"),
    (501, "Not Implemented"), (502, "Bad Gateway"), (503, "Service Unavailable"),
    (504, "Gateway Timeout"), (505, "HTTP Version Not Supported"),
    (506, "Variant Also Negotiates"), (507, "Insufficient Storage"), (508, "Loop Detected"),
    (510, "Not Extended"), (511, "Network Authentication Required")]

/-- A status with its phrase. -/
def statusText (status : Nat) : String :=
  toString status ++ " " ++ (phrases.lookup status).getD "<unknown status code>"

/-- The refusal that a body stands for. -/
def refusal (status : Nat) (body : String) : Refusal :=
  match (Json.parse? body).bind Refusal.ofJson? with
  | some r => r
  | none =>
    { status := statusText status
      message := Text.Quoted.encode body
      reason := "Failed to parse error data"
      code := status }

/-! ## 2. Values -/

/-- The body of a response that is no refusal. -/
def body? : Exchange → Except Failure String
  | .failed text => .error (.transport text)
  | .answered status body _ =>
    if 400 ≤ status ∧ status < 600 then .error (.refused (refusal status body)) else .ok body

/-- The value that `f` reads from the response. -/
def value? {α : Type} (f : Json → Option α) (x : Exchange) : Except Failure α := do
  let body ← body? x
  match (Json.parse? body).bind f with
  | some a => return a
  | none => throw (.unreadable x.complaint)

/-- The same, but none where the server says that nothing is there. -/
def optionalValue? {α : Type} (f : Json → Option α) (x : Exchange) :
    Except Failure (Option α) :=
  match value? f x with
  | .ok a => .ok (some a)
  | .error (.refused r) => if r.reason = "NotFound" then .ok none else .error (.refused r)
  | .error e => .error e

/-! ## 3. Lists and results -/

/-- Reads the metadata of a list from an open object, of which nothing is kept. -/
def listMetadata? (j : Json) : Option Unit := do
  let .obj m := j | none
  let _ ← Json.Members.latest? m "continue" Json.str?
  let _ ← Json.Members.latest? m "remainingItemCount" Json.int64?
  let _ ← Json.Members.latest? m "resourceVersion" Json.str?
  let _ ← Json.Members.latest? m "selfLink" Json.str?
  return ()

/-- The fields of a list of objects. -/
def listFields : List String := ["metadata", "items"]

/-- A member of a list of objects is a field or settles. -/
def settles (m : String × Json) : Bool := listFields.contains m.1 || m.2.settle?.isSome

/-- Reads a list of objects.  Null has no items, and unknown members must settle. -/
def items? {α : Type} (f : Json → Option α) (j : Json) : Option (List α) := do
  let .obj members := j | none
  let m ← j.record? listFields
  if !members.all settles then none
  m.orDefault? "metadata" listMetadata? ()
  let items ← m.required? "items" (Json.nullable? (Json.list? f))
  return items.getD []

/-- Reads one cause of a result, of which nothing is kept. -/
def cause? (j : Json) : Option Unit := do
  let m ← j.record? ["reason", "message", "field"]
  let _ ← m.orDefault? "reason" Json.str? ""
  let _ ← m.orDefault? "message" Json.str? ""
  let _ ← m.orDefault? "field" Json.str? ""
  return ()

/-- Reads the details of a result, of which nothing is kept. -/
def details? (j : Json) : Option Unit := do
  let m ← j.record? ["name", "group", "kind", "uid", "causes", "retryAfterSeconds"]
  let _ ← m.orDefault? "name" Json.str? ""
  let _ ← m.orDefault? "group" Json.str? ""
  let _ ← m.orDefault? "kind" Json.str? ""
  let _ ← m.orDefault? "uid" Json.str? ""
  let _ ← m.orDefault? "causes" (Json.list? cause?) []
  let _ ← m.orDefault? "retryAfterSeconds" (Json.natOfBits? 32) 0
  return ()

/-- The summaries of results. -/
def summaries : List String := ["Success", "Failure"]

/-- Reads the summary of a result: a text, or an object whose only member has that name and
is null. -/
def summary? : Json → Option Unit
  | .str s => if summaries.contains s then some () else none
  | .obj [(s, .null)] => if summaries.contains s then some () else none
  | _ => none

/-- Reads a result, of which nothing is kept. -/
def result? (j : Json) : Option Unit := do
  let m ← j.record? ["status", "code", "message", "reason", "details"]
  let _ ← m.optional? "status" summary?
  let _ ← m.orDefault? "code" (Json.natOfBits? 16) 0
  let _ ← m.orDefault? "message" Json.str? ""
  let _ ← m.orDefault? "reason" Json.str? ""
  let _ ← m.optional? "details" details?
  return ()

/-- The answer to a deletion is a result or the object that was deleted.  It must settle,
and its kind then says which of the two is read. -/
def deleted? {α : Type} (f : Json → Option α) (j : Json) : Option Unit := do
  let settled ← j.settle?
  match settled.member? "kind" with
  | some (.str "Status") => result? j
  | _ => (f j).map fun _ => ()

end Response

end SecretKeeper.Api
