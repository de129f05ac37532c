/-
# Probes

The pages that the controller serves over HTTP: its metrics, a page that says it lives, and
one that says whether it is ready.  All three are only read.
-/
import SecretKeeper.Api.Address
import SecretKeeper.Metrics

namespace SecretKeeper.Probe

/-- A page. -/
inductive Page where
  | metrics
  | health
  | readiness
deriving DecidableEq

/-- The pages by their paths, which have to match exactly. -/
def pages : List (String × Page) :=
  [("/metrics", .metrics), ("/healthz", .health), ("/readyz", .readiness)]

/-- What a response holds beside its status. -/
inductive Content where
  | empty
  /-- The published text of the metrics. -/
  | metrics
deriving DecidableEq

/-- An answer to a request for a page. -/
structure Response where
  status : Nat
  contentType : Option String := none
  /-- The methods that the page has, where it does not have the one asked for. -/
  allow : Option String := none
  content : Content := .empty
deriving DecidableEq

/-- The form of the published text. -/
def textType : String := "text/plain; version=0.0.4; charset=utf-8"

/-- A page that is read. -/
def Page.read (ready : Bool) : Page → Response
  | .metrics => { status := 200, contentType := some textType, content := .metrics }
  | .health => { status := 200 }
  | .readiness => { status := if ready then 200 else 503 }

/-- The signs that a method may have besides letters and digits. -/
def methodSigns : List Char := "!#$%&'*+-.^_`|~".toList

/-- The text is a method, known or not. -/
def isMethod (s : String) : Bool :=
  !s.isEmpty && s.toList.all fun c => c.isAlphanum || methodSigns.contains c

/-- The answer to a request.  A query is not looked at, and the head of a page is the page
without its content. -/
def answer (ready : Bool) (method : String) (target : Api.Target) : Response :=
  match pages.lookup target.path with
  | none => { status := 404 }
  | some page =>
    if method = "GET" then page.read ready
    else if method = "HEAD" then { page.read ready with content := .empty }
    else { status := 405, allow := some "GET,HEAD" }

/-- The answer to a request as it is written, unless its method or its address is none. -/
def respond? (ready : Bool) (method address : String) : Option Response :=
  if isMethod method then (Api.Target.ofAddress? address).map (answer ready method) else none

end SecretKeeper.Probe
