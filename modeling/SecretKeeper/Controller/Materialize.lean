/-
# Materialization

Makes the data that a demand asks for, and writes them with a single call.  The data are
complete before the call: where one value cannot be generated, nothing is written.
-/
import SecretKeeper.Artifact
import SecretKeeper.Controller.Effect
import SecretKeeper.Controller.Error

namespace SecretKeeper.Controller

/-- A value for every key, in the order of the keys. -/
def drawAll (p : Policy) : (keys : List String) → (drawn : Dict Bytes) →
    Controller (Except EntropyFailure (Dict Bytes))
  | [], drawn => pure (.ok drawn)
  | key :: keys, drawn => do
    match ← draw p.encoding p.length with
    | .error e => pure (.error e)
    | .ok value => drawAll p keys (drawn.insert key (Bytes.utf8 value))

/-- The data that meet the demand: the UTF-8 bytes of verbatim values, or a fresh value for
every key of the policy. -/
def materialize : Demand → Controller (Except CycleError (Dict Bytes))
  | .verbatim data => pure (.ok (data.map fun _ value => Bytes.utf8 value))
  | .generated p => do
    match ← drawAll p p.dataKeys ∅ with
    | .error e => pure (.error (.generation e))
    | .ok fields => do
      count .valuesGenerated fields.size
      pure (.ok fields)

/-- Makes the data and creates a Secret for the claim with them. -/
def createSecret (claim : Claim) (demand : Demand) : Controller (Except CycleError Unit) := do
  match ← materialize demand with
  | .error e => pure (.error e)
  | .ok data => do
    match ← call (.createSecret (.new claim data)) with
    | .error e => pure (.error (.store e))
    | .ok _ => do
      count .secretsCreated 1
      pure (.ok ())

/-- Makes the data and replaces those of the existing Secret. -/
def updateSecret (existing : Secret) (demand : Demand) :
    Controller (Except CycleError Unit) := do
  match ← materialize demand with
  | .error e => pure (.error e)
  | .ok data => do
    match ← call (.replaceSecret (existing.withData data)) with
    | .error e => pure (.error (.store e))
    | .ok _ => do
      count .secretsUpdated 1
      pure (.ok ())

end SecretKeeper.Controller
