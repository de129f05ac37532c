/-
# Claims

A claim asks for a Secret of its own name and namespace.  Its spec keeps the form in which
users write it, so that a malformed claim can still be read and answered through its
status; `Validation` turns a spec into what it demands.  The status is the only record that
outlives a cycle.
-/
import SecretKeeper.Object.Metadata

namespace SecretKeeper

/-! ## 1. The desired state -/

/-- A generation policy as users write it. -/
structure GenerationSpec where
  /-- The keys to generate, in order; a key that was listed before is ignored. -/
  dataKeys : List String := []
  /-- The length of every generated value. -/
  length : Int64
  /-- The name of a character class. -/
  encoding : String := ""
  /-- A token: a new one asks for new values. -/
  reconcileTrigger : String := ""
deriving DecidableEq

/-- What a claim asks for, as users write it. -/
structure ClaimSpec where
  /-- The name of the claim's type. -/
  type : String
  /-- The values that an `Opaque` claim copies. -/
  data : Dict String := ∅
  /-- The policy of an `AutoGenerated` claim. -/
  generation : Option GenerationSpec := none
deriving DecidableEq

/-! ## 2. The observed state -/

/-- One observation about a claim. -/
structure Condition where
  type : String
  status : String
  lastTransitionTime : Option String
  reason : Option String
  message : Option String
deriving DecidableEq

/-- What the controller last reported about a claim. -/
structure Status where
  /-- The Secret matches the claim. -/
  synced : Bool := false
  /-- The name of the Secret written for the claim. -/
  createdSecretName : String := ""
  /-- The error of the last failed cycle. -/
  errorMessage : String := ""
  /-- The time of the last successful sync. -/
  lastUpdate : Option String := none
  /-- The trigger that was last applied. -/
  lastReconcileTrigger : String := ""
  /-- The generation of the claim that the status is about. -/
  observedGeneration : Option Int64 := none
  conditions : List Condition := []
deriving DecidableEq

/-- The status of a claim that nobody has looked at. -/
def Status.initial : Status := {}

/-! ## 3. Claims -/

/-- A claim for a Secret. -/
structure Claim where
  metadata : Metadata
  spec : ClaimSpec
  status : Option Status := none
deriving DecidableEq

namespace Claim

/-- The group and version of the claim resource. -/
def apiVersion : String := "secrets.secret-claim.io/v1alpha1"

/-- The kind of the claim resource. -/
def kind : String := "SecretClaim"

/-- The trigger that the claim carries now; empty without a generation policy. -/
def reconcileTrigger (c : Claim) : String :=
  match c.spec.generation with
  | some g => g.reconcileTrigger
  | none => ""

/-- The trigger that was last applied; empty if none was. -/
def lastReconcileTrigger (c : Claim) : String :=
  match c.status with
  | some s => s.lastReconcileTrigger
  | none => ""

/-- The last report was a successful sync. -/
def isSynced (c : Claim) : Bool :=
  match c.status with
  | some s => s.synced
  | none => false

/-- The key of the claim; none unless it has both a namespace and a name. -/
def key? (c : Claim) : Option Key := c.metadata.key?

/-- The status so far, or the initial one. -/
def statusSoFar (c : Claim) : Status := c.status.getD .initial

end Claim

/-! ## 4. Writing -/

/-- A generation policy has all four fields. -/
def GenerationSpec.toJson (g : GenerationSpec) : Json :=
  .obj [("dataKeys", Json.strings g.dataKeys), ("encoding", .str g.encoding),
    ("length", Json.int g.length.toInt), ("reconcileTrigger", .str g.reconcileTrigger)]

/-- Empty data and an absent policy are left out. -/
def ClaimSpec.toJson (s : ClaimSpec) : Json :=
  .obj ((if s.data.isEmpty then [] else [("data", Json.ofDict Json.str s.data)]) ++
    Json.optional "generation" GenerationSpec.toJson s.generation ++
    [("type", .str s.type)])

/-- A condition has all five fields; absent ones are null. -/
def Condition.toJson (c : Condition) : Json :=
  .obj [("lastTransitionTime", Json.orNull Json.str c.lastTransitionTime),
    ("message", Json.orNull Json.str c.message), ("reason", Json.orNull Json.str c.reason),
    ("status", .str c.status), ("type", .str c.type)]

/-- A status has all seven fields; absent ones are null, so that a merge patch with it
leaves nothing of an earlier status behind. -/
def Status.toJson (s : Status) : Json :=
  .obj [("conditions", .arr (s.conditions.map Condition.toJson)),
    ("createdSecretName", .str s.createdSecretName), ("errorMessage", .str s.errorMessage),
    ("lastReconcileTrigger", .str s.lastReconcileTrigger),
    ("lastUpdate", Json.orNull Json.str s.lastUpdate),
    ("observedGeneration",
      Json.orNull (fun n : Int64 => Json.int n.toInt) s.observedGeneration),
    ("synced", .bool s.synced)]

/-- A claim is written with its group, version and kind; an absent status is left out. -/
def Claim.toJson (c : Claim) : Json :=
  .obj ([("apiVersion", .str Claim.apiVersion), ("kind", .str Claim.kind),
    ("metadata", c.metadata.toJson), ("spec", c.spec.toJson)] ++
    Json.optional "status" Status.toJson c.status)

/-! ## 5. Reading -/

/-- Reads a generation policy; only the length must be there. -/
def GenerationSpec.ofJson? (j : Json) : Option GenerationSpec := do
  let m ← j.record? ["dataKeys", "length", "encoding", "reconcileTrigger"]
  return {
    dataKeys := ← m.orDefault? "dataKeys" (Json.list? Json.str?) []
    length := ← m.required? "length" Json.int64?
    encoding := ← m.orDefault? "encoding" Json.str? ""
    reconcileTrigger := ← m.orDefault? "reconcileTrigger" Json.str? "" }

/-- Reads a spec; only the type must be there. -/
def ClaimSpec.ofJson? (j : Json) : Option ClaimSpec := do
  let m ← j.record? ["type", "data", "generation"]
  return {
    type := ← m.required? "type" Json.str?
    data := ← m.orDefault? "data" (Json.dict? Json.str?) ∅
    generation := ← m.optional? "generation" GenerationSpec.ofJson? }

/-- Reads a condition; its type and its status must be there. -/
def Condition.ofJson? (j : Json) : Option Condition := do
  let m ← j.record? ["type", "status", "lastTransitionTime", "reason", "message"]
  return {
    type := ← m.required? "type" Json.str?
    status := ← m.required? "status" Json.str?
    lastTransitionTime := ← m.optional? "lastTransitionTime" Json.str?
    reason := ← m.optional? "reason" Json.str?
    message := ← m.optional? "message" Json.str? }

/-- Reads a status; every field may be missing. -/
def Status.ofJson? (j : Json) : Option Status := do
  let m ← j.record? ["synced", "createdSecretName", "errorMessage", "lastUpdate",
    "lastReconcileTrigger", "observedGeneration", "conditions"]
  return {
    synced := ← m.orDefault? "synced" Json.bool? false
    createdSecretName := ← m.orDefault? "createdSecretName" Json.str? ""
    errorMessage := ← m.orDefault? "errorMessage" Json.str? ""
    lastUpdate := ← m.optional? "lastUpdate" Json.str?
    lastReconcileTrigger := ← m.orDefault? "lastReconcileTrigger" Json.str? ""
    observedGeneration := ← m.optional? "observedGeneration" Json.int64?
    conditions := ← m.orDefault? "conditions" (Json.list? Condition.ofJson?) [] }

/-- Reads a claim; its group, version and kind are not looked at. -/
def Claim.ofJson? (j : Json) : Option Claim := do
  let m ← j.fullRecord? ["metadata", "spec", "status"]
  return {
    metadata := ← m.required? "metadata" Metadata.ofJson?
    spec := ← m.required? "spec" ClaimSpec.ofJson?
    status := ← m.optional? "status" Status.ofJson? }

end SecretKeeper
