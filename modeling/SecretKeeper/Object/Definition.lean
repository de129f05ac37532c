/-
# The definition of the claim resource

What the API server is told about claims: their names, the columns in which they are listed,
and the schema that every claim is checked against before it is stored.
-/
import SecretKeeper.Schema
import SecretKeeper.Validation
import SecretKeeper.Yaml

namespace SecretKeeper

/-! ## 1. Schemas -/

/-- The schema of a generation policy. -/
def GenerationSpec.schema : Schema :=
  .record (.orNull "Generation policy, required for `AutoGenerated` claims")
    [("dataKeys", .list (.withDefault
        "Secret keys to generate, in order. Duplicates are ignored." (.arr [])) (.text {})),
      ("encoding", .text (.withDefault
        "Character class: `digits`, `alphanumeric` (default) or `symbols`" (.str ""))),
      ("length", .integer (.about "Length of every generated value (8 to 4096)")
        (some (Policy.minLength, Policy.maxLength))),
      ("reconcileTrigger", .text (.withDefault
        "Opaque token; changing it to a new non-empty value forces regeneration" (.str "")))]
    ["length"]

/-- The description of the spec, with an example. -/
def ClaimSpec.description : String :=
  "\n".intercalate
    ["SecretClaim Custom Resource Definition",
      "",
      "A claim for a Kubernetes `Secret` with the same name and namespace. The",
      "controller creates the Secret, owns it, and keeps it converged with the claim.",
      "",
      "# Example",
      "",
      "```yaml",
      "apiVersion: secrets.secret-claim.io/v1alpha1",
      "kind: SecretClaim",
      "metadata:",
      "  name: db-credentials",
      "  namespace: default",
      "spec:",
      "  type: AutoGenerated",
      "  generation:",
      "    dataKeys: [\"password\"]",
      "    length: 24",
      "    encoding: symbols",
      "    reconcileTrigger: \"2025-01-01\"",
      "```"]

/-- The schema of a spec. -/
def ClaimSpec.schema : Schema :=
  .record (.about ClaimSpec.description)
    [("data", .dict (.about "Plaintext values copied into the Secret for `Opaque` claims")
        (.text {})),
      ("generation", GenerationSpec.schema),
      ("type", .text (.about ("Claim type: `Opaque` (copy `data` verbatim) or " ++
        "`AutoGenerated`\n(generate values for `generation.dataKeys`)")))]
    ["type"]

/-- The schema of a condition. -/
def Condition.schema : Schema :=
  .record (.about "Condition represents a condition of a resource")
    [("lastTransitionTime", .text (.orNull "Last transition time")),
      ("message", .text (.orNull "Message describing the condition")),
      ("reason", .text (.orNull "Reason for the condition")),
      ("status", .text (.about "Status of the condition (True, False, Unknown)")),
      ("type", .text (.about "Type of condition"))]
    ["status", "type"]

/-- The schema of a status. -/
def Status.schema : Schema :=
  .record (.orNull "Status of the SecretClaim resource")
    [("conditions", .list (.withDefault
        "Conditions represent the latest available observations" (.arr [])) Condition.schema),
      ("createdSecretName", .text (.withDefault
        "Name of the Secret created for this claim" (.str ""))),
      ("errorMessage", .text (.withDefault
        "Error from the last failed reconciliation, empty when healthy" (.str ""))),
      ("lastReconcileTrigger", .text (.withDefault
        "Last `reconcileTrigger` applied successfully\nAlways empty while `synced` is false"
        (.str ""))),
      ("lastUpdate", .text (.orNull "Time of the last successful sync (RFC3339)")),
      ("observedGeneration", .integer
        (.orNull "Generation of the claim that produced this status") none),
      ("synced", .flag (.withDefault "Whether the Secret matches the claim" (.bool false)))]
    []

/-- The schema of a claim. -/
def Claim.schema : Schema :=
  .record
    { title := some Claim.kind
      description :=
        some "Auto-generated derived type for SecretClaimSpec via `CustomResource`" }
    [("spec", ClaimSpec.schema), ("status", Status.schema)] ["spec"]

/-! ## 2. The definition -/

namespace Claim

/-- The group of the resource. -/
def group : String := "secrets.secret-claim.io"

/-- The version of the resource. -/
def version : String := "v1alpha1"

/-- The plural of the resource. -/
def plural : String := "secretclaims"

/-- The names of the resource. -/
def names : Json :=
  .obj [("categories", .arr []), ("kind", .str kind), ("plural", .str plural),
    ("shortNames", Json.strings ["sc"]), ("singular", .str "secretclaim")]

/-- A column in which claims are listed. -/
def column (name type path : String) : Json :=
  .obj [("jsonPath", .str path), ("name", .str name), ("type", .str type)]

/-- The version in which claims are served and stored. -/
def versionDefinition : Json :=
  .obj [("additionalPrinterColumns", .arr
      [column "Type" "string" ".spec.type", column "Synced" "boolean" ".status.synced",
        column "Error" "string" ".status.errorMessage"]),
    ("name", .str version), ("schema", .obj [("openAPIV3Schema", schema.toJson)]),
    ("served", .bool true), ("storage", .bool true),
    ("subresources", .obj [("status", .obj [])])]

/-- The definition of the resource. -/
def definition : Json :=
  .obj [("apiVersion", .str "apiextensions.k8s.io/v1"),
    ("kind", .str "CustomResourceDefinition"),
    ("metadata", .obj [("name", .str (plural ++ "." ++ group))]),
    ("spec", .obj [("group", .str group), ("names", names), ("scope", .str "Namespaced"),
      ("versions", .arr [versionDefinition])])]

/-- The definition as it is printed. -/
def definitionText : String := Yaml.render definition

end Claim

end SecretKeeper
