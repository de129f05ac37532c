/-
# Commands

The four commands of the command line: listing claims, showing the status of one, asking
for new values, and deleting a claim.  None of them ever shows a value of a Secret or of a
claim's data.
-/
import SecretKeeper.Cli.Console
import SecretKeeper.Object.Claim
import SecretKeeper.Text.Blank
import SecretKeeper.Text.Columns

namespace SecretKeeper.Cli

/-- The namespace that is meant where none is given. -/
def defaultNamespace : String := "default"

/-- The claim of that name and namespace. -/
def keyOf (name : String) (ns : Option String) : Key := ⟨ns.getD defaultNamespace, name⟩

/-- The text, or a dash where it is empty. -/
def orDash (s : String) : String := if s.isEmpty then "-" else s

/-! ## 1. Listing -/

/-- One row of the table of claims. -/
def row (name ns type synced error : String) : String :=
  Text.padRight 30 name ++ " " ++ Text.padRight 20 ns ++ " " ++ Text.padRight 15 type ++ " " ++
    Text.padRight 8 synced ++ " " ++ Text.padRight 30 error

/-- The row of a claim. -/
def claimRow (c : Claim) : String :=
  row (c.metadata.name.getD "<unknown>") (c.metadata.ns.getD "<unknown>") c.spec.type
    (if c.isSynced then "True" else "False")
    (match c.status with
      | some s => orDash s.errorMessage
      | none => "-")

/-- The table of the claims. -/
def table (claims : List Claim) : List String :=
  "" :: row "NAME" "NAMESPACE" "TYPE" "SYNCED" "ERROR" ::
    String.ofList (List.replicate 106 '-') :: claims.map claimRow

/-- Lists the claims of one namespace, or of all. -/
def list (ns : Option String) : Console Ending := do
  match ns with
  | some n => Console.sayLine s!"Listing SecretClaim resources in namespace '{n}'..."
  | none => Console.sayLine "Listing SecretClaim resources in all namespaces..."
  match ← Console.exchange "Failed to list SecretClaim resources"
      (Api.Request.list .claims ns) (Api.Response.value? (Api.Response.items? Claim.ofJson?)) with
  | .error e => pure (.error e)
  | .ok [] => do
    Console.sayLine "No SecretClaim resources found."
    pure (.ok ())
  | .ok claims => do
    Console.sayLines (table claims)
    pure (.ok ())

/-! ## 2. Status -/

/-- The lines about the object itself. -/
def resourceLines (key : Key) (c : Claim) : List String :=
  ["Resource Information:", "  Name: " ++ key.name, "  Namespace: " ++ key.ns] ++
    (c.metadata.uid.toList.map fun uid => "  UID: " ++ uid) ++
    (c.metadata.generation.toList.map fun n => "  Generation: " ++ toString n.toInt)

/-- The lines about a generation policy. -/
def generationLines (g : GenerationSpec) : List String :=
  ["  Generated Keys: " ++ ", ".intercalate g.dataKeys,
    "  Length: " ++ toString g.length.toInt,
    "  Encoding: " ++ (if g.encoding.isEmpty then "alphanumeric (default)" else g.encoding),
    "  Reconcile Trigger: " ++ orDash g.reconcileTrigger]

/-- The lines about the spec.  Of the data only the keys are shown. -/
def specLines (s : ClaimSpec) : List String :=
  ["", "Spec:", "  Type: " ++ s.type] ++
    (if s.data.isEmpty then [] else ["  Data Keys: " ++ ", ".intercalate s.data.keys]) ++
    (s.generation.toList.flatMap generationLines)

/-- The lines about a condition. -/
def conditionLines (c : Condition) : List String :=
  ["  " ++ c.type ++ ": " ++ c.status ++ " (" ++ c.reason.getD "-" ++ ")"] ++
    (c.message.toList.map fun m => "    " ++ m) ++
    (c.lastTransitionTime.toList.map fun t => "    Last Transition: " ++ t)

/-- The lines about what was last reported. -/
def statusLines (s : Status) : List String :=
  ["  Synced: " ++ (if s.synced then "true" else "false"),
    "  Secret: " ++ orDash s.createdSecretName,
    "  Last Update: " ++ s.lastUpdate.getD "-",
    "  Last Reconcile Trigger: " ++ orDash s.lastReconcileTrigger] ++
    (s.observedGeneration.toList.map fun n => "  Observed Generation: " ++ toString n.toInt) ++
    (if s.errorMessage.isEmpty then [] else ["  Error: " ++ s.errorMessage]) ++
    (if s.conditions.isEmpty then []
      else ["", "Conditions:"] ++ s.conditions.flatMap conditionLines)

/-- All lines about a claim. -/
def claimLines (key : Key) (c : Claim) : List String :=
  resourceLines key c ++ specLines c.spec ++ ["", "Status:"] ++
    (match c.status with
      | none => ["  Not reconciled yet"]
      | some s => statusLines s)

/-- Reads one claim. -/
def readClaim (key : Key) : Console (Except (List String) Claim) :=
  Console.exchange ("Failed to get SecretClaim '" ++ key.text ++ "'")
    (Api.Request.get .claims key) (Api.Response.value? Claim.ofJson?)

/-- Shows the spec and the status of one claim. -/
def status (name : String) (ns : Option String) : Console Ending := do
  let key := keyOf name ns
  Console.sayLines ["📊 Status for SecretClaim '" ++ key.text ++ "'", ""]
  match ← readClaim key with
  | .error e => pure (.error e)
  | .ok c => do
    Console.sayLines (claimLines key c)
    pure (.ok ())

/-! ## 3. Regeneration -/

/-- The name under which the command writes. -/
def fieldManager : String := "scctl"

/-- The trigger that asks for new values at this time. -/
def triggerToken (stamp : String) : String := fieldManager ++ "-" ++ stamp

/-- The patch that sets the trigger and nothing else. -/
def triggerPatch (token : String) : Json :=
  .obj [("spec", .obj [("generation", .obj [("reconcileTrigger", .str token)])])]

/-- New values can be asked for: the claim generates them, by a policy. -/
def canRegenerate (c : Claim) : Bool :=
  c.spec.type == "AutoGenerated" && c.spec.generation.isSome

/-- Asks for new values of a claim by a new trigger. -/
def regenerate (name : String) (ns : Option String) : Console Ending := do
  let key := keyOf name ns
  match ← readClaim key with
  | .error e => pure (.error e)
  | .ok c =>
    if !canRegenerate c then
      pure (.error ["SecretClaim '" ++ key.text ++ "' is of type '" ++ c.spec.type ++
        "'; only AutoGenerated claims with a generation policy can be regenerated"])
    else do
      let stamp ← Console.now
      let token := triggerToken stamp
      Console.sayLines ["🔄 Regenerating SecretClaim '" ++ key.text ++ "'...",
        "   Previous trigger: " ++ c.reconcileTrigger, "   New trigger: " ++ token]
      match ← Console.exchange ("Failed to patch SecretClaim '" ++ key.text ++ "'")
          (Api.Request.patch .claims key none fieldManager (triggerPatch token))
          (Api.Response.value? Claim.ofJson?) with
      | .error e => pure (.error e)
      | .ok _ => do
        Console.sayLine
          "✅ Reconcile trigger updated; the controller will regenerate the Secret"
        pure (.ok ())

/-! ## 4. Deletion -/

/-- The answers that confirm. -/
def confirmations : List String := ["y", "Y", "yes", "Yes", "YES"]

/-- The line confirms: without the blanks around it, it is one of the answers that do. -/
def confirms (line : Bytes) : Bool :=
  match Bytes.text? line with
  | some answer => confirmations.contains (Text.trim answer)
  | none => false

/-- Asks whether the claim is to be deleted. -/
def confirm (key : Key) : Console Bool := do
  Console.say ("⚠️  Are you sure you want to delete SecretClaim '" ++ key.text ++
    "'? (y/N): ")
  let line ← Console.readLine
  pure (confirms line)

/-- Deletes a claim, which takes its Secret with it.  Unless `force` is set, it asks first. -/
def delete (name : String) (ns : Option String) (force : Bool) : Console Ending := do
  let key := keyOf name ns
  let agreed ← if force then pure true else confirm key
  if agreed then do
    match ← Console.exchange ("Failed to delete SecretClaim '" ++ key.text ++ "'")
        (Api.Request.delete .claims key)
        (Api.Response.value? (Api.Response.deleted? Claim.ofJson?)) with
    | .error e => pure (.error e)
    | .ok _ => do
      Console.sayLines ["✅ SecretClaim '" ++ key.text ++ "' deleted",
        "   The owned Secret is removed by garbage collection"]
      pure (.ok ())
  else do
    Console.sayLine "Deletion cancelled."
    pure (.ok ())

/-! ## 5. Commands -/

/-- A command with its arguments. -/
inductive Command where
  | list
  | status (name : String)
  | regenerate (name : String)
  | delete (name : String) (force : Bool)
deriving DecidableEq

/-- The program of a command. -/
def Command.program (ns : Option String) : Command → Console Ending
  | .list => Cli.list ns
  | .status name => Cli.status name ns
  | .regenerate name => Cli.regenerate name ns
  | .delete name force => Cli.delete name ns force

end SecretKeeper.Cli
