/-
# Reports

The status after a successful sync and after a failure.  Both start from the status so far,
so a field that a report does not concern keeps its value.  A failure forgets the trigger,
so that once its cause is gone the comparison of triggers asks for new values.

Times are given as stamps, the texts that a status holds.
-/
import SecretKeeper.Validation

namespace SecretKeeper

namespace Condition

/-- The type of the one condition that reports write. -/
def ready : String := "Ready"

/-- The reason of the condition after a sync. -/
def succeeded : String := "ReconciliationSucceeded"

/-- The reason of the condition after a failure. -/
def failed : String := "ReconciliationFailed"

/-- The status of the condition. -/
def flag (isReady : Bool) : String := if isReady then "True" else "False"

/-- When the condition last changed: the time of the first one that says the same, or now. -/
def transitionTime (conditions : List Condition) (isReady : Bool) (now : String) : String :=
  match conditions.find? fun c => c.type == ready && c.status == flag isReady with
  | some c => c.lastTransitionTime.getD now
  | none => now

/-- The conditions with a single `Ready` at their end. -/
def withReady (conditions : List Condition) (isReady : Bool) (reason message now : String) :
    List Condition :=
  conditions.filter (·.type != ready) ++
    [{ type := ready
       status := flag isReady
       lastTransitionTime := some (transitionTime conditions isReady now)
       reason := some reason
       message := some message }]

end Condition

namespace Status

/-- The status after the Secret of the claim was brought in line with the demand. -/
def afterSync (c : Claim) (demand : Demand) (now : String) : Status :=
  let name := c.metadata.name.getD ""
  let old := c.statusSoFar
  { synced := true
    createdSecretName := name
    errorMessage := ""
    lastUpdate := some now
    lastReconcileTrigger := demand.reconcileTrigger.getD old.lastReconcileTrigger
    observedGeneration := c.metadata.generation
    conditions := Condition.withReady old.conditions true Condition.succeeded
      ("Secret " ++ name ++ " is in sync") now }

/-- The status after a cycle failed with this message. -/
def afterFailure (c : Claim) (message now : String) : Status :=
  let old := c.statusSoFar
  { old with
    synced := false
    errorMessage := message
    lastReconcileTrigger := ""
    observedGeneration := c.metadata.generation
    conditions := Condition.withReady old.conditions false Condition.failed message now }

end Status

end SecretKeeper
