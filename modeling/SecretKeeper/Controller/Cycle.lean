/-
# Cycles

One cycle brings the Secret of one claim in line with the claim:

1. read the claim; if it is gone there is nothing to do;
2. read the Secret of the same name; leave it alone if it belongs to something else;
3. validate the claim;
4. create the Secret if there is none, write it again if it has drifted, report a sync that
   was not reported, or do nothing.

A failure after the first step is reported on the claim before the cycle ends with it.
Whether a report gets through changes nothing about the cycle: a Secret written before it
stays written, and the next cycle reports again.
-/
import SecretKeeper.Controller.Materialize
import SecretKeeper.Drift
import SecretKeeper.Report
import SecretKeeper.Trace

namespace SecretKeeper

/-- How a cycle ended that did not fail. -/
inductive Outcome where
  /-- The claim no longer exists. -/
  | claimGone
  /-- The Secret of that name belongs to something else. -/
  | skippedForeign
  | created
  | updated
  /-- Nothing but the status had to be written. -/
  | statusRepaired
  | idle
deriving DecidableEq

/-- The name of the outcome. -/
def Outcome.text : Outcome → String
  | .claimGone => "claim-gone"
  | .skippedForeign => "skipped-foreign"
  | .created => "created"
  | .updated => "updated"
  | .statusRepaired => "status-repaired"
  | .idle => "idle"

namespace Controller

/-! ## 1. Reports -/

/-- Writes a status; a failed write is counted and forgotten.  The result says whether the
status was written. -/
def writeStatus (claim : Claim) (status : Status) : Controller Bool := do
  match ← call (.writeStatus claim status) with
  | .ok _ => pure true
  | .error _ => do
    count .statusWriteFailures 1
    pure false

/-- Reports that the Secret meets the demand. -/
def reportSync (claim : Claim) (demand : Demand) : Controller Bool := do
  let stamp ← now
  writeStatus claim (.afterSync claim demand stamp)

/-- Reports a failure with this message. -/
def reportFailure (claim : Claim) (message : String) : Controller Bool := do
  let stamp ← now
  writeStatus claim (.afterFailure claim message stamp)

/-- Reports the error and ends the cycle with it. -/
def fail (claim : Claim) (e : CycleError) : Controller (Except CycleError Outcome) := do
  let _ ← reportFailure claim e.message
  pure (.error e)

/-- Reports a sync and ends the cycle with the outcome. -/
def succeed (claim : Claim) (demand : Demand) (outcome : Outcome) :
    Controller (Except CycleError Outcome) := do
  let _ ← reportSync claim demand
  pure (.ok outcome)

/-! ## 2. The cycle -/

/-- Notes the type of the claim and its trace context on the current span. -/
def noteClaim (claim : Claim) : Controller Unit := do
  note "claim.type" claim.spec.type
  match Trace.carrier? claim.metadata.annotations with
  | none => pure ()
  | some carrier => do
    note "api.request.traceparent" carrier
    match Trace.traceId? carrier with
    | none => pure ()
    | some id => note "trace_id" (Trace.idText id)

/-- Brings an owned Secret, or one that is not there yet, in line with the demand. -/
def converge (claim : Claim) (existing : Option Secret) (demand : Demand) :
    Controller (Except CycleError Outcome) := do
  match existing with
  | none => do
    match ← createSecret claim demand with
    | .error e => fail claim e
    | .ok _ => succeed claim demand .created
  | some secret =>
    if Drift.detect demand secret.data claim.lastReconcileTrigger then do
      match ← updateSecret secret demand with
      | .error e => fail claim e
      | .ok _ => succeed claim demand .updated
    else if claim.isSynced then pure (.ok .idle)
    else succeed claim demand .statusRepaired

/-- The Secret is there and belongs to something else. -/
def isForeign (claim : Claim) (existing : Option Secret) : Bool :=
  existing.any (!·.isOwnedBy claim)

/-- The cycle once the claim and its Secret have been read. -/
def settle (claim : Claim) (existing : Option Secret) :
    Controller (Except CycleError Outcome) :=
  if isForeign claim existing then do
    count .ownershipSkips 1
    pure (.ok .skippedForeign)
  else
    match claim.spec.validate with
    | .error e => do
      count .validationFailures 1
      fail claim (.validation e)
    | .ok demand => converge claim existing demand

/-- One cycle for the claim of this key. -/
def cycle (key : Key) : Controller (Except CycleError Outcome) := do
  match ← call (.readClaim key) with
  | .error e => pure (.error (.store e))
  | .ok none => pure (.ok .claimGone)
  | .ok (some claim) => do
    noteClaim claim
    match ← call (.readSecret key) with
    | .error e => fail claim (.store e)
    | .ok existing => settle claim existing

end Controller

end SecretKeeper
