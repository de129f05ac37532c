/-
# Deliveries

A claim is delivered whenever it changed or its time has come.  A delivery runs one cycle
within the deadline; where the deadline passes first, the cycle is dropped where it stands.
Success drops the backoff of the claim.

A failed delivery is handed to the error policy once.  It decides when the claim comes
next: after its backoff, or not before it changes.
-/
import SecretKeeper.Backoff
import SecretKeeper.Controller.Cycle
import SecretKeeper.Settings
import SecretKeeper.Time.Instant

namespace SecretKeeper

/-- When a claim is delivered next. -/
inductive Action where
  /-- Not before it changes. -/
  | awaitChange
  /-- After so many seconds. -/
  | requeue (seconds : Nat)
deriving DecidableEq

/-- The calendar has no date for the next attempt. -/
structure BeyondCalendar where
  delay : Nat
deriving DecidableEq

namespace Controller

/-! ## 1. Deliveries -/

/-- What a delivery does before its cycle. -/
def opening (key : Key) : Controller Unit := do
  enter "secretclaim.reconcile"
    [("resource.name", key.name), ("resource.namespace", key.ns),
      ("resource.kind", Claim.kind)]
  count .reconciliations 1

/-- What a delivery does after its cycle, however it ended. -/
def closing : Controller Unit := do
  leave
  observe

/-- Delivers a claim: runs one cycle for its key within the deadline. -/
def deliver {W : Type} (serve : Program.Server controllerInterface W) (settings : Settings)
    (claim : Claim) (backoffs : BackoffTable) (w : W) :
    Except DeliveryError Action × BackoffTable × W :=
  match claim.key? with
  | none => (.error .missingKey, backoffs, w)
  | some key =>
    let (_, w) := (opening key).run serve w
    let (result, w) := (cycle key).runWithin serve settings.reconcileTimeout.millis w
    let (_, w) := closing.run serve w
    match result with
    | none => (.error (.deadlineExceeded settings.reconcileTimeout), backoffs, w)
    | some (.error e) => (.error (.failed e), backoffs, w)
    | some (.ok _) => (.ok .awaitChange, backoffs.forget key.text, w)

/-! ## 2. The error policy -/

/-- The span of a handled error.  A claim without a name is called `unknown`. -/
def errorSpan (claim : Claim) (e : DeliveryError) : List (String × String) :=
  [("resource.name", claim.metadata.name.getD "unknown"),
    ("resource.namespace", claim.metadata.ns.getD "default"), ("error", e.message)]

/-- The key of a claim in the backoff table. -/
def backoffKey (claim : Claim) : String :=
  claim.metadata.ns.getD "default" ++ "/" ++ claim.metadata.name.getD "unknown"

/-- Decides when a claim whose delivery failed is delivered next.  A retryable error
advances the backoff of the claim; the next attempt must have a date, which is looked for
after the backoff has advanced. -/
def handleError (settings : Settings) (now : Instant) (claim : Claim) (e : DeliveryError)
    (backoffs : BackoffTable) : Controller (Except BeyondCalendar Action × BackoffTable) := do
  enter "controller.watch.reconciliation_error" (errorSpan claim e)
  count .reconciliationErrors 1
  if e.isRetryable then do
    let ((delay, _), backoffs) := backoffs.advance settings.backoffMinMinutes
      settings.backoffMaxMinutes (backoffKey claim)
    match now.later? delay with
    | none => do
      leave
      pure (.error ⟨delay⟩, backoffs)
    | some _ => do
      count (.requeues Counter.errorBackoff) 1
      leave
      pure (.ok (.requeue delay), backoffs)
  else do
    leave
    pure (.ok .awaitChange, backoffs)

end Controller

end SecretKeeper
