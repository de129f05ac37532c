/-
# Failed cycles

What makes a cycle fail, and what makes its delivery fail.  A refused spec and a claim
without a key wait until the claim changes; all else is tried again.
-/
import SecretKeeper.Store
import SecretKeeper.Time.Duration
import SecretKeeper.Validation
import SecretKeeper.Value.Entropy

namespace SecretKeeper

/-- Why a cycle failed. -/
inductive CycleError where
  | validation (e : ValidationError)
  | generation (e : EntropyFailure)
  | store (e : StoreError)
deriving DecidableEq

namespace CycleError

/-- What is written about the error: just what its cause says. -/
def message : CycleError → String
  | .validation e => e.message
  | .generation e => e.message
  | .store e => e.message

/-- Trying again may help. -/
def isRetryable : CycleError → Bool
  | .validation _ => false
  | _ => true

end CycleError

/-- Why the delivery of a claim failed. -/
inductive DeliveryError where
  | failed (e : CycleError)
  | deadlineExceeded (deadline : Duration)
  | missingKey
deriving DecidableEq

namespace DeliveryError

/-- What is written about the error. -/
def message : DeliveryError → String
  | .failed e => "Reconciliation failed: " ++ e.message
  | .deadlineExceeded d => "Reconciliation exceeded its deadline of " ++ d.text
  | .missingKey => "SecretClaim has no name or namespace"

/-- Trying again may help. -/
def isRetryable : DeliveryError → Bool
  | .failed e => e.isRetryable
  | .deadlineExceeded _ => true
  | .missingKey => false

end DeliveryError

end SecretKeeper
