/-
# Drift

Whether the Secret of a claim has to be written again.  Verbatim values are compared with
the stored bytes; generated values are never compared, since nothing remembers them, and
only a new trigger counts.
-/
import SecretKeeper.Validation
import SecretKeeper.Text.Bytes

namespace SecretKeeper.Drift

/-- The stored data are not the wanted ones: their number differs, or a wanted key is
missing or holds other bytes. -/
def needsUpdate (wanted : Dict String) (stored : Dict Bytes) : Bool :=
  wanted.size != stored.size ||
    wanted.toList.any fun (key, value) => stored[key]? != some (Bytes.utf8 value)

/-- The trigger asks for new values: it is not empty and not the one applied last. -/
def triggerChanged (current last : String) : Bool := !current.isEmpty && current != last

/-- The Secret has drifted from the demand. -/
def detect (demand : Demand) (stored : Option (Dict Bytes)) (lastTrigger : String) : Bool :=
  match demand with
  | .verbatim data => needsUpdate data (stored.getD ∅)
  | .generated p => triggerChanged p.reconcileTrigger lastTrigger

end SecretKeeper.Drift
