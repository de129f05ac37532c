/-
# The Secret of a claim

The two Secrets that are ever written: a new one for a claim, and an existing one with its
data replaced as a whole.  The metadata of an existing Secret are kept, its version among
them, so a write against a stale version is noticed.
-/
import SecretKeeper.Ownership

namespace SecretKeeper

namespace Secret

/-- The type of every Secret written. -/
def writtenType : String := "Opaque"

/-- The annotation of client-side apply, which describes the claim and not the Secret. -/
def lastAppliedKey : String := "kubectl.kubernetes.io/last-applied-configuration"

/-- The annotations that a Secret takes over; none if none are left. -/
def inheritedAnnotations (annotations : Option (Dict String)) : Option (Dict String) :=
  (annotations.map (·.filter fun key _ => key != lastAppliedKey)).filter
    (!·.isEmpty)

/-- A new Secret for the claim, with its name, namespace, labels and annotations. -/
def new (c : Claim) (data : Dict Bytes) : Secret where
  metadata :=
    { name := c.metadata.name
      ns := c.metadata.ns
      labels := c.metadata.labels
      annotations := inheritedAnnotations c.metadata.annotations
      ownerReferences := some [c.ownerReference] }
  type := some writtenType
  data := some data

/-- The Secret with other data. -/
def withData (s : Secret) (data : Dict Bytes) : Secret :=
  { s with type := some writtenType, data := some data, stringData := none }

end Secret

end SecretKeeper
