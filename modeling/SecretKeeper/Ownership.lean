/-
# Ownership

Only a Secret that names the claim as its controller is ever written; one that belongs to
something else is left alone.  A claim with a UID is known by it, a claim without one by
its name.
-/
import SecretKeeper.Object.Claim
import SecretKeeper.Object.Secret

namespace SecretKeeper

/-- The reference names the claim as the controller. -/
def OwnerReference.pointsTo (r : OwnerReference) (c : Claim) : Bool :=
  r.controller == some true && r.kind == Claim.kind && r.apiVersion == Claim.apiVersion &&
    match c.metadata.uid with
    | some uid => r.uid == uid
    | none => c.metadata.name == some r.name

/-- One of the owners of the Secret is the claim. -/
def Secret.isOwnedBy (s : Secret) (c : Claim) : Bool :=
  (s.metadata.ownerReferences.getD []).any (·.pointsTo c)

/-- The reference to put on a Secret that is made for the claim. -/
def Claim.ownerReference (c : Claim) : OwnerReference where
  apiVersion := Claim.apiVersion
  kind := Claim.kind
  name := c.metadata.name.getD ""
  uid := c.metadata.uid.getD ""
  controller := some true
  blockOwnerDeletion := some true

end SecretKeeper
