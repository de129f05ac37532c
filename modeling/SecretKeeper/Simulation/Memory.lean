/-
# Stores in memory

Claims and Secrets in two maps.  Each of the five kinds of calls can be told to take time,
and to fail.  A call is written down when it is made, takes its time, fails if it was told
to, and only then acts: a creation refuses a Secret that is there, a replacement asks for
none, and a status is only written on a claim that is there.
-/
import SecretKeeper.Program
import SecretKeeper.Store

namespace SecretKeeper

/-- The kind of a store call. -/
inductive StoreCall.Kind where
  | readClaim
  | writeStatus
  | readSecret
  | createSecret
  | replaceSecret
deriving DecidableEq

/-- The kind of the call. -/
def StoreCall.kind : StoreCall → StoreCall.Kind
  | .readClaim _ => .readClaim
  | .writeStatus _ _ => .writeStatus
  | .readSecret _ => .readSecret
  | .createSecret _ => .createSecret
  | .replaceSecret _ => .replaceSecret

namespace Simulation

/-- Answers store calls, in any state `S` of the stores. -/
abbrev StoreServer (S : Type) := (call : StoreCall) → S → Program.Reply S call.Answer

/-- The stores, and what they were told. -/
structure Memory where
  claims : Keyed Claim := ∅
  secrets : Keyed Secret := ∅
  /-- The error with which calls of a kind fail, if they are to. -/
  faults : StoreCall.Kind → Option StoreError := fun _ => none
  /-- The milliseconds that calls of a kind take. -/
  delays : StoreCall.Kind → Nat := fun _ => 0
  /-- The calls made, the last one first. -/
  calls : List (StoreCall.Kind × Key) := []

namespace Memory

/-! ## 1. Calls -/

/-- What a call does that is not told to fail. -/
def act (m : Memory) : (call : StoreCall) → call.Answer × Memory
  | .readClaim key => (.ok (m.claims[key]?), m)
  | .readSecret key => (.ok (m.secrets[key]?), m)
  | .writeStatus claim status =>
    let key := claim.metadata.place
    match m.claims[key]? with
    | none => (.error (.unavailable (key.text ++ " not found")), m)
    | some stored =>
      (.ok (), { m with claims := m.claims.insert key { stored with status := some status } })
  | .createSecret secret =>
    let key := secret.metadata.place
    if m.secrets.contains key then (.error (.alreadyExists key.text), m)
    else (.ok (), { m with secrets := m.secrets.insert key secret })
  | .replaceSecret secret =>
    (.ok (), { m with secrets := m.secrets.insert secret.metadata.place secret })

/-- The stores with the call written down. -/
def logged (call : StoreCall) (m : Memory) : Memory :=
  { m with calls := (call.kind, call.place) :: m.calls }

/-- Answers a call. -/
def serve : StoreServer Memory := fun call m =>
  let issued := m.logged call
  let (answer, after) :=
    match m.faults call.kind with
    | some e => (.error e, issued)
    | none => issued.act call
  { issued := issued, delay := m.delays call.kind, answer := answer, after := after }

/-! ## 2. Changes from outside -/

/-- A claim is stored.  If `keepStatus` is set, its status is that of the claim in its place,
and none where there is no such claim. -/
def putClaim (claim : Claim) (keepStatus : Bool) (m : Memory) : Memory :=
  let key := claim.metadata.place
  let status := if keepStatus then (m.claims[key]?).bind Claim.status else claim.status
  { m with claims := m.claims.insert key { claim with status := status } }

/-- A claim is removed. -/
def removeClaim (key : Key) (m : Memory) : Memory := { m with claims := m.claims.erase key }

/-- A Secret is stored. -/
def putSecret (secret : Secret) (m : Memory) : Memory :=
  { m with secrets := m.secrets.insert secret.metadata.place secret }

/-- A Secret is removed. -/
def removeSecret (key : Key) (m : Memory) : Memory :=
  { m with secrets := m.secrets.erase key }

/-- Calls of a kind fail from now on, or no longer. -/
def setFault (kind : StoreCall.Kind) (e : Option StoreError) (m : Memory) : Memory :=
  { m with faults := fun k => if k = kind then e else m.faults k }

/-- Calls of a kind take so many milliseconds from now on. -/
def setDelay (kind : StoreCall.Kind) (millis : Nat) (m : Memory) : Memory :=
  { m with delays := fun k => if k = kind then millis else m.delays k }

/-- Forgets the calls made. -/
def fresh (m : Memory) : Memory := { m with calls := [] }

/-- The calls made, in order. -/
def callsMade (m : Memory) : List (StoreCall.Kind × Key) := m.calls.reverse

end Memory

end Simulation

end SecretKeeper
