/-
# One cycle is enough for verbatim values

A claim for verbatim values is brought in line by a single cycle, whatever its Secret holds
and whatever its status says, unless a call fails or the Secret belongs to something else.

The Secret is not always written, so what the cycle leaves depends on the comparison that
decides about it.  `Drift.needsUpdate_eq_false_iff` says that the comparison is exact: nothing
has to be written just if the stored data are the bytes of the wanted values, key for key.
Whatever the outcome, then, the same data are stored, and the status of the claim says so.
-/
import SecretKeeper.Proofs.Generation
import SecretKeeper.Proofs.Settling

namespace SecretKeeper

/-- **The comparison is exact.** -/
theorem Drift.needsUpdate_eq_false_iff (wanted : Dict String) (stored : Dict Bytes) :
    needsUpdate wanted stored = false ↔ stored = verbatimBytes wanted := by
  constructor
  · intro h
    obtain ⟨hsize, hany⟩ := Bool.or_eq_false_iff.mp h
    have hfound : ∀ (key : String) (value : String), wanted[key]? = some value →
        stored[key]? = some (Bytes.utf8 value) := by
      intro key value hw
      have hmem : (key, value) ∈ wanted.toList :=
        Std.ExtTreeMap.mem_toList_iff_getElem?_eq_some.mpr hw
      have := List.any_eq_false.mp hany _ hmem
      simpa using this
    refine Dict.eq_of_getElem? ?_ fun key bytes hb => ?_
    · rw [verbatimBytes, Std.ExtTreeMap.size_map]
      exact (of_decide_eq_true (by simpa using hsize) : wanted.size = stored.size).symm
    · rw [verbatimBytes, Std.ExtTreeMap.getElem?_map] at hb
      obtain ⟨value, hw, rfl⟩ := Option.map_eq_some_iff.mp hb
      exact hfound key value hw
  · rintro rfl
    exact needsUpdate_copied wanted

namespace Controller

open Simulation

section Converging

variable {key : Key} {claim : Claim} {events : List (Event controllerInterface)} {m m' : Memory}
  {r : Except CycleError Outcome}

theorem validate_verbatim (h : claim.spec.type = "Opaque") :
    claim.spec.validate = .ok (.verbatim claim.spec.data) := if_pos h

/-- A cycle whose calls all succeed ends with an outcome, if it finds a claim for verbatim
values and a Secret that does not belong to something else; and then nothing is left to do. -/
theorem ending_of_verbatim (h : Course key events r)
    (hr : Replays Memory.serve m (calls events) m') (hs : ∀ e ∈ calls events, succeeded e = true)
    (hclaim : m.claims[key]? = some claim) (hverbatim : claim.spec.type = "Opaque")
    (hown : ∀ old, m.secrets[key]? = some old → old.isOwnedBy claim = true) :
    ∃ outcome, r = .ok outcome ∧ again outcome = .idle := by
  cases h with
  | unread e => cases hs ⟨.readClaim key, .error e⟩ (by simp)
  | gone => cases hclaim.symm.trans (Memory.readClaim_ok hr.1).1
  | unprobed other e => cases hs ⟨.readSecret key, .error e⟩ (by simp)
  | @foreign other old hforeign =>
    rw [← List.append_nil (calls _)] at hr
    obtain ⟨rfl, hsecret⟩ := claim_of_reads hr hclaim
    rw [hown old hsecret] at hforeign
    cases hforeign
  | @refused other existing e stamp sent own hrefused =>
    rw [calls_append] at hr
    obtain ⟨rfl, -⟩ := claim_of_reads hr hclaim
    rw [validate_verbatim hverbatim] at hrefused
    cases hrefused
  | @failed other existing demand attempt e stamp sent due hattempt =>
    rw [calls_append, calls_append, List.append_assoc] at hr
    obtain ⟨rfl, -⟩ := claim_of_reads hr hclaim
    obtain rfl : _ = demand :=
      Except.ok.inj ((validate_verbatim hverbatim).symm.trans due.valid)
    -- verbatim data are always complete, so only the call can have failed
    cases hattempt with
    | undrawn hm => cases hm
    | @unwritten drawn data x hm =>
      cases hs ⟨writeCall other existing data, .error x⟩ (mem_calls (by simp))
  | written stamp sent due hattempt => exact ⟨_, rfl, again_writeOutcome _⟩
  | repaired stamp sent met hunsynced => exact ⟨_, rfl, rfl⟩
  | idle met hsynced => exact ⟨_, rfl, rfl⟩

/-- The stores hold the Secret that a claim for verbatim values asks for, with just these, and
the claim with a status that says so. -/
structure Converged (m : Memory) (key : Key) (claim : Claim) : Prop where
  secret : ∃ secret, m.secrets[key]? = some secret ∧ secret.isOwnedBy claim = true ∧
    secret.contents = verbatimBytes claim.spec.data
  status : ∃ status, m.claims[key]? = some { claim with status := some status } ∧
    status.synced = true

/-- Where nothing is left to do for a claim for verbatim values, the stores have converged. -/
theorem Settled.converged (h : Settled m key .idle) (hverbatim : claim.spec.type = "Opaque")
    (hclaim : ∃ status, m.claims[key]? = some { claim with status := status }) :
    Converged m key claim := by
  obtain ⟨status, hclaim⟩ := hclaim
  cases h with
  | @idle other secret demand found met hsynced =>
    obtain rfl : other = { claim with status := status } :=
      Option.some.inj (found.claim_stored.symm.trans hclaim)
    obtain rfl : _ = demand :=
      Except.ok.inj ((validate_verbatim hverbatim).symm.trans met.valid)
    have hcontents : secret.contents = verbatimBytes claim.spec.data :=
      (Drift.needsUpdate_eq_false_iff claim.spec.data secret.contents).mp met.still
    refine ⟨⟨secret, found.secret_stored, met.own, hcontents⟩, ?_⟩
    cases status with
    | none => cases hsynced
    | some status => exact ⟨status, hclaim, hsynced⟩

/-- **One cycle brings verbatim values in line.**  There is a claim for verbatim values, with
any status, and its Secret is not there or is its own, with any data.  A cycle whose store
calls all succeed ends with an outcome, and it leaves the claim's own Secret with just the
wanted values, and a status that says so. -/
theorem cycle_converges {b : Bench Memory} (placed : b.stores.Placed)
    (hclaim : b.stores.claims[key]? = some claim) (hverbatim : claim.spec.type = "Opaque")
    (hown : ∀ old, b.stores.secrets[key]? = some old → old.isOwnedBy claim = true)
    (hs : ∀ e ∈ calls ((cycle key).transcript inMemory b), succeeded e = true) :
    ∃ outcome, ((cycle key).run inMemory b).1 = .ok outcome ∧ outcome ≠ .claimGone ∧
      outcome ≠ .skippedForeign ∧ Converged ((cycle key).run inMemory b).2.stores key claim := by
  obtain ⟨hd, hr⟩ := cycle_does_replays key b
  rw [← calls_outward] at hs
  have course := cycle_course hd
  obtain ⟨outcome, hending, hagain⟩ := ending_of_verbatim course hr hs hclaim hverbatim hown
  rw [hending] at course
  have settled := settled_of_course placed course hr hs
  rw [hagain] at settled
  refine ⟨outcome, hending, ?_, ?_, settled.converged hverbatim (Memory.claim_of_replays hr hclaim)⟩
  · rintro rfl
    cases hagain
  · rintro rfl
    cases hagain

end Converging

/-! ## A Secret that was tampered with -/

namespace Tampered

/-- A claim that was reported to be in sync. -/
def claim : Claim := { Plain.claim with status := some { synced := true } }

/-- Its Secret: other bytes, which are not even UTF-8, under its key, and one key more. -/
def secret : Secret :=
  .new claim (((∅ : Dict Bytes).insert "a" [0xFF, 0xFE]).insert "b" [])

/-- Stores with the claim and the Secret; there are no random bytes. -/
def bench : Bench Memory where
  stores :=
    { claims := (∅ : Keyed Claim).insert Plain.key claim
      secrets := (∅ : Keyed Secret).insert Plain.key secret }
  entropy := { stream := .cycle [] [], answers := 0, message := "" }

end Tampered

/-- The next cycle makes it good, although the status said that all was well. -/
theorem tampered_converges :
    ∃ outcome, ((cycle Plain.key).run inMemory Tampered.bench).1 = .ok outcome ∧
      outcome ≠ .claimGone ∧ outcome ≠ .skippedForeign ∧
      Converged ((cycle Plain.key).run inMemory Tampered.bench).2.stores Plain.key
        Tampered.claim := by
  have placed : Tampered.bench.stores.Placed :=
    ⟨Keyed.forall_insert Keyed.forall_empty rfl, Keyed.forall_insert Keyed.forall_empty rfl⟩
  have there : Tampered.bench.stores.claims[Plain.key]? = some Tampered.claim :=
    Std.ExtTreeMap.getElem?_insert_self
  have own : ∀ old, Tampered.bench.stores.secrets[Plain.key]? = some old →
      old.isOwnedBy Tampered.claim = true := by
    intro old hold
    obtain rfl : Tampered.secret = old :=
      Option.some.inj (Std.ExtTreeMap.getElem?_insert_self.symm.trans hold)
    decide
  have hs : ∀ e ∈ calls ((cycle Plain.key).transcript inMemory Tampered.bench),
      succeeded e = true := by decide
  exact cycle_converges placed there rfl own hs

end Controller

end SecretKeeper
