/-
# A sync that was not recorded

Whether generated values are asked for anew is read off the status, which records the
trigger that was applied last.  Where a cycle writes the Secret and then cannot write the
status, the old record stays, and the next cycle decides by it.

For verbatim values that is harmless, since they are compared with what is stored: the next
cycle leaves the Secrets alone and only reports.  Generated values are made once more just if
the trigger is not empty and is not the recorded one (`asksAgain`): the next cycle then
replaces the values that the first has written, unless the random source fails.  This file
proves both, so the condition is exact, and shows a claim whose new password is lost in this
way.
-/
import SecretKeeper.Proofs.Settling

namespace SecretKeeper.Controller

open Simulation

section Staleness

variable {key : Key} {claim : Claim} {existing : Option Secret} {demand : Demand}
  {events : List (Event controllerInterface)} {data : Dict Bytes} {m m' : Memory}
  {r : Except CycleError Outcome}

/-! ## 1. By the old record -/

/-- By what the status records, the demand asks for new values. -/
def asksAgain (claim : Claim) : Demand → Bool
  | .verbatim _ => false
  | .generated p => Drift.triggerChanged p.reconcileTrigger claim.lastReconcileTrigger

/-- Data that were made for a demand count as drifted just if it asks for new values. -/
theorem Materialized.detect_eq (h : Materialized demand events data) (claim : Claim) :
    Drift.detect demand (some data) claim.lastReconcileTrigger = asksAgain claim demand := by
  cases h with
  | verbatim data => exact Drift.needsUpdate_copied data
  | generated p values _ => rfl

/-- A cycle that replaces the data. -/
theorem converge_drifted {secret : Secret}
    (drifted : Drift.detect demand secret.data claim.lastReconcileTrigger = true) :
    converge claim (some secret) demand = (write claim demand (some secret) >>= fun
      | .error e => fail claim e
      | .ok _ => succeed claim demand .updated) :=
  if_pos drifted

/-! ## 2. After a sync that was not recorded -/

/-- The Secret was written for a demand of the claim, and the claim is what it was. -/
structure Unrecorded (m : Memory) (key : Key) (claim : Claim) (secret : Secret)
    (demand : Demand) : Prop where
  claim_stored : m.claims[key]? = some claim
  secret_stored : m.secrets[key]? = some secret
  own : secret.isOwnedBy claim = true
  valid : claim.spec.validate = .ok demand
  detect_eq : Drift.detect demand secret.data claim.lastReconcileTrigger = asksAgain claim demand

/-- A cycle that wrote the Secret and not the status leaves the sync unrecorded. -/
theorem unrecorded_of_course (placed : m.Placed) (h : Course key events r)
    (hw : ∃ e ∈ calls events, isSecretWrite e = true ∧ succeeded e = true)
    (hr : Replays Memory.serve m (calls events) m')
    (hf : ∀ e ∈ calls events, isReport e = true → succeeded e = false) :
    ∃ claim secret demand, m.claims[key]? = some claim ∧ Unrecorded m' key claim secret demand := by
  have ho := h.outline.disciplined.outcome_of_written hw
  cases h with
  | @written claim existing demand attempt stamp sent due h =>
    obtain ⟨drawn, data, m₁, hm, -, own, -, hclaim, found, hr⟩ := finds_after_write placed due h hr
    obtain ⟨ha, rfl⟩ := hr
    have hsent : succeeded (report claim (.afterSync claim demand stamp) sent) = false := by
      refine hf _ ?_ rfl
      rw [calls_append]
      exact List.mem_append_right _ (List.mem_singleton_self _)
    cases sent with
    | ok value => cases hsent
    | error e =>
      have hu := Memory.unchanged_of_error ha
      refine ⟨claim, written claim existing data, demand, hclaim, ?_, ?_, own, due.valid, ?_⟩
      · rw [hu.claims]
        exact found.claim_stored
      · rw [hu.secrets]
        exact found.secret_stored
      · rw [written_data]
        exact hm.detect_eq claim
  | _ => simp at ho

theorem isSecretWrite_reads : ∀ e ∈ calls (reads key claim existing), isSecretWrite e = false := by
  intro e he
  have hread := isRead_reads e he
  simp_all [isRead]

/-- A cycle that reads and reports makes no Secret write. -/
theorem isSecretWrite_report {status : Status} {sent : Except StoreError Unit} :
    ∀ e ∈ calls (reads key claim existing) ++ [report claim status sent],
      isSecretWrite e = false := by
  intro e he
  rcases List.mem_append.mp he with he | he
  · exact isSecretWrite_reads e he
  · rw [List.mem_singleton.mp he]
    rfl

/-- If the demand does not ask again, the next cycle makes no Secret write. -/
theorem Unrecorded.spares {secret : Secret} (h : Unrecorded m key claim secret demand)
    (ha : asksAgain claim demand = false) (hd : Does (cycle key) events r)
    (hr : Replays Memory.serve m (calls events) m')
    (hs : ∀ e ∈ calls events, succeeded e = true) :
    r = .ok (if claim.isSynced then .idle else .statusRepaired) ∧
      ∀ e ∈ calls events, isSecretWrite e = false := by
  have found := finds_of_succeeded hd hr hs h.claim_stored h.secret_stored
  obtain ⟨rest, m₁, rfl, hd, -, -⟩ := found.does hd hr
  rw [settle_owned h.own h.valid, converge_still (h.detect_eq.trans ha)] at hd
  cases hsync : claim.isSynced with
  | true =>
    rw [hsync, if_pos rfl, does_done_iff] at hd
    obtain ⟨rfl, rfl⟩ := hd
    refine ⟨rfl, ?_⟩
    rw [List.append_nil]
    exact isSecretWrite_reads
  | false =>
    rw [hsync, if_neg Bool.false_ne_true] at hd
    obtain ⟨stamp, sent, rfl, rfl⟩ := succeed_does hd
    refine ⟨rfl, ?_⟩
    rw [calls_append]
    exact isSecretWrite_report

/-- If the demand asks again, the next cycle replaces the Secret, or cannot make new data and
leaves it alone. -/
theorem Unrecorded.rotates {secret : Secret} (h : Unrecorded m key claim secret demand)
    (ha : asksAgain claim demand = true) (hd : Does (cycle key) events r)
    (hr : Replays Memory.serve m (calls events) m')
    (hs : ∀ e ∈ calls events, succeeded e = true) :
    (∃ e, r = .error (.generation e) ∧ ∀ c ∈ calls events, isSecretWrite c = false) ∨
      r = .ok .updated ∧ ∃ drawn data, Materialized demand drawn data ∧
        ⟨.replaceSecret (secret.withData data), .ok ()⟩ ∈ calls events := by
  have found := finds_of_succeeded hd hr hs h.claim_stored h.secret_stored
  obtain ⟨rest, m₁, rfl, hd, -, -⟩ := found.does hd hr
  rw [settle_owned h.own h.valid, converge_drifted (h.detect_eq.trans ha)] at hd
  obtain ⟨attempt, rest, result, rfl, hw, hd⟩ := does_bind_iff.mp hd
  cases write_does hw with
  | undrawn hm =>
    obtain ⟨stamp, sent, rfl, rfl⟩ := fail_does hd
    refine .inl ⟨_, rfl, ?_⟩
    rw [calls_append, calls_append, hm.calls_eq_nil, List.nil_append]
    exact isSecretWrite_report
  | @unwritten drawn data e hm =>
    cases hs ⟨writeCall claim (some secret) data, .error e⟩ (mem_calls (by simp))
  | @written drawn data value hm =>
    have hmem : told (writeCall claim (some secret) data) (.ok value) ∈
        reads key claim (some secret) ++
          (drawn ++ [told (writeCall claim (some secret) data) (.ok value)] ++ rest) := by simp
    obtain ⟨_, _, rfl, rfl⟩ := succeed_does hd
    exact .inr ⟨rfl, drawn, data, hm, mem_calls hmem⟩

/-- **What a sync that was not recorded comes to.**  A cycle has written the Secret, but not
the status.  The next cycle on the same claim, all its calls succeeding, leaves the Secrets
alone if the demand does not ask again; if it does, that cycle replaces the Secret with data
that are made anew, unless they cannot be made. -/
theorem unrecorded_sync {b b' : Bench Memory} (placed : b.stores.Placed)
    (hw : ∃ e ∈ calls ((cycle key).transcript inMemory b),
      isSecretWrite e = true ∧ succeeded e = true)
    (hf : ∀ e ∈ calls ((cycle key).transcript inMemory b),
      isReport e = true → succeeded e = false)
    (hclaims : b'.stores.claims = ((cycle key).run inMemory b).2.stores.claims)
    (hsecrets : b'.stores.secrets = ((cycle key).run inMemory b).2.stores.secrets)
    (hs : ∀ e ∈ calls ((cycle key).transcript inMemory b'), succeeded e = true) :
    ∃ claim secret demand, b.stores.claims[key]? = some claim ∧
      claim.spec.validate = .ok demand ∧ b'.stores.secrets[key]? = some secret ∧
      (asksAgain claim demand = false →
        (∀ e ∈ calls ((cycle key).transcript inMemory b'), isSecretWrite e = false) ∧
        ((cycle key).run inMemory b').2.stores.secrets = b'.stores.secrets ∧
        ((cycle key).run inMemory b').1 =
          .ok (if claim.isSynced then .idle else .statusRepaired)) ∧
      (asksAgain claim demand = true →
        (∃ e, ((cycle key).run inMemory b').1 = .error (.generation e) ∧
          ∀ c ∈ calls ((cycle key).transcript inMemory b'), isSecretWrite c = false) ∨
        ((cycle key).run inMemory b').1 = .ok .updated ∧
          ∃ drawn data, Materialized demand drawn data ∧
            ⟨.replaceSecret (secret.withData data), .ok ()⟩ ∈
              calls ((cycle key).transcript inMemory b')) := by
  obtain ⟨hd, hr⟩ := cycle_does_replays key b
  obtain ⟨hd', hr'⟩ := cycle_does_replays key b'
  rw [← calls_outward] at hw hf hs
  obtain ⟨claim, secret, demand, hclaim, h⟩ :=
    unrecorded_of_course placed (cycle_course hd) hw hr hf
  have h' : Unrecorded b'.stores key claim secret demand := by
    refine ⟨?_, ?_, h.own, h.valid, h.detect_eq⟩
    · rw [hclaims]
      exact h.claim_stored
    · rw [hsecrets]
      exact h.secret_stored
  rw [← calls_outward]
  refine ⟨claim, secret, demand, hclaim, h.valid, h'.secret_stored, fun ha => ?_, fun ha => ?_⟩
  · obtain ⟨hending, hspared⟩ := h'.spares ha hd' hr' hs
    exact ⟨hspared, Memory.secrets_of_replays hr' hspared, hending⟩
  · exact h'.rotates ha hd' hr' hs

end Staleness

/-! ## 3. A password that is lost -/

namespace Rotating

def key : Key := ⟨"default", "db"⟩

/-- A claim for a password, with a trigger and no status. -/
def claim : Claim where
  metadata := { ns := some "default", name := some "db", uid := some "u1" }
  spec :=
    { type := "AutoGenerated"
      generation := some
        { dataKeys := ["password"], length := 8, encoding := "digits", reconcileTrigger := "t1" } }

/-- Stores with the claim and no Secret, where no status can be written. -/
def bench : Bench Memory where
  stores :=
    { claims := (∅ : Keyed Claim).insert key claim
      faults := fun kind => if kind = .writeStatus then some (.unavailable "down") else none }
  entropy := { stream := .cycle [1, 2, 3] [], answers := 8, message := "" }

/-- The bench after a cycle, with stores that no longer fail. -/
def mended : Bench Memory :=
  let after := ((cycle key).run inMemory bench).2
  { after with stores := after.stores.setFault .writeStatus none }

/-- The password in the stores. -/
def password? (m : Memory) : Option Bytes := do
  let secret ← m.secrets[key]?
  secret.contents["password"]?

end Rotating

/-- What the theorem says of the password: it is replaced, unless no new one can be made. -/
theorem rotating_unrecorded :
    (∃ e, ((cycle Rotating.key).run inMemory Rotating.mended).1 = .error (.generation e)) ∨
      ((cycle Rotating.key).run inMemory Rotating.mended).1 = .ok .updated := by
  have placed : Rotating.bench.stores.Placed :=
    ⟨Keyed.forall_insert Keyed.forall_empty rfl, Keyed.forall_empty⟩
  have hw : ∃ e ∈ calls ((cycle Rotating.key).transcript inMemory Rotating.bench),
      isSecretWrite e = true ∧ succeeded e = true := by decide +kernel
  have hf : ∀ e ∈ calls ((cycle Rotating.key).transcript inMemory Rotating.bench),
      isReport e = true → succeeded e = false := by decide +kernel
  have hs : ∀ e ∈ calls ((cycle Rotating.key).transcript inMemory Rotating.mended),
      succeeded e = true := by decide +kernel
  have hclaims : Rotating.mended.stores.claims =
      ((cycle Rotating.key).run inMemory Rotating.bench).2.stores.claims := rfl
  have hsecrets : Rotating.mended.stores.secrets =
      ((cycle Rotating.key).run inMemory Rotating.bench).2.stores.secrets := rfl
  obtain ⟨claim, secret, demand, hclaim, hvalid, -, -, hrotates⟩ :=
    unrecorded_sync placed hw hf hclaims hsecrets hs
  have hstored : Rotating.bench.stores.claims[Rotating.key]? = some Rotating.claim :=
    Std.ExtTreeMap.getElem?_insert_self
  obtain rfl : claim = Rotating.claim := Option.some.inj (hclaim.symm.trans hstored)
  obtain rfl : _ = demand := Except.ok.inj hvalid
  rcases hrotates (by decide) with ⟨e, hfailed, -⟩ | ⟨hupdated, -⟩
  · exact .inl ⟨e, hfailed⟩
  · exact .inr hupdated

/-- The Secret is created without a status, and the next cycle, where nothing fails, replaces
the password. -/
theorem password_lost :
    (∃ e ∈ calls ((cycle Rotating.key).transcript inMemory Rotating.bench),
      isSecretWrite e = true ∧ succeeded e = true) ∧
    (∀ e ∈ calls ((cycle Rotating.key).transcript inMemory Rotating.bench),
      isReport e = true → succeeded e = false) ∧
    (∀ e ∈ calls ((cycle Rotating.key).transcript inMemory Rotating.mended),
      succeeded e = true) ∧
    (∃ e ∈ calls ((cycle Rotating.key).transcript inMemory Rotating.mended),
      isSecretWrite e = true) ∧
    Rotating.password? Rotating.mended.stores = some (Bytes.utf8 "12312312") ∧
    Rotating.password? ((cycle Rotating.key).run inMemory Rotating.mended).2.stores =
      some (Bytes.utf8 "23123123") := by
  decide +kernel

end SecretKeeper.Controller
