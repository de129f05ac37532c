/-
# A cycle that went well leaves nothing to do

A cycle that ends with an outcome, all its store calls having succeeded, leaves the stores
such that the next cycle has nothing to do (`Settled`): the claim is gone, or its Secret
belongs to something else, or the Secret is the claim's own, meets the demand, and the
status says so.

Where the Secret was written there are three things to see.  The claim is found among the
owners of a Secret that was made for it, by its UID or by its name.  The data that were
written do not count as drifted from the demand they were made for.  And the status records
the trigger of the demand, whatever it recorded before, so the trigger is no longer new.

The next cycle reads the claim and the Secret, and ends there.
-/
import SecretKeeper.Proofs.Belonging
import SecretKeeper.Proofs.Replay

namespace SecretKeeper

/-! ## 1. What was written -/

/-- The stored bytes of verbatim values are the wanted ones. -/
theorem Drift.needsUpdate_copied (data : Dict String) :
    needsUpdate data (data.map fun _ value => Bytes.utf8 value) = false := by
  have hsize : (data.map fun _ value => Bytes.utf8 value).size = data.size :=
    Std.ExtTreeMap.size_map
  rw [needsUpdate, hsize, bne_self_eq_false, Bool.false_or, List.any_eq_false]
  rintro ⟨key, value⟩ hp
  have hfound : data[key]? = some value := Std.ExtTreeMap.mem_toList_iff_getElem?_eq_some.mp hp
  simp [Std.ExtTreeMap.getElem?_map, hfound]

/-- The trigger that was applied last is not new. -/
@[simp] theorem Drift.triggerChanged_self (trigger : String) :
    triggerChanged trigger trigger = false := by simp [triggerChanged]

/-- A claim is the owner of the Secret that is made for it, known by its UID or, if it has
none, by its name. -/
theorem Secret.isOwnedBy_new {claim : Claim} {key : Key} (h : claim.key? = some key)
    (data : Dict Bytes) : (Secret.new claim data).isOwnedBy claim = true := by
  refine isOwnedBy_new_of_name ?_ data
  rw [Metadata.name_of_key? h]
  rfl

namespace Controller

open Simulation

section Settling

variable {key : Key} {claim : Claim} {existing : Option Secret} {demand : Demand}
  {events : List (Event controllerInterface)} {data : Dict Bytes}

theorem written_key? (hc : claim.key? = some key)
    (hs : ∀ old, existing = some old → old.key? = some key) :
    (written claim existing data).key? = some key := by
  cases existing with
  | none => exact hc
  | some old => exact hs old rfl

/-- The Secret that is written is the claim's own. -/
theorem written_isOwnedBy (hc : claim.key? = some key) (own : isForeign claim existing = false) :
    (written claim existing data).isOwnedBy claim = true := by
  cases existing with
  | none => exact Secret.isOwnedBy_new hc data
  | some old =>
    have hold : old.isOwnedBy claim = true := by simpa [isForeign] using own
    exact hold

/-- Data that were made for the demand have not drifted from it, once its trigger is the one
applied last. -/
theorem Materialized.still (h : Materialized demand events data) (last : String) :
    Drift.detect demand (some data) (demand.reconcileTrigger.getD last) = false := by
  cases h with
  | verbatim data => exact Drift.needsUpdate_copied data
  | generated p values _ => exact Drift.triggerChanged_self p.reconcileTrigger

/-- What has not drifted does not drift by recording the trigger of the demand. -/
theorem still_of_still {stored : Option (Dict Bytes)} {last : String}
    (h : Drift.detect demand stored last = false) (other : String) :
    Drift.detect demand stored (demand.reconcileTrigger.getD other) = false := by
  cases demand with
  | verbatim data => exact h
  | generated p => exact Drift.triggerChanged_self p.reconcileTrigger

/-- The claim once a sync was reported on it. -/
def synced (claim : Claim) (demand : Demand) (stamp : String) : Claim :=
  { claim with status := some (.afterSync claim demand stamp) }

/-- The demand is met as well once the sync is reported. -/
theorem met_synced {secret : Secret} {stamp : String} (own : secret.isOwnedBy claim = true)
    (valid : claim.spec.validate = .ok demand)
    (still : ∀ last, Drift.detect demand secret.data (demand.reconcileTrigger.getD last) = false) :
    Met (synced claim demand stamp) secret demand := ⟨own, valid, still _⟩

/-! ## 2. Where nothing is left to do -/

/-- The outcome of a cycle after one that ended with this outcome. -/
def again : Outcome → Outcome
  | .claimGone => .claimGone
  | .skippedForeign => .skippedForeign
  | _ => .idle

theorem again_writeOutcome (existing : Option Secret) :
    again (writeOutcome existing) = .idle := by
  cases existing <;> rfl

/-- A cycle for the key has nothing to do, and this is its outcome. -/
inductive Settled (m : Memory) (key : Key) : Outcome → Prop
  | gone (readable : m.faults .readClaim = none) (h : m.claims[key]? = none) :
      Settled m key .claimGone
  | foreign {claim : Claim} {secret : Secret} (found : Finds m key claim (some secret))
      (h : secret.isOwnedBy claim = false) : Settled m key .skippedForeign
  | idle {claim : Claim} {secret : Secret} {demand : Demand}
      (found : Finds m key claim (some secret)) (met : Met claim secret demand)
      (h : claim.isSynced = true) : Settled m key .idle

variable {m m' : Memory}

/-- Where a claim has read that it is gone, it is gone. -/
theorem settled_of_gone (h : Replays Memory.serve m [⟨.readClaim key, .ok none⟩] m') :
    Settled m' key .claimGone := by
  obtain ⟨ha, rfl⟩ := h
  obtain ⟨hgone, hu⟩ := Memory.readClaim_ok ha
  refine .gone ?_ ?_
  · rw [Memory.faults_serve]
    exact Memory.fault_of_ok ha
  · rw [hu.claims]
    exact hgone

/-- Where a met demand has been reported, nothing is left to do. -/
theorem settled_of_report {secret : Secret} {stamp : String} {sent : Except StoreError Unit}
    (found : Finds m key claim (some secret)) (hk : claim.key? = some key)
    (met : ∀ stamp, Met (synced claim demand stamp) secret demand)
    (hr : Replays Memory.serve m [report claim (.afterSync claim demand stamp) sent] m')
    (hs : succeeded (report claim (.afterSync claim demand stamp) sent) = true) :
    Settled m' key .idle := by
  obtain ⟨ha, rfl⟩ := hr
  cases sent with
  | error e => cases hs
  | ok value =>
    obtain ⟨stored, hstored, hclaims, hsecrets⟩ := Memory.writeStatus_ok ha hk
    obtain rfl : stored = claim := Option.some.inj (hstored.symm.trans found.claim_stored)
    refine .idle (found.serve _ ?_ ?_) (met stamp) rfl
    · rw [hclaims, Std.ExtTreeMap.getElem?_insert_self]
      rfl
    · rw [hsecrets]
      exact found.secret_stored

/-- What is found after a Secret write is the Secret that was written. -/
theorem finds_written {value : (writeCall claim existing data).Value}
    (found : Finds m key claim existing)
    (hk : (written claim existing data).key? = some key)
    (hr : Replays Memory.serve m [⟨writeCall claim existing data, .ok value⟩] m') :
    Finds m' key claim (some (written claim existing data)) := by
  obtain ⟨ha, rfl⟩ := hr
  obtain ⟨hclaims, hsecrets⟩ := Memory.write_ok ha hk
  refine found.serve _ ?_ ?_
  · rw [hclaims]
    exact found.claim_stored
  · rw [hsecrets]
    exact Std.ExtTreeMap.getElem?_insert_self

/-- What is there once a Secret was written, just before the report. -/
theorem finds_after_write {attempt : List (Event controllerInterface)} {status : Status}
    {sent : Except StoreError Unit} (placed : m.Placed) (due : Due claim existing demand)
    (h : Attempt claim existing demand attempt (.ok ()))
    (hr : Replays Memory.serve m (calls (reads key claim existing ++ attempt ++
      [told (.writeStatus claim status) sent])) m') :
    ∃ drawn data m₁, Materialized demand drawn data ∧ claim.key? = some key ∧
      (written claim existing data).isOwnedBy claim = true ∧
      (written claim existing data).key? = some key ∧ m.claims[key]? = some claim ∧
      Finds m₁ key claim (some (written claim existing data)) ∧
      Replays Memory.serve m₁ [report claim status sent] m' := by
  obtain ⟨drawn, data, value, hm, hc⟩ := h.calls_of_ok
  rw [calls_append, calls_append, List.append_assoc, hc] at hr
  obtain ⟨found₀, m₁, -, found, hr⟩ := replays_reads hr
  obtain ⟨m₂, hw, hr⟩ := replays_append.mp hr
  have hk : claim.key? = some key := placed.claims key claim found₀.claim_stored
  have hwk : (written claim existing data).key? = some key := written_key? hk fun old ho =>
    placed.secrets key old (by rw [found₀.secret_stored, ho])
  exact ⟨drawn, data, m₂, hm, hk, written_isOwnedBy hk due.own, hwk, found₀.claim_stored,
    finds_written found hwk hw, hr⟩

/-- **A cycle that went well settles its key.** -/
theorem settled_of_course {outcome : Outcome} (placed : m.Placed)
    (h : Course key events (.ok outcome)) (hr : Replays Memory.serve m (calls events) m')
    (hs : ∀ e ∈ calls events, succeeded e = true) : Settled m' key (again outcome) := by
  cases h with
  | gone => exact settled_of_gone hr
  | @foreign claim old h =>
    rw [← List.append_nil (calls _)] at hr
    obtain ⟨-, m₁, -, found, rfl⟩ := replays_reads hr
    exact .foreign found h
  | @idle claim secret demand met h =>
    rw [← List.append_nil (calls _)] at hr
    obtain ⟨-, m₁, -, found, rfl⟩ := replays_reads hr
    exact .idle found met h
  | @repaired claim secret demand stamp sent met h =>
    rw [calls_append] at hr hs
    obtain ⟨found₀, m₁, -, found, hr⟩ := replays_reads hr
    have hk : claim.key? = some key := placed.claims key claim found₀.claim_stored
    refine settled_of_report found hk (fun _ => ?_) hr (hs _ ?_)
    · exact met_synced met.own met.valid (still_of_still met.still)
    · exact List.mem_append_right _ (List.mem_singleton_self _)
  | @written claim existing demand attempt stamp sent due h =>
    obtain ⟨drawn, data, m₁, hm, hk, own, -, -, found, hr⟩ := finds_after_write placed due h hr
    rw [again_writeOutcome]
    refine settled_of_report found hk (fun _ => ?_) hr (hs _ ?_)
    · exact met_synced own due.valid (by rw [written_data]; exact hm.still)
    · rw [calls_append]
      exact List.mem_append_right _ (List.mem_singleton_self _)

/-! ## 3. The next cycle -/

/-- A cycle for the key does nothing but read, and ends with this outcome. -/
structure Rests (key : Key) (b : Bench Memory) (outcome : Outcome) : Prop where
  ending : ((cycle key).run inMemory b).1 = .ok outcome
  reads : ∀ e ∈ calls ((cycle key).transcript inMemory b), isRead e = true
  claims : ((cycle key).run inMemory b).2.stores.claims = b.stores.claims
  secrets : ((cycle key).run inMemory b).2.stores.secrets = b.stores.secrets
  undrawn : ∀ e ∈ (cycle key).transcript inMemory b, isDraw e = false
  entropy : ((cycle key).run inMemory b).2.entropy = b.entropy

/-- A draw is among what leaves the controller. -/
theorem isDraw_of_outward {log : List (Event controllerInterface)}
    (h : ∀ e ∈ outward log, isDraw e = false) : ∀ e ∈ log, isDraw e = false := by
  intro e he
  cases hd : isDraw e with
  | false => rfl
  | true =>
    obtain ⟨r, answer⟩ := e
    cases r with
    | draw encoding length =>
      have := h _ (List.mem_filter.mpr ⟨he, rfl⟩)
      rw [this] at hd
      cases hd
    | _ => cases hd

theorem isDraw_reads : ∀ e ∈ reads key claim existing, isDraw e = false := by
  simp [reads, isDraw]

/-! The draws of a transcript are those of the store calls and draws in it, and the reads of a
cycle have none. -/

theorem filter_isDraw_outward {log : List (Event controllerInterface)} :
    (outward log).filter isDraw = log.filter isDraw := by
  rw [outward, List.filter_filter]
  refine List.filter_congr fun e _ => ?_
  obtain ⟨r, answer⟩ := e
  cases r <;> rfl

theorem filter_isDraw_reads : (reads key claim existing).filter isDraw = [] :=
  List.filter_eq_nil_iff.mpr fun e he => by simp [isDraw_reads e he]

theorem Materialized.filter_isDraw (h : Materialized demand events data) :
    events.filter isDraw = events := by
  cases h with
  | verbatim _ => rfl
  | generated p values _ => simp [draws, isDraw]

theorem settle_foreign {secret : Secret} (h : secret.isOwnedBy claim = false) :
    settle claim (some secret) =
      (count .ownershipSkips 1 >>= fun _ => .done (.ok .skippedForeign)) := by
  simp [settle, isForeign, h]

/-- A cycle that has found the claim's own Secret. -/
theorem settle_owned {secret : Secret} (own : secret.isOwnedBy claim = true)
    (valid : claim.spec.validate = .ok demand) :
    settle claim (some secret) = converge claim (some secret) demand := by
  simp [settle, isForeign, own, valid]

/-- A cycle that only repairs the status, or does nothing. -/
theorem converge_still {secret : Secret}
    (still : Drift.detect demand secret.data claim.lastReconcileTrigger = false) :
    converge claim (some secret) demand =
      if claim.isSynced then .done (.ok .idle) else succeed claim demand .statusRepaired :=
  if_neg (by rw [still]; exact Bool.false_ne_true)

theorem settle_idle {secret : Secret} (met : Met claim secret demand)
    (h : claim.isSynced = true) : settle claim (some secret) = .done (.ok .idle) := by
  rw [settle_owned met.own met.valid, converge_still met.still, if_pos h]

/-- Where nothing is left to do, the cycle reads and ends. -/
theorem Settled.course {outcome : Outcome} {r : Except CycleError Outcome}
    (h : Settled m key outcome) (hd : Does (cycle key) events r)
    (hr : Replays Memory.serve m (calls events) m') :
    r = .ok outcome ∧ Memory.Unchanged m m' ∧ (∀ e ∈ calls events, isRead e = true) ∧
      ∀ e ∈ events, isDraw e = false := by
  cases h with
  | gone readable h =>
    have hclaim := Memory.answer_readClaim key readable
    rw [h] at hclaim
    cases cycle_opening hd with
    | unread e => cases hclaim.symm.trans hr.1
    | unprobed _ => cases hclaim.symm.trans hr.1
    | probed _ => cases hclaim.symm.trans hr.1
    | gone =>
      obtain ⟨hgone, rfl⟩ := hr
      refine ⟨rfl, (Memory.readClaim_ok hgone).2, ?_, by simp [isDraw]⟩
      simp [isRead, isSecretWrite, isReport, StoreCall.writesSecret]
  | foreign found h =>
    obtain ⟨rest, m₁, rfl, hd, hu, hr⟩ := found.does hd hr
    rw [settle_foreign h] at hd
    simp only [does_bind_iff, does_count_iff, does_done_iff] at hd
    obtain ⟨_, _, _, rfl, rfl, rfl, rfl⟩ := hd
    cases hr
    exact ⟨rfl, hu, isRead_reads, isDraw_reads⟩
  | idle found met h =>
    obtain ⟨rest, m₁, rfl, hd, hu, hr⟩ := found.does hd hr
    rw [settle_idle met h, does_done_iff] at hd
    obtain ⟨rfl, rfl⟩ := hd
    cases hr
    exact ⟨rfl, hu, isRead_reads, isDraw_reads⟩

theorem Settled.rests {b : Bench Memory} {outcome : Outcome} (h : Settled b.stores key outcome) :
    Rests key b outcome := by
  obtain ⟨hd, hr⟩ := cycle_does_replays key b
  obtain ⟨hending, hu, hreads, hdraws⟩ := h.course hd hr
  rw [calls_outward] at hreads
  have hundrawn := isDraw_of_outward hdraws
  exact {
    ending := hending
    reads := hreads
    claims := hu.claims
    secrets := hu.secrets
    undrawn := hundrawn
    entropy := Bench.entropy_run (cycle key) b hundrawn }

/-- **Two cycles are as good as one.**  A cycle ends with an outcome, and all its store calls
succeed.  Then the next cycle that finds the stores as they were left, whatever time it is
and whatever random bytes there are, does nothing but read, and says that there is nothing to
do or repeats that the claim is gone or the Secret somebody else's. -/
theorem cycle_rests {b b' : Bench Memory} {outcome : Outcome} (placed : b.stores.Placed)
    (h : ((cycle key).run inMemory b).1 = .ok outcome)
    (hs : ∀ e ∈ calls ((cycle key).transcript inMemory b), succeeded e = true)
    (hb : b'.stores = ((cycle key).run inMemory b).2.stores) :
    Rests key b' (again outcome) := by
  obtain ⟨hd, hr⟩ := cycle_does_replays key b
  rw [h] at hd
  rw [← calls_outward] at hs
  have settled := settled_of_course placed (cycle_course hd) hr hs
  rw [← hb] at settled
  exact settled.rests

end Settling

/-! ## 4. One claim -/

namespace Plain

def key : Key := ⟨"default", "db"⟩

/-- A claim for a verbatim value, with neither UID nor status. -/
def claim : Claim where
  metadata := { ns := some "default", name := some "db" }
  spec := { type := "Opaque", data := (∅ : Dict String).insert "a" "1" }

/-- Stores with the claim and no Secret; there are no random bytes. -/
def bench : Bench Memory where
  stores := { claims := (∅ : Keyed Claim).insert key claim }
  entropy := { stream := .cycle [] [], answers := 0, message := "" }

end Plain

/-- After the cycle that creates the Secret, the next one is idle. -/
theorem plain_rests :
    ((cycle Plain.key).run inMemory Plain.bench).1 = .ok .created ∧
      Rests Plain.key ((cycle Plain.key).run inMemory Plain.bench).2 .idle := by
  have placed : Plain.bench.stores.Placed :=
    ⟨Keyed.forall_insert Keyed.forall_empty rfl, Keyed.forall_empty⟩
  have hs : ∀ e ∈ calls ((cycle Plain.key).transcript inMemory Plain.bench),
      succeeded e = true := by decide
  have hrun : ((cycle Plain.key).run inMemory Plain.bench).1 = .ok .created := rfl
  exact ⟨hrun, cycle_rests placed hrun hs rfl⟩

end Controller

end SecretKeeper
