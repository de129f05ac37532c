/-
# After a failure

A failure that got as far as a report leaves a status that is not in sync and records no
trigger, whatever the failure was and whatever was recorded before (`failure_forgets`).  So the
next cycle on the claim, which may have been edited meanwhile, is never idle: where it finds
nothing to write, there is still the status to repair.

For generated values the trigger decides, as nobody knows what was generated.  A failed cycle
may have been about to replace them; whether it did is not known, as a write may be carried out
although its answer is an error.  Since no trigger is recorded, one that is not empty counts as
new, and the values are made anew.  Without a trigger they stay.
-/
import SecretKeeper.Proofs.Coherence
import SecretKeeper.Proofs.Stability
import SecretKeeper.Proofs.Staleness

namespace SecretKeeper.Controller

open Program Simulation

section Recovery

variable {key : Key} {claim : Claim} {existing : Option Secret} {demand : Demand}
  {status : Status} {log events : List (Event controllerInterface)} {m m' : Memory}

/-! ## 1. What a failure leaves -/

/-- **A failure forgets the trigger.**  Whoever answers the cycle, and whether or not it is told
that its report got through. -/
theorem failure_forgets {W : Type} {serve : Server controllerInterface W} {w : W}
    {e : CycleError} {sent : (StoreCall.writeStatus claim status).Answer}
    (failed : ((cycle key).run serve w).1 = .error e)
    (reported : told (.writeStatus claim status) sent ∈ (cycle key).transcript serve w) :
    status.synced = false ∧ status.lastReconcileTrigger = "" := by
  have disciplined := (transcript_course serve key w).outline.disciplined
  rw [calls_outward] at disciplined
  have hmem := mem_calls reported
  rcases disciplined.error_reported e failed with
    ⟨k, x, hcalls, -⟩ | ⟨c, st, sent', hreports, hsynced, -, hforgotten⟩
  · rw [hcalls] at hmem
    cases List.mem_singleton.mp hmem
  · have hreport : (⟨.writeStatus claim status, sent⟩ : Event storeInterface) ∈
        (calls ((cycle key).transcript serve w)).filter isReport := List.mem_filter.mpr ⟨hmem, rfl⟩
    rw [hreports] at hreport
    cases List.mem_singleton.mp hreport
    exact ⟨hsynced, hforgotten⟩

/-! ## 2. A cycle in which nothing fails -/

/-- The request did not fail: the store carried the call out, or a value was drawn. -/
def succeeds : Event controllerInterface → Bool
  | ⟨.store _, .error _⟩ => false
  | ⟨.draw _ _, .error _⟩ => false
  | _ => true

theorem succeeded_of_succeeds (h : ∀ e ∈ log, succeeds e = true) :
    ∀ c ∈ calls log, succeeded c = true := by
  rintro ⟨call, answer⟩ hc
  have hs := h _ (mem_of_mem_calls hc)
  cases answer with
  | ok value => rfl
  | error e => cases hs

/-- Where every value was drawn, the data are complete, and the Secret is written. -/
theorem Attempt.flawless {result : Except CycleError Unit}
    (h : Attempt claim existing demand events result) (hs : ∀ e ∈ events, succeeds e = true) :
    result = .ok () := by
  cases h with
  | @undrawn drawn x h =>
    cases h with
    | generated p values _ _ => cases hs (drew p (.error x)) (by simp)
  | @unwritten drawn data e h =>
    cases hs (told (writeCall claim existing data) (.error e)) (by simp)
  | written value h => rfl

/-- What a cycle does after its reads when nothing fails, and something is left to report: it
writes the Secret and reports, or it reports alone. -/
inductive Brought (claim : Claim) (demand : Demand) (stamp : String) :
    Option Secret → List (Event controllerInterface) → Outcome → Prop
  | written {existing : Option Secret} {drawn : List (Event controllerInterface)}
      {data : Dict Bytes} (value : (writeCall claim existing data).Value)
      (due : Due claim existing demand) (made : Materialized demand drawn data) :
      Brought claim demand stamp existing
        (drawn ++ [told (writeCall claim existing data) (.ok value)] ++
          [told (.writeStatus claim (.afterSync claim demand stamp)) (.ok ())])
        (writeOutcome existing)
  | repaired {secret : Secret} (met : Met claim secret demand) :
      Brought claim demand stamp (some secret)
        [told (.writeStatus claim (.afterSync claim demand stamp)) (.ok ())] .statusRepaired

/-- **A cycle in which nothing fails** brings the Secret in line and reports it, if the last
report did not say that it is. -/
theorem Course.flawless {ending : Except CycleError Outcome} (h : Course key events ending)
    (read : told (.readClaim key) (.ok (some claim)) ∈ events)
    (own : ∀ old, told (.readSecret key) (.ok (some old)) ∈ events → old.isOwnedBy claim = true)
    (valid : claim.spec.validate = .ok demand) (unsynced : claim.isSynced = false)
    (hs : ∀ e ∈ events, succeeds e = true) :
    ∃ existing rest outcome stamp, events = reads key claim existing ++ rest ∧
      ending = .ok outcome ∧ Brought claim demand stamp existing rest outcome := by
  have unique : ∀ {other}, told (.readClaim key) (.ok (some other)) ∈ events → claim = other :=
    fun again => h.claim_unique read again
  have flawless := succeeded_of_succeeds hs
  cases h with
  | unread e => cases List.mem_singleton.mp read
  | gone => cases List.mem_singleton.mp read
  | unprobed other e => cases hs (told (.readSecret key) (.error e)) (by simp)
  | @foreign other old h =>
    obtain rfl : claim = other := unique (by simp [reads])
    rw [own old (by simp [reads])] at h
    cases h
  | @refused other existing e stamp sent own h =>
    obtain rfl : claim = other := unique (by simp [reads])
    rw [valid] at h
    cases h
  | failed stamp sent due h =>
    cases h.flawless fun e he => hs e (List.mem_append_left _ (List.mem_append_right _ he))
  | @written other existing made attempt stamp sent due h =>
    obtain rfl : claim = other := unique (by simp [reads])
    obtain rfl : demand = made := Except.ok.inj (valid.symm.trans due.valid)
    obtain rfl := sent_of_flawless flawless (List.mem_append_right _ (List.mem_singleton_self _))
    obtain ⟨drawn, data, value, made, rfl⟩ := h.eq_of_ok
    exact ⟨existing, _, _, stamp, List.append_assoc _ _ _, rfl, .written value due made⟩
  | @repaired other secret made stamp sent met h =>
    obtain rfl : claim = other := unique (by simp [reads])
    obtain rfl : demand = made := Except.ok.inj (valid.symm.trans met.valid)
    obtain rfl := sent_of_flawless flawless (List.mem_append_right _ (List.mem_singleton_self _))
    exact ⟨some secret, _, _, stamp, rfl, rfl, .repaired met⟩
  | @idle other secret made met h =>
    obtain rfl : claim = other := unique (by simp [reads])
    rw [unsynced] at h
    cases h

/-! ## 3. What the cycle has said and done -/

/-- The cycle was not idle.  It has reported a sync; and for generated values it has replaced a
Secret that it found, with values that it has drawn under the trigger of the claim, or it has
left the Secrets alone, as the trigger is empty. -/
structure Recovered (key : Key) (claim : Claim) (log : List (Event controllerInterface))
    (outcome : Outcome) (status : Status) : Prop where
  busy : outcome = .created ∨ outcome = .updated ∨ outcome = .statusRepaired
  reported : told (.writeStatus claim status) (.ok ()) ∈ log
  synced : status.synced = true
  faultless : status.errorMessage = ""
  ready : ∃ c, status.conditions.filter (·.type == Condition.ready) = [c] ∧ c.status = "True"
  replaced : claim.spec.type = "AutoGenerated" → claim.reconcileTrigger ≠ "" →
    ∀ old, told (.readSecret key) (.ok (some old)) ∈ log →
      outcome = .updated ∧ status.lastReconcileTrigger = claim.reconcileTrigger ∧
      ∃ p data, claim.spec.validate = .ok (.generated p) ∧
        p.reconcileTrigger = claim.reconcileTrigger ∧
        Materialized (.generated p) (log.filter isDraw) data ∧
        told (.replaceSecret (old.withData data)) (.ok ()) ∈ log
  untouched : claim.spec.type = "AutoGenerated" → claim.reconcileTrigger = "" →
    ∀ old, told (.readSecret key) (.ok (some old)) ∈ log →
      outcome = .statusRepaired ∧ ∀ e ∈ calls log, isSecretWrite e = false

theorem Brought.outcome_cases {stamp : String} {outcome : Outcome}
    (h : Brought claim demand stamp existing events outcome) :
    outcome = .created ∨ outcome = .updated ∨ outcome = .statusRepaired := by
  cases h with
  | written => cases existing <;> simp [writeOutcome]
  | repaired => simp

/-- The draws of such a cycle are those of its data. -/
theorem Materialized.filter_isDraw_written {drawn : List (Event controllerInterface)}
    {data : Dict Bytes} {answer : (writeCall claim existing data).Answer}
    {sent : (StoreCall.writeStatus claim status).Answer} (made : Materialized demand drawn data) :
    (reads key claim existing ++ (drawn ++ [told (writeCall claim existing data) answer] ++
      [told (.writeStatus claim status) sent])).filter isDraw = drawn := by
  simp [filter_isDraw_reads, made.filter_isDraw, isDraw]

/-- Where no trigger is recorded, the trigger of the claim decides. -/
theorem Brought.recovered {stamp : String} {outcome : Outcome}
    (h : Brought claim demand stamp existing events outcome)
    (hlog : outward log = reads key claim existing ++ events)
    (course : Course key (outward log) (.ok outcome))
    (valid : claim.spec.validate = .ok demand) (forgotten : claim.lastReconcileTrigger = "") :
    Recovered key claim log outcome (.afterSync claim demand stamp) := by
  have found : ∀ old, told (.readSecret key) (.ok (some old)) ∈ log → existing = some old :=
    fun old hold => course.secret_unique (by simp [hlog, reads]) (List.mem_filter.mpr ⟨hold, rfl⟩)
  refine
    { busy := h.outcome_cases
      reported := mem_of_mem_outward (by cases h <;> simp [hlog])
      synced := rfl
      faultless := rfl
      ready := ⟨_, Condition.filter_ready_withReady, rfl⟩
      replaced := fun hg hne old hold => ?_
      untouched := fun hg hempty old hold => ?_ }
  · obtain rfl := found old hold
    obtain ⟨p, rfl, hp⟩ := claim.demand_of_generated hg valid
    cases h with
    | @written _ drawn data value due made =>
      have hdrawn : log.filter isDraw = drawn := by
        rw [← filter_isDraw_outward, hlog, made.filter_isDraw_written]
      have hthere : told (writeCall claim (some old) data) (.ok value) ∈ log :=
        mem_of_mem_outward (by simp [hlog])
      exact ⟨rfl, hp, p, data, valid, hp, by rw [hdrawn]; exact made, hthere⟩
    | repaired met =>
      -- what is recorded is empty, and so the trigger would have to be
      rcases Drift.triggerChanged_eq_false_iff.mp met.still with h | h
      · exact absurd (hp ▸ h) hne
      · exact absurd (hp ▸ h.trans forgotten) hne
  · obtain rfl := found old hold
    cases h with
    | written _ due => exact absurd hempty (due.renewed hg).1
    | repaired =>
      refine ⟨rfl, fun e he => ?_⟩
      rw [← calls_outward, hlog, calls_append] at he
      rcases List.mem_append.mp he with he | he
      · exact isSecretWrite_reads e he
      · rw [List.mem_singleton.mp he]
        rfl

/-! ## 4. What the stores hold then -/

/-- A report that got through is stored, and leaves the Secrets alone. -/
theorem stored_of_report {sent : (StoreCall.writeStatus claim status).Value}
    (stored : m.claims[key]? = some claim) (hk : claim.key? = some key)
    (hr : Replays Memory.serve m [⟨.writeStatus claim status, .ok sent⟩] m') :
    m'.claims[key]? = some { claim with status := some status } ∧ m'.secrets = m.secrets := by
  obtain ⟨ha, rfl⟩ := hr
  obtain ⟨other, hother, hclaims, hsecrets⟩ := Memory.writeStatus_ok ha hk
  obtain rfl : other = claim := Option.some.inj (hother.symm.trans stored)
  exact ⟨by rw [hclaims, Std.ExtTreeMap.getElem?_insert_self], hsecrets⟩

/-- The stores hold what the cycle has reported and written, and the Secrets that they held if it
has written none. -/
structure Holds (key : Key) (claim : Claim) (log : List (Event controllerInterface))
    (status : Status) (m m' : Memory) : Prop where
  status : m'.claims[key]? = some { claim with status := some status }
  written : ∀ existing data value, told (writeCall claim existing data) (.ok value) ∈ log →
    m'.secrets[key]? = some (Controller.written claim existing data)
  untouched : (∀ e ∈ calls log, isSecretWrite e = false) → m'.secrets = m.secrets

/-- What a write leaves, its call tells. -/
theorem written_eq_of_writeCall {other : Option Secret} {data data' : Dict Bytes}
    (h : writeCall claim existing data = writeCall claim other data') :
    written claim existing data = written claim other data' := by
  cases existing with
  | none =>
    cases other with
    | none => exact StoreCall.createSecret.inj h
    | some => cases h
  | some =>
    cases other with
    | none => cases h
    | some => exact StoreCall.replaceSecret.inj h

/-- The stores are left with the sync that was reported, and the Secret that was written. -/
theorem Brought.holds {stamp : String} {outcome : Outcome}
    (h : Brought claim demand stamp existing events outcome)
    (hlog : outward log = reads key claim existing ++ events)
    (stored : m.claims[key]? = some claim) (hk : claim.key? = some key)
    (hs : ∀ old, existing = some old → old.key? = some key)
    (hr : Replays Memory.serve m (calls events) m') :
    Holds key claim log (.afterSync claim demand stamp) m m' := by
  have hcalls : calls log = calls (reads key claim existing) ++ calls events := by
    rw [← calls_outward, hlog, calls_append]
  cases h with
  | @written existing drawn data value due made =>
    rw [calls_append, calls_append, made.calls_eq_nil, List.nil_append] at hr hcalls
    obtain ⟨m₁, ⟨hw, rfl⟩, hr⟩ := replays_append.mp hr
    obtain ⟨hsame, hinsert⟩ := Memory.write_ok hw (written_key? hk hs)
    obtain ⟨hclaims, hsecrets⟩ := stored_of_report (by rw [hsame]; exact stored) hk hr
    have hthere : (⟨writeCall claim existing data, .ok value⟩ : Event storeInterface) ∈
        calls log := by simp [hcalls]
    refine ⟨hclaims, fun other data' value' hm => ?_, fun hnone => ?_⟩
    · rw [hsecrets, hinsert, Std.ExtTreeMap.getElem?_insert_self]
      -- no other call of the cycle is a write
      have hm := mem_calls hm
      rw [hcalls] at hm
      rcases List.mem_append.mp hm with hm | hm
      · have hread := isSecretWrite_reads _ hm
        rw [isSecretWrite_writeCall] at hread
        cases hread
      · rcases List.mem_cons.mp hm with hm | hm
        · rw [written_eq_of_writeCall (congrArg Event.request hm)]
        · cases other <;> cases List.mem_singleton.mp hm
    · have hwrite := hnone _ hthere
      rw [isSecretWrite_writeCall] at hwrite
      cases hwrite
  | @repaired secret met =>
    obtain ⟨hclaims, hsecrets⟩ := stored_of_report stored hk hr
    refine ⟨hclaims, fun other data value hm => ?_, fun _ => hsecrets⟩
    have hm := mem_calls hm
    rw [hcalls] at hm
    have hwrite := isSecretWrite_report _ hm
    rw [isSecretWrite_writeCall] at hwrite
    cases hwrite

/-- **After a failure the next cycle makes good.**  A cycle has failed, and the status that it
reported is that of the claim now, whatever has become of the claim otherwise; and the claim is
valid.

* Whoever answers the next cycle, if it reads this claim, if the Secret that it finds is the
  claim's own, and if nothing fails, then it is not idle but reports a sync.  For generated values
  it replaces a Secret that it finds with values that it has drawn under the trigger of the claim,
  if that is not empty; if it is, it writes no Secret.
* If there is nobody else at the stores, they hold what it has reported and written. -/
theorem failure_recovered {W : Type} {serve : Server controllerInterface W} {w : W}
    {e : CycleError} {sent : (StoreCall.writeStatus claim status).Answer} {later : Claim}
    (failed : ((cycle key).run serve w).1 = .error e)
    (reported : told (.writeStatus claim status) sent ∈ (cycle key).transcript serve w)
    (kept : later.status = some status) (valid : ∃ demand, later.spec.validate = .ok demand) :
    (∀ (W' : Type) (serve' : Server controllerInterface W') (w' : W'),
      told (.readClaim key) (.ok (some later)) ∈ (cycle key).transcript serve' w' →
      (∀ old, told (.readSecret key) (.ok (some old)) ∈ (cycle key).transcript serve' w' →
        old.isOwnedBy later = true) →
      (∀ e ∈ (cycle key).transcript serve' w', succeeds e = true) →
      ∃ outcome st, ((cycle key).run serve' w').1 = .ok outcome ∧
        Recovered key later ((cycle key).transcript serve' w') outcome st) ∧
    ∀ b : Bench Memory, b.stores.Placed → b.stores.claims[key]? = some later →
      (∀ old, b.stores.secrets[key]? = some old → old.isOwnedBy later = true) →
      (∀ e ∈ (cycle key).transcript inMemory b, succeeds e = true) →
      ∃ outcome st, ((cycle key).run inMemory b).1 = .ok outcome ∧
        Recovered key later ((cycle key).transcript inMemory b) outcome st ∧
        Holds key later ((cycle key).transcript inMemory b) st b.stores
          ((cycle key).run inMemory b).2.stores ∧
        ∀ old, b.stores.secrets[key]? = some old →
          told (.readSecret key) (.ok (some old)) ∈ (cycle key).transcript inMemory b := by
  obtain ⟨hsynced, hforgotten⟩ := failure_forgets failed reported
  obtain ⟨demand, valid⟩ := valid
  have unsynced : later.isSynced = false := by simp [Claim.isSynced, kept, hsynced]
  have forgotten : later.lastReconcileTrigger = "" := by
    simp [Claim.lastReconcileTrigger, kept, hforgotten]
  refine ⟨?_, ?_⟩
  · intro W' serve' w' read own hs
    have course := transcript_course serve' key w'
    obtain ⟨existing, rest, outcome, stamp, hlog, hending, brought⟩ :=
      course.flawless (List.mem_filter.mpr ⟨read, rfl⟩)
        (fun old hold => own old (mem_of_mem_outward hold)) valid unsynced
        fun e he => hs e (mem_of_mem_outward he)
    rw [hending] at course
    exact ⟨outcome, _, hending, brought.recovered hlog course valid forgotten⟩
  · intro b placed stored own hs
    obtain ⟨hd, hr⟩ := cycle_does_replays key b
    have course := cycle_course hd
    have hs : ∀ e ∈ outward ((cycle key).transcript inMemory b), succeeds e = true :=
      fun e he => hs e (mem_of_mem_outward he)
    have found := finds_of_succeeded hd hr (succeeded_of_succeeds hs) stored rfl
    obtain ⟨rest, m₁, hevents, -, hu, hr⟩ := found.does hd hr
    have probed : told (.readSecret key) (.ok b.stores.secrets[key]?) ∈
        outward ((cycle key).transcript inMemory b) := by simp [hevents, reads]
    obtain ⟨existing, rest', outcome, stamp, hlog, hending, brought⟩ :=
      course.flawless (by simp [hevents, reads])
        (fun old hold => own old (course.secret_unique probed hold)) valid unsynced hs
    obtain rfl : b.stores.secrets[key]? = existing :=
      course.secret_unique probed (by simp [hlog, reads])
    obtain rfl : rest = rest' := List.append_cancel_left (hevents.symm.trans hlog)
    rw [hending] at course
    have holds := brought.holds hlog (by rw [hu.claims]; exact stored)
      (placed.claims key later stored) (fun old hold => placed.secrets key old hold) hr
    refine ⟨outcome, _, hending, brought.recovered hlog course valid forgotten, ?_,
      fun old hold => mem_of_mem_outward (hold ▸ probed)⟩
    exact ⟨holds.status, holds.written, fun hnone => (holds.untouched hnone).trans hu.secrets⟩

end Recovery

/-! ## 5. A password that could not be made -/

namespace Failing

/-- The Secret of the claim, with an old password. -/
def secret : Secret :=
  .new Rotating.claim ((∅ : Dict Bytes).insert "password" (Bytes.utf8 "old"))

/-- Stores with the claim, which has a new trigger, and the Secret; there are no random bytes. -/
def bench : Bench Memory where
  stores :=
    { claims := (∅ : Keyed Claim).insert Rotating.key Rotating.claim
      secrets := (∅ : Keyed Secret).insert Rotating.key secret }
  entropy := { stream := .cycle [] [], answers := 0, message := "no entropy" }

/-- The status of the claim after the cycle. -/
def status : Status :=
  .afterFailure Rotating.claim (EntropyFailure.mk "no entropy").message ""

/-- The claim after the cycle. -/
def claim : Claim := { Rotating.claim with status := some status }

/-- The bench after the cycle, once there are random bytes again. -/
def mended : Bench Memory :=
  { ((cycle Rotating.key).run inMemory bench).2 with
    entropy := { stream := .cycle [1, 2, 3] [], answers := 8, message := "" } }

theorem reported : told (.writeStatus Rotating.claim status) (.ok ()) ∈
    (cycle Rotating.key).transcript inMemory bench :=
  .tail _ (.tail _ (.tail _ (.tail _ (.tail _ (.head _)))))

end Failing

/-- The next cycle replaces the password. -/
theorem password_made :
    (∃ e, ((cycle Rotating.key).run inMemory Failing.bench).1 = .error (.generation e)) ∧
    ((cycle Rotating.key).run inMemory Failing.mended).1 = .ok .updated ∧
    ∃ p data, p.reconcileTrigger = "t1" ∧ Materialized (.generated p)
      (((cycle Rotating.key).transcript inMemory Failing.mended).filter isDraw) data ∧
      ((cycle Rotating.key).run inMemory Failing.mended).2.stores.secrets[Rotating.key]? =
        some (Failing.secret.withData data) := by
  have failed : ((cycle Rotating.key).run inMemory Failing.bench).1 =
      .error (.generation ⟨"no entropy"⟩) := rfl
  have kept : Failing.claim.status = some Failing.status := rfl
  -- the report has been stored over the claim that was there first
  have placed : Failing.mended.stores.Placed :=
    ⟨Keyed.forall_insert (Keyed.forall_insert Keyed.forall_empty rfl) rfl,
      Keyed.forall_insert Keyed.forall_empty rfl⟩
  have there : Failing.mended.stores.claims[Rotating.key]? = some Failing.claim :=
    Std.ExtTreeMap.getElem?_insert_self
  have secret_there : Failing.mended.stores.secrets[Rotating.key]? = some Failing.secret :=
    Std.ExtTreeMap.getElem?_insert_self
  have own : ∀ old, Failing.mended.stores.secrets[Rotating.key]? = some old →
      old.isOwnedBy Failing.claim = true := by
    intro old hold
    obtain rfl := Option.some.inj (secret_there.symm.trans hold)
    decide
  have hs : ∀ e ∈ (cycle Rotating.key).transcript inMemory Failing.mended,
      succeeds e = true := by decide +kernel
  obtain ⟨outcome, st, hending, recovered, holds, probed⟩ := (failure_recovered failed
    Failing.reported kept ⟨_, rfl⟩).2 Failing.mended placed there own hs
  obtain ⟨rfl, -, p, data, -, hp, made, hthere⟩ := recovered.replaced rfl (by decide)
    Failing.secret (probed _ secret_there)
  have written := holds.written (some Failing.secret) data () hthere
  exact ⟨⟨_, failed⟩, hending, p, data, hp, made, written⟩

end SecretKeeper.Controller
