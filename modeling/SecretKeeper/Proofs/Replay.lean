/-
# What the stores are left with

A program on the bench leaves in the stores what its calls have done there, one after the
other, and it leaves the random source alone unless it draws.  So the transcript of a cycle
tells what the stores hold after it (`Bench.replays`).

The rest is about the stores in memory: what has happened to them if a call was answered in
a certain way.  A call that succeeds does what it says, and one that fails does nothing,
whatever the reason is.
-/
import SecretKeeper.Proofs.Dict
import SecretKeeper.Proofs.Discipline
import SecretKeeper.Simulation.Bench

namespace SecretKeeper

/-- An object with a key is stored in the place of that key. -/
theorem Metadata.place_of_key? {m : Metadata} {key : Key} (h : m.key? = some key) :
    m.place = key := by
  obtain ⟨name, generateName, ns, _⟩ := m
  cases ns <;> cases name <;> simp_all [key?, place]

namespace Simulation

open Controller

/-! ## 1. On the bench -/

section Bench

variable {S α : Type} {stores : StoreServer S}

/-- Asked these calls one after the other, the stores give these answers and come to this
state. -/
def Replays (stores : StoreServer S) : S → List (Event storeInterface) → S → Prop
  | s, [], s' => s' = s
  | s, e :: rest, s' =>
    (stores e.request s).answer = e.answer ∧ Replays stores (stores e.request s).after rest s'

theorem replays_append {events rest : List (Event storeInterface)} {s s' : S} :
    Replays stores s (events ++ rest) s' ↔
      ∃ between, Replays stores s events between ∧ Replays stores between rest s' := by
  induction events generalizing s with
  | nil => exact ⟨fun h => ⟨s, rfl, h⟩, fun ⟨_, h, h'⟩ => by cases h; exact h'⟩
  | cons e events ih =>
    constructor
    · rintro ⟨ha, h⟩
      obtain ⟨between, h₁, h₂⟩ := ih.mp h
      exact ⟨between, ⟨ha, h₁⟩, h₂⟩
    · rintro ⟨between, ⟨ha, h₁⟩, h₂⟩
      exact ⟨ha, ih.mpr ⟨between, h₁, h₂⟩⟩

/-- **The stores are left with what the calls have done.** -/
theorem Bench.replays (p : Controller α) (b : Bench S) :
    Replays stores b.stores (calls (p.transcript (serve stores) b))
      (p.run (serve stores) b).2.stores := by
  induction p generalizing b with
  | done a => rfl
  | ask r resume ih =>
    have h := ih (serve stores r b).answer (serve stores r b).after
    cases r with
    | store call => exact ⟨rfl, h⟩
    | note field value =>
      have hs : (serve stores (.note field value) b).after.stores = b.stores := by
        simp only [serve, atOnce, note]
        split <;> rfl
      rw [hs] at h
      exact h
    | _ => exact h

/-- Stores that answer nothing, on a bench of which only the rest is used. -/
def nowhere : StoreServer Unit := fun _ s =>
  { issued := s, delay := 0, answer := .error (.unavailable ""), after := s }

/-- The event is a draw. -/
def isDraw (e : Event controllerInterface) : Bool :=
  match e.request with
  | .draw _ _ => true
  | _ => false

/-- Without a draw the random source is left alone. -/
theorem Bench.entropy_run (p : Controller α) (b : Bench S)
    (h : ∀ e ∈ p.transcript (serve stores) b, isDraw e = false) :
    (p.run (serve stores) b).2.entropy = b.entropy := by
  induction p generalizing b with
  | done a => rfl
  | ask r resume ih =>
    obtain ⟨hr, hrest⟩ := List.forall_mem_cons.mp h
    have h := ih (serve stores r b).answer (serve stores r b).after hrest
    cases r with
    | draw encoding length => cases hr
    | note field value =>
      have he : (serve stores (.note field value) b).after.entropy = b.entropy := by
        simp only [serve, atOnce, note]
        split <;> rfl
      exact h.trans he
    | _ => exact h

end Bench

/-! ## 2. In memory -/

namespace Memory

variable {m m' : Memory} {key : Key} {claim : Claim} {existing : Option Secret}

/-- Every object is stored under its own key. -/
structure Placed (m : Memory) : Prop where
  claims : ∀ (key : Key) (claim : Claim), m.claims[key]? = some claim → claim.key? = some key
  secrets : ∀ (key : Key) (secret : Secret), m.secrets[key]? = some secret →
    secret.key? = some key

/-- The stores hold the same objects. -/
structure Unchanged (m m' : Memory) : Prop where
  claims : m'.claims = m.claims
  secrets : m'.secrets = m.secrets

theorem Unchanged.trans {m'' : Memory} (h : Unchanged m m') (h' : Unchanged m' m'') :
    Unchanged m m'' := ⟨h'.claims.trans h.claims, h'.secrets.trans h.secrets⟩

/-- Calls fail as they did before. -/
theorem faults_serve (m : Memory) (call : StoreCall) :
    (serve call m).after.faults = m.faults := by
  cases hf : m.faults call.kind with
  | some x => simp only [serve, hf, logged]
  | none =>
    simp only [serve, hf]
    cases call with
    | readClaim _ => rfl
    | readSecret _ => rfl
    | replaceSecret _ => rfl
    | writeStatus claim status => simp only [act]; split <;> rfl
    | createSecret secret => simp only [act]; split <;> rfl

/-- Only a Secret write changes a Secret. -/
theorem secrets_serve (m : Memory) {call : StoreCall} (h : call.writesSecret = false) :
    (serve call m).after.secrets = m.secrets := by
  cases hf : m.faults call.kind with
  | some x => simp only [serve, hf, logged]
  | none =>
    simp only [serve, hf]
    cases call with
    | readClaim _ => rfl
    | readSecret _ => rfl
    | replaceSecret _ => cases h
    | createSecret _ => cases h
    | writeStatus claim status => simp only [act]; split <;> rfl

theorem secrets_of_replays {events : List (Event storeInterface)}
    (h : Replays serve m events m') (hw : ∀ e ∈ events, isSecretWrite e = false) :
    m'.secrets = m.secrets := by
  induction events generalizing m with
  | nil => rw [show m' = m from h]
  | cons e events ih =>
    obtain ⟨he, hrest⟩ := List.forall_mem_cons.mp hw
    exact (ih h.2 hrest).trans (secrets_serve m he)

/-- Of a claim, a call changes nothing but the status. -/
theorem claim_serve (call : StoreCall) (h : m.claims[key]? = some claim) :
    ∃ status, (serve call m).after.claims[key]? = some { claim with status := status } := by
  cases hf : m.faults call.kind with
  | some x =>
    simp only [serve, hf]
    exact ⟨claim.status, h⟩
  | none =>
    simp only [serve, hf]
    cases call with
    | readClaim _ => exact ⟨claim.status, h⟩
    | readSecret _ => exact ⟨claim.status, h⟩
    | replaceSecret _ => exact ⟨claim.status, h⟩
    | createSecret secret =>
      simp only [act]
      split <;> exact ⟨claim.status, h⟩
    | writeStatus other status =>
      simp only [act]
      split
      next => exact ⟨claim.status, h⟩
      next stored hs =>
        by_cases hk : key = other.metadata.place
        · subst hk
          obtain rfl : claim = stored := Option.some.inj (h.symm.trans hs)
          exact ⟨some status, Std.ExtTreeMap.getElem?_insert_self⟩
        · exact ⟨claim.status, (Keyed.getElem?_insert_of_ne hk).trans h⟩

theorem claim_of_replays {events : List (Event storeInterface)}
    (h : Replays serve m events m') (hc : m.claims[key]? = some claim) :
    ∃ status, m'.claims[key]? = some { claim with status := status } := by
  induction events generalizing m claim with
  | nil => rw [show m' = m from h]; exact ⟨claim.status, hc⟩
  | cons e events ih =>
    obtain ⟨status, hs⟩ := claim_serve e.request hc
    have hrest := ih h.2 hs
    exact hrest

/-- A call that succeeds was not told to fail. -/
theorem fault_of_ok {call : StoreCall} {value : call.Value}
    (h : (serve call m).answer = .ok value) : m.faults call.kind = none := by
  cases hf : m.faults call.kind with
  | none => rfl
  | some x =>
    simp only [serve, hf] at h
    cases h

/-- A call that succeeds has acted. -/
theorem act_of_ok {call : StoreCall} {value : call.Value}
    (h : (serve call m).answer = .ok value) :
    (m.logged call).act call = (.ok value, (serve call m).after) := by
  unfold serve at h ⊢
  split at h
  · cases h
  · exact Prod.ext h rfl

/-- A call that fails has done nothing. -/
theorem unchanged_of_error {call : StoreCall} {e : StoreError}
    (h : (serve call m).answer = .error e) : Unchanged m (serve call m).after := by
  cases hf : m.faults call.kind with
  | some x =>
    simp only [serve, hf]
    exact ⟨rfl, rfl⟩
  | none =>
    simp only [serve, hf] at h ⊢
    cases call with
    | readClaim _ => cases h
    | readSecret _ => cases h
    | replaceSecret _ => cases h
    | writeStatus claim status =>
      simp only [act] at h ⊢
      split at h
      · exact ⟨rfl, rfl⟩
      · cases h
    | createSecret secret =>
      simp only [act] at h ⊢
      split at h
      next hc => rw [if_pos hc]; exact ⟨rfl, rfl⟩
      next => cases h

theorem readClaim_ok {found : Option Claim}
    (h : (serve (.readClaim key) m).answer = .ok found) :
    m.claims[key]? = found ∧ Unchanged m (serve (.readClaim key) m).after := by
  have ha : (Except.ok m.claims[key]?, m.logged (.readClaim key)) =
      ((.ok found : (StoreCall.readClaim key).Answer), _) := act_of_ok h
  obtain ⟨hv, hm⟩ := Prod.mk.inj ha
  rw [← hm]
  exact ⟨Except.ok.inj hv, rfl, rfl⟩

theorem readSecret_ok {found : Option Secret}
    (h : (serve (.readSecret key) m).answer = .ok found) :
    m.secrets[key]? = found ∧ Unchanged m (serve (.readSecret key) m).after := by
  have ha : (Except.ok m.secrets[key]?, m.logged (.readSecret key)) =
      ((.ok found : (StoreCall.readSecret key).Answer), _) := act_of_ok h
  obtain ⟨hv, hm⟩ := Prod.mk.inj ha
  rw [← hm]
  exact ⟨Except.ok.inj hv, rfl, rfl⟩

theorem createSecret_ok {secret : Secret} {value : (StoreCall.createSecret secret).Value}
    (h : (serve (.createSecret secret) m).answer = .ok value) :
    (serve (.createSecret secret) m).after.claims = m.claims ∧
      (serve (.createSecret secret) m).after.secrets =
        m.secrets.insert secret.metadata.place secret := by
  have ha := act_of_ok h
  simp only [act] at ha
  split at ha
  · cases (Prod.mk.inj ha).1
  · obtain ⟨-, hm⟩ := Prod.mk.inj ha
    rw [← hm]
    exact ⟨rfl, rfl⟩

theorem replaceSecret_ok {secret : Secret} {value : (StoreCall.replaceSecret secret).Value}
    (h : (serve (.replaceSecret secret) m).answer = .ok value) :
    (serve (.replaceSecret secret) m).after.claims = m.claims ∧
      (serve (.replaceSecret secret) m).after.secrets =
        m.secrets.insert secret.metadata.place secret := by
  obtain ⟨-, hm⟩ := Prod.mk.inj (act_of_ok h)
  rw [← hm]
  exact ⟨rfl, rfl⟩

/-- A status that was written is that of the stored claim. -/
theorem writeStatus_ok {status : Status} {value : (StoreCall.writeStatus claim status).Value}
    (h : (serve (.writeStatus claim status) m).answer = .ok value)
    (hk : claim.key? = some key) :
    ∃ stored, m.claims[key]? = some stored ∧
      (serve (.writeStatus claim status) m).after.claims =
        m.claims.insert key { stored with status := some status } ∧
      (serve (.writeStatus claim status) m).after.secrets = m.secrets := by
  have ha := act_of_ok h
  rw [← Metadata.place_of_key? hk]
  simp only [act] at ha
  split at ha
  · cases (Prod.mk.inj ha).1
  next stored hs =>
    obtain ⟨-, hm⟩ := Prod.mk.inj ha
    rw [← hm]
    exact ⟨stored, hs, rfl, rfl⟩

/-- A Secret that was written is the one stored under its key. -/
theorem write_ok {data : Dict Bytes} {value : (writeCall claim existing data).Value}
    (h : (serve (writeCall claim existing data) m).answer = .ok value)
    (hk : (written claim existing data).key? = some key) :
    (serve (writeCall claim existing data) m).after.claims = m.claims ∧
      (serve (writeCall claim existing data) m).after.secrets =
        m.secrets.insert key (written claim existing data) := by
  rw [← Metadata.place_of_key? hk]
  cases existing with
  | none => exact createSecret_ok h
  | some old => exact replaceSecret_ok h

/-- A claim is read unless reading is told to fail. -/
theorem answer_readClaim (key : Key) (hf : m.faults .readClaim = none) :
    (serve (.readClaim key) m).answer = .ok m.claims[key]? := by
  simp only [serve, StoreCall.kind, hf]
  rfl

theorem answer_readSecret (key : Key) (hf : m.faults .readSecret = none) :
    (serve (.readSecret key) m).answer = .ok m.secrets[key]? := by
  simp only [serve, StoreCall.kind, hf]
  rfl

end Memory

/-! ## 3. What a cycle finds -/

section Finds

variable {m m' : Memory} {key : Key} {claim : Claim} {existing : Option Secret}

/-- For this key a cycle finds this claim and this Secret. -/
structure Finds (m : Memory) (key : Key) (claim : Claim) (existing : Option Secret) : Prop where
  claim_readable : m.faults .readClaim = none
  secret_readable : m.faults .readSecret = none
  claim_stored : m.claims[key]? = some claim
  secret_stored : m.secrets[key]? = existing

/-- What is found after a call that left a claim and a Secret under the key. -/
theorem Finds.serve {other : Claim} {probe : Option Secret} (h : Finds m key claim existing)
    (call : StoreCall) (hclaim : (Memory.serve call m).after.claims[key]? = some other)
    (hsecret : (Memory.serve call m).after.secrets[key]? = probe) :
    Finds (Memory.serve call m).after key other probe where
  claim_readable := by rw [Memory.faults_serve]; exact h.claim_readable
  secret_readable := by rw [Memory.faults_serve]; exact h.secret_readable
  claim_stored := hclaim
  secret_stored := hsecret

theorem Finds.of_unchanged (h : Finds m key claim existing) (hu : Memory.Unchanged m m')
    (hf : m'.faults = m.faults) : Finds m' key claim existing where
  claim_readable := by rw [hf]; exact h.claim_readable
  secret_readable := by rw [hf]; exact h.secret_readable
  claim_stored := by rw [hu.claims]; exact h.claim_stored
  secret_stored := by rw [hu.secrets]; exact h.secret_stored

/-- What a cycle has read is what it found, and what would be found again. -/
theorem replays_reads {rest : List (Event storeInterface)}
    (h : Replays Memory.serve m (calls (reads key claim existing) ++ rest) m') :
    Finds m key claim existing ∧ ∃ m₁, Memory.Unchanged m m₁ ∧ Finds m₁ key claim existing ∧
      Replays Memory.serve m₁ rest m' := by
  obtain ⟨hc, hs, hrest⟩ := h
  obtain ⟨hclaim, hu⟩ := Memory.readClaim_ok hc
  obtain ⟨hsecret, hu'⟩ := Memory.readSecret_ok hs
  have found : Finds m key claim existing := by
    refine ⟨Memory.fault_of_ok hc, ?_, hclaim, ?_⟩
    · rw [← Memory.faults_serve m (.readClaim key)]
      exact Memory.fault_of_ok hs
    · rw [← hu.secrets]
      exact hsecret
  refine ⟨found, _, hu.trans hu', found.of_unchanged (hu.trans hu') ?_, hrest⟩
  exact (Memory.faults_serve _ _).trans (Memory.faults_serve _ _)

/-- The claim that a cycle has read is the stored one. -/
theorem claim_of_reads {other : Claim} {rest : List (Event storeInterface)}
    (h : Replays Memory.serve m (calls (reads key other existing) ++ rest) m')
    (hclaim : m.claims[key]? = some claim) : other = claim ∧ m.secrets[key]? = existing := by
  obtain ⟨found, -⟩ := replays_reads h
  exact ⟨Option.some.inj (found.claim_stored.symm.trans hclaim), found.secret_stored⟩

/-- What a cycle has found is there to be found. -/
theorem Finds.unique {other : Claim} {probe : Option Secret} (h : Finds m key claim existing)
    (h' : Finds m key other probe) : claim = other ∧ existing = probe :=
  ⟨Option.some.inj (h.claim_stored.symm.trans h'.claim_stored),
    h.secret_stored.symm.trans h'.secret_stored⟩

/-- **A cycle goes on with what it finds.** -/
theorem Finds.does {events : List (Event controllerInterface)}
    {r : Except CycleError Outcome} (h : Finds m key claim existing)
    (hd : Does (cycle key) events r) (hr : Replays Memory.serve m (calls events) m') :
    ∃ rest m₁, events = reads key claim existing ++ rest ∧ Does (settle claim existing) rest r ∧
      Memory.Unchanged m m₁ ∧ Replays Memory.serve m₁ (calls rest) m' := by
  have hclaim := Memory.answer_readClaim key h.claim_readable
  rw [h.claim_stored] at hclaim
  cases cycle_opening hd with
  | unread e => cases hclaim.symm.trans hr.1
  | gone => cases hclaim.symm.trans hr.1
  | unprobed _ =>
    have hreadable : (Memory.serve (.readClaim key) m).after.faults .readSecret = none := by
      rw [Memory.faults_serve]
      exact h.secret_readable
    have hsecret := Memory.answer_readSecret key hreadable
    cases hsecret.symm.trans hr.2.1
  | probed hd =>
    rw [calls_append] at hr
    obtain ⟨found, m₁, hu, -, hrest⟩ := replays_reads hr
    obtain ⟨rfl, rfl⟩ := h.unique found
    exact ⟨_, m₁, rfl, hd, hu, hrest⟩

/-- Where all calls of a cycle succeed and there is a claim, it finds what is stored. -/
theorem finds_of_succeeded {events : List (Event controllerInterface)}
    {r : Except CycleError Outcome} (hd : Does (cycle key) events r)
    (hr : Replays Memory.serve m (calls events) m')
    (hs : ∀ e ∈ calls events, succeeded e = true) (hclaim : m.claims[key]? = some claim)
    (hsecret : m.secrets[key]? = existing) : Finds m key claim existing := by
  cases cycle_opening hd with
  | unread e => cases hs ⟨.readClaim key, .error e⟩ (by simp)
  | gone => cases hclaim.symm.trans (Memory.readClaim_ok hr.1).1
  | @unprobed _ e => cases hs ⟨.readSecret key, .error e⟩ (by simp)
  | probed _ =>
    rw [calls_append] at hr
    obtain ⟨found, -⟩ := replays_reads hr
    exact ⟨found.claim_readable, found.secret_readable, hclaim, hsecret⟩

/-- A bench with stores in memory. -/
abbrev inMemory : Program.Server controllerInterface (Bench Memory) := Bench.serve Memory.serve

/-- A cycle on the bench takes one of its courses, and the stores are left as its calls say. -/
theorem cycle_does_replays (key : Key) (b : Bench Memory) :
    Does (cycle key) (outward ((cycle key).transcript inMemory b))
        ((cycle key).run inMemory b).1 ∧
      Replays Memory.serve b.stores (calls (outward ((cycle key).transcript inMemory b)))
        ((cycle key).run inMemory b).2.stores := by
  refine ⟨⟨_, Program.yields_transcript inMemory (cycle key) b, rfl⟩, ?_⟩
  rw [calls_outward]
  exact Bench.replays (cycle key) b

end Finds

end Simulation

end SecretKeeper
