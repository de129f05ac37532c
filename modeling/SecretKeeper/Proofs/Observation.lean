/-
# Which generation a status is about

The server counts the edits of a claim's spec in its generation, and a status says which
generation it is about.  A report is about the generation that the cycle has read.  But a cycle
that finds nothing to do makes no report, and some edits of a spec give it nothing to do: those
that change neither the wanted values nor the trigger.

So after a cycle that has reported, the stored status is about the generation that this cycle
has read.  After one that was idle it is the status that was read, and is about the generation
that an earlier cycle had read when it reported (`generation_observed`).  That may be an older
one (`generation_outrun`).
-/
import SecretKeeper.Proofs.Provenance

namespace SecretKeeper

/-! ## 1. Versions of a claim -/

/-- The spec of the claim is the same still, or it has been edited, which has raised the
generation. -/
def Claim.Precedes (old new : Claim) : Prop :=
  old.spec = new.spec ∧ old.metadata.generation = new.metadata.generation ∨
    old.metadata.generation < new.metadata.generation

theorem Claim.Precedes.refl (c : Claim) : c.Precedes c := .inl ⟨rfl, rfl⟩

theorem generation_lt_trans {x y z : Option Int64} (hxy : x < y) (hyz : y < z) : x < z :=
  match x, y, z, hxy, hyz with
  | none, some _, some _, _, _ => trivial
  | some _, some _, some _, hxy, hyz => Int64.lt_trans hxy hyz

theorem Claim.Precedes.trans {a b c : Claim} (hab : a.Precedes b) (hbc : b.Precedes c) :
    a.Precedes c := by
  rcases hab with ⟨hspec, hgen⟩ | hlt
  · rcases hbc with ⟨hspec', hgen'⟩ | hlt'
    · exact .inl ⟨hspec.trans hspec', hgen.trans hgen'⟩
    · exact .inr (hgen ▸ hlt')
  · rcases hbc with ⟨-, hgen'⟩ | hlt'
    · exact .inr (hgen' ▸ hlt)
    · exact .inr (generation_lt_trans hlt hlt')

namespace Controller

section Observation

variable {key : Key} {initial : Option Status} {s s' t : System} {move : Move}
  {moves : List Move} {claim first : Claim} {status : Status} {f : Flight} {outcome : Outcome}
  {events : List (Event controllerInterface)}

/-- Cycles for the key come one after another, and their store calls succeed.  Others edit the
spec of the claim as they like, which raises its generation, and do what they like with the
Secret. -/
structure Numbered (key : Key) (s : System) (move : Move) (s' : System) : Prop
    extends Orderly key s move s' where
  raised : move = .outside → ∀ old claim, s.cluster.claims[key]? = some old →
    s'.cluster.claims[key]? = some claim → old.Precedes claim

theorem Numbered.of_orderly (h : Orderly key s move s') (ho : move ≠ .outside) :
    Numbered key s move s' where
  toOrderly := h
  raised heq := absurd heq ho

/-- The claim stays, and goes on to later versions only. -/
theorem Numbered.claim_later (h : Numbered key s move s') (hs : s.Sound) (step : Step s move s')
    (stored : s.cluster.claims[key]? = some first) :
    ∃ claim, s'.cluster.claims[key]? = some claim ∧ first.Precedes claim := by
  by_cases ho : move = .outside
  · obtain ⟨claim, hclaim, -⟩ := h.status ho first stored
    exact ⟨claim, hclaim, h.raised ho first claim stored hclaim⟩
  · rcases step.claim_cases key hs ho with
      same | ⟨f, c, status, answer, there, -, -, -, -, hthere, hnew⟩
    · exact ⟨first, same.trans stored, .refl first⟩
    · obtain rfl := Option.some.inj (hthere.symm.trans stored)
      exact ⟨_, hnew, .inl ⟨rfl, rfl⟩⟩

/-! ## 2. The history of a status -/

/-- A report is about the generation of the claim that was read. -/
theorem Reporting.observedGeneration (h : Reporting key events claim status) :
    status.observedGeneration = claim.metadata.generation := by
  cases h <;> rfl

/-- A cycle of the run has reported the status, and it is about the version that this cycle had
read: this version of the claim or an earlier one. -/
def Observed (moves : List Move) (key : Key) (claim : Claim) (status : Status) : Prop :=
  ∃ g old value, .asked g (.store (.writeStatus old status)) (.ok value) ∈ moves ∧ g.key = key ∧
    told (.readClaim key) (.ok (some old)) ∈ g.log ∧
      status.observedGeneration = old.metadata.generation ∧ old.Precedes claim

/-- The claim has the status from the start of the run, or it was reported in it. -/
def Accounted (initial : Option Status) (moves : List Move) (key : Key) (claim : Claim) : Prop :=
  ∀ status, claim.status = some status →
    initial = some status ∨ Observed moves key claim status

theorem Accounted.later {later : Claim} (h : Accounted initial moves key claim)
    (hp : claim.Precedes later) (same : later.status = claim.status) (more : List Move) :
    Accounted initial (moves ++ more) key later := by
  intro status hstatus
  rcases h status (same.symm.trans hstatus) with hinitial | ⟨g, old, value, hm, hk, read, hgen, ho⟩
  · exact .inl hinitial
  · exact .inr ⟨g, old, value, List.mem_append_left _ hm, hk, read, hgen, ho.trans hp⟩

/-- The statuses of the stored claim and of those that cycles have read are accounted for, and
what was read is the stored version or an earlier one. -/
structure Dated (initial : Option Status) (moves : List Move) (key : Key) (s : System) :
    Prop where
  stored : ∃ claim, s.cluster.claims[key]? = some claim ∧ Accounted initial moves key claim ∧
    ∀ f ∈ s.flights, f.key = key → ∀ old,
      told (.readClaim key) (.ok (some old)) ∈ f.log → old.Precedes claim
  read : ∀ f ∈ s.flights, f.key = key → ∀ claim,
    told (.readClaim key) (.ok (some claim)) ∈ f.log → Accounted initial moves key claim

/-- The stored status is accounted for after every step. -/
theorem Dated.stored_later (h : Dated initial moves key s) (hs : s.Sound)
    (step : Step s move s') (kept : Numbered key s move s')
    (stored : s'.cluster.claims[key]? = some claim) :
    Accounted initial (moves ++ [move]) key claim := by
  obtain ⟨old, hold, accounted, versions⟩ := h.stored
  by_cases ho : move = .outside
  · obtain ⟨edited, hedited, same⟩ := kept.status ho old hold
    obtain rfl := Option.some.inj (hedited.symm.trans stored)
    exact accounted.later (kept.raised ho old edited hold hedited) same _
  · rcases step.claim_cases key hs ho with
      same | ⟨f, c, status, answer, there, rfl, hf, hk, reporting, hthere, hnew⟩
    · obtain rfl := Option.some.inj (hold.symm.trans (same.symm.trans stored))
      exact accounted.later (.refl old) rfl _
    · obtain rfl := Option.some.inj (hthere.symm.trans hold)
      obtain rfl := Option.some.inj (hnew.symm.trans stored)
      have read := mem_of_mem_outward reporting.claim_read
      -- the report has succeeded, so it is the one that the history has now
      cases answer with
      | error e => exact absurd hk (kept.succeeds f _ e rfl)
      | ok value =>
        rintro status' ⟨rfl⟩
        refine .inr ⟨f, c, value, ?_, hk, hk ▸ read, reporting.observedGeneration, ?_⟩
        · exact List.mem_append_right _ (List.mem_singleton_self _)
        · exact versions f hf hk c (hk ▸ read)

/-- **No step leaves a status unaccounted for.** -/
theorem Dated.step (h : Dated initial moves key s) (hs : s.Sound) (step : Step s move s')
    (kept : Numbered key s move s') : Dated initial (moves ++ [move]) key s' where
  stored := by
    obtain ⟨old, hold, -, versions⟩ := h.stored
    obtain ⟨claim, hclaim, hp⟩ := kept.claim_later hs step hold
    refine ⟨claim, hclaim, h.stored_later hs step kept hclaim, ?_⟩
    intro f hf hk read hread
    cases step.since hf with
    | stayed hf => exact (versions f hf hk read hread).trans hp
    | begun k _ => exact absurd hread List.not_mem_nil
    | told there _ answered =>
      rcases List.mem_append.mp hread with hread | hread
      · exact (versions _ there hk read hread).trans hp
      · cases List.mem_singleton.mp hread
        obtain rfl := Option.some.inj (answered.claim_stored.symm.trans hold)
        exact hp
  read := by
    intro f hf hk claim hread
    cases step.since hf with
    | stayed hf => exact (h.read f hf hk claim hread).later (.refl claim) rfl _
    | begun k _ => exact absurd hread List.not_mem_nil
    | told there _ answered =>
      rcases List.mem_append.mp hread with hread | hread
      · exact (h.read _ there hk claim hread).later (.refl claim) rfl _
      · cases List.mem_singleton.mp hread
        obtain ⟨old, hold, accounted, -⟩ := h.stored
        obtain rfl := Option.some.inj (answered.claim_stored.symm.trans hold)
        exact accounted.later (.refl _) rfl _

theorem Run.dated (run : Run (Numbered key) s moves t) (hs : s.Sound) (grounded : s.Grounded key)
    (claimed : s.cluster.claims[key]? = some first) : Dated first.status moves key t := by
  induction run with
  | here =>
    constructor
    · refine ⟨first, claimed, fun status h => .inl h, ?_⟩
      intro f hf hk
      exact absurd hk (grounded f hf)
    · intro f hf hk
      exact absurd hk (grounded f hf)
  | step run step kept ih => exact ih.step (run.sound hs) step kept

/-! ## 3. At the end of a cycle -/

/-- What the transcript of a cycle says of the status, if it has ended with an outcome, neither
without a claim nor at the Secret of somebody else: it is the one that the cycle has reported, or
else, if it was idle, the one that it has read. -/
theorem Course.status_told (h : Course key events (.ok outcome))
    (read : told (.readClaim key) (.ok (some claim)) ∈ events)
    (hforeign : outcome ≠ .skippedForeign)
    (flawless : ∀ e ∈ calls events, succeeded e = true) :
    ∃ status, Tells key events (some status) ∧
      (outcome ≠ .idle → status.observedGeneration = claim.metadata.generation) ∧
      (outcome = .idle → claim.status = some status) := by
  have unique : ∀ {other}, told (.readClaim key) (.ok (some other)) ∈ events → claim = other :=
    fun again => h.claim_unique read again
  cases h with
  | gone => cases List.mem_singleton.mp read
  | foreign _ => exact absurd rfl hforeign
  | @written other existing demand attempt stamp sent due h =>
    obtain rfl : claim = other := unique (by simp [reads])
    obtain rfl := sent_of_flawless flawless (List.mem_append_right _ (List.mem_singleton_self _))
    refine ⟨.afterSync claim demand stamp, tells_report _ _ (), fun _ => rfl, fun hidle => ?_⟩
    cases existing <;> cases hidle
  | @repaired other secret demand stamp sent met h =>
    obtain rfl : claim = other := unique (by simp [reads])
    obtain rfl := sent_of_flawless flawless (List.mem_append_right _ (List.mem_singleton_self _))
    refine ⟨.afterSync claim demand stamp, tells_report _ _ (), fun _ => rfl, ?_⟩
    rintro ⟨⟩
  | @idle other secret demand met h =>
    obtain rfl : claim = other := unique (by simp [reads])
    obtain ⟨status, hstatus⟩ : ∃ status, claim.status = some status := by
      cases hstatus : claim.status with
      | some status => exact ⟨status, rfl⟩
      | none =>
        rw [Claim.isSynced, hstatus] at h
        cases h
    refine ⟨status, ⟨[], _, _, rfl, hstatus ▸ .read claim, ?_⟩, fun hne => absurd rfl hne,
      fun _ => hstatus⟩
    intro x hx
    rw [List.mem_singleton.mp hx]
    rfl

/-- **Which generation a status is about.**  At first there is a claim, and no cycle for the key
is on its way.  Cycles come one after another, their store calls succeed, and every edit of the
spec raises the generation.  When a cycle has ended with an outcome, neither without a claim nor
at the Secret of somebody else, then

* after a write, or a report alone, the stored status is about the generation that the cycle has
  read;
* after an idle cycle it is the status that the cycle has read.  This stood there at first, or it
  was reported in the run, and is about the generation that was read for this report: that of the
  same version, or of one that was edited since. -/
theorem generation_observed (past : Reachable s) (grounded : s.Grounded key)
    (claimed : s.cluster.claims[key]? = some first) (run : Run (Numbered key) s moves t)
    (hf : f ∈ t.flights) (hk : f.key = key) (done : f.rest = .done (.ok outcome))
    (hforeign : outcome ≠ .skippedForeign)
    (read : told (.readClaim key) (.ok (some claim)) ∈ f.log) :
    ∃ stored status, t.cluster.claims[key]? = some stored ∧ stored.status = some status ∧
      (outcome ≠ .idle → status.observedGeneration = claim.metadata.generation) ∧
      (outcome = .idle → claim.status = some status ∧
        (first.status = some status ∨ Observed moves key claim status)) := by
  subst hk
  have orderly : ∀ {t move u}, Numbered f.key t move u → Orderly f.key t move u :=
    fun kept => kept.toOrderly
  have flawless : ∀ e ∈ calls (outward f.log), succeeded e = true := by
    rw [calls_outward]
    exact run.flawless orderly grounded hf rfl
  have course := (run.sound past.sound f hf).course done
  obtain ⟨status, tells, reported, idle⟩ :=
    course.status_told (List.mem_filter.mpr ⟨read, rfl⟩) hforeign flawless
  obtain ⟨stored, hstored, hstatus⟩ :=
    run.statusTold orderly past.sound grounded f hf rfl _ tells.of_outward
  have dated := run.dated past.sound grounded claimed
  refine ⟨stored, status, hstored, hstatus, reported, fun hidle => ⟨idle hidle, ?_⟩⟩
  exact dated.read f hf rfl claim read status (idle hidle)

end Observation

/-! ## 4. An edit that gives nothing to do -/

theorem Switch.numbered : Switch.Allows (Numbered Switch.key) where
  begun _ _ grounded := .of_orderly (.begun grounded) nofun
  answered _ _ _ _ _ := .of_orderly .answered nofun
  apart _ _ _ _ _ h := .of_orderly (.apart h) nofun
  dropped _ _ _ := .of_orderly .dropped nofun
  edited :=
    { toOrderly := .edited reported_stored switched_stored rfl
      raised := fun _ old claim hold hclaim => by
        obtain rfl := Option.some.inj (reported_stored.symm.trans hold)
        obtain rfl := Option.some.inj (switched_stored.symm.trans hclaim)
        have hlt : (1 : Int64) < 2 := by decide
        exact .inr hlt }

/-- The cycle after the edit has read the second generation, and the stored status is about the
first one still. -/
theorem generation_outrun : ∃ (s t : System) (moves : List Move) (f : Flight)
    (first claim stored : Claim) (status : Status),
    Reachable s ∧ s.Grounded Switch.key ∧ s.cluster.claims[Switch.key]? = some first ∧
      first.status = none ∧ Run (Numbered Switch.key) s moves t ∧ f ∈ t.flights ∧
      f.key = Switch.key ∧ f.rest = .done (.ok .idle) ∧
      told (.readClaim Switch.key) (.ok (some claim)) ∈ f.log ∧
      t.cluster.claims[Switch.key]? = some stored ∧ stored.status = some status ∧
      status.observedGeneration = some 1 ∧ claim.metadata.generation = some 2 := by
  obtain ⟨moves, f, run, hk, done, read, -⟩ := exists_switch Switch.numbered
  exact ⟨_, _, moves, f, Switch.plain, Switch.switched, Switch.switched, _,
    .start Switch.start, nofun, Switch.plain_stored, rfl, run, List.mem_cons_self, hk, done, read,
    Switch.switched_stored, rfl, rfl, rfl⟩

/-- It is the status that was reported on the first. -/
theorem switched_generation_observed : ∃ (t : System) (moves : List Move) (status : Status),
    Run (Numbered Switch.key) ⟨Switch.start, []⟩ moves t ∧
      Switch.switched.status = some status ∧ Observed moves Switch.key Switch.switched status := by
  obtain ⟨moves, f, run, hk, done, read, -⟩ := exists_switch Switch.numbered
  have grounded : System.Grounded Switch.key ⟨Switch.start, []⟩ := nofun
  obtain ⟨stored, status, -, -, -, idle⟩ := generation_observed (.start Switch.start) grounded
    Switch.plain_stored run List.mem_cons_self hk done nofun read
  obtain ⟨same, hinitial | observed⟩ := idle rfl
  · cases hinitial
  · exact ⟨_, moves, status, run, same, observed⟩

end Controller

end SecretKeeper
