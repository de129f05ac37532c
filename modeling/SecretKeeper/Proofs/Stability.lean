/-
# Generated values stay as they are

Nobody knows what was generated, so a Secret whose values were generated is written again only
when its claim asks for it: its trigger is not empty, and not the one that was applied last
(`Step.entitled`).

Two things follow for whole runs.  While the trigger of the claim is empty, the Secret stays
what it is, whatever fails.  And once a cycle has come to its end with the trigger of the claim
recorded, no later cycle writes the Secret while the trigger stays the same: what is recorded
is kept by everything that such a cycle can report.  Only a failure forgets it, and a cycle that
reads a valid claim and finds a Secret that needs no writing has nothing to fail at.
-/
import SecretKeeper.Proofs.Tending
import SecretKeeper.Proofs.Triggers

namespace SecretKeeper

/-- A valid claim for generated values demands them under its own trigger. -/
theorem Claim.demand_of_generated {claim : Claim} {demand : Demand}
    (hg : claim.spec.type = "AutoGenerated") (valid : claim.spec.validate = .ok demand) :
    ∃ p, demand = .generated p ∧ p.reconcileTrigger = claim.reconcileTrigger := by
  rcases ClaimSpec.validate_ok valid with ⟨ho, -⟩ | ⟨-, g, p, hgen, hp, rfl⟩
  · rw [ho] at hg
    exact absurd hg (by decide)
  · exact ⟨p, rfl, by rw [(Policy.ofSpec_ok hp).2.2.2, Claim.reconcileTrigger, hgen]⟩

namespace Controller

open Program

section Stable

variable {key : Key} {trigger : String} {s s' t u : System} {move : Move}
  {moves more : List Move} {claim : Claim} {demand : Demand} {old : Secret} {f : Flight}

/-! ## 1. Who may write a Secret again -/

/-- The cycle has read the claim and the Secret, which is the claim's own; and if the claim is
for generated values, its trigger was a new one then. -/
structure Flight.Entitled (f : Flight) (claim : Claim) (old : Secret) : Prop where
  read : f.HasRead claim (some old)
  own : old.isOwnedBy claim = true
  renewed : claim.spec.type = "AutoGenerated" →
    claim.reconcileTrigger ≠ "" ∧ claim.reconcileTrigger ≠ claim.lastReconcileTrigger

theorem Due.renewed (due : Due claim (some old) demand) (hg : claim.spec.type = "AutoGenerated") :
    claim.reconcileTrigger ≠ "" ∧ claim.reconcileTrigger ≠ claim.lastReconcileTrigger := by
  obtain ⟨p, rfl, hp⟩ := claim.demand_of_generated hg due.valid
  have hchanged : Drift.triggerChanged p.reconcileTrigger claim.lastReconcileTrigger = true :=
    due.drifted old rfl
  rw [hp] at hchanged
  simpa [Drift.triggerChanged] using hchanged

/-- **Only a cycle that is entitled to it writes a Secret again.** -/
theorem Step.entitled (step : Step s move s') (hs : s.Sound) (ho : move ≠ .outside)
    (stored : s.cluster.secrets[key]? = some old)
    (changed : s'.cluster.secrets[key]? ≠ some old) :
    ∃ f claim, f ∈ s.flights ∧ f.key = key ∧ f.Entitled claim old := by
  rcases step.secret_cases key hs ho with
    hsame | ⟨f, claim, existing, demand, drawn, data, answer, v, -, hf, hk, ready, hold, -⟩
  · exact absurd (hsame.trans stored) changed
  · obtain rfl := hold.symm.trans stored
    have own : old.isOwnedBy claim = true := by simpa [isForeign] using ready.due.own
    exact ⟨f, claim, hf, hk, ready.hasRead, own, ready.due.renewed⟩

/-! ## 2. Without a trigger -/

/-- The claim is for generated values, and has no trigger. -/
def Untriggered (key : Key) : Rule := fun s _ _ =>
  ∀ claim, s.cluster.claims[key]? = some claim →
    claim.spec.type = "AutoGenerated" ∧ claim.reconcileTrigger = ""

/-- Besides, others leave the Secret alone. -/
structure Untouched (key : Key) (s : System) (move : Move) (s' : System) : Prop where
  untriggered : Untriggered key s move s'
  spared : move = .outside → s'.cluster.secrets[key]? = s.cluster.secrets[key]?

/-- What the cycles have read of the claim had no trigger either. -/
theorem Run.read_untriggered (run : Run (Untriggered key) s moves t) (grounded : s.Grounded key)
    (hf : f ∈ t.flights) (hk : f.key = key)
    (read : told (.readClaim key) (.ok (some claim)) ∈ f.log) :
    claim.spec.type = "AutoGenerated" ∧ claim.reconcileTrigger = "" := by
  obtain ⟨before, rest, hmove⟩ := (run.recorded grounded f hf hk).asked read
  obtain ⟨_, _, _, _, step, untriggered⟩ := run.allowed hmove
  exact untriggered claim step.answered.2.2.claim_stored

/-- No step of the controller touches a Secret that is there. -/
theorem Run.secret_same (run : Run (Untriggered key) s moves t) (past : Reachable s)
    (grounded : s.Grounded key) (step : Step t move u) (ho : move ≠ .outside)
    (stored : t.cluster.secrets[key]? = some old) : u.cluster.secrets[key]? = some old := by
  by_contra changed
  obtain ⟨f, claim, hf, hk, entitled⟩ := step.entitled (run.sound past.sound) ho stored changed
  obtain ⟨hg, hempty⟩ := run.read_untriggered grounded hf hk (hk ▸ entitled.read.claim_mem)
  exact (entitled.renewed hg).1 hempty

theorem Run.untouched (run : Run (Untriggered key) s moves t) (past : Reachable s)
    (grounded : s.Grounded key) (stored : t.cluster.secrets[key]? = some old)
    (next : Run (Untouched key) t more u) : u.cluster.secrets[key]? = some old := by
  induction next with
  | here => exact stored
  | @step v w moves' move next step kept ih =>
    by_cases ho : move = .outside
    · exact (kept.spared ho).trans ih
    · -- a cycle on its way may have read the claim before there was a Secret
      have run := run.append next fun _ _ _ h => h.untriggered
      exact run.secret_same past grounded step ho ih

/-! ## 3. A cycle that came to its end -/

/-- The trigger needs no applying: it is empty, or the status records it. -/
def Serves (trigger : String) (status : Option Status) : Prop :=
  trigger = "" ∨ trigger = (status.getD .initial).lastReconcileTrigger

theorem serves_iff :
    Serves trigger claim.status ↔
      Drift.triggerChanged trigger claim.lastReconcileTrigger = false := by
  rw [Drift.triggerChanged_eq_false_iff, Claim.lastReconcileTrigger_eq]
  rfl

/-- A sync records the trigger of the claim. -/
theorem serves_afterSync (hg : claim.spec.type = "AutoGenerated")
    (valid : claim.spec.validate = .ok demand) (stamp : String) :
    Serves claim.reconcileTrigger (some (.afterSync claim demand stamp)) := by
  obtain ⟨p, rfl, hp⟩ := claim.demand_of_generated hg valid
  exact .inr hp.symm

theorem Met.serves {secret : Secret} (met : Met claim secret demand)
    (hg : claim.spec.type = "AutoGenerated") : Serves claim.reconcileTrigger claim.status := by
  obtain ⟨p, rfl, hp⟩ := claim.demand_of_generated hg met.valid
  rw [serves_iff, ← hp]
  exact met.still

/-- No other cycle for the key begins, and others keep to what is theirs. -/
structure Undisturbed (key : Key) (s : System) (move : Move) (s' : System) : Prop where
  tended : Tended key s move s'
  alone : move ≠ .begun key

/-- The cycle has come to its end, neither without a claim nor at the Secret of somebody else.
The claim that it has read is for generated values with this trigger, and all its store calls
succeeded. -/
structure Flight.Completed (f : Flight) (trigger : String) : Prop where
  ended : ∃ outcome, f.rest = .done (.ok outcome) ∧ outcome ≠ .claimGone ∧
    outcome ≠ .skippedForeign
  read : ∃ claim, told (.readClaim f.key) (.ok (some claim)) ∈ f.log ∧
    claim.spec.type = "AutoGenerated" ∧ claim.reconcileTrigger = trigger
  flawless : ∀ e ∈ calls f.log, succeeded e = true

theorem Attempt.unread {existing : Option Secret} {attempt : List (Event controllerInterface)}
    {result : Except CycleError Unit} (h : Attempt claim existing demand attempt result) :
    (calls attempt).filter isRead = [] := by
  refine List.filter_eq_nil_iff.mpr fun e he => ?_
  have writes : isSecretWrite e = true := by
    cases result with
    | ok _ => exact h.promised.isSecretWrite e he
    | error x => exact (h.vain.1 e he).1
  simp [isRead, writes]

/-- A cycle reads the claim, and then perhaps the Secret; and that is all that it reads. -/
theorem Course.reads_once {events : List (Event controllerInterface)}
    {ending : Except CycleError Outcome} (h : Course key events ending) :
    ∃ found, (calls events).filter isRead = [⟨.readClaim key, found⟩] ∨
      ∃ probe, (calls events).filter isRead =
        [⟨.readClaim key, found⟩, ⟨.readSecret key, probe⟩] := by
  cases h with
  | unread e => exact ⟨.error e, .inl rfl⟩
  | gone => exact ⟨.ok none, .inl rfl⟩
  | unprobed claim e => exact ⟨.ok (some claim), .inr ⟨.error e, rfl⟩⟩
  | foreign => exact ⟨_, .inr ⟨_, rfl⟩⟩
  | refused => exact ⟨_, .inr ⟨_, rfl⟩⟩
  | @failed claim existing _ _ _ _ _ _ h =>
    refine ⟨.ok (some claim), .inr ⟨.ok existing, ?_⟩⟩
    rw [calls_append, calls_append, List.filter_append, List.filter_append, h.unread]
    rfl
  | @written claim existing _ _ _ _ _ h =>
    refine ⟨.ok (some claim), .inr ⟨.ok existing, ?_⟩⟩
    rw [calls_append, calls_append, List.filter_append, List.filter_append, h.unread]
    rfl
  | repaired => exact ⟨_, .inr ⟨_, rfl⟩⟩
  | idle => exact ⟨_, .inr ⟨_, rfl⟩⟩

/-- What a cycle was told when it read, it was told once. -/
theorem Course.answer_unique {events : List (Event controllerInterface)}
    {ending : Except CycleError Outcome} {call : StoreCall} {x y : call.Answer}
    (h : Course key events ending) (hread : ∀ answer, isRead ⟨call, answer⟩ = true)
    (hx : told call x ∈ events) (hy : told call y ∈ events) : x = y := by
  have hx := List.mem_filter.mpr ⟨mem_calls hx, hread x⟩
  have hy := List.mem_filter.mpr ⟨mem_calls hy, hread y⟩
  obtain ⟨found, hr | ⟨probe, hr⟩⟩ := h.reads_once
  · rw [hr] at hx hy
    cases List.mem_singleton.mp hx
    cases List.mem_singleton.mp hy
    rfl
  · rw [hr] at hx hy
    simp only [List.mem_cons, List.not_mem_nil, or_false] at hx hy
    rcases hx with hx | hx
    · cases hx
      rcases hy with hy | hy
      · cases hy
        rfl
      · cases hy
    · cases hx
      rcases hy with hy | hy
      · cases hy
      · cases hy
        rfl

theorem Course.claim_unique {events : List (Event controllerInterface)}
    {ending : Except CycleError Outcome} {other : Claim} (h : Course key events ending)
    (read : told (.readClaim key) (.ok (some claim)) ∈ events)
    (again : told (.readClaim key) (.ok (some other)) ∈ events) : claim = other :=
  Option.some.inj (Except.ok.inj (h.answer_unique (fun _ => rfl) read again))

theorem Course.secret_unique {events : List (Event controllerInterface)}
    {ending : Except CycleError Outcome} {x y : Option Secret} (h : Course key events ending)
    (hx : told (.readSecret key) (.ok x) ∈ events) (hy : told (.readSecret key) (.ok y) ∈ events) :
    x = y :=
  Except.ok.inj (h.answer_unique (fun _ => rfl) hx hy)

/-- A report among flawless store calls got through. -/
theorem sent_of_flawless {events : List (Event controllerInterface)} {status : Status}
    {sent : Except StoreError Unit} (flawless : ∀ e ∈ calls events, succeeded e = true)
    (h : told (.writeStatus claim status) sent ∈ events) : sent = .ok () := by
  have hsent := flawless _ (mem_calls h)
  cases sent with
  | error e => cases hsent
  | ok value => rfl

/-- A cycle that ended with an outcome, neither without a claim nor at the Secret of somebody
else, has read a Secret or created one. -/
theorem Course.shows_secret {events : List (Event controllerInterface)} {outcome : Outcome}
    (h : Course key events (.ok outcome)) (hgone : outcome ≠ .claimGone)
    (hforeign : outcome ≠ .skippedForeign)
    (placed : ∀ claim, told (.readClaim key) (.ok (some claim)) ∈ events →
      claim.key? = some key) : ∃ e ∈ events, ShowsSecret key e := by
  cases h with
  | gone => exact absurd rfl hgone
  | foreign _ => exact absurd rfl hforeign
  | @written claim existing demand attempt stamp sent due h =>
    cases existing with
    | some old => exact ⟨_, by simp [reads], .read old⟩
    | none =>
      obtain ⟨drawn, data, value, -, rfl⟩ := h.eq_of_ok
      exact ⟨told (.createSecret (.new claim data)) (.ok value), by simp [writeCall],
        .created value (placed claim (by simp [reads]))⟩
  | @repaired claim secret demand stamp sent met h => exact ⟨_, by simp [reads], .read secret⟩
  | @idle claim secret demand met h => exact ⟨_, by simp [reads], .read secret⟩

/-- What the transcript says of a cycle that came to its end well: the trigger that it has read
needs no applying. -/
theorem Course.concluded {events : List (Event controllerInterface)} {outcome : Outcome}
    (h : Course key events (.ok outcome)) (hgone : outcome ≠ .claimGone)
    (hforeign : outcome ≠ .skippedForeign)
    (read : told (.readClaim key) (.ok (some claim)) ∈ events)
    (hg : claim.spec.type = "AutoGenerated")
    (flawless : ∀ e ∈ calls events, succeeded e = true) :
    ∃ status, Tells key events status ∧ Serves claim.reconcileTrigger status := by
  have unique : ∀ {other}, told (.readClaim key) (.ok (some other)) ∈ events → claim = other :=
    fun again => h.claim_unique read again
  cases h with
  | gone => exact absurd rfl hgone
  | foreign _ => exact absurd rfl hforeign
  | @written other existing demand attempt stamp sent due h =>
    obtain rfl : claim = other := unique (by simp [reads])
    obtain rfl := sent_of_flawless flawless (List.mem_append_right _ (List.mem_singleton_self _))
    exact ⟨_, tells_report _ _ (), serves_afterSync hg due.valid stamp⟩
  | @repaired other secret demand stamp sent met h =>
    obtain rfl : claim = other := unique (by simp [reads])
    obtain rfl := sent_of_flawless flawless (List.mem_append_right _ (List.mem_singleton_self _))
    exact ⟨_, tells_report _ _ (), serves_afterSync hg met.valid stamp⟩
  | @idle other secret demand met h =>
    obtain rfl : claim = other := unique (by simp [reads])
    refine ⟨_, ⟨[], _, _, rfl, .read claim, ?_⟩, met.serves hg⟩
    intro x hx
    rw [List.mem_singleton.mp hx]
    rfl

/-- **A cycle that came to its end well** leaves its trigger recorded, and a Secret. -/
theorem Flight.Completed.leaves {c : Cluster} (h : f.Completed trigger) (sound : f.Sound c)
    (current : Current f.key c f.log) :
    (∃ claim, c.claims[f.key]? = some claim ∧ Serves trigger claim.status) ∧
      c.secrets[f.key]? ≠ none := by
  obtain ⟨outcome, hrest, hgone, hforeign⟩ := h.ended
  obtain ⟨claim, read, hg, rfl⟩ := h.read
  have course := sound.course hrest
  obtain ⟨e, he, shows'⟩ := course.shows_secret hgone hforeign
    fun claim read => sound.claims f.key claim (mem_of_mem_outward read)
  obtain ⟨status, tells, serves⟩ := course.concluded hgone hforeign
    (List.mem_filter.mpr ⟨read, rfl⟩) hg (by rw [calls_outward]; exact h.flawless)
  obtain ⟨stored, hstored, rfl⟩ := current.status status tells.of_outward
  exact ⟨⟨stored, hstored, serves⟩, current.secret e (mem_of_mem_outward he) shows'⟩

/-- An undisturbed cycle remains the only one, and what its transcript says stays so. -/
theorem Run.current (run : Run (Undisturbed key) s moves t) (hs : s.Sound)
    (single : s.Single key)
    (current : ∀ f ∈ s.flights, f.key = key → Current key s.cluster f.log) :
    t.Single key ∧ ∀ f ∈ t.flights, f.key = key → Current key t.cluster f.log := by
  refine run.keeps (P := fun s => s.Single key ∧
    ∀ f ∈ s.flights, f.key = key → Current key s.cluster f.log) hs ?_ ⟨single, current⟩
  rintro t move u hs step kept ⟨single, current⟩
  exact ⟨single.step step kept.alone, step.current hs single kept.tended current⟩

/-! ## 4. Afterwards -/

/-- The claim is a valid one for generated values, with this trigger. -/
structure Asks (trigger : String) (claim : Claim) : Prop where
  generated : claim.spec.type = "AutoGenerated"
  valid : ∃ demand, claim.spec.validate = .ok demand
  trigger_eq : claim.reconcileTrigger = trigger

/-- The claim stays a valid one with this trigger, the Secret can be read, and others keep to
what is theirs. -/
structure Steady (key : Key) (trigger : String) (s : System) (move : Move) (s' : System) :
    Prop where
  tended : Tended key s move s'
  asks : ∃ claim, s.cluster.claims[key]? = some claim ∧ Asks trigger claim
  readable : ∀ (f : Flight) (e : StoreError),
    move ≠ .asked f (.store (.readSecret key)) (.error e)

/-- Nothing that the cycle has read is a cause for a write, or for the report of a failure. -/
structure Flight.Calm (f : Flight) (trigger : String) : Prop where
  claim : ∀ claim, told (.readClaim f.key) (.ok (some claim)) ∈ f.log →
    Asks trigger claim ∧ Serves trigger claim.status
  secret : ∀ answer, told (.readSecret f.key) answer ∈ f.log →
    ∃ secret, answer = .ok (some secret)

/-- The trigger needs no applying, there is a Secret, and the cycles that are not over are
calm. -/
structure System.Calm (key : Key) (trigger : String) (s : System) : Prop where
  stored : ∀ claim, s.cluster.claims[key]? = some claim → Serves trigger claim.status
  there : s.cluster.secrets[key]? ≠ none
  flights : ∀ f ∈ s.flights, f.key = key → f.Calm trigger ∨ ∃ r, f.rest = .done r

theorem Flight.calm_start (key : Key) : (Flight.start key).Calm trigger where
  claim _ h := absurd h List.not_mem_nil
  secret _ h := absurd h List.not_mem_nil

/-- For a calm cycle no write is due. -/
theorem Flight.Calm.not_due {existing : Option Secret} (calm : f.Calm trigger)
    (read : ∀ e ∈ reads f.key claim existing, e ∈ f.log) : ¬ Due claim existing demand := by
  intro due
  obtain ⟨asks, serves⟩ := calm.claim claim (read _ List.mem_cons_self)
  obtain ⟨secret, hsecret⟩ := calm.secret _ (read _ (List.mem_cons_of_mem _ List.mem_cons_self))
  obtain rfl : existing = some secret := Except.ok.inj hsecret
  obtain ⟨hne, hnew⟩ := due.renewed asks.generated
  rw [asks.trigger_eq] at hne hnew
  rcases Drift.triggerChanged_eq_false_iff.mp (serves_iff.mp serves) with hempty | hlast
  · exact hne hempty
  · exact hnew hlast

/-- What a calm cycle reports records the trigger. -/
theorem Flight.Calm.serves {status : Status} (calm : f.Calm trigger)
    (h : Reporting f.key (outward f.log) claim status) : Serves trigger (some status) := by
  obtain ⟨asks, -⟩ := calm.claim claim (mem_of_mem_outward h.claim_read)
  generalize hlog : outward f.log = events at h
  -- only a repair is left: all else fails at a read, at the spec, or at a write that is not due
  cases h with
  | unprobed claim e stamp =>
    obtain ⟨secret, hsecret⟩ := calm.secret (.error e) (mem_of_mem_outward (by simp [hlog]))
    cases hsecret
  | refused stamp h =>
    obtain ⟨demand, valid⟩ := asks.valid
    rw [valid] at h
    cases h
  | failed stamp due h => exact absurd due (calm.not_due fun e he => mem_of_outward_eq hlog he)
  | written stamp due h => exact absurd due (calm.not_due fun e he => mem_of_outward_eq hlog he)
  | repaired stamp met _ =>
    rw [← asks.trigger_eq]
    exact serves_afterSync asks.generated met.valid stamp

/-- A cycle that asks is not over. -/
theorem System.Calm.asking {r : Effect} {answer : r.Answer} (h : s.Calm key trigger)
    (step : Step s (.asked f r answer) s') (hk : f.key = key) : f.Calm trigger := by
  obtain ⟨hf, ⟨resume, hrest⟩, -⟩ := step.answered
  rcases h.flights f hf hk with calm | ⟨result, hdone⟩
  · exact calm
  · rw [hrest] at hdone
    cases hdone

/-- An answer leaves a cycle calm: the claim that it reads is served, and the Secret is found. -/
theorem Flight.Calm.told {c c' : Cluster} {log : List (Event controllerInterface)} {r : Effect}
    {resume : r.Answer → Controller (Except CycleError Outcome)} {answer : r.Answer}
    (calm : Flight.Calm ⟨key, log, .ask r resume⟩ trigger) (ha : Cluster.Answers r c answer c')
    (stored : ∀ claim, c.claims[key]? = some claim →
      Asks trigger claim ∧ Serves trigger claim.status)
    (there : c'.secrets[key]? ≠ none)
    (readable : ∀ e,
      (⟨r, answer⟩ : Event controllerInterface) ≠ Controller.told (.readSecret key) (.error e)) :
    Flight.Calm ⟨key, log ++ [⟨r, answer⟩], resume answer⟩ trigger where
  claim claim hm := by
    change Controller.told (.readClaim key) (.ok (some claim)) ∈ log ++ [⟨r, answer⟩] at hm
    rcases List.mem_append.mp hm with hm | hm
    · exact calm.claim claim hm
    · cases List.mem_singleton.mp hm
      exact stored claim ha.claim_stored
  secret probe hm := by
    change Controller.told (.readSecret key) probe ∈ log ++ [⟨r, answer⟩] at hm
    rcases List.mem_append.mp hm with hm | hm
    · exact calm.secret probe hm
    · cases List.mem_singleton.mp hm
      cases answer with
      | error e => exact absurd rfl (readable e)
      | ok found =>
        rw [ha.secret_stored] at there
        obtain ⟨secret, rfl⟩ := Option.ne_none_iff_exists'.mp there
        exact ⟨secret, rfl⟩

/-- What is stored keeps serving the trigger. -/
theorem System.Calm.stored_later (h : s.Calm key trigger) (hs : s.Sound) (step : Step s move s')
    (steady : Steady key trigger s move s') (hclaim : s'.cluster.claims[key]? = some claim) :
    Serves trigger claim.status := by
  by_cases ho : move = .outside
  · obtain ⟨old, hold, -⟩ := steady.asks
    obtain ⟨edited, hedited, hsame⟩ := steady.tended.status ho old hold
    obtain rfl := Option.some.inj (hedited.symm.trans hclaim)
    rw [hsame]
    exact h.stored old hold
  · rcases step.claim_cases key hs ho with
      hsame | ⟨f, c, status, answer, stored, rfl, -, rfl, reporting, -, hnew⟩
    · rw [hsame] at hclaim
      exact h.stored claim hclaim
    · obtain rfl := Option.some.inj (hnew.symm.trans hclaim)
      exact (h.asking step rfl).serves reporting

/-- **No step disturbs a calm system.** -/
theorem System.Calm.step (h : s.Calm key trigger) (hs : s.Sound) (step : Step s move s')
    (steady : Steady key trigger s move s') : s'.Calm key trigger where
  stored _ hclaim := h.stored_later hs step steady hclaim
  there := steady.tended.secret_there step hs h.there
  flights f hf hk := by
    have there := steady.tended.secret_there step hs h.there
    cases step.since hf with
    | stayed hf => exact h.flights f hf hk
    | begun k _ => exact .inl (Flight.calm_start k)
    | @told k log r answer resume _ hmove ha =>
      obtain rfl : k = key := hk
      subst hmove
      refine .inl ((h.asking step rfl).told ha (fun claim hclaim => ?_) there fun e heq => ?_)
      · obtain ⟨read, hread, asks⟩ := steady.asks
        obtain rfl := Option.some.inj (hread.symm.trans hclaim)
        exact ⟨asks, h.stored _ hread⟩
      · cases heq
        exact steady.readable _ e rfl

/-- In a calm system no cycle asks for a Secret write. -/
theorem System.Calm.no_write {call : StoreCall} {answer : call.Answer} (h : s.Calm key trigger)
    (hs : s.Sound) (step : Step s (.asked f (.store call) answer) s') (hk : f.key = key) :
    call.writesSecret = false := by
  by_contra hw
  obtain ⟨hf, ⟨resume, hrest⟩, -⟩ := step.answered
  have hreaches := (hs f hf).reaches
  rw [hrest] at hreaches
  obtain ⟨claim, existing, demand, drawn, data, due, -, hlog, -⟩ :=
    write_of_reaches hreaches (by simpa using hw)
  exact (h.asking step hk).not_due (fun e he => mem_of_outward_eq hlog he) due

theorem Run.calm (run : Run (Steady key trigger) s moves t) (hs : s.Sound)
    (h : s.Calm key trigger) : t.Calm key trigger :=
  run.keeps hs (fun _ _ _ sound step steady calm => calm.step sound step steady) h

/-- From a calm system on, the Secret is not written again. -/
theorem Run.no_write {call : StoreCall} {answer : call.Answer}
    (run : Run (Steady key trigger) s moves t) (hs : s.Sound) (h : s.Calm key trigger)
    (asked : .asked f (.store call) answer ∈ moves) (hk : f.key = key) :
    call.writesSecret = false := by
  obtain ⟨before, u, v, run, step, -⟩ := run.allowed asked
  exact (run.calm hs h).no_write (run.sound hs) step hk

/-- **A cycle that came to its end well leaves the system calm.** -/
theorem Flight.Completed.calm (done : f.Completed trigger) (past : Reachable s)
    (grounded : s.Grounded f.key) (begun : Step s (.begun f.key) s')
    (run : Run (Undisturbed f.key) s' moves t) (hf : f ∈ t.flights) : t.Calm f.key trigger := by
  have hs := begun.sound past.sound
  have start : ∀ g ∈ s'.flights, g.key = f.key → Current f.key s'.cluster g.log := by
    intro g hg hk
    cases begun.since hg with
    | stayed hg => exact absurd hk (grounded g hg)
    | begun k _ => exact .nil
    | told _ hmove _ => cases hmove
  obtain ⟨single, current⟩ := run.current hs (grounded.single begun) start
  obtain ⟨⟨claim, hclaim, serves⟩, there⟩ := done.leaves (run.sound hs f hf) (current f hf rfl)
  refine ⟨fun other hother => ?_, there, fun g hg hk => .inr ?_⟩
  · obtain rfl := Option.some.inj (hclaim.symm.trans hother)
    exact serves
  · -- no other cycle for the key is on its way, and this one is over
    obtain ⟨outcome, hrest, -, -⟩ := done.ended
    rw [single.eq hf hg rfl hk]
    exact ⟨_, hrest⟩

/-! ## 5. Over whole runs -/

/-- **Generated values stay as they are.**  Let no cycle for the key be on its way at first.
Then, whatever others do and whatever fails,

* a step of the controller changes a Secret only for a cycle that was entitled to it: the Secret
  was the claim's own, and if the claim was for generated values, its trigger was not empty and
  not the one that its status recorded when the cycle read it;
* while the claim is for generated values and without a trigger, and others leave the Secret
  alone, the Secret stays what it is once it is there;
* once a cycle, the only one for the key, has come to its end with all its calls answered well,
  having read a claim for generated values with some trigger, no cycle writes the Secret, as
  long as the claim stays a valid one with this trigger, the Secret is not removed and can be
  read. -/
theorem generated_values_stable (past : Reachable s) (grounded : s.Grounded key) :
    (∀ rule moves t move u old, Run rule s moves t → Step t move u → move ≠ .outside →
      t.cluster.secrets[key]? = some old → u.cluster.secrets[key]? ≠ some old →
        ∃ f claim, f ∈ t.flights ∧ f.key = key ∧ f.Entitled claim old) ∧
    (∀ moves t secret more u, Run (Untriggered key) s moves t →
      t.cluster.secrets[key]? = some secret → Run (Untouched key) t more u →
        u.cluster.secrets[key]? = some secret) ∧
    ∀ s' moves t f trigger more u, Step s (.begun key) s' → Run (Undisturbed key) s' moves t →
      f ∈ t.flights → f.key = key → f.Completed trigger → Run (Steady key trigger) t more u →
        ∀ g call answer, .asked g (.store call) answer ∈ more → g.key = key →
          call.writesSecret = false := by
  refine ⟨?_, ?_, ?_⟩
  · intro rule moves t move u old run step ho stored changed
    exact step.entitled (run.sound past.sound) ho stored changed
  · intro moves t secret more u run stored next
    exact run.untouched past grounded stored next
  · rintro s' moves t f trigger more u begun run hf rfl done later g call answer asked hk
    have hs := run.sound (begun.sound past.sound)
    exact later.no_write hs (done.calm past grounded begun run hf) asked hk

end Stable

/-! ## 6. Two Secrets -/

namespace Sample

/-- The claim without a trigger. -/
def plain : Claim :=
  { claim with spec := { type := "AutoGenerated", generation := some { length := 8 } } }

/-- A cluster with this claim and the Secret. -/
def quiet : Cluster := cluster.putClaim key plain rfl

theorem plain_stored : quiet.claims[key]? = some plain := Cluster.claim_putClaim _ rfl

theorem reported_stored : settled.claims[key]? = some reported := Cluster.claim_putClaim _ rfl

/-- The Secret after the rotation. -/
def renewed : Secret := (secret.withData ∅).versioned "2"

theorem renewed_stored : settled.secrets[key]? = some renewed := Cluster.secret_putSecret _ "2" rfl

theorem untouched {flights : List Flight} {move : Move} {s' : System} (ho : move ≠ .outside) :
    Untouched key ⟨quiet, flights⟩ move s' where
  untriggered c h := by
    obtain rfl := Option.some.inj (plain_stored.symm.trans h)
    exact ⟨rfl, rfl⟩
  spared h := absurd h ho

theorem undisturbed {s s' : System} {f : Flight} {r : Effect} {answer : r.Answer} :
    Undisturbed key s (.asked f r answer) s' := ⟨⟨nofun, nofun⟩, nofun⟩

theorem steady_begun {flights : List Flight} {s' : System} :
    Steady key "t1" ⟨settled, flights⟩ (.begun key) s' :=
  ⟨⟨nofun, nofun⟩, ⟨reported, reported_stored, rfl, ⟨_, rfl⟩, rfl⟩, nofun⟩

theorem steady_asked {flights : List Flight} {f : Flight} {r : Effect} {answer : r.Answer}
    {s' : System}
    (h : ∀ e, (⟨r, answer⟩ : Event controllerInterface) ≠ told (.readSecret key) (.error e)) :
    Steady key "t1" ⟨settled, flights⟩ (.asked f r answer) s' where
  tended := ⟨nofun, nofun⟩
  asks := ⟨reported, reported_stored, rfl, ⟨_, rfl⟩, rfl⟩
  readable g e heq := by
    cases heq
    exact h e rfl

end Sample

/-- A cycle with a new trigger is about to replace the Secret, and does. -/
theorem exists_rewrite : ∃ (moves : List Move) (t u : System) (move : Move),
    Run (fun _ _ _ => True) ⟨Sample.cluster, []⟩ moves t ∧ Step t move u ∧ move ≠ .outside ∧
      t.cluster.secrets[Sample.key]? = some Sample.secret ∧
        u.cluster.secrets[Sample.key]? ≠ some Sample.secret := by
  have h : Run (fun _ _ _ => True) ⟨Sample.cluster, []⟩ [] _ := .here
  have h := h.step (.begun Sample.cluster [] Sample.key) trivial
  have h := h.step (.asked [] [] (.claim_read Sample.claim_stored)) trivial
  have h := h.step (.asked [] [] (.noted "claim.type" "AutoGenerated")) trivial
  have h := h.step (.asked [] [] (.secret_read Sample.secret_stored)) trivial
  have h := h.step (.asked [] [] (.counted .valuesGenerated 0)) trivial
  refine ⟨_, _, _, _, h, .asked [] [] Sample.replaced, nofun, Sample.secret_stored, fun hsame => ?_⟩
  have hsecret := Option.some.inj (Sample.renewed_stored.symm.trans hsame)
  have hversion : some "2" = some "1" := congrArg (·.metadata.resourceVersion) hsecret
  exact absurd hversion (by decide)

/-- Without a trigger a cycle writes a report at most, which may fail. -/
theorem exists_quiet : ∃ (moves : List Move) (u : System) (f : Flight),
    Run (Untouched Sample.key) ⟨Sample.quiet, []⟩ moves u ∧ f ∈ u.flights ∧
      f.rest = .done (.ok .statusRepaired) := by
  have h : Run (Untouched Sample.key) ⟨Sample.quiet, []⟩ [] _ := .here
  have h := h.step (.begun Sample.quiet [] Sample.key) (Sample.untouched nofun)
  have h := h.step (.asked [] [] (.claim_read Sample.plain_stored)) (Sample.untouched nofun)
  have h := h.step (.asked [] [] (.noted "claim.type" "AutoGenerated")) (Sample.untouched nofun)
  have h := h.step (.asked [] [] (.secret_read Sample.secret_stored)) (Sample.untouched nofun)
  have h := h.step (.asked [] [] (.timed "now")) (Sample.untouched nofun)
  have h := h.step (.asked [] [] (.refused _ _ (.unavailable "down"))) (Sample.untouched nofun)
  have h := h.step (.asked [] [] (.counted .statusWriteFailures 1)) (Sample.untouched nofun)
  exact ⟨_, _, _, h, List.mem_cons_self, rfl⟩

/-- After the rotation a cycle finds nothing to do. -/
theorem exists_idle (g : Flight) : ∃ (moves : List Move) (u : System) (f : Flight),
    Run (Steady Sample.key "t1") ⟨Sample.settled, [g]⟩ moves u ∧ f ∈ u.flights ∧
      f.rest = .done (.ok .idle) := by
  have h : Run (Steady Sample.key "t1") ⟨Sample.settled, [g]⟩ [] _ := .here
  have h := h.step (.begun Sample.settled [g] Sample.key) Sample.steady_begun
  have h := h.step (.asked [] [g] (.claim_read Sample.reported_stored)) (Sample.steady_asked nofun)
  have h := h.step (.asked [] [g] (.noted "claim.type" "AutoGenerated"))
    (Sample.steady_asked nofun)
  have h := h.step (.asked [] [g] (.secret_read Sample.renewed_stored)) (Sample.steady_asked nofun)
  exact ⟨_, _, _, h, List.mem_cons_self, rfl⟩

/-- The Secret is rotated by a cycle that is entitled to it, and not again by the next one; and
the Secret of the claim without a trigger stays what it is. -/
theorem rotated_once :
    (∃ (t u : System) (f : Flight) (claim : Claim), f ∈ t.flights ∧ f.key = Sample.key ∧
      f.Entitled claim Sample.secret ∧ u.cluster.secrets[Sample.key]? ≠ some Sample.secret) ∧
    (∃ (moves : List Move) (u : System) (f : Flight),
      Run (Untouched Sample.key) ⟨Sample.quiet, []⟩ moves u ∧ f ∈ u.flights ∧
        f.rest = .done (.ok .statusRepaired) ∧
          u.cluster.secrets[Sample.key]? = some Sample.secret) ∧
    ∃ (g : Flight) (more : List Move) (u : System) (f : Flight), g.Completed "t1" ∧
      Run (Steady Sample.key "t1") ⟨Sample.settled, [g]⟩ more u ∧ f ∈ u.flights ∧
        f.rest = .done (.ok .idle) ∧ ∀ f call answer, .asked f (.store call) answer ∈ more →
          f.key = Sample.key → call.writesSecret = false := by
  have grounded (c : Cluster) : System.Grounded Sample.key ⟨c, []⟩ := nofun
  obtain ⟨entitled, -, once⟩ := generated_values_stable (.start Sample.cluster) (grounded _)
  obtain ⟨-, quiet, -⟩ := generated_values_stable (.start Sample.quiet) (grounded _)
  refine ⟨?_, ?_, ?_⟩
  · obtain ⟨moves, t, u, move, run, step, ho, stored, changed⟩ := exists_rewrite
    obtain ⟨f, claim, hf, hk, h⟩ := entitled _ _ _ _ _ _ run step ho stored changed
    exact ⟨t, u, f, claim, hf, hk, h, changed⟩
  · obtain ⟨moves, u, f, run, hf, hrest⟩ := exists_quiet
    exact ⟨moves, u, f, run, hf, hrest, quiet _ _ _ _ _ .here Sample.secret_stored run⟩
  · obtain ⟨moves, g, run, hk, hrest, hread, flawless⟩ :=
      exists_rotation (Undisturbed Sample.key) fun _ _ _ _ _ => Sample.undisturbed
    have done : g.Completed "t1" :=
      ⟨⟨_, hrest, nofun, nofun⟩, ⟨Sample.claim, hk ▸ hread, rfl, rfl⟩, flawless⟩
    obtain ⟨more, u, f, later, hf, hidle⟩ := exists_idle g
    exact ⟨g, more, u, f, done, later, hf, hidle,
      once _ _ _ _ _ _ _ (.begun Sample.cluster [] Sample.key) run (List.mem_singleton_self g) hk
        done later⟩

end Controller

end SecretKeeper
