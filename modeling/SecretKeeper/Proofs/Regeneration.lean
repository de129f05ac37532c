/-
# A request for new values is not lost

A user asks for new values by a new trigger.  The cycle that reads it makes them, writes them
and reports, all from the claim as it was when it was read.  Meanwhile the user may move the
trigger on.  The status then records the trigger that was read, and so the newer one is still
new to the next cycle.

A cycle that reads a trigger writes the Secret for it, unless it is recorded already.  And what
is recorded was applied before.  So it is enough that the trigger is not empty and that no write
of the run has used it (`Course.regenerated`).

The trigger may be moved on by a patch, which changes nothing else of the claim.
-/
import SecretKeeper.Proofs.Patch
import SecretKeeper.Proofs.Settling
import SecretKeeper.Proofs.Stability
import SecretKeeper.Simulation.Terminal

namespace SecretKeeper.Controller

open Program Simulation

section Regeneration

variable {key : Key} {trigger : String} {rule : Rule} {s t u v : System} {move : Move}
  {moves more : List Move} {claim : Claim} {existing : Option Secret} {demand : Demand}
  {f : Flight} {outcome : Outcome} {events : List (Event controllerInterface)}

/-! ## 1. What a cycle does about a new trigger -/

/-- **A cycle that reads a new trigger** and ends with an outcome has written the Secret with
values that it has made for this trigger, and then reported. -/
theorem Course.regenerated (h : Course key events (.ok outcome))
    (read : told (.readClaim key) (.ok (some claim)) ∈ events) (asks : Asks trigger claim)
    (nonempty : trigger ≠ "") (fresh : claim.lastReconcileTrigger ≠ trigger)
    (own : ∀ old, told (.readSecret key) (.ok (some old)) ∈ events → old.isOwnedBy claim = true) :
    ∃ existing p attempt stamp sent, p.reconcileTrigger = trigger ∧
      Due claim existing (.generated p) ∧ Attempt claim existing (.generated p) attempt (.ok ()) ∧
      events = reads key claim existing ++ attempt ++
        [told (.writeStatus claim (.afterSync claim (.generated p) stamp)) sent] := by
  -- where the demand was met, the trigger was empty or recorded
  have unmet : ∀ secret demand, ¬ Met claim secret demand := by
    intro secret demand met
    obtain ⟨p, rfl, hp⟩ := claim.demand_of_generated asks.generated met.valid
    rw [asks.trigger_eq] at hp
    rcases Drift.triggerChanged_eq_false_iff.mp met.still with h | h
    · exact nonempty (hp ▸ h)
    · exact fresh (h.symm.trans hp)
  have unique : ∀ {other}, told (.readClaim key) (.ok (some other)) ∈ events → claim = other :=
    fun again => h.claim_unique read again
  cases h with
  | gone => cases List.mem_singleton.mp read
  | @foreign other old h =>
    obtain rfl : claim = other := unique (by simp [reads])
    rw [own old (by simp [reads])] at h
    cases h
  | @written other existing demand attempt stamp sent due h =>
    obtain rfl : claim = other := unique (by simp [reads])
    obtain ⟨p, rfl, hp⟩ := claim.demand_of_generated asks.generated due.valid
    exact ⟨existing, p, attempt, stamp, sent, hp.trans asks.trigger_eq, due, h, rfl⟩
  | @repaired other secret demand stamp sent met h =>
    obtain rfl : claim = other := unique (by simp [reads])
    exact absurd met (unmet secret demand)
  | @idle other secret demand met h =>
    obtain rfl : claim = other := unique (by simp [reads])
    exact absurd met (unmet secret demand)

/-! ## 2. One cycle in a run -/

/-- A cycle that is on its way after a run was on its way before it, if none has begun; what it
was told meanwhile is among the moves. -/
theorem Run.continued (run : Run rule s moves t) (only : Move.begun key ∉ moves) :
    ∀ f ∈ t.flights, f.key = key → ∃ g ∈ s.flights, g.key = key ∧ ∃ heard,
      f.log = g.log ++ heard ∧
        ∀ (before after : List (Event controllerInterface)) (r : Effect) (answer : r.Answer),
          heard = before ++ ⟨r, answer⟩ :: after →
            ∃ rest, Move.asked ⟨key, g.log ++ before, rest⟩ r answer ∈ moves := by
  induction run with
  | here => exact fun f hf hk => ⟨f, hf, hk, [], by simp, fun _ _ _ _ h => by simp at h⟩
  | @step t u moves move run step _ ih =>
    have ih := ih fun hm => only (List.mem_append_left _ hm)
    intro f hf hk
    cases step.since hf with
    | stayed hf =>
      obtain ⟨g, hg, hgk, heard, hlog, hmoves⟩ := ih f hf hk
      refine ⟨g, hg, hgk, heard, hlog, fun before after r answer h => ?_⟩
      obtain ⟨rest, hm⟩ := hmoves before after r answer h
      exact ⟨rest, List.mem_append_left _ hm⟩
    | begun k h =>
      obtain rfl : k = key := hk
      exact absurd (by simp [h]) only
    | @told k log r answer resume there h _ =>
      obtain rfl : k = key := hk
      obtain ⟨g, hg, hgk, heard, rfl, hmoves⟩ := ih _ there rfl
      refine ⟨g, hg, hgk, heard ++ [⟨r, answer⟩], by simp, ?_⟩
      intro before after r' answer' hcut
      rcases concat_cut_cases hcut with ⟨rfl, hlast, -⟩ | ⟨rest, -, hcut⟩
      · cases hlast
        refine ⟨.ask r resume, ?_⟩
        rw [h]
        exact List.mem_append_right _ (List.mem_singleton_self _)
      · obtain ⟨rest', hm⟩ := hmoves before rest r' answer' hcut
        exact ⟨rest', List.mem_append_left _ hm⟩

/-- The only cycle for the key has just read the claim, which asks for new values under a trigger
that no write has used so far. -/
structure Requested (key : Key) (trigger : String) (claim : Claim) (moves : List Move)
    (t u : System) : Prop where
  single : t.Single key
  fetched : Step t (.asked (.start key) (.store (.readClaim key)) (.ok (some claim))) u
  asks : Asks trigger claim
  nonempty : trigger ≠ ""
  fresh : ¬ Applied moves key trigger

/-- The read is all that the cycle was told so far. -/
theorem Requested.log_eq (h : Requested key trigger claim moves t u) {g : Flight}
    (hg : g ∈ u.flights) (hk : g.key = key) :
    g.log = [told (.readClaim key) (.ok (some claim))] :=
  h.fetched.log_of_single h.single g hg hk

/-- What the cycle was told after it had read the claim is among the moves since. -/
theorem Requested.heard (h : Requested key trigger claim moves t u) (next : Run rule u more v)
    (only : Move.begun key ∉ more) (hf : f ∈ v.flights) (hk : f.key = key) :
    told (.readClaim key) (.ok (some claim)) ∈ f.log ∧
      ∀ (before after : List (Event controllerInterface)) (r : Effect) (answer : r.Answer),
        f.log = before ++ ⟨r, answer⟩ :: after → before ≠ [] →
          ∃ rest, Move.asked ⟨key, before, rest⟩ r answer ∈ more := by
  obtain ⟨g, hg, hgk, heard, hlog, hmoves⟩ := next.continued only f hf hk
  rw [h.log_eq hg hgk] at hlog hmoves
  refine ⟨by simp [hlog], fun before after r answer hcut hne => ?_⟩
  cases before with
  | nil => exact absurd rfl hne
  | cons e before =>
    obtain ⟨rfl, hheard⟩ := List.cons.inj (hlog.symm.trans hcut)
    exact hmoves before after r answer hheard

theorem Run.single (run : Run rule s moves t) (single : s.Single key)
    (only : Move.begun key ∉ moves) : t.Single key := by
  induction run with
  | here => exact single
  | step _ step _ ih =>
    refine (ih fun hm => only (List.mem_append_left _ hm)).step step ?_
    rintro rfl
    exact only (List.mem_append_right _ (List.mem_singleton_self _))

/-- What the only cycle for the key is told stands in its log from then on. -/
theorem Run.told_mem (run : Run rule s moves t) (single : s.Single key)
    (only : Move.begun key ∉ moves) {g : Flight} {r : Effect} {answer : r.Answer}
    (hm : Move.asked g r answer ∈ moves) (hg : g.key = key) (hf : f ∈ t.flights)
    (hk : f.key = key) : ⟨r, answer⟩ ∈ f.log := by
  obtain ⟨before, after, rfl⟩ := List.append_of_mem hm
  obtain ⟨u, v, first, step, -, last⟩ := run.cut rfl
  have alone : u.Single key := first.single single fun hm => only (by simp [hm])
  obtain ⟨h, hh, hhk, heard, hlog, -⟩ := last.continued (fun hm => only (by simp [hm])) f hf hk
  subst hg
  rw [hlog, step.log_of_single alone h hh hhk]
  simp

/-! ## 3. What comes of a request -/

/-- A step of the run stores the data in the Secret that the cycle had read, or in a new one. -/
def Stored (rule : Rule) (key : Key) (claim : Claim) (existing : Option Secret)
    (data : Dict Bytes) (u : System) (more : List Move) : Prop :=
  ∃ before g value w w' after ver,
    more = before ++ .asked g (.store (writeCall claim existing data)) (.ok value) :: after ∧
      Run rule u before w ∧
      Step w (.asked g (.store (writeCall claim existing data)) (.ok value)) w' ∧
      w.cluster.secrets[key]? = existing ∧
      w'.cluster.secrets[key]? = some ((written claim existing data).versioned ver)

/-- A write that the cycle was told to have succeeded is such a step. -/
theorem Requested.stored {drawn back : List (Event controllerInterface)} {data : Dict Bytes}
    {value : (writeCall claim existing data).Value}
    (h : Requested f.key trigger claim moves t u) (hs : t.Sound) (next : Run rule u more v)
    (only : Move.begun f.key ∉ more) (hf : f ∈ v.flights) (due : Due claim existing demand)
    (made : Materialized demand drawn data)
    (hlog : outward f.log = reads f.key claim existing ++ drawn ++
      told (writeCall claim existing data) (.ok value) :: back) :
    Stored rule f.key claim existing data u more := by
  obtain ⟨before, after, hcut, hbefore, -⟩ := exists_cut hlog
  have hne : before ≠ [] := by
    rintro rfl
    cases hbefore
  obtain ⟨rest, hm⟩ := (h.heard next only hf rfl).2 before after _ _ hcut hne
  obtain ⟨front, last, hmore⟩ := List.append_of_mem hm
  obtain ⟨w, w', first, step, -, -⟩ := next.cut hmore
  have ready : Flight.Ready ⟨f.key, before, rest⟩ claim existing demand drawn data :=
    ⟨due, made, hbefore⟩
  obtain ⟨hold, ver, hnew⟩ := ready.stores (first.sound (h.fetched.sound hs)) step
  exact ⟨front, _, value, w, w', last, ver, hmore, first, step, hold, hnew⟩

/-- The report that ends a log is the only one in it. -/
theorem report_eq_of_mem {front : List (Event controllerInterface)} {other : Claim}
    {status st : Status} {sent : (StoreCall.writeStatus claim status).Answer}
    {answer : (StoreCall.writeStatus other st).Answer}
    (hlog : outward f.log = front ++ [told (.writeStatus claim status) sent])
    (unreported : ∀ e ∈ front, writesStatus e = false)
    (hm : told (.writeStatus other st) answer ∈ f.log) : other = claim ∧ st = status := by
  have hmem : told (.writeStatus other st) answer ∈ outward f.log := List.mem_filter.mpr ⟨hm, rfl⟩
  rw [hlog] at hmem
  rcases List.mem_append.mp hmem with hm | hm
  · cases unreported _ hm
  · cases List.mem_singleton.mp hm
    exact ⟨rfl, rfl⟩

/-- The cycle has drawn the data by the policy of the claim, under the trigger, and written the
Secret with them; and all that it reports is this trigger. -/
structure Regenerated (rule : Rule) (key : Key) (trigger : String) (claim : Claim) (u : System)
    (more : List Move) (f : Flight) (existing : Option Secret) (data : Dict Bytes)
    (status : Status) : Prop where
  made : ∃ p, claim.spec.validate = .ok (.generated p) ∧ p.reconcileTrigger = trigger ∧
    Materialized (.generated p) (f.log.filter isDraw) data
  written : ∃ value, told (writeCall claim existing data) (.ok value) ∈ f.log
  stored : Stored rule key claim existing data u more
  reported : ∃ sent, told (.writeStatus claim status) sent ∈ f.log
  recorded : status.lastReconcileTrigger = trigger
  reports : ∀ g other st answer, .asked g (.store (.writeStatus other st)) answer ∈ more →
    g.key = key → st = status

/-- **A request is not lost.**  At first the claim has no status, and no cycle for the key is on
its way.  Then a cycle, the only one for the key, reads the claim with a new trigger.  Whatever
the user does with the claim meanwhile, if the cycle ends with an outcome and has not found the
Secret of somebody else, it has made new values for this trigger, and reported it. -/
theorem Requested.regenerated (h : Requested key trigger claim moves t u) (past : Reachable s)
    (grounded : s.Grounded key)
    (blank : ∀ c, s.cluster.claims[key]? = some c → c.status = none)
    (run : Run (StatusKept key) s moves t) (next : Run (StatusKept key) u more v)
    (only : .begun key ∉ more) (hf : f ∈ v.flights) (hk : f.key = key)
    (done : f.rest = .done (.ok outcome))
    (own : ∀ old, told (.readSecret key) (.ok (some old)) ∈ f.log → old.isOwnedBy claim = true) :
    ∃ existing data status,
      Regenerated (StatusKept key) key trigger claim u more f existing data status := by
  subst hk
  have hs := run.sound past.sound
  have course := (next.sound (h.fetched.sound hs) f hf).course done
  obtain ⟨read, -⟩ := h.heard next only hf rfl
  have fresh : claim.lastReconcileTrigger ≠ trigger := by
    rintro rfl
    have vouched := (run.justified past.sound grounded blank).stored claim
      h.fetched.answered.2.2.claim_stored
    exact h.fresh (vouched.applied h.nonempty)
  obtain ⟨existing, p, attempt, stamp, sent, hp, due, attempted, hlog⟩ :=
    course.regenerated (List.mem_filter.mpr ⟨read, rfl⟩) h.asks h.nonempty fresh
      fun old hold => own old (mem_of_mem_outward hold)
  have reporting : Reporting f.key (reads f.key claim existing ++ attempt) claim
      (.afterSync claim (.generated p) stamp) := .written stamp due attempted
  obtain ⟨drawn, data, value, made, rfl⟩ := attempted.eq_of_ok
  have hdrawn : f.log.filter isDraw = drawn := by
    rw [← filter_isDraw_outward, hlog]
    simp [filter_isDraw_reads, made.filter_isDraw, isDraw]
  refine ⟨existing, data, .afterSync claim (.generated p) stamp,
    { made := ⟨p, due.valid, hp, by rw [hdrawn]; exact made⟩
      written := ⟨value, ?_⟩
      stored := h.stored hs next only hf due made (by simpa using hlog)
      reported := ⟨sent, ?_⟩
      recorded := hp
      reports := ?_ }⟩
  · exact mem_of_mem_outward (by simp [hlog])
  · exact mem_of_mem_outward (by simp [hlog])
  · intro g other st answer hm hg
    have single : u.Single f.key := h.single.step h.fetched (by simp)
    exact (report_eq_of_mem hlog (fun e he => reporting.unreported he)
      (next.told_mem single only hm hg hf rfl)).2

/-- A claim can be patched at any time: it is an edit that leaves the status alone. -/
theorem exists_patched {c : Cluster} (there : c.claims[key]? = some claim) (flights : List Flight)
    (token : String) :
    ∃ c', Step ⟨c, flights⟩ .outside ⟨c', flights⟩ ∧
      StatusKept key ⟨c, flights⟩ .outside ⟨c', flights⟩ ∧
      c'.claims = c.claims.insert key (claim.withTrigger token) ∧ c'.secrets = c.secrets := by
  have hk : (claim.withTrigger token).key? = some key := c.claims_placed key claim there
  refine ⟨c.putClaim key _ hk, .outside flights (.putClaim c hk), ?_, rfl, rfl⟩
  intro _ patched hpatched
  obtain rfl := Option.some.inj ((c.claim_putClaim hk).symm.trans hpatched)
  exact .inr ⟨claim, there, rfl⟩

/-- **Requests for new values are not lost.**

* At first the claim has no status, and no cycle for the key is on its way.  Then, in a run in
  which nobody else writes the status, a cycle, the only one for the key, reads the claim with a
  new trigger.  If it ends with an outcome, not having found the Secret of somebody else, it has
  written the Secret with values that it has drawn under this trigger, and all that it reports is
  this trigger, even if the user has moved the trigger on meanwhile.
* The patch that moves the trigger on sets what stands at one path, in any JSON value, and
  leaves alone what stands at any other.
* So it sets the trigger of a claim that has a policy, and nothing else of it; and it is one of
  the edits that such a run may have at any time.
* All that the command sends besides reads is this patch.  It sends it only if it has read a
  claim whose values are generated by a policy, and sets the token that it has printed. -/
theorem requests_not_lost (key : Key) :
    (∀ s moves t claim trigger u more v f outcome, Reachable s → s.Grounded key →
      (∀ c, s.cluster.claims[key]? = some c → c.status = none) →
      Run (StatusKept key) s moves t → Requested key trigger claim moves t u →
      Run (StatusKept key) u more v → .begun key ∉ more → f ∈ v.flights → f.key = key →
      f.rest = .done (.ok outcome) →
      (∀ old, told (.readSecret key) (.ok (some old)) ∈ f.log → old.isOwnedBy claim = true) →
        ∃ existing data status,
          Regenerated (StatusKept key) key trigger claim u more f existing data status) ∧
    (∀ (j : Json) (token : String),
      (j.merge (Cli.triggerPatch token)).at? Cli.triggerPath = some (.str token) ∧
      ∀ path, ¬ Cli.triggerPath <+: path → ¬ path <+: Cli.triggerPath →
        (j.merge (Cli.triggerPatch token)).at? path = j.at? path) ∧
    (∀ (c : Cluster) (flights : List Flight) (claim : Claim) (g : GenerationSpec)
      (token : String), c.claims[key]? = some claim → claim.spec.generation = some g →
        claim.toJson.merge (Cli.triggerPatch token) = (claim.withTrigger token).toJson ∧
        ∃ c', Step ⟨c, flights⟩ .outside ⟨c', flights⟩ ∧
          StatusKept key ⟨c, flights⟩ .outside ⟨c', flights⟩ ∧
          c'.claims = c.claims.insert key (claim.withTrigger token) ∧ c'.secrets = c.secrets) ∧
    ∀ name ns log ending before request x after, (Cli.regenerate name ns).Yields log ending →
      log = before ++ Cli.sent request x :: after → request.method ≠ .get →
        ∃ claim token, Cli.Announced (Cli.keyOf name ns) claim token before ∧
          Api.Request.patch .claims (Cli.keyOf name ns) none "scctl" (Cli.triggerPatch token) =
            .ok request ∧
          request.method = .patch ∧ request.contentType = some .mergePatch ∧
          request.body = some (Cli.triggerPatch token) := by
  refine ⟨?_, ?_, ?_, ?_⟩
  · intro s moves t claim trigger u more v f outcome past grounded blank run h next only hf hk done
      own
    exact h.regenerated past grounded blank run next only hf hk done own
  · intro j token
    exact ⟨Json.at?_merge_along Cli.triggerPath token j,
      fun path apart apart' => Json.at?_merge_along_of_apart token j apart apart'⟩
  · intro c flights claim g token there policy
    exact ⟨Claim.merge_triggerPatch policy token, exists_patched there flights token⟩
  · intro name ns log ending before request x after h hlog hm
    obtain ⟨claim, token, announced, hbuilt⟩ := Cli.regenerate_sends h hlog hm
    obtain ⟨hmethod, htype, hbody⟩ := Api.Request.eq_of_patch hbuilt
    exact ⟨claim, token, announced, hbuilt, hmethod, htype, hbody⟩

end Regeneration

/-! ## 4. A trigger that is moved on -/

namespace Sample

/-- The claim once its trigger has been moved on. -/
def newer : Claim := claim.withTrigger "t2"

/-- The cluster with it. -/
def moved : Cluster := cluster.putClaim key newer rfl

theorem newer_stored : moved.claims[key]? = some newer := Cluster.claim_putClaim _ rfl

theorem renewed_key? : (secret.withData ∅).key? = some key := rfl

/-- The cluster with it and new data. -/
def renewing : Cluster := moved.putSecret key (secret.withData ∅) "2" renewed_key?

theorem renewing_replaced : Cluster.Answers (.store (.replaceSecret (secret.withData ∅))) moved
    (.ok ()) renewing := .done (.replaceSecret rfl secret_stored rfl (by decide))

/-- The claim after the report: it has the newer trigger, and the status records the older one. -/
def outstanding : Claim := { newer with status := some (.afterSync claim demand "now") }

theorem newer_reported :
    Cluster.Answers (.store (.writeStatus claim (.afterSync claim demand "now"))) renewing (.ok ())
      (renewing.putClaim key outstanding rfl) := by
  have there : renewing.claims[key]? = some newer := newer_stored
  exact .done (.writeStatus _ rfl there)

theorem moved_kept {flights : List Flight} :
    StatusKept key ⟨cluster, flights⟩ .outside ⟨moved, flights⟩ := by
  intro _ c hc
  obtain rfl := Option.some.inj (newer_stored.symm.trans hc)
  exact .inr ⟨claim, claim_stored, rfl⟩

/-- A console on which the command finds the claim. -/
def terminal : Simulation.Terminal where
  script :=
    { responses := [⟨.answered 200 ("\x7b\"metadata\":\x7b\x7d,\"spec\":\x7b" ++
        "\"type\":\"AutoGenerated\",\"generation\":\x7b\"length\":8\x7d\x7d\x7d") "", 0⟩] }
  input := []
  stamp := "2025-06-01T08:30:00.000Z"

end Sample

theorem Sample.begun : Step ⟨Sample.cluster, []⟩ (.begun Sample.key)
    ⟨Sample.cluster, [.start Sample.key]⟩ := .begun Sample.cluster [] Sample.key

/-- A cycle reads the claim; then its trigger is moved on, before the cycle writes. -/
theorem exists_overtaken : ∃ (u v : System) (more : List Move) (f : Flight),
    Requested Sample.key "t1" Sample.claim [.begun Sample.key]
      ⟨Sample.cluster, [.start Sample.key]⟩ u ∧
    Run (StatusKept Sample.key) u more v ∧ .begun Sample.key ∉ more ∧ f ∈ v.flights ∧
      f.key = Sample.key ∧ f.rest = .done (.ok .updated) ∧
      (∀ old, told (.readSecret Sample.key) (.ok (some old)) ∈ f.log → old = Sample.secret) ∧
      v.cluster.claims[Sample.key]? = some Sample.outstanding := by
  have grounded : System.Grounded Sample.key ⟨Sample.cluster, []⟩ := nofun
  have requested : Requested Sample.key "t1" Sample.claim [.begun Sample.key]
      ⟨Sample.cluster, [.start Sample.key]⟩ _ :=
    { single := grounded.single Sample.begun
      fetched := .asked [] [] (.claim_read Sample.claim_stored)
      asks := ⟨rfl, ⟨_, rfl⟩, rfl⟩
      nonempty := by decide
      fresh := by
        rintro ⟨f, c, existing, p, drawn, data, value, hm, -⟩
        cases List.mem_singleton.mp hm }
  have here {u : System} (_ : Requested Sample.key "t1" Sample.claim [.begun Sample.key]
      ⟨Sample.cluster, [.start Sample.key]⟩ u) : Run (StatusKept Sample.key) u [] u := .here
  have h := here requested
  have h := h.step (.asked [] [] (.noted "claim.type" "AutoGenerated")) nofun
  have h := h.step (.asked [] [] (.secret_read Sample.secret_stored)) nofun
  have h := h.step (.asked [] [] (.counted .valuesGenerated 0)) nofun
  have h := h.step (.outside _ (.putClaim Sample.cluster rfl)) Sample.moved_kept
  have h := h.step (.asked [] [] Sample.renewing_replaced) nofun
  have h := h.step (.asked [] [] (.counted .secretsUpdated 1)) nofun
  have h := h.step (.asked [] [] (.timed "now")) nofun
  have h := h.step (.asked [] [] Sample.newer_reported) nofun
  refine ⟨_, _, _, _, requested, h, by simp, List.mem_cons_self, rfl, rfl, fun old hold => ?_,
    Std.ExtTreeMap.getElem?_insert_self⟩
  simp only [List.nil_append, List.cons_append, List.mem_cons, List.not_mem_nil, or_false] at hold
  rcases hold with h | h | h | h | h | h | h | h <;> cases h
  rfl

/-- What the command is told and says at that terminal. -/
def Sample.session : List (Event Cli.consoleInterface) :=
  (Cli.regenerate "db" none).transcript Terminal.serve Sample.terminal

/-- The overtaken cycle has made new values for the trigger that it has read, and the newer one
is still to be applied; and the command sends its patch. -/
theorem overtaken_regenerated :
    (∃ (v : System) (f : Flight) (existing : Option Secret) (data : Dict Bytes) (status : Status)
      (u : System) (more : List Move),
      Regenerated (StatusKept Sample.key) Sample.key "t1" Sample.claim u more f existing data
        status ∧ v.cluster.claims[Sample.key]? = some Sample.outstanding) ∧
    (Sample.claim.toJson.merge (Cli.triggerPatch "t2")).at? Cli.triggerPath = some (.str "t2") ∧
    (Sample.claim.toJson.merge (Cli.triggerPatch "t2")).at? ["spec", "type"] =
      Sample.claim.toJson.at? ["spec", "type"] ∧
    Sample.claim.toJson.merge (Cli.triggerPatch "t2") = Sample.newer.toJson ∧
    ∃ before request x after claim token, Sample.session = before ++ Cli.sent request x :: after ∧
      Cli.Announced ⟨"default", "db"⟩ claim token before ∧
      request.body = some (Cli.triggerPatch token) := by
  obtain ⟨regenerated, path, patched, command⟩ := requests_not_lost Sample.key
  have grounded : System.Grounded Sample.key ⟨Sample.cluster, []⟩ := nofun
  refine ⟨?_, (path _ _).1, (path _ _).2 _ (by decide) (by decide), ?_, ?_⟩
  · obtain ⟨u, v, more, f, requested, run, only, hf, hk, done, hown, hclaim⟩ := exists_overtaken
    have begun : Run (StatusKept Sample.key) ⟨Sample.cluster, []⟩ [.begun Sample.key] _ :=
      Run.here.step Sample.begun nofun
    obtain ⟨existing, data, status, h⟩ := regenerated _ _ _ _ _ _ _ _ _ _
      (.start Sample.cluster) grounded Sample.claim_blank begun requested run only hf hk done
        fun old hold => by rw [hown old hold]; decide
    exact ⟨v, f, existing, data, status, u, more, h, hclaim⟩
  · exact (patched Sample.cluster [] Sample.claim _ "t2" Sample.claim_stored rfl).1
  · have hchanges : ∃ e ∈ Sample.session, Cli.changes e = true := by decide +kernel
    obtain ⟨⟨ask, x⟩, hmem, hchanges⟩ := hchanges
    obtain ⟨before, after, hlog⟩ := List.append_of_mem hmem
    cases ask with
    | send request =>
      have hm : request.method ≠ .get := by simpa [Cli.changes] using hchanges
      obtain ⟨claim, token, announced, -, -, -, hbody⟩ :=
        command "db" none Sample.session _ before request x after
          (yields_transcript Terminal.serve _ _) hlog hm
      exact ⟨before, request, x, after, claim, token, hlog, announced, hbody⟩
    | _ => cases hchanges

end SecretKeeper.Controller
