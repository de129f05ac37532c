/-
# What a status remembers

Every report starts from the status that the one before it has left, and each field of the status
goes its own way: it is stamped by every sync, or kept by failures, or cleared by them.  After any
number of reports each field can be told from the reports alone, without the statuses in between
(`reports_remembered`):

* the time of the condition `Ready` is that of the first report of the last block of reports that
  say the same (`StatusReport.Opens`);
* the time of the last update is that of the last sync, and the Secret has a name since the first;
* the trigger is decided by the last report that has a say in it: a failure, which forgets it, or
  a sync of generated values, which records its own.  A sync of verbatim values has none.

The time of the condition is looked up among all conditions there are.  That it is found again in
the next report needs that there is just one `Ready`, the last that was written, so the invariant
(`Chronicled`) holds the condition together with the block.
-/
import Mathlib.Data.List.Induction
import SecretKeeper.Proofs.Coherence
import SecretKeeper.Time.Instant

namespace SecretKeeper

/-! ## 1. Reports -/

/-- A report about a claim, at some time. -/
inductive StatusReport where
  /-- The Secret was brought in line with the demand. -/
  | synced (demand : Demand) (now : Instant)
  /-- A cycle failed with this message. -/
  | failed (message : String) (now : Instant)

namespace StatusReport

/-- The time of the report, as it is written. -/
def stamp : StatusReport → String
  | synced _ now => now.stamp
  | failed _ now => now.stamp

/-- The kind of the report. -/
def isSynced : StatusReport → Bool
  | synced _ _ => true
  | failed _ _ => false

/-- The trigger that the report records, if it is about generated values. -/
def trigger? : StatusReport → Option String
  | synced demand _ => demand.reconcileTrigger
  | failed _ _ => none

/-- The report decides about the trigger. -/
def decides (r : StatusReport) : Bool := !r.isSynced || r.trigger?.isSome

/-- The status that the report leaves. -/
def status (c : Claim) : StatusReport → Status
  | synced demand now => .afterSync c demand now.stamp
  | failed message now => .afterFailure c message now.stamp

/-- The last report with the property. -/
def latest (p : StatusReport → Bool) (reports : List StatusReport) : Option StatusReport :=
  (reports.filter p).getLast?

/-- The report is the first of the last block of reports of one kind. -/
def Opens (first : StatusReport) (reports : List StatusReport) : Prop :=
  ∃ before block, reports = before ++ first :: block ∧
    (∀ r ∈ block, r.isSynced = first.isSynced) ∧
    ∀ r ∈ before.getLast?, r.isSynced ≠ first.isSynced

variable {first r : StatusReport} {reports : List StatusReport} {p : StatusReport → Bool}

theorem latest_concat :
    latest p (reports ++ [r]) = if p r then some r else latest p reports := by
  cases h : p r <;> simp [latest, h]

theorem opens_singleton (r : StatusReport) : Opens r [r] := ⟨[], [], rfl, nofun, nofun⟩

/-- The last report is of the kind of its block. -/
theorem Opens.getLast? (h : Opens first reports) :
    ∀ r ∈ reports.getLast?, r.isSynced = first.isSynced := by
  obtain ⟨before, block, rfl, same, -⟩ := h
  intro r hr
  rw [List.getLast?_append_cons] at hr
  rcases List.mem_cons.mp (List.mem_of_getLast? hr) with rfl | hr
  · rfl
  · exact same r hr

/-- One more report of the same kind goes on with the block. -/
theorem Opens.concat (h : Opens first reports) (same : r.isSynced = first.isSynced) :
    Opens first (reports ++ [r]) := by
  obtain ⟨before, block, rfl, hblock, hbefore⟩ := h
  refine ⟨before, block ++ [r], by simp, fun x hx => ?_, hbefore⟩
  rcases List.mem_append.mp hx with hx | hx
  · exact hblock x hx
  · rwa [List.mem_singleton.mp hx]

/-- A report of the other kind begins a block. -/
theorem Opens.turn (h : Opens first reports) (other : r.isSynced ≠ first.isSynced) :
    Opens r (reports ++ [r]) := by
  refine ⟨reports, [], rfl, nofun, fun x hx hsame => other ?_⟩
  rw [← hsame, h.getLast? x hx]

/-- A block that begins later goes against the turn before it. -/
theorem Opens.eq_of_later {before block rest : List StatusReport} {other : StatusReport}
    (same : ∀ r ∈ block, r.isSynced = first.isSynced)
    (turn : ∀ r ∈ (before ++ rest).getLast?, r.isSynced ≠ other.isSynced)
    {after : List StatusReport} (h : first :: block = rest ++ other :: after) : first = other := by
  cases rest with
  | nil => exact (List.cons.inj h).1
  | cons x rest =>
    -- `other` is in the block of `first`, and so is the report before it: there is no turn
    obtain ⟨rfl, rfl⟩ := List.cons.inj h
    have kind : ∀ r ∈ first :: rest, r.isSynced = first.isSynced :=
      List.forall_mem_cons.mpr ⟨rfl, fun r hr => same r (List.mem_append_left _ hr)⟩
    have hother : other.isSynced = first.isSynced := same other (by simp)
    have hlast : (before ++ first :: rest).getLast? =
        some ((first :: rest).getLast (List.cons_ne_nil _ _)) := by
      rw [List.getLast?_append_cons, List.getLast?_eq_some_getLast]
    exact absurd ((kind _ (List.getLast_mem _)).trans hother.symm) (turn _ hlast)

/-- There is one last block. -/
theorem Opens.unique {other : StatusReport} (h : Opens first reports) (h' : Opens other reports) :
    first = other := by
  obtain ⟨before, block, rfl, same, turn⟩ := h
  obtain ⟨before', block', heq, same', turn'⟩ := h'
  rcases List.append_eq_append_iff.mp heq with ⟨rest, rfl, hrest⟩ | ⟨rest, rfl, hrest⟩
  · exact Opens.eq_of_later same turn' hrest
  · exact (Opens.eq_of_later same' turn hrest).symm

end StatusReport

namespace Claim

/-- The claim with the status that the report leaves. -/
def reported (c : Claim) (r : StatusReport) : Claim := { c with status := some (r.status c) }

/-- The claim after these reports, the first of them first. -/
def afterReports (c : Claim) (reports : List StatusReport) : Claim := reports.foldl reported c

theorem afterReports_concat (c : Claim) (reports : List StatusReport) (r : StatusReport) :
    c.afterReports (reports ++ [r]) = (c.afterReports reports).reported r :=
  List.foldl_concat _ _ _ _

@[simp] theorem metadata_afterReports (c : Claim) (reports : List StatusReport) :
    (c.afterReports reports).metadata = c.metadata := by
  induction reports using List.reverseRecOn with
  | nil => rfl
  | append_singleton reports r ih =>
    rw [afterReports_concat]
    exact ih

end Claim

/-! ## 2. The time of the condition -/

namespace Condition

variable {conditions : List Condition} {isReady other : Bool} {now : String} {c : Condition}

theorem flag_injective : Function.Injective flag := by
  intro a b h
  cases a <;> cases b <;> first | rfl | exact absurd h (by decide)

/-- Only conditions `Ready` are looked at. -/
theorem transitionTime_eq : transitionTime conditions isReady now =
    match (conditions.filter (·.type == ready)).find? (·.status == flag isReady) with
    | some c => c.lastTransitionTime.getD now
    | none => now := by
  have hfind : (conditions.filter (·.type == ready)).find? (·.status == flag isReady) =
      conditions.find? fun c => c.type == ready && c.status == flag isReady := by
    rw [List.find?_filter]
    congr 1
    funext c
    rw [Bool.decide_and, Bool.decide_eq_true, Bool.decide_eq_true]
  rw [hfind]
  rfl

/-- The first condition `Ready` is of now. -/
theorem transitionTime_of_none (h : conditions.filter (·.type == ready) = []) :
    transitionTime conditions isReady now = now := by
  rw [transitionTime_eq, h]
  rfl

/-- A condition that says the same keeps its time. -/
theorem transitionTime_of_same {time : String} (h : conditions.filter (·.type == ready) = [c])
    (hc : c.status = flag isReady) (ht : c.lastTransitionTime = some time) :
    transitionTime conditions isReady now = time := by
  simp [transitionTime_eq, h, hc, ht]

/-- A condition that says something else does not. -/
theorem transitionTime_of_other (h : conditions.filter (·.type == ready) = [c])
    (hc : c.status = flag other) (hne : isReady ≠ other) :
    transitionTime conditions isReady now = now := by
  have hflag : flag other ≠ flag isReady := fun heq => hne (flag_injective heq).symm
  simp [transitionTime_eq, h, hc, hflag]

end Condition

/-! ## 3. What is remembered -/

open StatusReport

/-- What the status of the claim tells after these reports. -/
structure Chronicled (claim : Claim) (reports : List StatusReport) (st : Status) : Prop where
  ready : (reports = [] ∧ st.conditions.filter (·.type == Condition.ready) = []) ∨
    ∃ first condition, Opens first reports ∧
      st.conditions.filter (·.type == Condition.ready) = [condition] ∧
      condition.status = Condition.flag first.isSynced ∧
      condition.lastTransitionTime = some first.stamp
  lastUpdate : st.lastUpdate =
    ((latest isSynced reports).map stamp).or claim.statusSoFar.lastUpdate
  createdSecretName : st.createdSecretName =
    if reports.any isSynced then claim.metadata.name.getD ""
    else claim.statusSoFar.createdSecretName
  lastReconcileTrigger : st.lastReconcileTrigger =
    match latest decides reports with
    | some r => r.trigger?.getD ""
    | none => claim.statusSoFar.lastReconcileTrigger

section Chronicled

variable {claim c : Claim} {reports : List StatusReport}

/-- Before the first report the status is what it is. -/
theorem chronicled_start (fresh : ∀ c ∈ claim.statusSoFar.conditions, c.type ≠ Condition.ready) :
    Chronicled claim [] claim.statusSoFar where
  ready := .inl ⟨rfl, List.filter_eq_nil_iff.mpr fun c hc h => fresh c hc (beq_iff_eq.mp h)⟩
  lastUpdate := rfl
  createdSecretName := rfl
  lastReconcileTrigger := rfl

/-- A report writes the condition of its kind. -/
theorem StatusReport.conditions_status (r : StatusReport) (c : Claim) : ∃ reason message,
    (r.status c).conditions =
      Condition.withReady c.statusSoFar.conditions r.isSynced reason message r.stamp := by
  cases r with
  | synced demand now => exact ⟨_, _, rfl⟩
  | failed message now => exact ⟨_, _, rfl⟩

/-- The condition has the time of the block that the report opens, or goes on with. -/
theorem Chronicled.opens (h : Chronicled claim reports c.statusSoFar) (r : StatusReport) :
    ∃ first, Opens first (reports ++ [r]) ∧ r.isSynced = first.isSynced ∧
      Condition.transitionTime c.statusSoFar.conditions r.isSynced r.stamp = first.stamp := by
  rcases h.ready with ⟨rfl, hnone⟩ | ⟨first, condition, opens, hone, hstatus, htime⟩
  · exact ⟨r, opens_singleton r, rfl, Condition.transitionTime_of_none hnone⟩
  · by_cases hsame : r.isSynced = first.isSynced
    · refine ⟨first, opens.concat hsame, hsame, ?_⟩
      exact Condition.transitionTime_of_same hone (hsame ▸ hstatus) htime
    · exact ⟨r, opens.turn hsame, rfl, Condition.transitionTime_of_other hone hstatus hsame⟩

/-- **One more report.** -/
theorem Chronicled.report (h : Chronicled claim reports c.statusSoFar)
    (same : c.metadata = claim.metadata) (r : StatusReport) :
    Chronicled claim (reports ++ [r]) (r.status c) where
  ready := by
    obtain ⟨first, opens, hkind, htime⟩ := h.opens r
    obtain ⟨reason, message, hconditions⟩ := r.conditions_status c
    rw [hconditions, Condition.filter_ready_withReady]
    exact .inr ⟨first, _, opens, rfl, congrArg Condition.flag hkind, congrArg some htime⟩
  lastUpdate := by
    rw [latest_concat]
    cases r with
    | synced demand now => rfl
    | failed message now => exact h.lastUpdate
  createdSecretName := by
    cases r with
    | synced demand now => simp [status, Status.afterSync, isSynced, same]
    | failed message now => simpa [status, Status.afterFailure, isSynced] using h.createdSecretName
  lastReconcileTrigger := by
    rw [latest_concat]
    cases r with
    | synced demand now =>
      cases demand with
      | verbatim data => exact h.lastReconcileTrigger
      | generated policy => rfl
    | failed message now => rfl

theorem chronicled_afterReports
    (fresh : ∀ c ∈ claim.statusSoFar.conditions, c.type ≠ Condition.ready)
    (reports : List StatusReport) :
    Chronicled claim reports (claim.afterReports reports).statusSoFar := by
  induction reports using List.reverseRecOn with
  | nil => exact chronicled_start fresh
  | append_singleton reports r ih =>
    rw [Claim.afterReports_concat]
    exact ih.report (Claim.metadata_afterReports claim reports) r

/-- **What a status remembers of its reports.**  The claim has no condition `Ready` to begin with,
and then there are reports, of any kind and at any times, each on the status that the one before it
has left.  In the end:

* there is one condition `Ready`, since the first report of the last block of one kind;
* the last update was at the last sync, or is what it was;
* the name of the Secret is that of the claim, if there was a sync, or is what it was;
* the trigger is empty, if the last report that decides about it is a failure; if it is a sync of
  generated values, it is theirs; and if there is none, it is what it was. -/
theorem reports_remembered
    (fresh : ∀ c ∈ claim.statusSoFar.conditions, c.type ≠ Condition.ready)
    (reported : reports ≠ []) :
    ∃ status, (claim.afterReports reports).status = some status ∧
      (∃ condition, status.conditions.filter (·.type == Condition.ready) = [condition] ∧
        (∃ first, Opens first reports) ∧
        ∀ first, Opens first reports → condition.lastTransitionTime = some first.stamp) ∧
      status.lastUpdate = ((latest isSynced reports).map stamp).or claim.statusSoFar.lastUpdate ∧
      status.createdSecretName = (if reports.any isSynced then claim.metadata.name.getD ""
        else claim.statusSoFar.createdSecretName) ∧
      status.lastReconcileTrigger = match latest decides reports with
        | some (.failed _ _) => ""
        | some (.synced demand _) => demand.reconcileTrigger.getD ""
        | none => claim.statusSoFar.lastReconcileTrigger := by
  have chronicled := chronicled_afterReports fresh reports
  obtain ⟨status, hstatus⟩ : ∃ status, (claim.afterReports reports).status = some status := by
    obtain ⟨front, r, rfl⟩ := (List.eq_nil_or_concat' reports).resolve_left reported
    rw [Claim.afterReports_concat]
    exact ⟨_, rfl⟩
  have hsoFar : (claim.afterReports reports).statusSoFar = status := by
    rw [Claim.statusSoFar, hstatus, Option.getD_some]
  rw [hsoFar] at chronicled
  refine ⟨status, hstatus, ?_, chronicled.lastUpdate, chronicled.createdSecretName, ?_⟩
  · rcases chronicled.ready with ⟨hnil, -⟩ | ⟨first, condition, opens, hone, -, htime⟩
    · exact absurd hnil reported
    · exact ⟨condition, hone, ⟨first, opens⟩, fun other h => opens.unique h ▸ htime⟩
  · rw [chronicled.lastReconcileTrigger]
    rcases latest decides reports with _ | ⟨_ | _⟩ <;> rfl

end Chronicled

/-! ## 4. A failure between syncs -/

namespace Relapsing

/-- A claim whose status has a trigger, and a condition of somebody else. -/
def claim : Claim where
  metadata := { ns := some "default", name := some "db" }
  spec := { type := "Opaque" }
  status := some
    { lastReconcileTrigger := "t0", conditions := [⟨"Audited", "True", none, none, none⟩] }

def policy : Policy := ⟨["password"], 12, .ofName "", "t1"⟩

/-- Values were generated, a cycle failed, and then the claim was `Opaque`. -/
def reports : List StatusReport :=
  [.synced (.generated policy) ⟨0, 0⟩, .failed "down" ⟨60, 0⟩, .synced (.verbatim ∅) ⟨120, 0⟩,
    .synced (.verbatim ∅) ⟨180, 0⟩]

theorem opens : Opens (.synced (.verbatim ∅) ⟨120, 0⟩) reports :=
  ⟨[.synced (.generated policy) ⟨0, 0⟩, .failed "down" ⟨60, 0⟩], [.synced (.verbatim ∅) ⟨180, 0⟩],
    rfl, by simp [isSynced], by simp [isSynced]⟩

end Relapsing

/-- The claim is ready since the first sync after the failure, and the failure has cleared the
trigger. -/
theorem relapse_remembered : ∃ status,
    (Relapsing.claim.afterReports Relapsing.reports).status = some status ∧
      (∃ condition, status.conditions.filter (·.type == Condition.ready) = [condition] ∧
        condition.lastTransitionTime = some "1970-01-01T00:02:00Z") ∧
      status.lastUpdate = some "1970-01-01T00:03:00Z" ∧ status.createdSecretName = "db" ∧
      status.lastReconcileTrigger = "" := by
  have fresh : ∀ c ∈ Relapsing.claim.statusSoFar.conditions, c.type ≠ Condition.ready := by decide
  have reported : Relapsing.reports ≠ [] := nofun
  obtain ⟨status, hstatus, ⟨condition, hone, -, htime⟩, hupdate, hname, htrigger⟩ :=
    reports_remembered fresh reported
  have hsince : StatusReport.stamp (.synced (.verbatim ∅) ⟨120, 0⟩) = "1970-01-01T00:02:00Z" := by
    decide +kernel
  have hlast : ((latest isSynced Relapsing.reports).map stamp).or
      Relapsing.claim.statusSoFar.lastUpdate = some "1970-01-01T00:03:00Z" := by decide +kernel
  exact ⟨status, hstatus, ⟨condition, hone, hsince ▸ htime _ Relapsing.opens⟩,
    hupdate.trans hlast, hname, htrigger⟩

end SecretKeeper
