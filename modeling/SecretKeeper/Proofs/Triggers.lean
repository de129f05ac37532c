/-
# A recorded trigger was applied

The status of a claim records the trigger that was applied last.  Whatever has happened to the
claim and to its Secret before, a trigger that stands in the status was applied: a cycle of the
run wrote the Secret, with values that it had drawn for a policy with this trigger, and was told
that the write had succeeded (`trigger_applied`).

Not every report comes after a write.  A cycle that finds nothing to write may still report, and
then it records the trigger of the spec; but it found nothing to write because this trigger was
recorded already, when it read the claim, or is empty.  A report on verbatim values keeps what
was recorded.  And a failure forgets it.  So every trigger that is recorded was recorded before,
or has just been applied.
-/
import SecretKeeper.Proofs.Run

namespace SecretKeeper

theorem Claim.lastReconcileTrigger_eq (c : Claim) :
    c.lastReconcileTrigger = c.statusSoFar.lastReconcileTrigger := by
  obtain ⟨_, _, status⟩ := c
  cases status <;> rfl

/-- A trigger that does not count as new is empty, or the one that was applied last. -/
theorem Drift.triggerChanged_eq_false_iff {current last : String} :
    triggerChanged current last = false ↔ current = "" ∨ current = last := by
  simp only [triggerChanged, Bool.and_eq_false_iff, Bool.not_eq_false', String.isEmpty_iff,
    bne_eq_false_iff_eq]

namespace Controller

section Applied

variable {key : Key} {s s' : System} {move : Move} {moves : List Move} {claim : Claim}

/-! ## 1. The history of a trigger -/

/-- A cycle for the key wrote the Secret, and was told that the write had succeeded, with values
that it had drawn for a policy with this trigger. -/
def Applied (moves : List Move) (key : Key) (trigger : String) : Prop :=
  ∃ (f : Flight) (claim : Claim) (existing : Option Secret) (p : Policy)
    (drawn : List (Event controllerInterface)) (data : Dict Bytes)
    (value : (writeCall claim existing data).Value),
    Move.asked f (.store (writeCall claim existing data)) (.ok value) ∈ moves ∧ f.key = key ∧
      f.Ready claim existing (.generated p) drawn data ∧ p.reconcileTrigger = trigger

/-- A trigger that the claim's status records was applied. -/
def Vouched (moves : List Move) (key : Key) (status : Option Status) : Prop :=
  ∀ st, status = some st → st.lastReconcileTrigger ≠ "" →
    Applied moves key st.lastReconcileTrigger

theorem Vouched.append {status : Option Status} (h : Vouched moves key status)
    (more : List Move) : Vouched (moves ++ more) key status := by
  intro st hst hne
  obtain ⟨f, c, existing, p, drawn, data, value, hm, hk, ready, ht⟩ := h st hst hne
  exact ⟨f, c, existing, p, drawn, data, value, List.mem_append_left _ hm, hk, ready, ht⟩

theorem Vouched.applied (h : Vouched moves key claim.status)
    (hne : claim.lastReconcileTrigger ≠ "") : Applied moves key claim.lastReconcileTrigger := by
  obtain ⟨_, _, status⟩ := claim
  cases status with
  | none => exact absurd rfl hne
  | some st => exact h st rfl hne

/-! ## 2. What is reported was applied -/

/-- A write that a cycle was told to have succeeded is part of the history. -/
theorem Flight.Recorded.applied {f : Flight} {existing : Option Secret} {p : Policy}
    {attempt : List (Event controllerInterface)} (recorded : f.Recorded moves)
    (due : Due claim existing (.generated p))
    (h : Attempt claim existing (.generated p) attempt (.ok ()))
    (hlog : outward f.log = reads f.key claim existing ++ attempt) :
    Applied moves f.key p.reconcileTrigger := by
  obtain ⟨drawn, data, value, hm, rfl⟩ := h.eq_of_ok
  rw [← List.append_assoc] at hlog
  obtain ⟨before, after, hcut, hbefore, -⟩ := exists_cut hlog
  obtain ⟨rest, hmove⟩ := recorded before after _ _ hcut
  exact ⟨⟨f.key, before, rest⟩, claim, existing, p, drawn, data, value, hmove, rfl,
    ⟨due, hm, hbefore⟩, rfl⟩

/-- **What a cycle reports was applied**, if what it has read was. -/
theorem Reporting.vouched {f : Flight} {status : Status}
    (h : Reporting f.key (outward f.log) claim status) (recorded : f.Recorded moves)
    (read : Vouched moves f.key claim.status) : Vouched moves f.key (some status) := by
  rintro st ⟨rfl⟩ hne
  -- a report on verbatim values keeps the trigger that was read
  have kept : ∀ (data : Dict String) (stamp : String),
      (Status.afterSync claim (.verbatim data) stamp).lastReconcileTrigger =
        claim.lastReconcileTrigger := fun _ _ => claim.lastReconcileTrigger_eq.symm
  generalize hlog : outward f.log = events at h
  cases h with
  | unprobed c e stamp => exact absurd rfl hne
  | refused stamp _ => exact absurd rfl hne
  | failed stamp due h => exact absurd rfl hne
  | @written c existing demand attempt stamp due h =>
    cases demand with
    | verbatim data =>
      rw [kept] at hne ⊢
      exact read.applied hne
    | generated p => exact recorded.applied due h hlog
  | @repaired c secret demand stamp met _ =>
    cases demand with
    | verbatim data =>
      rw [kept] at hne ⊢
      exact read.applied hne
    | generated p =>
      rcases Drift.triggerChanged_eq_false_iff.mp met.still with hempty | hlast
      · exact absurd hempty hne
      · have hsame : (Status.afterSync claim (.generated p) stamp).lastReconcileTrigger =
            claim.lastReconcileTrigger := hlast
        rw [hsame] at hne ⊢
        exact read.applied hne

/-! ## 3. Over a run -/

/-- Others leave the status of the claim alone: they edit the claim or remove it, or make it
anew, without a status. -/
def StatusKept (key : Key) : Rule := fun s move s' =>
  move = .outside → ∀ claim, s'.cluster.claims[key]? = some claim →
    claim.status = none ∨ ∃ old, s.cluster.claims[key]? = some old ∧ claim.status = old.status

/-- What the stored status records was applied, and so was what the cycles for the key have
read. -/
structure Justified (moves : List Move) (key : Key) (s : System) : Prop where
  stored : ∀ claim, s.cluster.claims[key]? = some claim → Vouched moves key claim.status
  read : ∀ f ∈ s.flights, f.key = key → ∀ claim,
    told (.readClaim key) (.ok (some claim)) ∈ f.log → Vouched moves key claim.status

/-- No step breaks it. -/
theorem Justified.step (h : Justified moves key s) (sound : s.Sound)
    (recorded : ∀ f ∈ s.flights, f.key = key → f.Recorded moves) (step : Step s move s')
    (kept : StatusKept key s move s') : Justified (moves ++ [move]) key s' where
  stored claim hclaim := by
    by_cases ho : move = .outside
    · rcases kept ho claim hclaim with hnone | ⟨old, hold, hsame⟩
      · rw [hnone]
        nofun
      · rw [hsame]
        exact (h.stored old hold).append _
    · rcases step.claim_cases key sound ho with
        hsame | ⟨f, c, status, answer, stored, -, hf, hk, reporting, -, hnew⟩
      · rw [hsame] at hclaim
        exact (h.stored claim hclaim).append _
      · obtain rfl := Option.some.inj (hnew.symm.trans hclaim)
        have read := h.read f hf hk c (mem_of_mem_outward reporting.claim_read)
        subst hk
        exact (reporting.vouched (recorded f hf rfl) read).append _
  read f hf hk claim hm := by
    cases step.since hf with
    | stayed hf => exact (h.read f hf hk claim hm).append _
    | begun k _ => cases hm
    | @told k log r answer resume there _ answered =>
      rcases List.mem_append.mp hm with hm | hm
      · exact (h.read _ there hk claim hm).append _
      · cases List.mem_singleton.mp hm
        exact (h.stored claim answered.claim_stored).append _

theorem Run.justified (run : Run (StatusKept key) s moves s') (sound : s.Sound)
    (grounded : s.Grounded key)
    (blank : ∀ claim, s.cluster.claims[key]? = some claim → claim.status = none) :
    Justified moves key s' := by
  induction run with
  | here =>
    refine ⟨fun claim hclaim => ?_, fun f hf hk => absurd hk (grounded f hf)⟩
    rw [blank claim hclaim]
    nofun
  | step run step kept ih => exact ih.step (run.sound sound) (run.recorded grounded) step kept

/-- **A recorded trigger was applied.**  At first the claim has no status, and no cycle for the
key is on its way.  Whatever happens then, as long as nobody else writes the status, a trigger
that the stored status records was applied by a cycle of the run. -/
theorem trigger_applied (past : Reachable s) (grounded : s.Grounded key)
    (blank : ∀ claim, s.cluster.claims[key]? = some claim → claim.status = none)
    (run : Run (StatusKept key) s moves s') (stored : s'.cluster.claims[key]? = some claim)
    (recorded : claim.lastReconcileTrigger ≠ "") :
    Applied moves key claim.lastReconcileTrigger :=
  ((run.justified past.sound grounded blank).stored claim stored).applied recorded

end Applied

/-! ## 4. A rotation -/

namespace Sample

def demand : Demand :=
  .generated { dataKeys := [], length := 8, encoding := .ofName "", reconcileTrigger := "t1" }

/-- The Secret with new data. -/
def rotated : Cluster := cluster.putSecret key (secret.withData ∅) "2" rfl

/-- The claim with a report of it. -/
def reported : Claim := { claim with status := some (.afterSync claim demand "now") }

/-- The cluster after the report. -/
def settled : Cluster := rotated.putClaim key reported rfl

theorem claim_blank : ∀ c, cluster.claims[key]? = some c → c.status = none := by
  intro c h
  obtain rfl := Option.some.inj (claim_stored.symm.trans h)
  rfl

theorem replaced : Cluster.Answers (.store (.replaceSecret (secret.withData ∅))) cluster (.ok ())
    rotated := .done (.replaceSecret rfl secret_stored rfl (by decide))

theorem claim_reported :
    Cluster.Answers (.store (.writeStatus claim (.afterSync claim demand "now"))) rotated (.ok ())
      settled := by
  have there : rotated.claims[key]? = some claim := claim_stored
  exact .done (.writeStatus _ rfl there)

end Sample

/-- A cycle replaces the data of the Secret and reports it. -/
theorem exists_rotation (rule : Rule)
    (free : ∀ s f (r : Effect) (answer : r.Answer) s', rule s (.asked f r answer) s') :
    ∃ (moves : List Move) (f : Flight),
      Run rule ⟨Sample.cluster, [.start Sample.key]⟩ moves ⟨Sample.settled, [f]⟩ ∧
        f.key = Sample.key ∧ f.rest = .done (.ok .updated) ∧
          told (.readClaim Sample.key) (.ok (some Sample.claim)) ∈ f.log ∧
            ∀ e ∈ calls f.log, succeeded e = true := by
  have h : Run rule ⟨Sample.cluster, [.start Sample.key]⟩ [] _ := .here
  have h := h.step (.asked [] [] (.claim_read Sample.claim_stored)) (free ..)
  have h := h.step (.asked [] [] (.noted "claim.type" "AutoGenerated")) (free ..)
  have h := h.step (.asked [] [] (.secret_read Sample.secret_stored)) (free ..)
  have h := h.step (.asked [] [] (.counted .valuesGenerated 0)) (free ..)
  have h := h.step (.asked [] [] Sample.replaced) (free ..)
  have h := h.step (.asked [] [] (.counted .secretsUpdated 1)) (free ..)
  have h := h.step (.asked [] [] (.timed "now")) (free ..)
  have h := h.step (.asked [] [] Sample.claim_reported) (free ..)
  refine ⟨_, _, h, rfl, rfl, by simp, fun e he => ?_⟩
  simp only [calls, call?, List.nil_append, List.cons_append, List.filterMap_cons,
    List.filterMap_nil, List.mem_cons, List.not_mem_nil, or_false] at he
  rcases he with rfl | rfl | rfl | rfl <;> rfl

/-- The trigger that is recorded then was applied. -/
theorem rotation_applied : ∃ (s : System) (moves : List Move),
    Run (StatusKept Sample.key) ⟨Sample.cluster, []⟩ moves s ∧ Applied moves Sample.key "t1" := by
  have grounded : System.Grounded Sample.key ⟨Sample.cluster, []⟩ := nofun
  obtain ⟨moves, f, run, -⟩ := exists_rotation (StatusKept Sample.key) fun _ _ _ _ _ => nofun
  have begun : Run (StatusKept Sample.key) ⟨Sample.cluster, []⟩ [.begun Sample.key] _ :=
    Run.here.step (.begun Sample.cluster [] Sample.key) nofun
  have run := begun.append run fun _ _ _ h => h
  exact ⟨_, _, run, trigger_applied (.start Sample.cluster) grounded Sample.claim_blank run
    Std.ExtTreeMap.getElem?_insert_self (by decide)⟩

end Controller

end SecretKeeper
