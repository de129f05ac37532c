/-
# A status agrees with itself

A status says several times over how the last cycle ended: by its flag, by its error, and by the
status, the reason and the message of its condition `Ready`.  Others read one of these or the
other, so they have to agree (`Status.Coherent`), whatever the status was that a report started
from: one that others have written, with two conditions `Ready` or with none.

The error of a failure is what its cause says.  That it is not empty is a fact about every cause
there is (`CycleError.message_ne_empty`).

The conditions of other types belong to others.  A report keeps those that the cycle has read.
They are still the stored ones, if others leave the status alone while a cycle is on its way:
then no two cycles have read different ones, even where they overlap (`Abreast`).
-/
import SecretKeeper.Proofs.Run

namespace SecretKeeper

/-! ## 1. Errors say something -/

/-- A text that begins with a nonempty one is not empty. -/
theorem append_ne_empty {s t : String} (h : s ≠ "") : s ++ t ≠ "" :=
  fun hnil => h (String.append_eq_empty_iff.mp hnil).1

theorem ValidationError.message_ne_empty (e : ValidationError) : e.message ≠ "" := by
  cases e with
  | unknownType name => exact append_ne_empty (by decide)
  | missingPolicy => exact (by decide)
  | tooShort length least =>
    exact append_ne_empty (append_ne_empty (append_ne_empty (by decide)))
  | tooLong length most =>
    exact append_ne_empty (append_ne_empty (append_ne_empty (by decide)))

theorem StoreError.message_ne_empty (e : StoreError) : e.message ≠ "" := by
  cases e <;> exact append_ne_empty (by decide)

theorem EntropyFailure.message_ne_empty (e : EntropyFailure) : e.message ≠ "" :=
  append_ne_empty (by decide)

theorem CycleError.message_ne_empty (e : CycleError) : e.message ≠ "" := by
  cases e with
  | validation e => exact e.message_ne_empty
  | generation e => exact e.message_ne_empty
  | store e => exact e.message_ne_empty

/-! ## 2. The conditions of a report -/

namespace Condition

variable {conditions : List Condition} {isReady : Bool} {reason message now : String}

/-- However many there were, one `Ready` is left. -/
theorem filter_ready_withReady :
    (withReady conditions isReady reason message now).filter (·.type == ready) =
      [{ type := ready
         status := flag isReady
         lastTransitionTime := some (transitionTime conditions isReady now)
         reason := some reason
         message := some message }] := by
  have hnone : (conditions.filter (·.type != ready)).filter (·.type == ready) = [] := by
    simp [List.filter_filter, bne]
  rw [withReady, List.filter_append, hnone]
  rfl

/-- The conditions of other types stay, in their order. -/
theorem filter_others_withReady :
    (withReady conditions isReady reason message now).filter (·.type != ready) =
      conditions.filter (·.type != ready) := by
  simp [withReady]

end Condition

/-- The conditions that reports do not write. -/
def Status.others (st : Status) : List Condition :=
  st.conditions.filter (·.type != Condition.ready)

/-- The fields of a status about a Secret of this name agree. -/
structure Status.Coherent (st : Status) (name : String) : Prop where
  forgotten : st.synced = false → st.lastReconcileTrigger = ""
  synced_iff : st.synced = true ↔ st.errorMessage = ""
  ready : ∃ c, st.conditions.filter (·.type == Condition.ready) = [c] ∧
    (c.status = "True" ↔ st.synced = true) ∧
    (st.synced = false → c.message = some st.errorMessage) ∧
    (c.reason = some Condition.succeeded ↔ st.synced = true)
  named : st.synced = true → st.createdSecretName = name ∧ st.lastUpdate.isSome = true

namespace Status

variable {claim : Claim} {demand : Demand} {message now : String}

theorem afterSync_coherent :
    (afterSync claim demand now).Coherent (claim.metadata.name.getD "") where
  forgotten h := nomatch h
  synced_iff := by simp [afterSync]
  ready := by
    refine ⟨_, Condition.filter_ready_withReady, ?_, nofun, ?_⟩ <;>
      simp [afterSync, Condition.flag]
  named _ := ⟨rfl, rfl⟩

/-- A failure that says something is told apart from a sync in every field. -/
theorem afterFailure_coherent (name : String) (h : message ≠ "") :
    (afterFailure claim message now).Coherent name where
  forgotten _ := rfl
  synced_iff := by simp [afterFailure, h]
  ready := ⟨_, Condition.filter_ready_withReady, by simp [afterFailure, Condition.flag],
    fun _ => rfl, by simp [afterFailure, Condition.failed, Condition.succeeded]⟩
  named h := nomatch h

@[simp] theorem afterSync_others :
    (afterSync claim demand now).others = claim.statusSoFar.others :=
  Condition.filter_others_withReady

@[simp] theorem afterFailure_others :
    (afterFailure claim message now).others = claim.statusSoFar.others :=
  Condition.filter_others_withReady

end Status

/-- The name of a claim is that of its key. -/
theorem Claim.name_of_key {claim : Claim} {key : Key} (h : claim.key? = some key) :
    claim.metadata.name.getD "" = key.name := by
  rw [Metadata.name_of_key? h]
  rfl

namespace Controller

section Coherent

variable {key : Key} {s s' : System} {move : Move} {moves : List Move} {claim : Claim}
  {status : Status} {events : List (Event controllerInterface)}

/-- Whatever brought a cycle to its report, the report agrees with itself. -/
theorem Reporting.coherent (h : Reporting key events claim status)
    (hk : claim.key? = some key) : status.Coherent key.name := by
  cases h with
  | unprobed claim e stamp => exact Status.afterFailure_coherent _ (CycleError.message_ne_empty _)
  | refused stamp _ => exact Status.afterFailure_coherent _ (ValidationError.message_ne_empty _)
  | failed stamp _ _ => exact Status.afterFailure_coherent _ (CycleError.message_ne_empty _)
  | written stamp _ _ => exact Claim.name_of_key hk ▸ Status.afterSync_coherent
  | repaired stamp _ _ => exact Claim.name_of_key hk ▸ Status.afterSync_coherent

/-- It keeps what others had put there when the claim was read. -/
theorem Reporting.others_eq (h : Reporting key events claim status) :
    status.others = claim.statusSoFar.others := by
  cases h <;> simp

/-! ## 3. What others have put there -/

/-- While a cycle for the key is on its way, others leave the status of the claim alone: they
edit its spec, or remove it. -/
def StatusSpared (key : Key) : Rule := fun s move s' =>
  move = .outside → ¬ s.Grounded key → ∀ claim, s'.cluster.claims[key]? = some claim →
    ∃ old, s.cluster.claims[key]? = some old ∧ claim.status = old.status

/-- No condition of others has come or gone since the claim was read. -/
def Abreast (key : Key) (s : System) : Prop :=
  ∀ f ∈ s.flights, f.key = key →
    ∀ claim, told (.readClaim key) (.ok (some claim)) ∈ f.log →
      ∀ stored, s.cluster.claims[key]? = some stored →
        stored.statusSoFar.others = claim.statusSoFar.others

/-- A claim that is there after a step has the conditions that were there before it. -/
theorem Step.others_kept (h : Step s move s') (hs : s.Sound) (spared : StatusSpared key s move s')
    (busy : ¬ s.Grounded key) (abreast : Abreast key s) {stored : Claim}
    (hstored : s'.cluster.claims[key]? = some stored) :
    ∃ old, s.cluster.claims[key]? = some old ∧
      stored.statusSoFar.others = old.statusSoFar.others := by
  by_cases ho : move = .outside
  · obtain ⟨old, hold, hsame⟩ := spared ho busy stored hstored
    exact ⟨old, hold, by rw [Claim.statusSoFar, hsame, Claim.statusSoFar]⟩
  · rcases h.claim_cases key hs ho with
      hsame | ⟨f, claim, status, answer, old, -, hf, hk, reporting, hold, hnew⟩
    · exact ⟨stored, hsame ▸ hstored, rfl⟩
    · obtain rfl := Option.some.inj (hnew.symm.trans hstored)
      have read := mem_of_mem_outward reporting.claim_read
      exact ⟨old, hold, reporting.others_eq.trans (abreast f hf hk claim read old hold).symm⟩

/-- **No step sets them apart.** -/
theorem Abreast.step (abreast : Abreast key s) (hs : s.Sound) (h : Step s move s')
    (spared : StatusSpared key s move s') : Abreast key s' := by
  -- a cycle that has read the claim was on its way before the step
  have kept : ∀ f ∈ s.flights, f.key = key →
      ∀ claim, told (.readClaim key) (.ok (some claim)) ∈ f.log →
        ∀ stored, s'.cluster.claims[key]? = some stored →
          stored.statusSoFar.others = claim.statusSoFar.others := by
    intro f hf hk claim hm stored hstored
    have busy : ¬ s.Grounded key := fun grounded => grounded f hf hk
    obtain ⟨old, hold, heq⟩ := h.others_kept hs spared busy abreast hstored
    exact heq.trans (abreast f hf hk claim hm old hold)
  intro f hf hk claim hm stored hstored
  cases h.since hf with
  | stayed hf => exact kept f hf hk claim hm stored hstored
  | begun k _ => cases hm
  | @told k log r answer resume there hmove answered =>
    rcases List.mem_append.mp hm with hm | hm
    · exact kept _ there hk claim hm stored hstored
    · -- the claim has just been read, so it is the stored one
      cases List.mem_singleton.mp hm
      have busy : ¬ s.Grounded key := fun grounded => grounded _ there hk
      obtain ⟨old, hold, heq⟩ := h.others_kept hs spared busy abreast hstored
      obtain rfl := Option.some.inj (hold.symm.trans answered.claim_stored)
      exact heq

theorem Run.abreast (run : Run (StatusSpared key) s moves s') (past : Reachable s)
    (grounded : s.Grounded key) : Abreast key s' :=
  run.keeps past.sound (fun _ _ _ hs step spared abreast => abreast.step hs step spared)
    fun f hf hk => absurd hk (grounded f hf)

/-- **A status agrees with itself**, and leaves the conditions of others alone.  The controller
changes a claim by reports alone.  Whatever status the claim had, and whatever others do, a
report is coherent, and has all conditions of others that the cycle has read.  If the status was
left alone meanwhile, these are all that are stored. -/
theorem stored_status_coherent (past : Reachable s) (step : Step s move s')
    (ours : move ≠ .outside) (key : Key) :
    (s'.cluster.claims[key]? = s.cluster.claims[key]? ∨
      ∃ f claim status answer stored,
        move = .asked f (.store (.writeStatus claim status)) answer ∧ f.key = key ∧
          s.cluster.claims[key]? = some stored ∧
          s'.cluster.claims[key]? = some { stored with status := some status }) ∧
    ∀ f claim status answer, move = .asked f (.store (.writeStatus claim status)) answer →
      f.key = key →
        status.Coherent key.name ∧
        told (.readClaim key) (.ok (some claim)) ∈ f.log ∧
        status.others = claim.statusSoFar.others ∧
        ∀ first moves, Reachable first → first.Grounded key →
          Run (StatusSpared key) first moves s →
            ∀ stored, s.cluster.claims[key]? = some stored →
              status.others = stored.statusSoFar.others := by
  refine ⟨?_, ?_⟩
  · rcases step.claim_cases key past.sound ours with
      hsame | ⟨f, claim, status, answer, stored, hmove, -, hk, -, hold, hnew⟩
    · exact .inl hsame
    · exact .inr ⟨f, claim, status, answer, stored, hmove, hk, hold, hnew⟩
  · rintro f claim status answer rfl rfl
    obtain ⟨hf, ⟨resume, hrest⟩, -⟩ := step.answered
    have sound := past.sound f hf
    have reaches := sound.reaches
    rw [hrest] at reaches
    have reporting := report_of_reaches reaches
    have read := mem_of_mem_outward reporting.claim_read
    refine ⟨reporting.coherent (sound.claims _ _ read), read, reporting.others_eq, ?_⟩
    intro first moves past' grounded run stored hstored
    have abreast := run.abreast past' grounded f hf rfl claim read stored hstored
    exact reporting.others_eq.trans abreast.symm

end Coherent

/-! ## 4. A failure on a claim that others have marked -/

namespace Sample

/-- A condition of somebody else. -/
def audited : Condition := ⟨"Audited", "True", none, none, none⟩

/-- The claim with two conditions `Ready` and the one of somebody else between them. -/
def marked : Claim :=
  { claim with
    status := some
      { synced := true
        lastReconcileTrigger := "t0"
        conditions :=
          [⟨"Ready", "True", none, none, none⟩, audited, ⟨"Ready", "False", none, none, none⟩] } }

def marking : Cluster := Cluster.empty.putClaim key marked rfl

theorem marked_stored : marking.claims[key]? = some marked := Cluster.claim_putClaim _ rfl

/-- The status after the Secret could not be read. -/
def failing : Status := .afterFailure marked (StoreError.unavailable "down").message "now"

theorem failure_stored : Cluster.Answers (.store (.writeStatus marked failing)) marking (.ok ())
    (marking.putClaim key { marked with status := some failing } rfl) :=
  .done (.writeStatus _ rfl marked_stored)

end Sample

/-- The Secret of the claim cannot be read, and this is reported. -/
theorem exists_failure : ∃ (moves : List Move) (s s' : System) (f : Flight),
    Run (StatusSpared Sample.key) ⟨Sample.marking, []⟩ moves s ∧ Reachable s ∧
      Step s (.asked f (.store (.writeStatus Sample.marked Sample.failing)) (.ok ())) s' ∧
        f.key = Sample.key := by
  have h : Run (StatusSpared Sample.key) ⟨Sample.marking, []⟩ [] _ := .here
  have h := h.step (.begun Sample.marking [] Sample.key) nofun
  have h := h.step (.asked [] [] (.claim_read Sample.marked_stored)) nofun
  have h := h.step (.asked [] [] (.noted "claim.type" "AutoGenerated")) nofun
  have h := h.step (.asked [] [] (.refused (.readSecret Sample.key) _ (.unavailable "down"))) nofun
  have h := h.step (.asked [] [] (.timed "now")) nofun
  exact ⟨_, _, _, _, h, h.reachable (.start _), .asked [] [] Sample.failure_stored, rfl⟩

/-- What is stored then is coherent, and has the condition of somebody else. -/
theorem failure_coherent : ∃ (s s' : System) (f : Flight),
    Step s (.asked f (.store (.writeStatus Sample.marked Sample.failing)) (.ok ())) s' ∧
      Sample.failing.Coherent "db" ∧ Sample.failing.others = [Sample.audited] ∧
        ∀ stored, s.cluster.claims[Sample.key]? = some stored →
          Sample.failing.others = stored.statusSoFar.others := by
  obtain ⟨moves, s, s', f, run, past, step, hk⟩ := exists_failure
  obtain ⟨coherent, -, others, kept⟩ :=
    (stored_status_coherent past step nofun Sample.key).2 f _ _ _ rfl hk
  exact ⟨s, s', f, step, coherent, others, kept _ moves (.start _) nofun run⟩

end Controller

end SecretKeeper
