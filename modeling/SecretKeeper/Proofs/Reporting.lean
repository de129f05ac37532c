/-
# What is reported

A cycle makes at most one report, as the last thing that it does.  `Reporting key events claim
status` lists the ways in which a cycle for `key` comes to report `status` on `claim`, having
made these store calls and draws before; `report_of_reaches` says that there are no others.

Both the claim that the report is for and the status that it starts from are those that the
cycle has read, however long ago that was.
-/
import SecretKeeper.Proofs.Discipline

namespace SecretKeeper.Controller

open Program

variable {key : Key} {claim : Claim} {status : Status} {events : List (Event controllerInterface)}

/-- The event is a report. -/
def writesStatus (e : Event controllerInterface) : Bool := asksReport e.request

/-- How a cycle comes to report. -/
inductive Reporting (key : Key) : List (Event controllerInterface) → Claim → Status → Prop
  /-- The Secret could not be read. -/
  | unprobed (claim : Claim) (e : StoreError) (stamp : String) :
      Reporting key
        [told (.readClaim key) (.ok (some claim)), told (.readSecret key) (.error e)]
        claim (.afterFailure claim (CycleError.store e).message stamp)
  /-- The claim's spec is refused. -/
  | refused {claim : Claim} {existing : Option Secret} {e : ValidationError} (stamp : String)
      (h : claim.spec.validate = .error e) :
      Reporting key (reads key claim existing) claim (.afterFailure claim e.message stamp)
  /-- The Secret was to be written and was not, or is not known to be. -/
  | failed {claim : Claim} {existing : Option Secret} {demand : Demand}
      {attempt : List (Event controllerInterface)} {e : CycleError} (stamp : String)
      (due : Due claim existing demand) (h : Attempt claim existing demand attempt (.error e)) :
      Reporting key (reads key claim existing ++ attempt) claim
        (.afterFailure claim e.message stamp)
  /-- The Secret was written. -/
  | written {claim : Claim} {existing : Option Secret} {demand : Demand}
      {attempt : List (Event controllerInterface)} (stamp : String)
      (due : Due claim existing demand) (h : Attempt claim existing demand attempt (.ok ())) :
      Reporting key (reads key claim existing ++ attempt) claim (.afterSync claim demand stamp)
  /-- The Secret is as it should be, but the last report did not say so. -/
  | repaired {claim : Claim} {secret : Secret} {demand : Demand} (stamp : String)
      (met : Met claim secret demand) (h : claim.isSynced = false) :
      Reporting key (reads key claim (some secret)) claim (.afterSync claim demand stamp)

/-- The report is for the claim that was read. -/
theorem Reporting.claim_read (h : Reporting key events claim status) :
    told (.readClaim key) (.ok (some claim)) ∈ events := by
  cases h <;> simp [reads]

/-- No report is among the events if none is among their store calls. -/
theorem writesStatus_of_calls (h : ∀ c ∈ calls events, isReport c = false)
    {e : Event controllerInterface} (he : e ∈ events) : writesStatus e = false := by
  obtain ⟨r, answer⟩ := e
  cases r with
  | store call =>
    have hcall := h ⟨call, answer⟩ (mem_calls he)
    cases call with
    | writeStatus claim status => cases hcall
    | _ => rfl
  | _ => rfl

theorem isReport_reads {existing : Option Secret} :
    ∀ c ∈ calls (reads key claim existing), isReport c = false := by
  intro c hc
  have hread := isRead_reads c hc
  simp_all [isRead]

/-- Nothing was reported before. -/
theorem Reporting.unreported (h : Reporting key events claim status) {e : Event controllerInterface}
    (he : e ∈ events) : writesStatus e = false := by
  refine writesStatus_of_calls (fun c hc => ?_) he
  cases h with
  | unprobed claim x stamp =>
    simp only [calls_told, calls_nil, List.mem_cons, List.not_mem_nil, or_false] at hc
    rcases hc with rfl | rfl <;> rfl
  | refused stamp _ => exact isReport_reads c hc
  | repaired stamp met _ => exact isReport_reads c hc
  | failed stamp due h =>
    rw [calls_append] at hc
    rcases List.mem_append.mp hc with hc | hc
    · exact isReport_reads c hc
    · exact isReport_of_isSecretWrite (h.vain.1 c hc).1
  | written stamp due h =>
    rw [calls_append] at hc
    rcases List.mem_append.mp hc with hc | hc
    · exact isReport_reads c hc
    · exact isReport_of_isSecretWrite (h.promised.isSecretWrite c hc)

/-! ## At the moment of a report -/

/-- A course has no report, or one that ends it. -/
theorem Course.reporting {ending : Except CycleError Outcome} (h : Course key events ending) :
    (∀ e ∈ events, writesStatus e = false) ∨
      ∃ front claim status sent, events = front ++ [told (.writeStatus claim status) sent] ∧
        Reporting key front claim status := by
  cases h with
  | unread e => exact .inl (by simp [writesStatus, asksReport])
  | gone => exact .inl (by simp [writesStatus, asksReport])
  | foreign _ => exact .inl fun e he => writesStatus_of_calls isReport_reads he
  | idle _ _ => exact .inl fun e he => writesStatus_of_calls isReport_reads he
  | unprobed claim e stamp sent => exact .inr ⟨_, _, _, sent, rfl, .unprobed claim e stamp⟩
  | refused stamp sent _ h => exact .inr ⟨_, _, _, sent, rfl, .refused stamp h⟩
  | failed stamp sent due h => exact .inr ⟨_, _, _, sent, rfl, .failed stamp due h⟩
  | written stamp sent due h => exact .inr ⟨_, _, _, sent, rfl, .written stamp due h⟩
  | repaired stamp sent met h => exact .inr ⟨_, _, _, sent, rfl, .repaired stamp met h⟩

/-- **A cycle that is about to report** has come there in one of these ways. -/
theorem report_of_reaches {log : List (Event controllerInterface)}
    {resume : (StoreCall.writeStatus claim status).Answer →
      Controller (Except CycleError Outcome)}
    (h : Reaches (cycle key) log (.ask (.store (.writeStatus claim status)) resume)) :
    Reporting key (outward log) claim status := by
  obtain ⟨rest, ending, hy⟩ := h.exists_yields (.ok ())
  have hc : Course key
      (outward log ++ told (.writeStatus claim status) (.ok ()) :: outward rest) ending :=
    cycle_course ⟨_, hy, by rw [outward_append]; rfl⟩
  rcases hc.reporting with hnone | ⟨front, c, st, sent, heq, hr⟩
  · have := hnone (told (.writeStatus claim status) (.ok ())) (by simp)
    cases this
  · obtain ⟨hl, he⟩ := append_cons_inj_of_unique heq rfl (fun x hx => hr.unreported hx)
      (List.forall_mem_nil _)
    rw [hl]
    injection he with hreq _
    injection hreq with hcall
    injection hcall with h₁ h₂
    rw [h₁, h₂]
    exact hr

end SecretKeeper.Controller
