/-
# What a cycle writes

Whatever the stores answer and whatever is drawn, a cycle makes at most one Secret write and
at most one report, the report last; and its ending says which of them it has made.  An
error is only returned where no Secret write succeeded, and every error but that of the
first read is reported word for word.  An outcome is reported as a sync, after the write
that its name promises, or nothing at all is written.

The report itself may fail: `cycle_deaf` says that the ending is the same.
-/
import SecretKeeper.Proofs.Course

namespace SecretKeeper.Controller

open Program

/-! ## 1. Store calls -/

/-- The store call of an event, if it is one. -/
def call? : Event controllerInterface → Option (Event storeInterface)
  | ⟨.store call, answer⟩ => some ⟨call, answer⟩
  | _ => none

/-- The store calls of a transcript. -/
def calls (log : List (Event controllerInterface)) : List (Event storeInterface) :=
  log.filterMap call?

/-- The call writes a Secret. -/
def isSecretWrite (e : Event storeInterface) : Bool := e.request.writesSecret

/-- The call writes a status. -/
def isReport (e : Event storeInterface) : Bool :=
  match e.request with
  | .writeStatus _ _ => true
  | _ => false

/-- The status written for a claim, and whether the write got through. -/
abbrev report (claim : Claim) (status : Status) (sent : Except StoreError Unit) :
    Event storeInterface := ⟨.writeStatus claim status, sent⟩

/-- The call was answered with its value. -/
def succeeded (e : Event storeInterface) : Bool :=
  match e.answer with
  | .ok _ => true
  | .error _ => false

variable {log : List (Event controllerInterface)}

/-- Store calls and draws are all that a transcript has of store calls. -/
theorem calls_outward : calls (outward log) = calls log := by
  induction log with
  | nil => rfl
  | cons e log ih =>
    obtain ⟨r, answer⟩ := e
    cases r <;> simp_all [calls, outward, isOutward, call?, List.filter_cons, List.filterMap_cons]

@[simp] theorem calls_append (log rest : List (Event controllerInterface)) :
    calls (log ++ rest) = calls log ++ calls rest := List.filterMap_append

@[simp] theorem calls_nil : calls [] = [] := rfl

@[simp] theorem calls_told (c : StoreCall) (a : c.Answer) :
    calls (told c a :: log) = ⟨c, a⟩ :: calls log := rfl

@[simp] theorem calls_drew (p : Policy) (value : Except EntropyFailure String) :
    calls (drew p value :: log) = calls log := rfl

@[simp] theorem calls_draws (p : Policy) (values : List String) : calls (draws p values) = [] := by
  induction values with
  | nil => rfl
  | cons value values ih => exact ih

theorem mem_calls {c : StoreCall} {a : c.Answer} (h : told c a ∈ log) : ⟨c, a⟩ ∈ calls log :=
  List.mem_filterMap.mpr ⟨_, h, rfl⟩

theorem mem_of_mem_calls {c : StoreCall} {a : c.Answer} (h : ⟨c, a⟩ ∈ calls log) :
    told c a ∈ log := by
  obtain ⟨⟨r, answer⟩, he, hcall⟩ := List.mem_filterMap.mp h
  cases r with
  | store call =>
    cases Option.some.inj hcall
    exact he
  | _ => cases hcall

theorem Materialized.calls_eq_nil {demand : Demand} {data : Dict Bytes}
    (h : Materialized demand log data) : calls log = [] := by
  cases h with
  | verbatim data => rfl
  | generated p values _ => exact calls_draws p values

theorem Unmaterialized.calls_eq_nil {demand : Demand} {e : EntropyFailure}
    (h : Unmaterialized demand log e) : calls log = [] := by
  cases h with
  | generated p values e _ => simp

/-- An attempt that fails makes no store call, or one that fails. -/
theorem Attempt.calls_of_error {claim : Claim} {existing : Option Secret} {demand : Demand}
    {e : CycleError} (h : Attempt claim existing demand log (.error e)) :
    calls log = [] ∨ ∃ data x, calls log = [⟨writeCall claim existing data, .error x⟩] := by
  cases h with
  | undrawn h => exact .inl h.calls_eq_nil
  | unwritten x h => exact .inr ⟨_, x, by rw [calls_append, h.calls_eq_nil]; rfl⟩

/-- An attempt that succeeds makes one store call, which succeeds, with data that were made
for the demand. -/
theorem Attempt.calls_of_ok {claim : Claim} {existing : Option Secret} {demand : Demand}
    (h : Attempt claim existing demand log (.ok ())) :
    ∃ drawn data value, Materialized demand drawn data ∧
      calls log = [⟨writeCall claim existing data, .ok value⟩] := by
  obtain ⟨drawn, data, value, hm, rfl⟩ := h.eq_of_ok
  exact ⟨drawn, data, value, hm, by rw [calls_append, hm.calls_eq_nil]; rfl⟩

/-! ## 2. The ending of a cycle, and what it stands for -/

/-- The outcome of a cycle that writes nothing. -/
def isSilent : Outcome → Bool
  | .claimGone => true
  | .skippedForeign => true
  | .idle => true
  | _ => false

/-- What the store calls of a cycle have to do with its ending. -/
structure Disciplined (calls : List (Event storeInterface))
    (ending : Except CycleError Outcome) : Prop where
  secretWrites_le : (calls.filter isSecretWrite).length ≤ 1
  reports_le : (calls.filter isReport).length ≤ 1
  report_last : ∀ before e after, calls = before ++ e :: after → isReport e = true → after = []
  /-- An error is returned only where no Secret write succeeded. -/
  unwritten_of_error : ∀ x, ending = .error x →
    ∀ e ∈ calls, isSecretWrite e = true → succeeded e = false
  /-- An error is that of the first read, or it is reported word for word. -/
  error_reported : ∀ x, ending = .error x →
    (∃ key e, calls = [⟨.readClaim key, .error e⟩] ∧ x = .store e) ∨
    ∃ claim status sent, calls.filter isReport = [report claim status sent] ∧
      status.synced = false ∧ status.errorMessage = x.message ∧
        status.lastReconcileTrigger = ""
  /-- An outcome that stands for a write or a repair is reported as a sync. -/
  sync_reported : ∀ outcome, ending = .ok outcome → isSilent outcome = false →
    ∃ claim status sent, calls.filter isReport = [report claim status sent] ∧
      status.synced = true
  created : ending = .ok .created →
    ∃ secret value, calls.filter isSecretWrite = [⟨.createSecret secret, .ok value⟩]
  updated : ending = .ok .updated →
    ∃ secret value, calls.filter isSecretWrite = [⟨.replaceSecret secret, .ok value⟩]
  repaired : ending = .ok .statusRepaired → calls.filter isSecretWrite = []
  silent : ∀ outcome, ending = .ok outcome → isSilent outcome = true →
    calls.filter isSecretWrite = [] ∧ calls.filter isReport = []

/-! ## 3. Every course is disciplined

A course reads, then tries to write the Secret if there is cause, then reports if there is
cause.  `Outline` keeps just that of it. -/

/-- The call only reads. -/
def isRead (e : Event storeInterface) : Bool := !isSecretWrite e && !isReport e

/-- The Secret writes that an outcome stands for. -/
inductive Promised : Outcome → List (Event storeInterface) → Prop
  | created (secret : Secret) (value : (StoreCall.createSecret secret).Value) :
      Promised .created [⟨.createSecret secret, .ok value⟩]
  | updated (secret : Secret) (value : (StoreCall.replaceSecret secret).Value) :
      Promised .updated [⟨.replaceSecret secret, .ok value⟩]
  | repaired : Promised .statusRepaired []

/-- The store calls of a course in outline. -/
inductive Outline : List (Event storeInterface) → Except CycleError Outcome → Prop
  | unread (key : Key) (e : StoreError) :
      Outline [⟨.readClaim key, .error e⟩] (.error (.store e))
  | silent {front : List (Event storeInterface)} {outcome : Outcome}
      (hf : ∀ e ∈ front, isRead e = true) (h : isSilent outcome = true) :
      Outline front (.ok outcome)
  | failed {front writes : List (Event storeInterface)} (claim : Claim) (x : CycleError)
      (stamp : String) (sent : Except StoreError Unit) (hf : ∀ e ∈ front, isRead e = true)
      (hw : ∀ e ∈ writes, isSecretWrite e = true ∧ succeeded e = false)
      (hl : writes.length ≤ 1) :
      Outline (front ++ writes ++
        [report claim (.afterFailure claim x.message stamp) sent]) (.error x)
  | synced {front writes : List (Event storeInterface)} {outcome : Outcome} (claim : Claim)
      (demand : Demand) (stamp : String) (sent : Except StoreError Unit)
      (hf : ∀ e ∈ front, isRead e = true) (hw : Promised outcome writes) :
      Outline (front ++ writes ++
        [report claim (.afterSync claim demand stamp) sent]) (.ok outcome)

theorem Promised.isSecretWrite {outcome : Outcome} {writes : List (Event storeInterface)}
    (h : Promised outcome writes) : ∀ e ∈ writes, isSecretWrite e = true := by
  cases h <;> simp [Controller.isSecretWrite, StoreCall.writesSecret]

theorem Promised.length_le {outcome : Outcome} {writes : List (Event storeInterface)}
    (h : Promised outcome writes) : writes.length ≤ 1 := by
  cases h <;> simp

theorem isRead_reads {key : Key} {claim : Claim} {existing : Option Secret} :
    ∀ e ∈ calls (reads key claim existing), isRead e = true := by
  simp [reads, calls, call?, isRead, isSecretWrite, isReport, StoreCall.writesSecret]

theorem isSecretWrite_writeCall {claim : Claim} {existing : Option Secret} {data : Dict Bytes}
    {answer : (writeCall claim existing data).Answer} :
    isSecretWrite ⟨writeCall claim existing data, answer⟩ = true := by
  cases existing <;> rfl

/-- The attempt of a write that ends well is the write that the outcome stands for. -/
theorem Attempt.promised {claim : Claim} {existing : Option Secret} {demand : Demand}
    (h : Attempt claim existing demand log (.ok ())) :
    Promised (writeOutcome existing) (calls log) := by
  obtain ⟨_, data, value, -, hc⟩ := h.calls_of_ok
  rw [hc]
  cases existing with
  | none => exact .created _ value
  | some old => exact .updated _ value

/-- The attempt of a write that ends badly makes at most one Secret write, in vain. -/
theorem Attempt.vain {claim : Claim} {existing : Option Secret} {demand : Demand}
    {x : CycleError} (h : Attempt claim existing demand log (.error x)) :
    (∀ e ∈ calls log, isSecretWrite e = true ∧ succeeded e = false) ∧ (calls log).length ≤ 1 := by
  rcases h.calls_of_error with hc | ⟨data, e, hc⟩
  · simp [hc]
  · rw [hc]
    refine ⟨fun c hm => ?_, by simp⟩
    rw [List.mem_singleton.mp hm]
    exact ⟨isSecretWrite_writeCall, rfl⟩

theorem Course.outline {key : Key} {ending : Except CycleError Outcome}
    (h : Course key log ending) : Outline (calls log) ending := by
  cases h with
  | unread e => exact .unread key e
  | gone => exact .silent (by simp [isRead, isSecretWrite, isReport, StoreCall.writesSecret]) rfl
  | foreign _ => exact .silent isRead_reads rfl
  | idle _ _ => exact .silent isRead_reads rfl
  | unprobed claim e stamp sent =>
    have hf : ∀ c ∈ calls [told (.readClaim key) (.ok (some claim)),
        told (.readSecret key) (.error e)], isRead c = true := by
      simp [isRead, isSecretWrite, isReport, StoreCall.writesSecret]
    exact Outline.failed claim (.store e) stamp sent hf (List.forall_mem_nil _) (by simp)
  | @refused claim existing e stamp sent _ _ =>
    rw [calls_append, ← List.append_nil (calls (reads key claim existing))]
    exact .failed claim (.validation e) stamp sent isRead_reads (List.forall_mem_nil _) (by simp)
  | failed stamp sent _ h =>
    rw [calls_append, calls_append]
    exact .failed _ _ stamp sent isRead_reads h.vain.1 h.vain.2
  | written stamp sent _ h =>
    rw [calls_append, calls_append]
    exact .synced _ _ stamp sent isRead_reads h.promised
  | @repaired claim secret demand stamp sent _ _ =>
    rw [calls_append, ← List.append_nil (calls (reads key claim (some secret)))]
    exact .synced claim demand stamp sent isRead_reads .repaired

/-- Where only the last element can have a property, nothing follows one that has it. -/
theorem eq_nil_of_last {α : Type} {p : α → Bool} {front before after : List α} {x e : α}
    (h : front ++ [x] = before ++ e :: after) (hf : ∀ y ∈ front, p y = false)
    (he : p e = true) : after = [] := by
  rcases concat_cut_cases h with ⟨-, -, hnil⟩ | ⟨rest, -, rfl⟩
  · exact hnil
  · rw [hf e (by simp)] at he
    cases he

/-- No call writes both a Secret and a status. -/
theorem isReport_of_isSecretWrite {e : Event storeInterface} (h : isSecretWrite e = true) :
    isReport e = false := by
  obtain ⟨c, _⟩ := e
  cases c <;> first | rfl | cases h

section Parts

variable {front writes : List (Event storeInterface)}

theorem filter_isSecretWrite_of_reads (hf : ∀ e ∈ front, isRead e = true) :
    front.filter isSecretWrite = [] := by
  refine List.filter_eq_nil_iff.mpr fun e he => ?_
  have := hf e he
  simp_all [isRead]

theorem filter_isReport_of_reads (hf : ∀ e ∈ front, isRead e = true) :
    front.filter isReport = [] := by
  refine List.filter_eq_nil_iff.mpr fun e he => ?_
  have := hf e he
  simp_all [isRead]

/-- Of reads, Secret writes and a report, the Secret writes are the middle part. -/
theorem filter_isSecretWrite_parts (hf : ∀ e ∈ front, isRead e = true)
    (hw : ∀ e ∈ writes, isSecretWrite e = true) (claim : Claim) (status : Status)
    (sent : Except StoreError Unit) :
    (front ++ writes ++ [report claim status sent]).filter isSecretWrite = writes := by
  rw [List.filter_append, List.filter_append, filter_isSecretWrite_of_reads hf,
    List.filter_eq_self.mpr hw]
  exact List.append_nil writes

/-- Of reads, Secret writes and a report, the reports are the last part. -/
theorem filter_isReport_parts (hf : ∀ e ∈ front, isRead e = true)
    (hw : ∀ e ∈ writes, isSecretWrite e = true) (claim : Claim) (status : Status)
    (sent : Except StoreError Unit) :
    (front ++ writes ++ [report claim status sent]).filter isReport =
      [report claim status sent] := by
  have hw' : writes.filter isReport = [] :=
    List.filter_eq_nil_iff.mpr fun e he => by simp [isReport_of_isSecretWrite (hw e he)]
  rw [List.filter_append, List.filter_append, filter_isReport_of_reads hf, hw']
  rfl

/-- Nothing follows the report. -/
theorem eq_nil_of_report (hf : ∀ e ∈ front, isRead e = true)
    (hw : ∀ e ∈ writes, isSecretWrite e = true) {last e : Event storeInterface}
    {before after : List (Event storeInterface)}
    (h : front ++ writes ++ [last] = before ++ e :: after) (he : isReport e = true) :
    after = [] := by
  refine eq_nil_of_last h (fun y hy => ?_) he
  rcases List.mem_append.mp hy with hy | hy
  · have := hf y hy
    simp_all [isRead]
  · exact isReport_of_isSecretWrite (hw y hy)

end Parts

theorem Outline.disciplined {calls : List (Event storeInterface)}
    {ending : Except CycleError Outcome} (h : Outline calls ending) :
    Disciplined calls ending := by
  cases h with
  | unread key e => exact {
      secretWrites_le := by simp [isSecretWrite, StoreCall.writesSecret]
      reports_le := by simp [isReport]
      report_last := fun before e' after h he => by
        refine eq_nil_of_last (List.nil_append _ |>.trans h) (List.forall_mem_nil _) he
      unwritten_of_error := by simp [isSecretWrite, StoreCall.writesSecret]
      error_reported := fun y hy => .inl ⟨key, e, rfl, by simpa using hy.symm⟩
      sync_reported := by simp
      created := by simp
      updated := by simp
      repaired := by simp
      silent := by simp }
  | @silent _ outcome hf h =>
    have hs := filter_isSecretWrite_of_reads hf
    have hr := filter_isReport_of_reads hf
    exact {
      secretWrites_le := by simp [hs]
      reports_le := by simp [hr]
      report_last := fun before e after hc he => by
        have hm : e ∈ calls.filter isReport :=
          List.mem_filter.mpr ⟨by rw [hc]; simp, he⟩
        rw [hr] at hm
        cases hm
      unwritten_of_error := by simp
      error_reported := by simp
      sync_reported := fun o ho hn => by
        cases ho
        rw [h] at hn
        cases hn
      created := fun ho => by cases ho; cases h
      updated := fun ho => by cases ho; cases h
      repaired := fun ho => by cases ho; cases h
      silent := fun _ _ _ => ⟨hs, hr⟩ }
  | @failed front writes claim x stamp sent hf hw hl =>
    have hw' : ∀ e ∈ writes, isSecretWrite e = true := fun e he => (hw e he).1
    have hs := filter_isSecretWrite_parts hf hw' claim (.afterFailure claim x.message stamp) sent
    have hr := filter_isReport_parts hf hw' claim (.afterFailure claim x.message stamp) sent
    exact {
      secretWrites_le := by rw [hs]; exact hl
      reports_le := by rw [hr]; simp
      report_last := fun _ _ _ h he => eq_nil_of_report hf hw' h he
      unwritten_of_error := fun _ _ e he hwe => by
        have hmem : e ∈ writes := by rw [← hs]; exact List.mem_filter.mpr ⟨he, hwe⟩
        exact (hw e hmem).2
      error_reported := fun y hy => by
        obtain rfl : x = y := by simpa using hy
        exact .inr ⟨claim, _, sent, hr, rfl, rfl, rfl⟩
      sync_reported := by simp
      created := by simp
      updated := by simp
      repaired := by simp
      silent := by simp }
  | @synced front writes outcome claim demand stamp sent hf hw =>
    have hs := filter_isSecretWrite_parts hf hw.isSecretWrite claim
      (.afterSync claim demand stamp) sent
    have hr := filter_isReport_parts hf hw.isSecretWrite claim (.afterSync claim demand stamp) sent
    exact {
      secretWrites_le := by rw [hs]; exact hw.length_le
      reports_le := by rw [hr]; simp
      report_last := fun _ _ _ h he => eq_nil_of_report hf hw.isSecretWrite h he
      unwritten_of_error := by simp
      error_reported := by simp
      sync_reported := fun _ _ _ => ⟨claim, _, sent, hr, rfl⟩
      created := fun h => by
        cases h
        rw [hs]
        cases hw with
        | created secret value => exact ⟨secret, value, rfl⟩
      updated := fun h => by
        cases h
        rw [hs]
        cases hw with
        | updated secret value => exact ⟨secret, value, rfl⟩
      repaired := fun h => by
        cases h
        rw [hs]
        cases hw with
        | repaired => rfl
      silent := fun o ho h => by
        cases ho
        cases hw <;> cases h }

/-- Where a Secret write succeeded, the cycle ends with the outcome that stands for it. -/
theorem Disciplined.outcome_of_written {calls : List (Event storeInterface)}
    {ending : Except CycleError Outcome} (h : Disciplined calls ending)
    (hw : ∃ e ∈ calls, isSecretWrite e = true ∧ succeeded e = true) :
    ending = .ok .created ∨ ending = .ok .updated := by
  obtain ⟨e, he, hwe, hse⟩ := hw
  have hmem : e ∈ calls.filter isSecretWrite := List.mem_filter.mpr ⟨he, hwe⟩
  cases ending with
  | error x =>
    rw [h.unwritten_of_error x rfl e he hwe] at hse
    cases hse
  | ok outcome =>
    cases outcome with
    | created => exact .inl rfl
    | updated => exact .inr rfl
    | statusRepaired =>
      rw [h.repaired rfl] at hmem
      cases hmem
    | claimGone | skippedForeign | idle =>
      rw [(h.silent _ rfl rfl).1] at hmem
      cases hmem

/-! ## 4. The answer to a report does not matter -/

/-- The request writes a status. -/
def asksReport : Effect → Bool
  | .store (.writeStatus _ _) => true
  | _ => false

theorem avoids_request {bad : Effect → Bool} {r : Effect} (h : bad r = false) :
    (request (I := controllerInterface) r).Avoids bad := ⟨h, fun _ => trivial⟩

theorem drawAll_avoids {bad : Effect → Bool} (p : Policy)
    (draws : bad (.draw p.encoding p.length) = false) (keys : List String) (data : Dict Bytes) :
    (drawAll p keys data).Avoids bad := by
  induction keys generalizing data with
  | nil => trivial
  | cons key keys ih =>
    refine Avoids.bind (avoids_request draws) fun value => ?_
    cases value with
    | error e => trivial
    | ok value => exact ih _

/-- Making data comes to draws and a count. -/
theorem materialize_avoids {bad : Effect → Bool} (draws : ∀ enc n, bad (.draw enc n) = false)
    (counts : ∀ counter n, bad (.count counter n) = false) (demand : Demand) :
    (materialize demand).Avoids bad := by
  cases demand with
  | verbatim data => trivial
  | generated p =>
    refine Avoids.bind (drawAll_avoids p (draws _ _) _ _) fun drawn => ?_
    cases drawn with
    | error e => trivial
    | ok data => exact Avoids.bind (avoids_request (counts _ _)) fun _ => trivial

theorem write_avoids (claim : Claim) (demand : Demand) (existing : Option Secret) :
    (write claim demand existing).Avoids asksReport := by
  cases existing <;>
  · refine Avoids.bind (materialize_avoids (fun _ _ => rfl) (fun _ _ => rfl) demand) fun made => ?_
    cases made with
    | error e => trivial
    | ok data =>
      refine Avoids.bind (avoids_request rfl) fun answer => ?_
      cases answer with
      | error e => trivial
      | ok value => exact Avoids.bind (avoids_request rfl) fun _ => trivial

theorem noteClaim_avoids (claim : Claim) : (noteClaim claim).Avoids asksReport := by
  refine Avoids.bind (avoids_request rfl) fun _ => ?_
  split
  · trivial
  · refine Avoids.bind (avoids_request rfl) fun _ => ?_
    split
    · trivial
    · exact avoids_request rfl

theorem fail_deaf (claim : Claim) (e : CycleError) : (fail claim e).Deaf asksReport :=
  deaf_of_yields_eq fun log b h => by
    obtain ⟨_, _, _, rfl⟩ := fail_does ⟨log, h, rfl⟩
    rfl

theorem succeed_deaf (claim : Claim) (demand : Demand) (outcome : Outcome) :
    (succeed claim demand outcome).Deaf asksReport :=
  deaf_of_yields_eq fun log b h => by
    obtain ⟨_, _, _, rfl⟩ := succeed_does ⟨log, h, rfl⟩
    rfl

/-- A Secret is written without a report, and the report that follows ends the cycle. -/
theorem write_deaf (claim : Claim) (demand : Demand) (existing : Option Secret) :
    (write claim demand existing >>= fun
      | .error e => fail claim e
      | .ok _ => succeed claim demand (writeOutcome existing)).Deaf asksReport := by
  refine (write_avoids claim demand existing).bind_deaf fun result => ?_
  cases result with
  | error e => exact fail_deaf claim e
  | ok _ => exact succeed_deaf claim demand _

theorem converge_deaf (claim : Claim) (existing : Option Secret) (demand : Demand) :
    (converge claim existing demand).Deaf asksReport := by
  cases existing with
  | none => exact write_deaf claim demand none
  | some secret =>
    rw [converge]
    split
    · exact write_deaf claim demand (some secret)
    · split
      · trivial
      · exact succeed_deaf claim demand _

theorem settle_deaf (claim : Claim) (existing : Option Secret) :
    (settle claim existing).Deaf asksReport := by
  rw [settle]
  split
  · exact (avoids_request rfl).bind_deaf fun _ => trivial
  · split
    · exact (avoids_request rfl).bind_deaf fun _ => fail_deaf claim _
    · exact converge_deaf claim existing _

/-- The ending of a cycle does not depend on whether its report got through. -/
theorem cycle_deaf (key : Key) : (cycle key).Deaf asksReport := by
  refine (avoids_request rfl).bind_deaf fun answer => ?_
  match answer with
  | .error e => trivial
  | .ok none => trivial
  | .ok (some claim) =>
    refine (noteClaim_avoids claim).bind_deaf fun _ => ?_
    refine (avoids_request rfl).bind_deaf fun probe => ?_
    cases probe with
    | error e => exact fail_deaf claim _
    | ok existing => exact settle_deaf claim existing

/-! ## 5. Against any stores and any source of random bytes -/

/-- **What a cycle writes, and what its ending says about it.**  The server stands for both
stores, the random source and the clock, and may answer every request in any way. -/
theorem cycle_disciplined {W : Type} (serve other : Server controllerInterface W) (key : Key)
    (w : W) :
    Disciplined (calls ((cycle key).transcript serve w)) ((cycle key).run serve w).1 ∧
      ((cycle key).run (instead asksReport other serve) w).1 = ((cycle key).run serve w).1 := by
  refine ⟨?_, (cycle_deaf key).run_instead other serve w⟩
  have hcourse : Course key (outward ((cycle key).transcript serve w))
      ((cycle key).run serve w).1 :=
    cycle_course ⟨_, yields_transcript serve (cycle key) w, rfl⟩
  rw [← calls_outward]
  exact hcourse.outline.disciplined

end SecretKeeper.Controller
