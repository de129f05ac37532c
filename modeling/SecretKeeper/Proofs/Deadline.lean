/-
# A cycle that is cut off at its deadline

A delivery gives its cycle a limited time and drops it where it stands once the time is over.
What has passed between the cycle and the world by then is the beginning of what would have
passed without a limit, since a program asks for one thing at a time and no answer depends on
the limit (`runWithin_watched`).

So all that holds of the store calls of whole cycles, one before the other, holds of those of a
cycle that was cut off: where such a cycle reports a sync, it had been told before that its
Secret write had succeeded, or it had read that none was due.

To speak of what passes, a server is watched: every request is noted when it is made, and every
answer when it is given.
-/
import SecretKeeper.Controller.Delivery
import SecretKeeper.Proofs.Settling
import SecretKeeper.Proofs.Reporting

namespace SecretKeeper

/-- What passes between a program and its server: a request is made, or it is answered. -/
inductive Signal (I : Interface) where
  | asked (r : I.Request)
  | told (e : Event I)

/-- What passes along a transcript: every request is made, and then answered. -/
def signals {I : Interface} : List (Event I) → List (Signal I)
  | [] => []
  | e :: log => .asked e.request :: .told e :: signals log

/-- The requests that were answered. -/
def answered {I : Interface} (seen : List (Signal I)) : List (Event I) :=
  seen.filterMap fun
    | .asked _ => none
    | .told e => some e

@[simp] theorem answered_append {I : Interface} (seen more : List (Signal I)) :
    answered (seen ++ more) = answered seen ++ answered more := List.filterMap_append

@[simp] theorem answered_signals {I : Interface} (log : List (Event I)) :
    answered (signals log) = log := by
  induction log with
  | nil => rfl
  | cons e log ih => exact congrArg (e :: ·) ih

namespace Program

section Within

variable {I : Interface} {α W : Type} {serve : Server I W}

/-! ## 1. A program with a limited time -/

/-- The server, with all that passes. -/
def watched (serve : Server I W) : Server I (W × List (Signal I)) := fun r (w, seen) =>
  let reply := serve r w
  { queued := reply.queued
    issued := (reply.issued, seen ++ [.asked r])
    delay := reply.delay
    answer := reply.answer
    after := (reply.after, seen ++ [.asked r, .told ⟨r, reply.answer⟩]) }

/-- Watching changes nothing; what is seen is the transcript. -/
theorem run_watched (p : Program I α) (w : W) (seen : List (Signal I)) :
    p.run (watched serve) (w, seen) =
      ((p.run serve w).1, (p.run serve w).2, seen ++ signals (p.transcript serve w)) := by
  induction p generalizing w seen with
  | done a => simp [run, transcript, signals]
  | ask r resume ih => simp [run, transcript, signals, watched, ih]

/-- The request may take time, or have to wait for its turn. -/
def TakesTime (serve : Server I W) (r : I.Request) : Prop :=
  ∃ w, (serve r w).queued = true ∨ 0 < (serve r w).delay

/-- How a program stops that has a limited time: it has come to its end, or it stands before a
request that takes time. -/
inductive Stops (serve : Server I W) (p : Program I α) : List (Event I) → Option α → Prop
  | ended {log : List (Event I)} {a : α} (h : p.Reaches log (.done a)) : Stops serve p log (some a)
  | cut {log : List (Event I)} {r : I.Request} {resume : I.Answer r → Program I α}
      (h : p.Reaches log (.ask r resume)) (slow : TakesTime serve r) : Stops serve p log none

/-- One request was answered before. -/
theorem Stops.ask {r : I.Request} {resume : I.Answer r → Program I α} {log : List (Event I)}
    {result : Option α} {answer : I.Answer r} (h : Stops serve (resume answer) log result) :
    Stops serve (.ask r resume) (⟨r, answer⟩ :: log) result := by
  cases h with
  | ended h => exact .ended (.ask answer h)
  | cut h slow => exact .cut (.ask answer h) slow

/-- **A program that is cut off has done a beginning of what it does without a limit**, and it
stands before a request that takes time. -/
theorem runWithin_watched (serve : Server I W) (p : Program I α) (budget : Nat) (w : W)
    (seen : List (Signal I)) :
    ∃ passed, passed <+: signals (p.transcript serve w) ∧
      Stops serve p (answered passed) (p.runWithin serve budget w).1 ∧
      p.runWithin (watched serve) budget (w, seen) =
        ((p.runWithin serve budget w).1, (p.runWithin serve budget w).2, seen ++ passed) := by
  induction p generalizing budget w seen with
  | done a => exact ⟨[], List.nil_prefix, .ended (.here _), by simp [runWithin]⟩
  | ask r resume ih =>
    have hqueued : (watched serve r (w, seen)).queued = (serve r w).queued := rfl
    have hdelay : (watched serve r (w, seen)).delay = (serve r w).delay := rfl
    simp only [runWithin, hqueued, hdelay]
    by_cases hunsent : ((serve r w).queued && budget == 0) = true
    · have slow : TakesTime serve r := ⟨w, .inl (Bool.and_eq_true_iff.mp hunsent).1⟩
      refine ⟨[], List.nil_prefix, ?_⟩
      rw [if_pos hunsent, if_pos hunsent, List.append_nil]
      exact ⟨.cut (.here _) slow, rfl⟩
    · rw [if_neg hunsent, if_neg hunsent]
      by_cases hcut : budget < (serve r w).delay
      · have slow : TakesTime serve r := ⟨w, .inr (Nat.zero_lt_of_lt hcut)⟩
        refine ⟨[.asked r], by simp [transcript, signals], ?_⟩
        rw [if_pos hcut, if_pos hcut]
        exact ⟨.cut (.here _) slow, rfl⟩
      · rw [if_neg hcut, if_neg hcut]
        obtain ⟨passed, hpassed, hstops, hrun⟩ := ih (serve r w).answer
          (budget - (serve r w).delay) (serve r w).after
          (seen ++ [.asked r, .told ⟨r, (serve r w).answer⟩])
        refine ⟨.asked r :: .told ⟨r, (serve r w).answer⟩ :: passed, ?_, hstops.ask, ?_⟩
        · simpa [transcript, signals] using hpassed
        · simpa [watched] using hrun

/-- The milliseconds that a program takes. -/
def elapsed (serve : Server I W) : Program I α → W → Nat
  | .done _, _ => 0
  | .ask r resume, w =>
    let reply := serve r w
    reply.delay + (resume reply.answer).elapsed serve reply.after

/-- If no request has to wait for its turn, a program is cut off just if it takes too long. -/
theorem runWithin_eq_none_iff (prompt : ∀ r w, (serve r w).queued = false) (p : Program I α)
    (budget : Nat) (w : W) :
    (p.runWithin serve budget w).1 = none ↔ budget < p.elapsed serve w := by
  induction p generalizing budget w with
  | done a => simp [runWithin, elapsed]
  | ask r resume ih =>
    simp only [runWithin, prompt, elapsed, Bool.false_and, Bool.false_eq_true, if_false]
    split
    · simp only [true_iff]
      omega
    · rw [ih]
      omega

end Within

end Program

variable {I : Interface}

/-- Before a request is made, all requests so far have been answered. -/
theorem signals_cut {log : List (Event I)} {before after : List (Signal I)} {r : I.Request}
    (h : signals log = before ++ .asked r :: after) :
    ∃ front answer back, log = front ++ ⟨r, answer⟩ :: back ∧ before = signals front := by
  induction log generalizing before with
  | nil => simp [signals] at h
  | cons e log ih =>
    match before with
    | [] =>
      obtain ⟨hr, -⟩ := List.cons.inj h
      cases hr
      exact ⟨[], e.answer, log, rfl, rfl⟩
    | [x] =>
      obtain ⟨-, h⟩ := List.cons.inj h
      cases (List.cons.inj h).1
    | x :: y :: before =>
      simp only [signals, List.cons_append, List.cons.injEq] at h
      obtain ⟨rfl, rfl, h⟩ := h
      obtain ⟨front, answer, back, rfl, rfl⟩ := ih h
      exact ⟨e :: front, answer, back, rfl, rfl⟩

namespace Controller

open Program Simulation

section Deadline

variable {W : Type} {serve : Server controllerInterface W} {settings : Settings} {claim : Claim}
  {key : Key} {backoffs : BackoffTable} {status : Status} {ending : Except CycleError Outcome}
  {events : List (Event controllerInterface)}

/-! ## 2. Store calls -/

/-- What passes between the controller and the stores. -/
def passes? : Signal controllerInterface → Option (Signal storeInterface)
  | .asked (.store call) => some (.asked call)
  | .asked _ => none
  | .told e => (call? e).map .told

/-- What has passed between the controller and the stores. -/
def traffic (seen : List (Signal controllerInterface)) : List (Signal storeInterface) :=
  seen.filterMap passes?

theorem traffic_append (seen more : List (Signal controllerInterface)) :
    traffic (seen ++ more) = traffic seen ++ traffic more := List.filterMap_append

theorem traffic_signals (log : List (Event controllerInterface)) :
    traffic (signals log) = signals (calls log) := by
  induction log with
  | nil => rfl
  | cons e log ih =>
    obtain ⟨r, answer⟩ := e
    cases r <;> simp_all [traffic, signals, calls, passes?, call?, List.filterMap_cons]

/-! ## 3. Before a report -/

/-- The cycle was told that its Secret write had succeeded, or it has read that none was due. -/
inductive Earned (key : Key) (claim : Claim) (heard : List (Event storeInterface)) : Prop
  | written {existing : Option Secret} {data : Dict Bytes}
      (value : (writeCall claim existing data).Value)
      (h : ⟨writeCall claim existing data, .ok value⟩ ∈ heard) : Earned key claim heard
  | undue {secret : Secret} {demand : Demand}
      (claim_read : ⟨.readClaim key, .ok (some claim)⟩ ∈ heard)
      (secret_read : ⟨.readSecret key, .ok (some secret)⟩ ∈ heard)
      (met : Met claim secret demand) : Earned key claim heard

/-- A sync is reported where it was earned. -/
theorem Reporting.earned (h : Reporting key events claim status) (synced : status.synced = true) :
    Earned key claim (calls events) := by
  cases h with
  | unprobed claim e stamp => cases synced
  | refused stamp _ => cases synced
  | failed stamp due h => cases synced
  | written stamp due h =>
    obtain ⟨_, data, value, -, hc⟩ := h.calls_of_ok
    refine .written value ?_
    rw [calls_append, hc]
    exact List.mem_append_right _ (List.mem_singleton_self _)
  | repaired stamp met _ => exact .undue (by simp [reads]) (by simp [reads]) met

/-- The store calls of a course, cut at a report. -/
theorem Course.report_split {front back : List (Event storeInterface)}
    {sent : Except StoreError Unit} (h : Course key events ending)
    (hc : calls events = front ++ report claim status sent :: back) :
    ∃ before, front = calls before ∧ Reporting key before claim status := by
  rcases h.reporting with hnone | ⟨before, c, st, sent', rfl, hr⟩
  · have hmem : told (.writeStatus claim status) sent ∈ events :=
      mem_of_mem_calls (by rw [hc]; simp)
    cases hnone _ hmem
  · have hbefore : ∀ x ∈ calls before, isReport x = false := by
      rintro ⟨c, a⟩ hx
      have hx := hr.unreported (mem_of_mem_calls hx)
      cases c <;> first | rfl | cases hx
    rw [calls_append] at hc
    obtain ⟨rfl, he⟩ := append_cons_inj_of_unique hc.symm rfl hbefore (List.forall_mem_nil _)
    cases he
    exact ⟨before, rfl, hr⟩

/-! ## 4. Deliveries -/

/-- What a delivery comes to, by what has become of its cycle. -/
theorem deliver_eq (hk : claim.key? = some key) (w : W) :
    deliver serve settings claim backoffs w =
      let start := ((opening key).run serve w).2
      let (result, w) := (cycle key).runWithin serve settings.reconcileTimeout.millis start
      let (_, w) := closing.run serve w
      match result with
      | none => (.error (.deadlineExceeded settings.reconcileTimeout), backoffs, w)
      | some (.error e) => (.error (.failed e), backoffs, w)
      | some (.ok _) => (.ok .awaitChange, backoffs.forget key.text, w) := by
  unfold deliver
  split
  next h => cases hk.symm.trans h
  next other h =>
    obtain rfl : key = other := Option.some.inj (hk.symm.trans h)
    rfl

/-- Without a key nothing is delivered. -/
theorem deliver_unkeyed (hk : claim.key? = none) (w : W) :
    deliver serve settings claim backoffs w = (.error .missingKey, backoffs, w) := by
  unfold deliver
  split
  next => rfl
  next key hkey => cases hk.symm.trans hkey

/-- A watched delivery is the same; what is seen is its opening, what its cycle has brought
about within the time, and its closing. -/
theorem deliver_watched (serve : Server controllerInterface W) (settings : Settings)
    (backoffs : BackoffTable) (hk : claim.key? = some key) (w : W) :
    let start := ((opening key).run serve w).2
    let cycled := (cycle key).runWithin serve settings.reconcileTimeout.millis start
    ∃ passed, passed <+: signals ((cycle key).transcript serve start) ∧
      Stops serve (cycle key) (answered passed) cycled.1 ∧
      deliver (watched serve) settings claim backoffs (w, []) =
        ((deliver serve settings claim backoffs w).1,
          (deliver serve settings claim backoffs w).2.1,
          (deliver serve settings claim backoffs w).2.2,
          signals ((opening key).transcript serve w) ++ passed ++
            signals (closing.transcript serve cycled.2)) := by
  intro start cycled
  obtain ⟨passed, hpassed, hstops, hrun⟩ := runWithin_watched serve (cycle key)
    settings.reconcileTimeout.millis start (signals ((opening key).transcript serve w))
  refine ⟨passed, hpassed, hstops, ?_⟩
  rw [deliver_eq hk, deliver_eq hk, run_watched]
  simp only [List.nil_append, start, hrun, run_watched]
  cases ((cycle key).runWithin serve settings.reconcileTimeout.millis
    ((opening key).run serve w).2).1 with
  | none => rfl
  | some ending => cases ending <;> rfl

/-- What passes between the controller and the stores in a delivery. -/
def deliveryTraffic (serve : Server controllerInterface W) (settings : Settings) (claim : Claim)
    (backoffs : BackoffTable) (w : W) : List (Signal storeInterface) :=
  traffic (deliver (watched serve) settings claim backoffs (w, [])).2.2.2

/-- What passes between the controller and the stores in a cycle without a deadline. -/
def cycleTraffic (serve : Server controllerInterface W) (key : Key) (w : W) :
    List (Signal storeInterface) :=
  traffic ((cycle key).run (watched serve) (w, [])).2.2

theorem cycleTraffic_eq (w : W) :
    cycleTraffic serve key w = signals (calls ((cycle key).transcript serve w)) := by
  rw [cycleTraffic, run_watched, List.nil_append, traffic_signals]

theorem deliveryTraffic_cut (serve : Server controllerInterface W) (settings : Settings)
    (backoffs : BackoffTable) (hk : claim.key? = some key) (w : W) :
    deliveryTraffic serve settings claim backoffs w <+:
      cycleTraffic serve key ((opening key).run serve w).2 := by
  obtain ⟨passed, hpassed, -, hdeliver⟩ := deliver_watched serve settings backoffs hk w
  have hopening : calls ((opening key).transcript serve w) = [] := rfl
  have hclosing : ∀ w, calls (closing.transcript serve w) = [] := fun _ => rfl
  simp only [deliveryTraffic, hdeliver, traffic_append, traffic_signals, hopening, hclosing,
    signals, List.nil_append, List.append_nil]
  rw [cycleTraffic_eq, ← traffic_signals]
  exact hpassed.filterMap passes?

/-- What a delivery reports as a sync was earned before, also if its cycle was cut off. -/
theorem deliveryTraffic_earned {reported : Claim} (hk : claim.key? = some key) {w : W}
    {before after : List (Signal storeInterface)}
    (h : deliveryTraffic serve settings claim backoffs w =
      before ++ .asked (.writeStatus reported status) :: after) (synced : status.synced = true) :
    ∃ heard, before = signals heard ∧ Earned key reported heard := by
  obtain ⟨rest, hrest⟩ := deliveryTraffic_cut serve settings backoffs hk w
  rw [cycleTraffic_eq, h, List.append_assoc, List.cons_append] at hrest
  obtain ⟨front, sent, back, hcalls, rfl⟩ := signals_cut hrest.symm
  have course := transcript_course serve key ((opening key).run serve w).2
  rw [← calls_outward] at hcalls
  obtain ⟨events, rfl, hr⟩ := course.report_split hcalls
  exact ⟨_, rfl, hr.earned synced⟩

/-- **A deadline leaves a beginning of the cycle.**  A claim is delivered, whatever the stores
and the random source answer and however long they take, and its cycle begins at `start`.

* What passes between the controller and the stores is a beginning of what passes in the same
  cycle without a deadline.
* Where a sync is reported, the cycle was told before that its Secret write had succeeded, or it
  had read that none was due.
* The cycle is cut off just if it takes longer than the deadline, provided that no request has to
  wait for its turn.
* If it is cut off, the delivery fails for its deadline, is tried again, and leaves the backoffs
  as they were. -/
theorem cut_at_deadline (serve : Server controllerInterface W) (settings : Settings)
    {claim : Claim} {key : Key} (hk : claim.key? = some key) (backoffs : BackoffTable) (w : W) :
    let start := ((opening key).run serve w).2
    let deadline := settings.reconcileTimeout
    let result := ((cycle key).runWithin serve deadline.millis start).1
    deliveryTraffic serve settings claim backoffs w <+: cycleTraffic serve key start ∧
    (∀ before reported status after, deliveryTraffic serve settings claim backoffs w =
        before ++ .asked (.writeStatus reported status) :: after → status.synced = true →
      ∃ heard, before = signals heard ∧ Earned key reported heard) ∧
    ((∀ r w, (serve r w).queued = false) →
      (result = none ↔ deadline.millis < (cycle key).elapsed serve start)) ∧
    (result = none →
      (deliver serve settings claim backoffs w).1 = .error (.deadlineExceeded deadline) ∧
      (DeliveryError.deadlineExceeded deadline).isRetryable = true ∧
      (deliver serve settings claim backoffs w).2.1 = backoffs) := by
  refine ⟨deliveryTraffic_cut serve settings backoffs hk w, ?_, ?_, ?_⟩
  · intro before reported status after h synced
    exact deliveryTraffic_earned hk h synced
  · exact fun prompt => runWithin_eq_none_iff prompt (cycle key) _ _
  · intro hcut
    rw [deliver_eq hk]
    simp only [hcut]
    exact ⟨trivial, rfl, trivial⟩

end Deadline

/-! ## 5. A report that takes too long -/

namespace Slow

/-- Cycles have a second. -/
def settings : Settings := { reconcileTimeoutSecs := 1 }

/-- Stores with a claim for a verbatim value, where writing a status takes two seconds. -/
def bench : Bench Memory :=
  { Plain.bench with stores := Plain.bench.stores.setDelay .writeStatus 2000 }

/-- The Secret that is created. -/
def secret : Secret := .new Plain.claim ((∅ : Dict Bytes).insert "a" (Bytes.utf8 "1"))

/-- The status that is reported. -/
def status : Status := .afterSync Plain.claim (.verbatim Plain.claim.spec.data) ""

/-- What the cycle has heard before. -/
def heard : List (Event storeInterface) :=
  [⟨.readClaim Plain.key, .ok (some Plain.claim)⟩, ⟨.readSecret Plain.key, .ok none⟩,
    ⟨.createSecret secret, .ok ()⟩]

end Slow

/-- The Secret is created; the report of it takes too long, and the cycle is cut off. -/
theorem slow_report_cut :
    (deliver inMemory Slow.settings Plain.claim .empty Slow.bench).1 =
      .error (.deadlineExceeded (.ofSeconds 1)) ∧
    deliveryTraffic inMemory Slow.settings Plain.claim .empty Slow.bench =
      signals Slow.heard ++ [.asked (.writeStatus Plain.claim Slow.status)] ∧
    ∃ heard, signals Slow.heard = signals heard ∧ Earned Plain.key Plain.claim heard := by
  have hk : Plain.claim.key? = some Plain.key := rfl
  obtain ⟨-, earned, hcut, left⟩ :=
    cut_at_deadline inMemory Slow.settings hk .empty Slow.bench
  have prompt : ∀ r b, (inMemory r b).queued = false := by
    intro r b
    cases r <;> rfl
  have late : Slow.settings.reconcileTimeout.millis <
      (cycle Plain.key).elapsed inMemory ((opening Plain.key).run inMemory Slow.bench).2 := by
    decide
  have htraffic : deliveryTraffic inMemory Slow.settings Plain.claim .empty Slow.bench =
      signals Slow.heard ++ [.asked (.writeStatus Plain.claim Slow.status)] := rfl
  exact ⟨(left ((hcut prompt).mpr late)).1, htraffic, earned _ _ _ _ htraffic rfl⟩

end Controller

end SecretKeeper
