/-
# The metrics account for what happened

Claims are delivered, and their errors handled: in any number and order, mixed with one another,
with stores and random sources that fail at will, and with cycles that are cut off at their
deadlines.  Afterwards each metric tells just how often the thing has happened that it counts
(`metrics_account`).

A delivery moves its metrics in four places: before its cycle and after it, however it ends; in the
cycle, which is balanced wherever it can be cut off, since only store calls are waited for; and when
its error is handled, where the date of the next attempt has to be found before the attempt is
counted.  The bill of a delivery (`Delivery.bill`) adds these up, and the account of many deliveries
adds up the bills.

Nothing is said about who answers.  `tally_inTurn` ties the account to a tally that is kept while
the deliveries run: that of a bench with stores of any make.
-/
import SecretKeeper.Proofs.Backoff
import SecretKeeper.Proofs.Balance
import SecretKeeper.Proofs.Wholeness

namespace SecretKeeper.Controller

open Program Simulation

section Attend

variable {W : Type} {serve : Server controllerInterface W} {settings : Settings} {claim : Claim}
  {key : Key} {now : Instant} {backoffs : BackoffTable} {m : Metric} {e : DeliveryError}

/-! ## 1. What is answered in a delivery -/

/-- Only store calls are waited for: nothing else takes time or has to wait for its turn. -/
def WaitsForStores (serve : Server controllerInterface W) : Prop :=
  ∀ r, TakesTime serve r → ∃ call, r = .store call

/-- Wherever a cycle stops, its metrics have been reckoned up. -/
theorem moved_of_stops (waits : WaitsForStores serve) {log : List (Event controllerInterface)}
    {ending : Option (Except CycleError Outcome)} (h : Stops serve (cycle key) log ending) :
    moved m log = owed (outward log) m +
      if ending = some (.ok .skippedForeign) ∧ m = .counter .ownershipSkips then 1 else 0 := by
  cases h with
  | ended h =>
    have reckoned : Reckoned log _ := cycle_along.reaches h
    simpa using reckoned m
  | cut h slow =>
    obtain ⟨call, rfl⟩ := waits _ slow
    have balanced : Balanced log := (cycle_along.reaches h).1 call rfl
    simpa using balanced m

/-- The requests that are answered when an error is handled, if there is one. -/
def handling (serve : Server controllerInterface W) (settings : Settings) (claim : Claim)
    (now : Instant) : Except DeliveryError Action → BackoffTable → W →
    List (Event controllerInterface)
  | .ok _, _, _ => []
  | .error e, backoffs, w => (handleError settings now claim e backoffs).transcript serve w

theorem moved_opening (w : W) : moved m ((opening key).transcript serve w) =
    if m = .counter .reconciliations then 1 else 0 := by
  change 0 + ((if .counter .reconciliations = m then 1 else 0) + 0) = _
  simp [eq_comm]

theorem moved_closing (w : W) : moved m (closing.transcript serve w) =
    if m = .observations then 1 else 0 := by
  change 0 + ((if .observations = m then 1 else 0) + 0) = _
  simp [eq_comm]

/-- An error is counted once, and once more if the claim is delivered again for it. -/
theorem moved_handleError (w : W)
    (dated : ∀ x, ((handleError settings now claim e backoffs).run serve w).1.1 ≠ .error x) :
    moved m ((handleError settings now claim e backoffs).transcript serve w) =
      (if m = .counter .reconciliationErrors then 1 else 0) +
        if e.isRetryable = true ∧ m = .counter (.requeues Counter.errorBackoff) then 1 else 0 := by
  rw [handleError_run] at dated
  cases he : e.isRetryable with
  | false =>
    simp only [handleError, he]
    change 0 + ((if .counter .reconciliationErrors = m then 1 else 0) + (0 + 0)) = _
    simp [eq_comm]
  | true =>
    simp only [he, if_true] at dated
    cases hd : now.later? (backoffs.advance settings.backoffMinMinutes
        settings.backoffMaxMinutes (backoffKey claim)).1.1 with
    | none =>
      rw [hd] at dated
      exact absurd rfl (dated _)
    | some date =>
      simp only [handleError, he, if_true, hd]
      change 0 + ((if .counter .reconciliationErrors = m then 1 else 0) +
        ((if .counter (.requeues Counter.errorBackoff) = m then 1 else 0) + (0 + 0))) = _
      simp [eq_comm]

/-- Nothing leaves the controller when a delivery opens or closes, or its error is handled. -/
theorem outward_opening (w : W) : outward ((opening key).transcript serve w) = [] := rfl

theorem outward_closing (w : W) : outward (closing.transcript serve w) = [] := rfl

theorem outward_handleError (w : W) :
    outward ((handleError settings now claim e backoffs).transcript serve w) = [] := by
  cases he : e.isRetryable with
  | false =>
    simp only [handleError, he]
    rfl
  | true =>
    simp only [handleError, he, if_true]
    split <;> rfl

/-- A watched delivery with its error handled leaves the same; what is seen is the delivery, and
then how the error is handled. -/
theorem attend_watched {w : W} {seen : List (Signal controllerInterface)}
    (h : deliver (watched serve) settings claim backoffs (w, []) =
      ((deliver serve settings claim backoffs w).1, (deliver serve settings claim backoffs w).2.1,
        (deliver serve settings claim backoffs w).2.2, seen)) :
    (attend (watched serve) settings claim now backoffs (w, [])).2 =
      ((attend serve settings claim now backoffs w).2.1,
        (attend serve settings claim now backoffs w).2.2,
        seen ++ signals (handling serve settings claim now
          (deliver serve settings claim backoffs w).1
          (deliver serve settings claim backoffs w).2.1
          (deliver serve settings claim backoffs w).2.2)) := by
  simp only [attend, h]
  cases (deliver serve settings claim backoffs w).1 with
  | ok action => simp [handling, signals]
  | error e => simp [handling, run_watched]

/-- Watching a delivery changes nothing. -/
theorem exists_deliver_watched (serve : Server controllerInterface W) (settings : Settings)
    (claim : Claim) (backoffs : BackoffTable) (w : W) :
    ∃ seen, deliver (watched serve) settings claim backoffs (w, []) =
      ((deliver serve settings claim backoffs w).1, (deliver serve settings claim backoffs w).2.1,
        (deliver serve settings claim backoffs w).2.2, seen) := by
  cases hk : claim.key? with
  | none => exact ⟨[], by rw [deliver_unkeyed hk, deliver_unkeyed hk]⟩
  | some key =>
    obtain ⟨_, -, -, hdeliver⟩ := deliver_watched serve settings backoffs hk w
    exact ⟨_, hdeliver⟩

end Attend

/-! ## 2. Deliveries -/

/-- A claim that is delivered, whoever answers, as long as only store calls take time. -/
structure Delivery where
  World : Type
  serve : Server controllerInterface World
  waits : WaitsForStores serve
  settings : Settings
  claim : Claim
  now : Instant
  backoffs : BackoffTable
  world : World

namespace Delivery

variable {d : Delivery} {m : Metric}

/-- What comes of the delivery, its error handled. -/
def account (d : Delivery) : Account :=
  (attend d.serve d.settings d.claim d.now d.backoffs d.world).1

/-- The requests that are answered in the delivery, and when its error is handled. -/
def events (d : Delivery) : List (Event controllerInterface) :=
  answered (attend (watched d.serve) d.settings d.claim d.now d.backoffs (d.world, [])).2.2.2

/-- The store calls and draws of the cycle. -/
def heard (d : Delivery) : List (Event controllerInterface) := outward d.events

/-- The claim has a key, so a cycle is started. -/
def keyed (d : Delivery) : Bool := d.claim.key?.isSome

/-- The cycle has left a Secret alone that belongs to something else. -/
def skipped (d : Delivery) : Bool := d.account.ending == some (.ok .skippedForeign)

/-- The delivery has failed, so an error is handled. -/
def failed (d : Delivery) : Bool := !d.account.result.isOk

/-- The delivery has failed with an error that is tried again. -/
def retryable (d : Delivery) : Bool :=
  match d.account.result with
  | .error e => e.isRetryable
  | .ok _ => false

/-- If the claim is to be tried again, there is a date for it. -/
def dated (d : Delivery) : Bool :=
  match d.account.decision with
  | some (.error _) => false
  | _ => true

/-- How far a metric moves with the delivery. -/
def bill (d : Delivery) (m : Metric) : Nat :=
  (if d.keyed = true ∧ m = .counter .reconciliations then 1 else 0) +
    (if d.keyed = true ∧ m = .observations then 1 else 0) +
    owed d.heard m +
    (if d.skipped = true ∧ m = .counter .ownershipSkips then 1 else 0) +
    (if d.failed = true ∧ m = .counter .reconciliationErrors then 1 else 0) +
    (if d.retryable = true ∧ m = .counter (.requeues Counter.errorBackoff) then 1 else 0)

/-- The delivery without its error handled. -/
def delivered (d : Delivery) : Except DeliveryError Action × BackoffTable × d.World :=
  deliver d.serve d.settings d.claim d.backoffs d.world

/-- The requests that are answered when the error is handled. -/
def aftermath (d : Delivery) : List (Event controllerInterface) :=
  handling d.serve d.settings d.claim d.now d.delivered.1 d.delivered.2.1 d.delivered.2.2

theorem account_result : d.account.result = d.delivered.1 := by
  unfold account attend delivered
  cases deliver d.serve d.settings d.claim d.backoffs d.world with
  | mk result rest => cases result <;> rfl

theorem account_decision {e : DeliveryError} (h : d.delivered.1 = .error e) :
    d.account.decision = some ((handleError d.settings d.now d.claim e d.delivered.2.1).run
      d.serve d.delivered.2.2).1.1 := by
  unfold delivered at *
  unfold account attend
  generalize deliver d.serve d.settings d.claim d.backoffs d.world = delivered at h ⊢
  obtain ⟨result, backoffs, w⟩ := delivered
  obtain rfl : result = .error e := h
  rfl

theorem account_unkeyed (hk : d.claim.key? = none) : d.account.ending = none := by
  unfold account attend
  cases deliver d.serve d.settings d.claim d.backoffs d.world with
  | mk result rest => cases result <;> simp [hk]

theorem account_ending {key : Key} (hk : d.claim.key? = some key) :
    d.account.ending = ((cycle key).runWithin d.serve d.settings.reconcileTimeout.millis
      ((opening key).run d.serve d.world).2).1 := by
  unfold account attend
  cases deliver d.serve d.settings d.claim d.backoffs d.world with
  | mk result rest => cases result <;> simp [hk]

/-- How far a metric moves when the error is handled. -/
theorem moved_aftermath (dated : d.dated = true) :
    moved m d.aftermath =
      (if d.failed = true ∧ m = .counter .reconciliationErrors then 1 else 0) +
        (if d.retryable = true ∧ m = .counter (.requeues Counter.errorBackoff) then 1 else 0) := by
  unfold failed retryable aftermath
  rw [account_result]
  cases hresult : d.delivered.1 with
  | ok action => simp [handling, Except.isOk, Except.toBool]
  | error e =>
    have dated' : ∀ x, ((handleError d.settings d.now d.claim e d.delivered.2.1).run d.serve
        d.delivered.2.2).1.1 ≠ .error x := by
      intro x hx
      rw [Delivery.dated, account_decision hresult, hx] at dated
      cases dated
    rw [handling, moved_handleError _ dated']
    simp [Except.isOk, Except.toBool]

theorem outward_aftermath : outward d.aftermath = [] := by
  unfold aftermath
  cases d.delivered.1 with
  | ok action => rfl
  | error e => exact outward_handleError _

/-- What is answered when the claim has a key: the opening, the cycle until it stops, the closing,
and what handles the error.  Store calls and draws are made by the cycle alone. -/
theorem events_of_keyed {key : Key} (hk : d.claim.key? = some key) :
    ∃ log w, Stops d.serve (cycle key) log d.account.ending ∧
      d.events = (opening key).transcript d.serve d.world ++ log ++ closing.transcript d.serve w ++
        d.aftermath ∧
      d.heard = outward log := by
  obtain ⟨passed, -, hstops, hdeliver⟩ := deliver_watched d.serve d.settings d.backoffs hk d.world
  have hevents : d.events = (opening key).transcript d.serve d.world ++ answered passed ++
      closing.transcript d.serve ((cycle key).runWithin d.serve
        d.settings.reconcileTimeout.millis ((opening key).run d.serve d.world).2).2 ++
      d.aftermath := by
    rw [events, attend_watched hdeliver]
    simp [aftermath, delivered]
  refine ⟨answered passed, _, ?_, hevents, ?_⟩
  · rw [account_ending hk]
    exact hstops
  · rw [heard, hevents]
    simp only [outward_append, outward_opening, outward_closing, outward_aftermath,
      List.nil_append, List.append_nil]

/-- Without a key there is just the error to handle. -/
theorem events_of_unkeyed (hk : d.claim.key? = none) : d.events = d.aftermath := by
  have hdeliver : deliver (watched d.serve) d.settings d.claim d.backoffs (d.world, []) =
      (d.delivered.1, d.delivered.2.1, d.delivered.2.2, []) := by
    rw [delivered, deliver_unkeyed hk, deliver_unkeyed hk]
  rw [events, attend_watched hdeliver]
  simp [aftermath, delivered]

/-- **A delivery moves its metrics as far as they are to move.** -/
theorem moved_events (dated : d.dated = true) : moved m d.events = d.bill m := by
  cases hk : d.claim.key? with
  | none =>
    have hheard : d.heard = [] := by rw [heard, events_of_unkeyed hk, outward_aftermath]
    have howed : owed d.heard m = 0 := by
      rw [hheard, owed_of_unfound rfl]
      rfl
    rw [events_of_unkeyed hk, moved_aftermath dated]
    simp [bill, keyed, hk, howed, skipped, account_unkeyed hk]
  | some key =>
    obtain ⟨log, w, hstops, hevents, hheard⟩ := events_of_keyed hk
    have hkeyed : d.keyed = true := by simp [keyed, hk]
    have hcycle := moved_of_stops (m := m) d.waits hstops
    rw [hevents]
    simp only [moved_append, moved_opening, moved_closing, moved_aftermath dated, hcycle, bill,
      hheard, hkeyed, skipped, beq_iff_eq, true_and]
    omega

/-- A cycle that was not cut off has rejected the spec just if that is its error. -/
theorem rejects_iff {ending : Except CycleError Outcome} (h : d.account.ending = some ending) :
    rejects d.heard = true ↔ ∃ e, ending = .error (.validation e) := by
  cases hk : d.claim.key? with
  | none =>
    rw [account_unkeyed hk] at h
    cases h
  | some key =>
    obtain ⟨log, w, hstops, -, hheard⟩ := events_of_keyed hk
    rw [h] at hstops
    cases hstops with
    | ended reached =>
      have yields : (cycle key).Yields log ending := by
        simpa using reached.yields (.done ending)
      rw [hheard]
      exact (cycle_course ⟨log, yields, rfl⟩).rejects_iff

end Delivery

/-! ## 3. The account -/

/-- What the metrics are to tell about deliveries whose requests were answered in some order:

* how many cycles were started, and how many durations observed: one for each claim with a key;
* how many errors were handled, and how many of them are tried again;
* how many Secrets were created and replaced, and how many reports were lost, by the answers of
  the stores that came before the deadlines;
* how many cycles skipped a foreign Secret, and how many rejected the spec, whatever became of
  the report (for a cycle that was not cut off, `Delivery.rejects_iff`);
* how many values were made, whatever became of them. -/
def expected (ds : List Delivery) (order : List (Event controllerInterface)) : Metric → Nat
  | .counter .reconciliations => ds.countP (·.keyed)
  | .observations => ds.countP (·.keyed)
  | .counter .reconciliationErrors => ds.countP (·.failed)
  | .counter (.requeues reason) =>
    if reason = Counter.errorBackoff then ds.countP (·.retryable) else 0
  | .counter .secretsCreated => order.countP (charges (.counter .secretsCreated))
  | .counter .secretsUpdated => order.countP (charges (.counter .secretsUpdated))
  | .counter .statusWriteFailures => order.countP (charges (.counter .statusWriteFailures))
  | .counter .ownershipSkips => ds.countP (·.skipped)
  | .counter .validationFailures => ds.countP (rejects ·.heard)
  | .counter .valuesGenerated => (ds.map (valuesMade ·.heard)).sum

section Account

variable {ds : List Delivery} {d : Delivery} {m : Metric}
  {order rest : List (Event controllerInterface)}

theorem countP_heard : d.heard.countP (charges m) = d.events.countP (charges m) := by
  rw [Delivery.heard, outward, List.countP_filter]
  refine List.countP_congr fun e _ => ?_
  obtain ⟨r, answer⟩ := e
  cases r <;> simp [charges, isOutward]

/-- A metric that counts no answers is owed what follows from the cycle. -/
theorem owed_of_uncharged {heard : List (Event controllerInterface)}
    (h : ∀ e, charges m e = false) : owed heard m = concluded heard m := by
  have hnone : heard.countP (charges m) = 0 := List.countP_eq_zero.mpr fun e _ => by simp [h e]
  rw [owed, hnone, Nat.zero_add]

/-- What the cycle of a delivery owes to each counter. -/
theorem owed_heard (c : Counter) : owed d.heard (.counter c) =
    match c with
    | .secretsCreated | .secretsUpdated | .statusWriteFailures =>
      d.events.countP (charges (.counter c))
    | .validationFailures => if rejects d.heard then 1 else 0
    | .valuesGenerated => valuesMade d.heard
    | _ => 0 := by
  cases c with
  | secretsCreated => exact countP_heard
  | secretsUpdated => exact countP_heard
  | statusWriteFailures => exact countP_heard
  | _ => exact owed_of_uncharged (by simp [charges])

/-- One more delivery adds its own bill. -/
theorem expected_cons (d : Delivery) (ds : List Delivery)
    (rest : List (Event controllerInterface)) :
    expected (d :: ds) (d.events ++ rest) m = d.bill m + expected ds rest m := by
  cases m with
  | observations =>
    have howed : owed d.heard .observations = 0 := owed_of_uncharged fun e => by simp [charges]
    simp [expected, Delivery.bill, howed, List.countP_cons, Nat.add_comm]
  | counter c =>
    cases c with
    | requeues reason =>
      by_cases hr : reason = Counter.errorBackoff <;>
        simp [expected, Delivery.bill, owed_heard, List.countP_cons, hr, Nat.add_comm]
    | _ => simp [expected, Delivery.bill, owed_heard, List.countP_cons, Nat.add_comm]

theorem expected_perm (h : order.Perm rest) : expected ds order m = expected ds rest m := by
  cases m with
  | observations => rfl
  | counter c =>
    cases c with
    | secretsCreated => exact h.countP_eq _
    | secretsUpdated => exact h.countP_eq _
    | statusWriteFailures => exact h.countP_eq _
    | _ => rfl

/-- All deliveries together move the metrics as far as is expected. -/
theorem moved_flatMap (dated : ∀ d ∈ ds, d.dated = true) :
    moved m (ds.flatMap Delivery.events) = expected ds (ds.flatMap Delivery.events) m := by
  induction ds with
  | nil =>
    cases m with
    | observations => rfl
    | counter c => cases c <;> simp [expected]
  | cons d ds ih =>
    obtain ⟨hd, hds⟩ := List.forall_mem_cons.mp dated
    rw [List.flatMap_cons, expected_cons, moved_append, Delivery.moved_events hd, ih hds]

/-- **The metrics account for what happened.**  Claims are delivered, whoever answers and whatever
the answers are, and whether or not a deadline cuts a cycle off; each error is handled once, and
finds a date for the next attempt.  The requests of the deliveries are answered in any order,
mixed or not.  Then every metric has moved just as far as `expected` says, from any tally on. -/
theorem metrics_account (ds : List Delivery) (dated : ∀ d ∈ ds, d.dated = true)
    {order : List (Event controllerInterface)} (h : order.Perm (ds.flatMap Delivery.events))
    (t : Tally) (m : Metric) :
    (t.replay order).value m = t.value m + expected ds order m := by
  rw [Tally.value_replay, moved_perm h, moved_flatMap dated, expected_perm h]

end Account

/-! ## 4. On a bench -/

section Keeps

variable {W : Type} {serve : Server controllerInterface W} {inv : W → Prop}

/-- The server keeps the property of its world: when a request takes effect, and when one is made
that may be cut off. -/
structure Keeps (serve : Server controllerInterface W) (inv : W → Prop) : Prop where
  after : ∀ r w, inv w → inv (serve r w).after
  issued : ∀ r w, inv w → 0 < (serve r w).delay → inv (serve r w).issued

theorem Keeps.run {α : Type} (h : Keeps serve inv) (p : Controller α) {w : W} (hw : inv w) :
    inv (p.run serve w).2 := by
  induction p generalizing w with
  | done a => exact hw
  | ask r resume ih => exact ih _ (h.after r w hw)

theorem Keeps.runWithin {α : Type} (h : Keeps serve inv) (p : Controller α) (budget : Nat) {w : W}
    (hw : inv w) : inv (p.runWithin serve budget w).2 := by
  induction p generalizing budget w with
  | done a => exact hw
  | ask r resume ih =>
    simp only [Program.runWithin]
    split
    next => exact hw
    next =>
      split
      next hcut => exact h.issued r w hw (Nat.zero_lt_of_lt hcut)
      next => exact ih _ _ (h.after r w hw)

theorem Keeps.deliver (h : Keeps serve inv) (settings : Settings) (claim : Claim)
    (backoffs : BackoffTable) {w : W} (hw : inv w) :
    inv (deliver serve settings claim backoffs w).2.2 := by
  cases hk : claim.key? with
  | none =>
    rw [deliver_unkeyed hk]
    exact hw
  | some key =>
    rw [deliver_eq hk]
    dsimp only
    have left := h.run closing (h.runWithin (cycle key) settings.reconcileTimeout.millis
      (h.run (opening key) hw))
    generalize (cycle key).runWithin serve settings.reconcileTimeout.millis
      ((opening key).run serve w).2 = cycled at left ⊢
    obtain ⟨result, w'⟩ := cycled
    rcases result with _ | _ | _ <;> exact left

theorem Keeps.attend (h : Keeps serve inv) (settings : Settings) (claim : Claim) (now : Instant)
    (backoffs : BackoffTable) {w : W} (hw : inv w) :
    inv (attend serve settings claim now backoffs w).2.2 := by
  have left := h.deliver settings claim backoffs hw
  unfold Controller.attend
  generalize Controller.deliver serve settings claim backoffs w = delivered at left ⊢
  obtain ⟨result, table, w'⟩ := delivered
  cases result with
  | ok action => exact left
  | error e => exact h.run _ left

end Keeps

section Bench

variable {S : Type} {stores : StoreServer S} {settings : Settings} {claim : Claim} {now : Instant}
  {backoffs : BackoffTable}

theorem bench_waits (stores : StoreServer S) : WaitsForStores (Bench.serve stores) := by
  rintro r ⟨b, h⟩
  cases r with
  | store call => exact ⟨call, rfl⟩
  | _ => simp [Bench.serve, Bench.atOnce] at h

/-- The tally of the bench tells what has passed since it was `t`. -/
def Booked (t : Tally) (x : Bench S × List (Signal controllerInterface)) : Prop :=
  x.1.tally = t.replay (answered x.2)

/-- A bench keeps account of what it answers. -/
theorem bench_keeps (stores : StoreServer S) (t : Tally) :
    Keeps (watched (Bench.serve stores)) (Booked t) where
  after := by
    rintro r ⟨b, seen⟩ h
    have h : b.tally = t.replay (answered seen) := h
    have told : ∀ answer : r.Answer,
        answered (seen ++ [.asked r, .told ⟨r, answer⟩]) = answered seen ++ [⟨r, answer⟩] := by
      intro answer
      rw [answered_append]
      rfl
    unfold Booked
    simp only [watched]
    rw [told, Tally.replay_append, ← h]
    cases r with
    | note field value =>
      obtain ⟨_, _, _, _, _, current⟩ := b
      cases current <;> rfl
    | _ => rfl
  issued := by
    rintro r ⟨b, seen⟩ h slow
    obtain ⟨call, rfl⟩ := bench_waits stores r ⟨b, .inr slow⟩
    have asked : answered (seen ++ [.asked (.store call)]) = answered seen := by
      rw [answered_append]
      exact List.append_nil _
    unfold Booked
    simp only [watched]
    rw [asked]
    exact h

/-- The delivery of a claim on a bench. -/
def onBench (stores : StoreServer S) (settings : Settings) (claim : Claim) (now : Instant)
    (backoffs : BackoffTable) (b : Bench S) : Delivery :=
  ⟨Bench S, Bench.serve stores, bench_waits stores, settings, claim, now, backoffs, b⟩

/-- What a delivery leaves on the bench's own account is what was answered in it. -/
theorem tally_attend (b : Bench S) :
    (attend (Bench.serve stores) settings claim now backoffs b).2.2.tally =
      b.tally.replay (onBench stores settings claim now backoffs b).events := by
  have booked : Booked b.tally
      (attend (watched (Bench.serve stores)) settings claim now backoffs (b, [])).2.2 :=
    (bench_keeps stores b.tally).attend settings claim now backoffs rfl
  obtain ⟨seen, hdeliver⟩ := exists_deliver_watched (Bench.serve stores) settings claim backoffs b
  have hworld : (attend (watched (Bench.serve stores)) settings claim now backoffs (b, [])).2.2.1 =
      (attend (Bench.serve stores) settings claim now backoffs b).2.2 :=
    congrArg (·.2.1) (attend_watched hdeliver)
  rw [← hworld]
  exact booked

/-- Claims are delivered one after the other on a bench, and their errors handled, each at its
time: the deliveries, and the bench that they leave. -/
def inTurn (stores : StoreServer S) (settings : Settings) :
    List (Claim × Instant) → BackoffTable → Bench S → List Delivery × Bench S
  | [], _, b => ([], b)
  | (claim, now) :: rest, backoffs, b =>
    let left := (attend (Bench.serve stores) settings claim now backoffs b).2
    let (ds, last) := inTurn stores settings rest left.1 left.2
    (onBench stores settings claim now backoffs b :: ds, last)

/-- **The account of a bench is what was answered on it.** -/
theorem tally_inTurn (rounds : List (Claim × Instant)) (backoffs : BackoffTable) (b : Bench S) :
    (inTurn stores settings rounds backoffs b).2.tally =
      b.tally.replay ((inTurn stores settings rounds backoffs b).1.flatMap Delivery.events) := by
  induction rounds generalizing backoffs b with
  | nil => rfl
  | cons round rounds ih =>
    obtain ⟨claim, now⟩ := round
    simp only [inTurn, List.flatMap_cons]
    rw [ih, tally_attend, Tally.replay_append]

end Bench

/-! ## 5. A creation that is refused

A password is made and counted, but the Secret cannot be created; then a claim comes that has no
name. -/

namespace Refusing

/-- Stores with the claim of a password, where no Secret can be created. -/
def bench : Bench Memory where
  stores :=
    { claims := (∅ : Keyed Claim).insert Password.key Password.claim
      faults := fun kind => if kind = .createSecret then some (.unavailable "no") else none }
  entropy := Password.entropy

/-- A claim without a name. -/
def nameless : Claim where
  metadata := { ns := some "default" }
  spec := { type := "Opaque" }

/-- The claims that are delivered, and when their errors are handled. -/
def rounds : List (Claim × Instant) := [(Password.claim, ⟨0, 0⟩), (nameless, ⟨60, 0⟩)]

/-- Their deliveries, and the bench after them. -/
def run : List Delivery × Bench Memory := inTurn Memory.serve .standard rounds .empty bench

end Refusing

/-- Two errors are handled, one of which is tried again; one cycle was started, which made one
value and created nothing. -/
theorem refused_creation_accounted :
    (∀ d ∈ Refusing.run.1, d.dated = true) ∧
    Refusing.run.2.tally.value (.counter .valuesGenerated) = 1 ∧
    Refusing.run.2.tally.value (.counter .secretsCreated) = 0 ∧
    Refusing.run.2.tally.value (.counter .reconciliations) = 1 ∧
    Refusing.run.2.tally.value (.counter .reconciliationErrors) = 2 ∧
    Refusing.run.2.tally.value (.counter (.requeues Counter.errorBackoff)) = 1 := by
  have dated : ∀ d ∈ Refusing.run.1, d.dated = true := by decide +kernel
  have account := metrics_account Refusing.run.1 dated (List.Perm.refl _) .empty
  have htally : Refusing.run.2.tally =
      Tally.empty.replay (Refusing.run.1.flatMap Delivery.events) := tally_inTurn _ _ _
  rw [← htally] at account
  refine ⟨dated, ?_, ?_, ?_, ?_, ?_⟩
  all_goals
    rw [account]
    decide +kernel

end SecretKeeper.Controller
