/-
# What becomes of errors

Errors are handed to the error policy one after the other, of any claims and at any times.  Each is
to be answered: the claim waits for a change, or is delivered again after its backoff.  But for the
next attempt a date is looked for, and where the delay leads beyond the calendar there is none: the
policy breaks down, after the backoff has advanced and before the attempt is counted.

How long a delay is depends on how often the claim has failed, so that the first failures are
answered says nothing about later ones.  In the end the delays come to the greatest one
(`Backoff.exists_delay_eq_ceiling`).  Hence the exact condition: all errors up to a time are
answered, however many there are, just if the greatest delay from that time on has a date
(`errors_answered`).  The bounds of the backoff come from the environment as they are, so there are
environments where it has none (`retry_beyond_calendar`).
-/
import SecretKeeper.Proofs.Delays
import SecretKeeper.Proofs.Tallying

namespace SecretKeeper

/-! ## 1. Dates -/

/-- A time that a clock shows: since 1970, in the calendar, and not in a leap second. -/
structure Instant.OnClock (t : Instant) : Prop where
  valid : t.isValid = true
  since : 0 ≤ t.secs
  plain : t.nanos < 1000000000

/-- A later time has a date, if it is not after the last second of the calendar. -/
theorem Instant.OnClock.later?_eq {t : Instant} (h : t.OnClock) (n : Nat) :
    t.later? n = if t.secs + n ≤ bounds.2 then some ⟨t.secs + n, t.nanos⟩ else none := by
  have hsince := h.since
  have hplain := h.plain
  have hvalid : isValid ⟨t.secs + n, t.nanos⟩ = true ↔ t.secs + n ≤ bounds.2 := by
    simp only [isValid, Bool.and_eq_true, decide_eq_true_eq, Bool.or_eq_true, beq_iff_eq]
    simp only [bounds]
    omega
  simp only [later?, ofParts?, hvalid]

namespace Controller

open Program

variable {settings : Settings} {table : BackoffTable} {W : Type}

/-! ## 2. One error after the other -/

/-- An error that is handed to the error policy. -/
structure Incident where
  claim : Claim
  error : DeliveryError
  now : Instant

/-- Handles errors one after the other: what is decided about each. -/
def handleEach (settings : Settings) :
    List Incident → BackoffTable → Controller (List (Except BeyondCalendar Action))
  | [], _ => pure []
  | i :: rest, table => do
    let (decision, table) ← handleError settings i.now i.claim i.error table
    let decisions ← handleEach settings rest table
    pure (decision :: decisions)

/-- The retryable errors that are entered under this key. -/
def struck (text : String) (before : List Incident) : Nat :=
  before.countP fun i => i.error.isRetryable && backoffKey i.claim == text

/-- What is to be decided about an error, by what was handled before. -/
def verdict (settings : Settings) (before : List Incident) (i : Incident) :
    Except BeyondCalendar Action :=
  let delay := Backoff.delay settings.backoffMinMinutes settings.backoffMaxMinutes
    (struck (backoffKey i.claim) before)
  if i.error.isRetryable = false then .ok .awaitChange
  else if i.now.secs + delay ≤ Instant.bounds.2 then .ok (.requeue delay)
  else .error ⟨delay⟩

/-- The table tells how many retryable errors there were for each key. -/
def Counted (settings : Settings) (before : List Incident) (table : BackoffTable) : Prop :=
  ∃ entries, table = .usable entries ∧ ∀ text : String,
    BackoffEntry.Reaches settings.backoffMinMinutes settings.backoffMaxMinutes
      (struck text before) (entries[text]?.getD
        ⟨.start settings.backoffMinMinutes settings.backoffMaxMinutes, 0⟩)

theorem counted_start (settings : Settings) : Counted settings [] .empty :=
  ⟨∅, rfl, fun text => by
    rw [Std.ExtTreeMap.getElem?_empty]
    exact BackoffEntry.reaches_start _ _⟩

theorem struck_concat (text : String) (before : List Incident) (i : Incident) :
    struck text (before ++ [i]) =
      struck text before + if i.error.isRetryable && backoffKey i.claim == text then 1 else 0 := by
  simp [struck, List.countP_append, List.countP_cons]

section Handled

variable {before : List Incident} {i : Incident} {serve : Server controllerInterface W} {w : W}

/-- **One error is handled**: the decision, and the table after it. -/
theorem Counted.handled (h : Counted settings before table) (clock : i.now.OnClock)
    (serve : Server controllerInterface W) (w : W) :
    ((handleError settings i.now i.claim i.error table).run serve w).1.1 =
      verdict settings before i ∧
    Counted settings (before ++ [i])
      ((handleError settings i.now i.claim i.error table).run serve w).1.2 := by
  rw [handleError_run]
  cases hr : i.error.isRetryable with
  | false =>
    refine ⟨by simp [verdict, hr], ?_⟩
    obtain ⟨entries, rfl, reaches⟩ := h
    exact ⟨entries, rfl, fun text => by simpa [struck_concat, hr] using reaches text⟩
  | true =>
    obtain ⟨entries, rfl, reaches⟩ := h
    obtain ⟨hdelay, hreaches⟩ := (reaches (backoffKey i.claim)).advance
    refine ⟨?_, _, rfl, fun text => ?_⟩
    · have hadvance : (BackoffTable.usable entries |>.advance settings.backoffMinMinutes
          settings.backoffMaxMinutes (backoffKey i.claim)).1.1 = _ := hdelay
      simp only [if_true, hadvance, clock.later?_eq, verdict, hr, Bool.true_eq_false, if_false]
      generalize Backoff.delay _ _ _ = delay
      by_cases hdate : i.now.secs + delay ≤ Instant.bounds.2
      · simp only [hdate, if_true]
      · simp only [hdate, if_false]
    · rw [struck_concat]
      by_cases htext : text = backoffKey i.claim
      · subst htext
        rw [Std.ExtTreeMap.getElem?_insert_self, hr, beq_self_eq_true]
        exact hreaches
      · rw [Dict.getElem?_insert_of_ne htext]
        simpa [hr, Ne.symm htext] using reaches text

theorem handleEach_cons_run {rest : List Incident} :
    ((handleEach settings (i :: rest) table).run serve w).1 =
      ((handleError settings i.now i.claim i.error table).run serve w).1.1 ::
        ((handleEach settings rest
          ((handleError settings i.now i.claim i.error table).run serve w).1.2).run serve
            ((handleError settings i.now i.claim i.error table).run serve w).2).1 := by
  simp only [handleEach, run_bind]
  rfl

/-- **Errors are handled one after the other**, each by what was handled before it. -/
theorem Counted.handledEach {incidents : List Incident} (h : Counted settings before table)
    (clock : ∀ i ∈ incidents, i.now.OnClock) (serve : Server controllerInterface W) (w : W) :
    ((handleEach settings incidents table).run serve w).1.length = incidents.length ∧
    ∀ k i, incidents[k]? = some i →
      ((handleEach settings incidents table).run serve w).1[k]? =
        some (verdict settings (before ++ incidents.take k) i) := by
  -- the table that the first error leaves counts it, so the rest is handled with it in `before`
  induction incidents generalizing before table w with
  | nil => exact ⟨rfl, fun k i hi => by simp at hi⟩
  | cons first rest ih =>
    obtain ⟨hfirst, hrest⟩ := List.forall_mem_cons.mp clock
    obtain ⟨hdecision, hcounted⟩ := h.handled hfirst serve w
    obtain ⟨hlength, hlater⟩ := ih hcounted hrest
      ((handleError settings first.now first.claim first.error table).run serve w).2
    rw [handleEach_cons_run]
    refine ⟨by rw [List.length_cons, List.length_cons, hlength], fun k i hi => ?_⟩
    cases k with
    | zero =>
      obtain rfl : first = i := by simpa using hi
      simpa using hdecision
    | succ k =>
      rw [List.getElem?_cons_succ] at hi ⊢
      rw [hlater k i hi, List.take_succ_cons, List.append_assoc, List.singleton_append]

end Handled

/-! ## 3. What is counted -/

/-- The claim is delivered again. -/
def isRequeue : Except BeyondCalendar Action → Bool
  | .ok (.requeue _) => true
  | _ => false

/-- The requeues for errors. -/
abbrev errorRequeues : Metric := .counter (.requeues Counter.errorBackoff)

section Moved

variable {serve : Server controllerInterface W} {w : W}

/-- An error counts as a requeue just if the claim is delivered again for it. -/
theorem moved_errorRequeues (now : Instant) (claim : Claim) (e : DeliveryError) :
    moved errorRequeues ((handleError settings now claim e table).transcript serve w) =
      if isRequeue ((handleError settings now claim e table).run serve w).1.1 then 1 else 0 := by
  rw [handleError_run]
  cases hr : e.isRetryable with
  | false =>
    simp only [handleError, hr]
    rfl
  | true =>
    simp only [handleError, hr, if_true]
    generalize table.advance settings.backoffMinMinutes settings.backoffMaxMinutes
      (backoffKey claim) = advanced
    obtain ⟨⟨delay, count⟩, next⟩ := advanced
    cases hd : now.later? delay with
    | none => rfl
    | some date => rfl

/-- So do all together. -/
theorem moved_handleEach (incidents : List Incident) :
    moved errorRequeues ((handleEach settings incidents table).transcript serve w) =
      ((handleEach settings incidents table).run serve w).1.countP isRequeue := by
  induction incidents generalizing table w with
  | nil => rfl
  | cons i rest ih =>
    rw [handleEach_cons_run, List.countP_cons, ← ih, ← moved_errorRequeues, Nat.add_comm]
    simp only [handleEach, transcript_bind, moved_append]
    rfl

end Moved

/-! ## 4. When all errors are answered -/

section Answered

variable {before : List Incident} {i : Incident} {serve : Server controllerInterface W} {w : W}

/-- An error is answered, if even the greatest delay leads to a date. -/
theorem exists_verdict (h : i.now.secs + Backoff.ceiling settings.backoffMinMinutes
    settings.backoffMaxMinutes ≤ Instant.bounds.2) :
    ∃ action, verdict settings before i = .ok action := by
  have hdelay := Backoff.delay_le_ceiling settings.backoffMinMinutes settings.backoffMaxMinutes
    (struck (backoffKey i.claim) before)
  by_cases hr : i.error.isRetryable = false
  · exact ⟨.awaitChange, if_pos hr⟩
  · exact ⟨_, (if_neg hr).trans (if_pos (by omega))⟩

theorem struck_replicate (hr : i.error.isRetryable = true) (k : Nat) :
    struck (backoffKey i.claim) (List.replicate k i) = k := by
  simp [struck, List.countP_replicate, hr]

/-- The error of one claim, over and over: in the end the greatest delay is due. -/
theorem verdict_replicate (hr : i.error.isRetryable = true) {k : Nat}
    (hk : Backoff.delay settings.backoffMinMinutes settings.backoffMaxMinutes k =
      Backoff.ceiling settings.backoffMinMinutes settings.backoffMaxMinutes)
    {action : Action} (h : verdict settings (List.replicate k i) i = .ok action) :
    i.now.secs + Backoff.ceiling settings.backoffMinMinutes settings.backoffMaxMinutes ≤
      Instant.bounds.2 := by
  by_contra hlate
  simp only [verdict, struck_replicate hr, hk, hr, Bool.true_eq_false, if_false] at h
  rw [if_neg hlate] at h
  cases h

/-- A word of seconds leads beyond the calendar, so that delays stop there does not matter. -/
theorem ceiling_dated_iff {t : Instant} (clock : t.OnClock) (least most : Nat) :
    t.secs + Backoff.ceiling least most ≤ Instant.bounds.2 ↔
      t.secs + 60 * Backoff.cap least most ≤ Instant.bounds.2 := by
  have hsince := clock.since
  have hword : Instant.bounds.2 < (wordMax : Int) := by decide
  simp only [Backoff.ceiling]
  omega

/-- **All errors up to a time are answered** just if the greatest delay from then on has a
date. -/
theorem answered_iff {t : Instant} (clock : t.OnClock) :
    (∀ incidents : List Incident, (∀ i ∈ incidents, i.now.OnClock ∧ i.now.secs ≤ t.secs) →
      ∀ d ∈ ((handleEach settings incidents .empty).run serve w).1, ∃ action, d = .ok action) ↔
    t.secs + 60 * Backoff.cap settings.backoffMinMinutes settings.backoffMaxMinutes ≤
      Instant.bounds.2 := by
  rw [← ceiling_dated_iff clock]
  constructor
  · intro answered
    obtain ⟨k, hk⟩ :=
      Backoff.exists_delay_eq_ceiling settings.backoffMinMinutes settings.backoffMaxMinutes
    -- one claim is late at the time `t` until the greatest delay is due, and then once more
    let late : Incident := ⟨Straining.claimOf "db", Straining.late, t⟩
    have timely : ∀ i ∈ List.replicate (k + 1) late, i.now.OnClock ∧ i.now.secs ≤ t.secs := by
      intro i hi
      rw [List.eq_of_mem_replicate hi]
      exact ⟨clock, Int.le_refl _⟩
    obtain ⟨-, hdecision⟩ :=
      (counted_start settings).handledEach (fun i hi => (timely i hi).1) serve w
    have hlast := hdecision k late (List.getElem?_replicate_of_lt (by omega))
    rw [List.nil_append, List.take_replicate, Nat.min_eq_left (by omega)] at hlast
    obtain ⟨action, haction⟩ := answered _ timely _ (List.mem_of_getElem? hlast)
    exact verdict_replicate rfl hk haction
  · intro dated incidents timely d hd
    obtain ⟨hlength, hdecision⟩ :=
      (counted_start settings).handledEach (fun i hi => (timely i hi).1) serve w
    obtain ⟨k, hk⟩ := List.mem_iff_getElem?.mp hd
    have hlt : k < incidents.length := hlength ▸ (List.getElem?_eq_some_iff.mp hk).1
    have hi := List.getElem?_eq_getElem hlt
    obtain rfl := Option.some.inj (hk.symm.trans (hdecision k _ hi))
    have htime := (timely _ (List.mem_of_getElem? hi)).2
    exact exists_verdict (by omega)

/-- **When errors are answered.**  The environment gives the bounds of the backoff: `m` is the
least delay in minutes, or one, and `M` the greatest one, or `m`.

* Whatever errors are handled up to a time `t`, of any claims and in any number, all are answered
  just if `M` minutes after `t` are still in the calendar.
* In any case each error gets a decision.  One that is not retryable waits for the claim to change;
  a retryable one before which there were `n` of the same claim asks for the delay
  `min (60 * min (fib (n + 1) * m) M) (2 ^ 64 - 1)`, if the calendar has a date for it.
* A requeue is counted for just those that are delivered again. -/
theorem errors_answered (environment : Dict Bytes) {t : Instant} (clock : t.OnClock)
    (serve : Server controllerInterface W) (w : W) :
    let settings := Settings.ofEnvironment environment
    let m := max settings.backoffMinMinutes 1
    let M := max settings.backoffMaxMinutes m
    ((∀ incidents : List Incident, (∀ i ∈ incidents, i.now.OnClock ∧ i.now.secs ≤ t.secs) →
      ∀ d ∈ ((handleEach settings incidents .empty).run serve w).1, ∃ action, d = .ok action) ↔
        t.secs + 60 * M ≤ Instant.bounds.2) ∧
    ∀ incidents : List Incident, (∀ i ∈ incidents, i.now.OnClock) →
      let decisions := ((handleEach settings incidents .empty).run serve w).1
      decisions.length = incidents.length ∧
      (∀ k i, incidents[k]? = some i →
        let n := (incidents.take k).countP fun j =>
          j.error.isRetryable && backoffKey j.claim == backoffKey i.claim
        let delay := min (60 * min (Nat.fib (n + 1) * m) M) (2 ^ 64 - 1)
        decisions[k]? = some (if i.error.isRetryable = false then .ok .awaitChange
          else if i.now.secs + delay ≤ Instant.bounds.2 then .ok (.requeue delay)
          else .error ⟨delay⟩)) ∧
      moved (.counter (.requeues Counter.errorBackoff))
        ((handleEach settings incidents .empty).transcript serve w) =
          decisions.countP isRequeue := by
  intro settings m M
  refine ⟨answered_iff clock, fun incidents clocks => ?_⟩
  obtain ⟨hlength, hdecision⟩ := (counted_start settings).handledEach clocks serve w
  exact ⟨hlength, hdecision, moved_handleEach incidents⟩

end Answered

/-! ## 5. Two environments -/

namespace Overdue

/-- The least delay is the greatest number that can be set. -/
def boundless : Dict Bytes :=
  (∅ : Dict Bytes).insert "BACKOFF_MIN_MINUTES" (Bytes.utf8 "18446744073709551615")

/-- The greatest delay is a year. -/
def yearly : Dict Bytes := (∅ : Dict Bytes).insert "BACKOFF_MAX_MINUTES" (Bytes.utf8 "525600")

/-- The beginning of the year 2100. -/
def turn : Instant := ⟨4102444800, 0⟩

theorem turn_onClock : turn.OnClock := ⟨by decide, by decide, by decide⟩

/-- A claim fails, another is refused, and the first fails twice more. -/
def incidents : List Incident :=
  [⟨Straining.claimOf "db", Straining.late, turn⟩,
    ⟨Straining.claimOf "web", .failed (.validation .missingPolicy), turn⟩,
    ⟨Straining.claimOf "db", Straining.late, turn⟩, ⟨Straining.claimOf "db", Straining.late, turn⟩]

theorem incidents_onClock : ∀ i ∈ incidents, i.now.OnClock := by
  intro i hi
  simp only [incidents, List.mem_cons, List.not_mem_nil, or_false] at hi
  rcases hi with rfl | rfl | rfl | rfl <;> exact turn_onClock

end Overdue

/-- With delays of at most a year all errors are answered until 2100, the third of a claim by a
delay of two minutes. -/
theorem yearly_delays_answered :
    (∀ incidents : List Incident,
      (∀ i ∈ incidents, i.now.OnClock ∧ i.now.secs ≤ Overdue.turn.secs) →
        ∀ d ∈ ((handleEach (.ofEnvironment Overdue.yearly) incidents .empty).run
          Straining.serve Straining.bench).1, ∃ action, d = .ok action) ∧
    ((handleEach (.ofEnvironment Overdue.yearly) Overdue.incidents .empty).run
      Straining.serve Straining.bench).1[3]? = some (.ok (.requeue 120)) := by
  obtain ⟨hall, heach⟩ :=
    errors_answered Overdue.yearly Overdue.turn_onClock Straining.serve Straining.bench
  obtain ⟨-, hdecision, -⟩ := heach Overdue.incidents Overdue.incidents_onClock
  refine ⟨hall.mpr (by decide +kernel), (hdecision 3 _ rfl).trans ?_⟩
  decide +kernel

/-- With no bound to the delays the first error of a claim is not answered: there is no date for
the next attempt, and none is counted. -/
theorem retry_beyond_calendar :
    Overdue.turn.OnClock ∧ Straining.late.isRetryable = true ∧
    ((handleEach (.ofEnvironment Overdue.boundless)
      [⟨Straining.claimOf "db", Straining.late, Overdue.turn⟩] .empty).run
        Straining.serve Straining.bench).1 = [.error ⟨18446744073709551615⟩] ∧
    moved (.counter (.requeues Counter.errorBackoff))
      ((handleEach (.ofEnvironment Overdue.boundless)
        [⟨Straining.claimOf "db", Straining.late, Overdue.turn⟩] .empty).transcript
          Straining.serve Straining.bench) = 0 := by
  refine ⟨Overdue.turn_onClock, rfl, ?_, ?_⟩
  all_goals decide +kernel

end Controller

end SecretKeeper
