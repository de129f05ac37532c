/-
# The courses of a cycle

A cycle asks a handful of things of the world, and every answer may be a failure.  This file
lists the courses that it can take: `Course key events ending` says that a cycle for `key`
can have just these store calls and draws, with these answers, and end in this way.

`cycle_course` says that there are no others, whoever answers and whatever the answers are.
What happens at a single moment follows from it: a cycle that is about to make a Secret
write has read the claim and the Secret before, and nothing else (`write_of_reaches`).

Counters, spans and the clock leave no trace in the events of a course, since no branch of
a cycle depends on them.
-/
import SecretKeeper.Controller.Cycle
import SecretKeeper.Proofs.Transcript

namespace SecretKeeper.Controller

open Program

/-! ## 1. What leaves the controller -/

/-- The answers of the stores. -/
abbrev storeInterface : Interface := ⟨StoreCall, StoreCall.Answer⟩

/-- A store call with its answer. -/
abbrev told (call : StoreCall) (answer : call.Answer) : Event controllerInterface :=
  ⟨.store call, answer⟩

/-- A value that was drawn under a policy, or the failure to draw it. -/
abbrev drew (p : Policy) (value : Except EntropyFailure String) : Event controllerInterface :=
  ⟨.draw p.encoding p.length, value⟩

/-- The event is a store call or a draw. -/
def isOutward (e : Event controllerInterface) : Bool :=
  match e.request with
  | .store _ => true
  | .draw _ _ => true
  | _ => false

/-- The store calls and draws of a transcript. -/
def outward (log : List (Event controllerInterface)) : List (Event controllerInterface) :=
  log.filter isOutward

theorem outward_append (log rest : List (Event controllerInterface)) :
    outward (log ++ rest) = outward log ++ outward rest := List.filter_append log rest

/-- Where the store calls and draws of a transcript can be cut, it can be cut itself. -/
theorem exists_cut {log front back : List (Event controllerInterface)}
    {e : Event controllerInterface} (h : outward log = front ++ e :: back) :
    ∃ before after, log = before ++ e :: after ∧ outward before = front ∧ outward after = back := by
  obtain ⟨first, rest, rfl, hfirst, hrest⟩ := List.filter_eq_append_iff.mp h
  obtain ⟨skipped, after, rfl, hskipped, -, hafter⟩ := List.filter_eq_cons_iff.mp hrest
  refine ⟨first ++ skipped, after, by simp, ?_, hafter⟩
  have hnone : outward skipped = [] := List.filter_eq_nil_iff.mpr hskipped
  rw [outward_append, hnone, List.append_nil]
  exact hfirst

/-- The program can have these store calls and draws, and come to this result. -/
def Does {α : Type} (p : Controller α) (events : List (Event controllerInterface)) (a : α) :
    Prop :=
  ∃ log, Yields p log a ∧ outward log = events

section Does

variable {α β : Type} {events : List (Event controllerInterface)}

@[simp] theorem does_done_iff {a b : α} :
    Does (.done a : Controller α) events b ↔ events = [] ∧ b = a := by
  constructor
  · rintro ⟨log, h, rfl⟩
    obtain ⟨rfl, rfl⟩ := yields_done_iff.mp h
    exact ⟨rfl, rfl⟩
  · rintro ⟨rfl, rfl⟩
    exact ⟨[], .done _, rfl⟩

theorem does_bind_iff {p : Controller α} {f : α → Controller β} {b : β} :
    Does (p >>= f : Controller β) events b ↔
      ∃ first rest a, events = first ++ rest ∧ Does p first a ∧ Does (f a) rest b := by
  constructor
  · rintro ⟨log, h, rfl⟩
    obtain ⟨first, rest, a, rfl, hp, hf⟩ := yields_bind_iff.mp h
    exact ⟨outward first, outward rest, a, outward_append first rest, ⟨first, hp, rfl⟩,
      ⟨rest, hf, rfl⟩⟩
  · rintro ⟨_, _, a, rfl, ⟨first, hp, rfl⟩, ⟨rest, hf, rfl⟩⟩
    exact ⟨first ++ rest, yields_bind_iff.mpr ⟨first, rest, a, rfl, hp, hf⟩,
      outward_append first rest⟩

theorem does_request_iff {r : Effect} {a : r.Answer} :
    Does (request (I := controllerInterface) r) events a ↔ events = outward [⟨r, a⟩] := by
  constructor
  · rintro ⟨log, h, rfl⟩
    rw [yields_request_iff.mp h]
  · rintro rfl
    exact ⟨_, yields_request_iff.mpr rfl, rfl⟩

@[simp] theorem does_call_iff {c : StoreCall} {a : c.Answer} :
    Does (call c) events a ↔ events = [told c a] := does_request_iff

@[simp] theorem does_draw_iff {p : Policy} {value : Except EntropyFailure String} :
    Does (draw p.encoding p.length) events value ↔ events = [drew p value] := does_request_iff

@[simp] theorem does_now_iff {stamp : String} : Does now events stamp ↔ events = [] :=
  does_request_iff

@[simp] theorem does_count_iff {c : Counter} {n : Nat} {u : Unit} :
    Does (count c n) events u ↔ events = [] := does_request_iff

@[simp] theorem does_note_iff {field value : String} {u : Unit} :
    Does (note field value) events u ↔ events = [] := does_request_iff

end Does

variable {events : List (Event controllerInterface)}

/-! ## 2. Materialization -/

/-- The data with one more value for every key, as far as there are values. -/
def fill : (keys values : List String) → Dict Bytes → Dict Bytes
  | key :: keys, value :: values, data => fill keys values (data.insert key (Bytes.utf8 value))
  | _, _, data => data

/-- The draws that gave these values. -/
def draws (p : Policy) (values : List String) : List (Event controllerInterface) :=
  values.map fun value => drew p (.ok value)

/-- With these draws the demand comes to these data. -/
inductive Materialized : Demand → List (Event controllerInterface) → Dict Bytes → Prop
  | verbatim (data : Dict String) :
      Materialized (.verbatim data) [] (data.map fun _ value => Bytes.utf8 value)
  | generated (p : Policy) (values : List String) (h : values.length = p.dataKeys.length) :
      Materialized (.generated p) (draws p values) (fill p.dataKeys values ∅)

/-- With these draws, the last of which fails, the demand comes to nothing. -/
inductive Unmaterialized : Demand → List (Event controllerInterface) → EntropyFailure → Prop
  | generated (p : Policy) (values : List String) (e : EntropyFailure)
      (h : values.length < p.dataKeys.length) :
      Unmaterialized (.generated p) (draws p values ++ [drew p (.error e)]) e

/-- Values are drawn for the keys in order, up to the first failure. -/
theorem drawAll_does {p : Policy} {keys : List String} {data : Dict Bytes}
    {r : Except EntropyFailure (Dict Bytes)} (h : Does (drawAll p keys data) events r) :
    (∃ values, values.length = keys.length ∧ events = draws p values ∧
      r = .ok (fill keys values data)) ∨
    ∃ values e, values.length < keys.length ∧ events = draws p values ++ [drew p (.error e)] ∧
      r = .error e := by
  induction keys generalizing data events with
  | nil =>
    obtain ⟨rfl, rfl⟩ := does_done_iff.mp h
    exact .inl ⟨[], rfl, rfl, rfl⟩
  | cons key keys ih =>
    simp only [drawAll, does_bind_iff, does_draw_iff] at h
    obtain ⟨_, rest, value, rfl, rfl, h⟩ := h
    cases value with
    | error e =>
      obtain ⟨rfl, rfl⟩ := does_done_iff.mp h
      exact .inr ⟨[], e, by simp, rfl, rfl⟩
    | ok value =>
      rcases ih h with ⟨values, hl, rfl, rfl⟩ | ⟨values, e, hl, rfl, rfl⟩
      · exact .inl ⟨value :: values, by simp [hl], rfl, rfl⟩
      · exact .inr ⟨value :: values, e, by simp [hl], rfl, rfl⟩

/-- Materialization gives the data, or the first failure to draw. -/
theorem materialize_does {demand : Demand} {r : Except CycleError (Dict Bytes)}
    (h : Does (materialize demand) events r) :
    (∃ data, Materialized demand events data ∧ r = .ok data) ∨
      ∃ e, Unmaterialized demand events e ∧ r = .error (.generation e) := by
  cases demand with
  | verbatim data =>
    obtain ⟨rfl, rfl⟩ := does_done_iff.mp h
    exact .inl ⟨_, .verbatim data, rfl⟩
  | generated p =>
    simp only [materialize, does_bind_iff] at h
    obtain ⟨first, rest, fields, rfl, hd, h⟩ := h
    rcases drawAll_does hd with ⟨values, hl, rfl, rfl⟩ | ⟨values, e, hl, rfl, rfl⟩
    · simp only [does_bind_iff, does_count_iff, pure_eq, does_done_iff] at h
      obtain ⟨_, _, _, rfl, rfl, rfl, rfl⟩ := h
      exact .inl ⟨_, by simpa using .generated p values hl, rfl⟩
    · obtain ⟨rfl, rfl⟩ := does_done_iff.mp h
      exact .inr ⟨e, by simpa using .generated p values e hl, rfl⟩

/-! ## 3. Writes -/

/-- The call that brings the data to the claim's Secret. -/
def writeCall (claim : Claim) : (existing : Option Secret) → (data : Dict Bytes) → StoreCall
  | none, data => .createSecret (.new claim data)
  | some old, data => .replaceSecret (old.withData data)

/-- The Secret that the call writes. -/
def written (claim : Claim) : (existing : Option Secret) → (data : Dict Bytes) → Secret
  | none, data => .new claim data
  | some old, data => old.withData data

@[simp] theorem written_data {claim : Claim} {existing : Option Secret} {data : Dict Bytes} :
    (written claim existing data).data = some data := by
  cases existing <;> rfl

/-- How a cycle ends that wrote the Secret. -/
def writeOutcome : (existing : Option Secret) → Outcome
  | none => .created
  | some _ => .updated

/-- The program that makes the data and writes them. -/
def write (claim : Claim) (demand : Demand) :
    (existing : Option Secret) → Controller (Except CycleError Unit)
  | none => createSecret claim demand
  | some old => updateSecret old demand

/-- How far a write can come: the data are not complete, the call fails, or it succeeds. -/
inductive Attempt (claim : Claim) (existing : Option Secret) (demand : Demand) :
    List (Event controllerInterface) → Except CycleError Unit → Prop
  | undrawn {drawn : List (Event controllerInterface)} {e : EntropyFailure}
      (h : Unmaterialized demand drawn e) :
      Attempt claim existing demand drawn (.error (.generation e))
  | unwritten {drawn : List (Event controllerInterface)} {data : Dict Bytes} (e : StoreError)
      (h : Materialized demand drawn data) :
      Attempt claim existing demand (drawn ++ [told (writeCall claim existing data) (.error e)])
        (.error (.store e))
  | written {drawn : List (Event controllerInterface)} {data : Dict Bytes}
      (value : (writeCall claim existing data).Value) (h : Materialized demand drawn data) :
      Attempt claim existing demand (drawn ++ [told (writeCall claim existing data) (.ok value)])
        (.ok ())

/-- An attempt that succeeds ends with a call that succeeds, with data that were made for the
demand. -/
theorem Attempt.eq_of_ok {claim : Claim} {existing : Option Secret} {demand : Demand}
    (h : Attempt claim existing demand events (.ok ())) :
    ∃ drawn data value, Materialized demand drawn data ∧
      events = drawn ++ [told (writeCall claim existing data) (.ok value)] := by
  generalize hr : (Except.ok () : Except CycleError Unit) = result at h
  cases h with
  | undrawn h => cases hr
  | unwritten x h => cases hr
  | written value h => exact ⟨_, _, value, h, rfl⟩

/-- Creating and replacing differ in the call alone. -/
theorem write_does {claim : Claim} {existing : Option Secret} {demand : Demand}
    {r : Except CycleError Unit} (h : Does (write claim demand existing) events r) :
    Attempt claim existing demand events r := by
  cases existing <;>
  · simp only [write, createSecret, updateSecret, does_bind_iff] at h
    obtain ⟨drawn, rest, made, rfl, hd, h⟩ := h
    rcases materialize_does hd with ⟨data, hm, rfl⟩ | ⟨e, hm, rfl⟩
    · simp only [does_bind_iff, does_call_iff] at h
      obtain ⟨_, _, answer, rfl, rfl, h⟩ := h
      cases answer with
      | error e =>
        obtain ⟨rfl, rfl⟩ := does_done_iff.mp h
        exact .unwritten e hm
      | ok value =>
        simp only [does_bind_iff, does_count_iff, pure_eq, does_done_iff] at h
        obtain ⟨_, _, _, rfl, rfl, rfl, rfl⟩ := h
        exact .written _ hm
    · obtain ⟨rfl, rfl⟩ := does_done_iff.mp h
      simpa using Attempt.undrawn hm

/-! ## 4. Cycles -/

/-- The two reads of a cycle. -/
def reads (key : Key) (claim : Claim) (existing : Option Secret) :
    List (Event controllerInterface) :=
  [told (.readClaim key) (.ok (some claim)), told (.readSecret key) (.ok existing)]

/-- The Secret is to be written: there is none, or the claim's own has drifted from a demand
that the claim makes. -/
structure Due (claim : Claim) (existing : Option Secret) (demand : Demand) : Prop where
  own : isForeign claim existing = false
  valid : claim.spec.validate = .ok demand
  drifted : ∀ old, existing = some old →
    Drift.detect demand old.data claim.lastReconcileTrigger = true

/-- The Secret is the claim's own and meets its demand. -/
structure Met (claim : Claim) (secret : Secret) (demand : Demand) : Prop where
  own : secret.isOwnedBy claim = true
  valid : claim.spec.validate = .ok demand
  still : Drift.detect demand secret.data claim.lastReconcileTrigger = false

/-- The courses that a cycle can take, and how each of them ends. -/
inductive Course (key : Key) :
    List (Event controllerInterface) → Except CycleError Outcome → Prop
  /-- The claim cannot be read: there is nobody to report to. -/
  | unread (e : StoreError) : Course key [told (.readClaim key) (.error e)] (.error (.store e))
  | gone : Course key [told (.readClaim key) (.ok none)] (.ok .claimGone)
  /-- The Secret cannot be read. -/
  | unprobed (claim : Claim) (e : StoreError) (stamp : String)
      (sent : Except StoreError Unit) :
      Course key
        [told (.readClaim key) (.ok (some claim)), told (.readSecret key) (.error e),
          told (.writeStatus claim (.afterFailure claim (CycleError.store e).message stamp)) sent]
        (.error (.store e))
  | foreign {claim : Claim} {old : Secret} (h : old.isOwnedBy claim = false) :
      Course key (reads key claim (some old)) (.ok .skippedForeign)
  /-- The claim's spec is refused. -/
  | refused {claim : Claim} {existing : Option Secret} {e : ValidationError} (stamp : String)
      (sent : Except StoreError Unit) (own : isForeign claim existing = false)
      (h : claim.spec.validate = .error e) :
      Course key
        (reads key claim existing ++
          [told (.writeStatus claim (.afterFailure claim e.message stamp)) sent])
        (.error (.validation e))
  /-- The Secret is to be written and is not, or not known to be. -/
  | failed {claim : Claim} {existing : Option Secret} {demand : Demand}
      {attempt : List (Event controllerInterface)} {e : CycleError} (stamp : String)
      (sent : Except StoreError Unit) (due : Due claim existing demand)
      (h : Attempt claim existing demand attempt (.error e)) :
      Course key
        (reads key claim existing ++ attempt ++
          [told (.writeStatus claim (.afterFailure claim e.message stamp)) sent])
        (.error e)
  /-- The Secret is written. -/
  | written {claim : Claim} {existing : Option Secret} {demand : Demand}
      {attempt : List (Event controllerInterface)} (stamp : String)
      (sent : Except StoreError Unit) (due : Due claim existing demand)
      (h : Attempt claim existing demand attempt (.ok ())) :
      Course key
        (reads key claim existing ++ attempt ++
          [told (.writeStatus claim (.afterSync claim demand stamp)) sent])
        (.ok (writeOutcome existing))
  /-- The Secret is as it should be, but the last report did not say so. -/
  | repaired {claim : Claim} {secret : Secret} {demand : Demand} (stamp : String)
      (sent : Except StoreError Unit) (met : Met claim secret demand)
      (h : claim.isSynced = false) :
      Course key
        (reads key claim (some secret) ++
          [told (.writeStatus claim (.afterSync claim demand stamp)) sent])
        (.ok .statusRepaired)
  | idle {claim : Claim} {secret : Secret} {demand : Demand} (met : Met claim secret demand)
      (h : claim.isSynced = true) : Course key (reads key claim (some secret)) (.ok .idle)

section Cycle

variable {claim : Claim} {existing : Option Secret} {demand : Demand}
  {r : Except CycleError Outcome}

theorem writeStatus_does {status : Status} {written : Bool}
    (h : Does (writeStatus claim status) events written) :
    ∃ sent, events = [told (.writeStatus claim status) sent] := by
  simp only [writeStatus, does_bind_iff, does_call_iff] at h
  obtain ⟨_, _, sent, rfl, rfl, h⟩ := h
  cases sent with
  | ok value =>
    obtain ⟨rfl, -⟩ := does_done_iff.mp h
    exact ⟨.ok value, rfl⟩
  | error e =>
    simp only [does_bind_iff, does_count_iff, pure_eq, does_done_iff] at h
    obtain ⟨_, _, _, rfl, rfl, rfl, -⟩ := h
    exact ⟨.error e, rfl⟩

/-- A failure is reported once, and ends the cycle whether the report gets through or not. -/
theorem fail_does {e : CycleError} (h : Does (fail claim e) events r) :
    ∃ stamp sent,
      events = [told (.writeStatus claim (.afterFailure claim e.message stamp)) sent] ∧
        r = .error e := by
  simp only [fail, reportFailure, does_bind_iff, does_now_iff, pure_eq, does_done_iff] at h
  obtain ⟨_, _, _, rfl, ⟨_, _, stamp, rfl, rfl, h⟩, rfl, rfl⟩ := h
  obtain ⟨sent, rfl⟩ := writeStatus_does h
  exact ⟨stamp, sent, rfl, rfl⟩

/-- A sync is reported once, and ends the cycle whether the report gets through or not. -/
theorem succeed_does {outcome : Outcome} (h : Does (succeed claim demand outcome) events r) :
    ∃ stamp sent,
      events = [told (.writeStatus claim (.afterSync claim demand stamp)) sent] ∧
        r = .ok outcome := by
  simp only [succeed, reportSync, does_bind_iff, does_now_iff, pure_eq, does_done_iff] at h
  obtain ⟨_, _, _, rfl, ⟨_, _, stamp, rfl, rfl, h⟩, rfl, rfl⟩ := h
  obtain ⟨sent, rfl⟩ := writeStatus_does h
  exact ⟨stamp, sent, rfl, rfl⟩

theorem noteClaim_does {u : Unit} (h : Does (noteClaim claim) events u) : events = [] := by
  simp only [noteClaim, does_bind_iff, does_note_iff] at h
  obtain ⟨_, rest, _, rfl, rfl, h⟩ := h
  split at h
  · exact (does_done_iff.mp h).1
  · simp only [does_bind_iff, does_note_iff] at h
    obtain ⟨_, _, _, rfl, rfl, h⟩ := h
    split at h
    · exact (does_done_iff.mp h).1
    · exact does_note_iff.mp h

/-- How a cycle begins, and what is left to do then. -/
inductive Opening (key : Key) :
    List (Event controllerInterface) → Except CycleError Outcome → Prop
  | unread (e : StoreError) : Opening key [told (.readClaim key) (.error e)] (.error (.store e))
  | gone : Opening key [told (.readClaim key) (.ok none)] (.ok .claimGone)
  | unprobed {claim : Claim} {e : StoreError} {rest : List (Event controllerInterface)}
      {r : Except CycleError Outcome} (h : Does (fail claim (.store e)) rest r) :
      Opening key (told (.readClaim key) (.ok (some claim)) ::
        told (.readSecret key) (.error e) :: rest) r
  | probed {claim : Claim} {existing : Option Secret}
      {rest : List (Event controllerInterface)} {r : Except CycleError Outcome}
      (h : Does (settle claim existing) rest r) : Opening key (reads key claim existing ++ rest) r

/-- A cycle begins with the two reads, as far as they succeed and find something. -/
theorem cycle_opening {key : Key} (h : Does (cycle key) events r) : Opening key events r := by
  simp only [cycle, does_bind_iff, does_call_iff] at h
  obtain ⟨_, _, answer, rfl, rfl, h⟩ := h
  cases answer with
  | error e =>
    obtain ⟨rfl, rfl⟩ := does_done_iff.mp h
    exact .unread e
  | ok found =>
    cases found with
    | none =>
      obtain ⟨rfl, rfl⟩ := does_done_iff.mp h
      exact .gone
    | some claim =>
      simp only [does_bind_iff, does_call_iff] at h
      obtain ⟨_, _, _, rfl, hn, _, _, probe, rfl, rfl, h⟩ := h
      obtain rfl := noteClaim_does hn
      cases probe with
      | error e => exact .unprobed h
      | ok existing => exact .probed h

/-- A write that is due is made, and what came of it is reported. -/
theorem course_of_due {key : Key} (due : Due claim existing demand)
    (h : Does (write claim demand existing >>= fun
      | .error e => fail claim e
      | .ok _ => succeed claim demand (writeOutcome existing)) events r) :
    Course key (reads key claim existing ++ events) r := by
  obtain ⟨attempt, rest, result, rfl, hw, h⟩ := does_bind_iff.mp h
  rw [← List.append_assoc]
  cases result with
  | error e =>
    obtain ⟨stamp, sent, rfl, rfl⟩ := fail_does h
    exact .failed stamp sent due (write_does hw)
  | ok _ =>
    obtain ⟨stamp, sent, rfl, rfl⟩ := succeed_does h
    exact .written stamp sent due (write_does hw)

/-- The course of a cycle that has read the claim and a Secret that is not foreign, and knows
the demand. -/
theorem converge_course {key : Key} (own : isForeign claim existing = false)
    (valid : claim.spec.validate = .ok demand)
    (h : Does (converge claim existing demand) events r) :
    Course key (reads key claim existing ++ events) r := by
  cases existing with
  | none => exact course_of_due ⟨own, valid, by simp⟩ h
  | some secret =>
    have hown : secret.isOwnedBy claim = true := by simpa [isForeign] using own
    rw [converge] at h
    split at h
    next hd => exact course_of_due ⟨own, valid, by simpa using hd⟩ h
    next hd =>
      have met : Met claim secret demand := ⟨hown, valid, by simpa using hd⟩
      split at h
      next hs =>
        obtain ⟨rfl, rfl⟩ := does_done_iff.mp h
        simpa using Course.idle met hs
      next hs =>
        obtain ⟨stamp, sent, rfl, rfl⟩ := succeed_does h
        exact .repaired stamp sent met (by simpa using hs)

/-- The course of a cycle that has read the claim and the Secret. -/
theorem settle_course {key : Key} (h : Does (settle claim existing) events r) :
    Course key (reads key claim existing ++ events) r := by
  rw [settle] at h
  split at h
  next hf =>
    simp only [does_bind_iff, does_count_iff, pure_eq, does_done_iff] at h
    obtain ⟨_, _, _, rfl, rfl, rfl, rfl⟩ := h
    obtain ⟨old, rfl, hold⟩ : ∃ old, existing = some old ∧ old.isOwnedBy claim = false := by
      simpa [isForeign, Option.any_eq_true] using hf
    exact .foreign hold
  next hf =>
    have own : isForeign claim existing = false := by simpa using hf
    split at h
    next e he =>
      simp only [does_bind_iff, does_count_iff] at h
      obtain ⟨_, _, _, rfl, rfl, h⟩ := h
      obtain ⟨stamp, sent, rfl, rfl⟩ := fail_does h
      exact .refused stamp sent own he
    next demand hv => exact converge_course own hv h

/-- **A cycle takes one of its courses.** -/
theorem cycle_course {key : Key} (h : Does (cycle key) events r) : Course key events r := by
  cases cycle_opening h with
  | unread e => exact .unread e
  | gone => exact .gone
  | unprobed h =>
    obtain ⟨stamp, sent, rfl, rfl⟩ := fail_does h
    exact .unprobed _ _ stamp sent
  | probed h => exact settle_course h

/-- Whoever answers it, a cycle takes one of its courses. -/
theorem transcript_course {W : Type} (serve : Server controllerInterface W) (key : Key) (w : W) :
    Course key (outward ((cycle key).transcript serve w)) ((cycle key).run serve w).1 :=
  cycle_course ⟨_, yields_transcript serve (cycle key) w, rfl⟩

end Cycle

/-! ## 5. At the moment of a Secret write

A cycle that stands before a Secret write can be brought to an end, so what it did so far is
the beginning of a course; and no course has more than one Secret write. -/

/-- Every request of the controller can be answered. -/
instance (r : Effect) : Nonempty (controllerInterface.Answer r) :=
  match r with
  | .store _ => ⟨.error (.unavailable "")⟩
  | .draw _ _ => ⟨.error ⟨""⟩⟩
  | .now => ⟨""⟩
  | .count _ _ | .observe | .enter _ _ | .leave | .note _ _ => ⟨()⟩

/-- The event is a Secret write. -/
def writesSecret (e : Event controllerInterface) : Bool :=
  match e.request with
  | .store call => call.writesSecret
  | _ => false

/-- A list that ends with `x` is cut at its end or before it. -/
theorem concat_cut_cases {α : Type} {log before after : List α} {x e : α}
    (h : log ++ [x] = before ++ e :: after) :
    (log = before ∧ x = e ∧ after = []) ∨
      ∃ rest, after = rest ++ [x] ∧ log = before ++ e :: rest := by
  rcases List.eq_nil_or_concat after with rfl | ⟨rest, last, rfl⟩
  · obtain ⟨hlog, hlast⟩ := List.append_inj' h rfl
    exact .inl ⟨hlog, List.singleton_inj.mp hlast, rfl⟩
  · have hcut : log ++ [x] = (before ++ e :: rest) ++ [last] := by simpa using h
    obtain ⟨hlog, hlast⟩ := List.append_inj' hcut rfl
    obtain rfl := List.singleton_inj.mp hlast
    exact .inr ⟨rest, List.concat_eq_append, hlog⟩

/-- Where only one element has a property, a list can be cut at such an element in one way. -/
theorem append_cons_inj_of_unique {α : Type} {p : α → Bool} {l m front back : List α} {e w : α}
    (h : l ++ e :: m = front ++ w :: back) (he : p e = true)
    (hf : ∀ x ∈ front, p x = false) (hb : ∀ x ∈ back, p x = false) : l = front ∧ e = w := by
  rcases List.append_eq_append_iff.mp h with ⟨rest, rfl, hm⟩ | ⟨rest, rfl, hm⟩
  · cases rest with
    | nil => exact ⟨by simp, (List.cons.inj hm).1⟩
    | cons x rest =>
      obtain ⟨rfl, -⟩ := List.cons.inj hm
      rw [hf e (by simp)] at he
      cases he
  · cases rest with
    | nil => exact ⟨by simp, (List.cons.inj hm).1.symm⟩
    | cons x rest =>
      have hmem : e ∈ back := by rw [(List.cons.inj hm).2]; simp
      rw [hb e hmem] at he
      cases he

section Moment

variable {key : Key} {claim : Claim} {existing : Option Secret} {demand : Demand}

theorem writesSecret_of_mem_reads {e : Event controllerInterface}
    (h : e ∈ reads key claim existing) : writesSecret e = false := by
  simp only [reads, List.mem_cons, List.not_mem_nil, or_false] at h
  rcases h with rfl | rfl <;> rfl

theorem writesSecret_of_mem_draws {p : Policy} {values : List String}
    {e : Event controllerInterface} (h : e ∈ draws p values) : writesSecret e = false := by
  obtain ⟨value, -, rfl⟩ := List.mem_map.mp h
  rfl

theorem Materialized.writesSecret_of_mem {data : Dict Bytes} (h : Materialized demand events data)
    {e : Event controllerInterface} (he : e ∈ events) : writesSecret e = false := by
  cases h with
  | verbatim data => cases he
  | generated p values _ => exact writesSecret_of_mem_draws he

theorem Unmaterialized.writesSecret_of_mem {x : EntropyFailure}
    (h : Unmaterialized demand events x) {e : Event controllerInterface} (he : e ∈ events) :
    writesSecret e = false := by
  cases h with
  | generated p values x _ =>
    rcases List.mem_append.mp he with he | he
    · exact writesSecret_of_mem_draws he
    · rw [List.mem_singleton.mp he]
      rfl

/-- The Secret write of an attempt comes after the draws, which made the data that it writes. -/
theorem Attempt.write_split {result : Except CycleError Unit}
    {front back l m : List (Event controllerInterface)} {e : Event controllerInterface}
    (h : Attempt claim existing demand events result)
    (hf : ∀ x ∈ front, writesSecret x = false) (hb : ∀ x ∈ back, writesSecret x = false)
    (hs : l ++ e :: m = front ++ events ++ back) (he : writesSecret e = true) :
    ∃ drawn data answer, Materialized demand drawn data ∧ l = front ++ drawn ∧
      e = told (writeCall claim existing data) answer := by
  have split : ∀ drawn data answer, Materialized demand drawn data →
      events = drawn ++ [told (writeCall claim existing data) answer] →
      l = front ++ drawn ∧ e = told (writeCall claim existing data) answer := by
    rintro drawn data answer hm rfl
    have hcut : l ++ e :: m =
        (front ++ drawn) ++ told (writeCall claim existing data) answer :: back := by
      simpa using hs
    refine append_cons_inj_of_unique hcut he ?_ hb
    intro x hx
    exact (List.mem_append.mp hx).elim (hf x) hm.writesSecret_of_mem
  cases h with
  | undrawn h =>
    have hmem : e ∈ front ++ events ++ back := by rw [← hs]; simp
    simp only [List.mem_append] at hmem
    rcases hmem with (hm | hm) | hm
    · rw [hf e hm] at he; cases he
    · rw [h.writesSecret_of_mem hm] at he; cases he
    · rw [hb e hm] at he; cases he
  | unwritten x h => exact ⟨_, _, _, h, split _ _ _ h rfl⟩
  | written value h => exact ⟨_, _, _, h, split _ _ _ h rfl⟩

theorem writesSecret_of_mem_report {status : Status} {sent : Except StoreError Unit} :
    ∀ x ∈ [told (.writeStatus claim status) sent], writesSecret x = false := by
  intro x hx
  rw [List.mem_singleton.mp hx]
  rfl

/-- A course cut at a Secret write: before it come the two reads and the draws. -/
theorem Course.write_split {ending : Except CycleError Outcome}
    {l m : List (Event controllerInterface)} {e : Event controllerInterface}
    (h : Course key (l ++ e :: m) ending) (he : writesSecret e = true) :
    ∃ claim existing demand drawn data answer, Due claim existing demand ∧
      Materialized demand drawn data ∧ l = reads key claim existing ++ drawn ∧
        e = told (writeCall claim existing data) answer := by
  have hmem : e ∈ l ++ e :: m := by simp
  generalize hs : l ++ e :: m = events at h hmem
  -- a course without a Secret write does not have `e` among its events
  have absent : (∀ x ∈ events, writesSecret x = false) → False := fun hall => by
    rw [hall e hmem] at he
    cases he
  cases h with
  | unread x => exact (absent (by simp [writesSecret, StoreCall.writesSecret])).elim
  | gone => exact (absent (by simp [writesSecret, StoreCall.writesSecret])).elim
  | unprobed claim x stamp sent =>
    exact (absent (by simp [writesSecret, StoreCall.writesSecret])).elim
  | foreign _ => exact (absent fun x hx => writesSecret_of_mem_reads hx).elim
  | idle _ _ => exact (absent fun x hx => writesSecret_of_mem_reads hx).elim
  | refused stamp sent _ _ =>
    refine (absent fun x hx => ?_).elim
    exact (List.mem_append.mp hx).elim writesSecret_of_mem_reads (writesSecret_of_mem_report x)
  | repaired stamp sent _ _ =>
    refine (absent fun x hx => ?_).elim
    exact (List.mem_append.mp hx).elim writesSecret_of_mem_reads (writesSecret_of_mem_report x)
  | failed stamp sent due h =>
    obtain ⟨drawn, data, answer, hm, hl, hw⟩ := h.write_split
      (fun x hx => writesSecret_of_mem_reads hx) writesSecret_of_mem_report hs he
    exact ⟨_, _, _, drawn, data, answer, due, hm, hl, hw⟩
  | written stamp sent due h =>
    obtain ⟨drawn, data, answer, hm, hl, hw⟩ := h.write_split
      (fun x hx => writesSecret_of_mem_reads hx) writesSecret_of_mem_report hs he
    exact ⟨_, _, _, drawn, data, answer, due, hm, hl, hw⟩

/-- **A cycle that is about to write the Secret** has read the claim and the Secret, has made
the data that the claim demands, and writes just these. -/
theorem write_of_reaches {log : List (Event controllerInterface)} {call : StoreCall}
    {resume : call.Answer → Controller (Except CycleError Outcome)}
    (h : Reaches (cycle key) log (.ask (.store call) resume)) (hw : call.writesSecret = true) :
    ∃ claim existing demand drawn data, Due claim existing demand ∧
      Materialized demand drawn data ∧ outward log = reads key claim existing ++ drawn ∧
        call = writeCall claim existing data := by
  obtain ⟨answer⟩ : Nonempty (controllerInterface.Answer (.store call)) := inferInstance
  obtain ⟨rest, ending, hy⟩ := h.exists_yields answer
  have hc : Course key (outward log ++ told call answer :: outward rest) ending :=
    cycle_course ⟨_, hy, by rw [outward_append]; rfl⟩
  obtain ⟨claim, existing, demand, drawn, data, _, due, hm, hl, he⟩ := hc.write_split hw
  refine ⟨claim, existing, demand, drawn, data, due, hm, hl, ?_⟩
  injection he with hr _
  injection hr

end Moment

end SecretKeeper.Controller
