/-
# A cycle keeps its metrics balanced

A metric moves after the thing that it counts, in a request of its own.  So there is a moment at
which something has happened and is not counted yet; what has to be seen is that a cycle can never
be cut off at such a moment.

What a cycle owes to its metrics is read off its store calls and draws alone (`owed`): a write that
succeeds and a report that fails are counted one by one, and from what was found and drawn it
follows whether the spec was rejected and whether all values of a policy were made.  `cycle_along`
says that this is how far the metrics have moved whenever the cycle waits for the stores, and at
its end, where one skip comes on top if a foreign Secret was found.

The proof goes through the parts of a cycle as they are written, each by the rules of `Along`.
-/
import Mathlib.Data.Finset.Card
import SecretKeeper.Proofs.Generation
import SecretKeeper.Proofs.Secrecy
import SecretKeeper.Proofs.Tallying

namespace SecretKeeper.Controller

open Program

variable {claim : Claim} {existing : Option Secret} {demand : Demand} {key : Key} {m : Metric}
  {p : Policy} {heard log : List (Event controllerInterface)}

/-! ## 1. What a cycle owes to its metrics -/

/-- The answers that are counted one by one: a Secret was created, one was replaced, a status was
not written. -/
def charges : Metric → Event controllerInterface → Bool
  | .counter .secretsCreated, ⟨.store (.createSecret _), .ok _⟩ => true
  | .counter .secretsUpdated, ⟨.store (.replaceSecret _), .ok _⟩ => true
  | .counter .statusWriteFailures, ⟨.store (.writeStatus _ _), .error _⟩ => true
  | _, _ => false

/-- A value was drawn. -/
def gaveValue : Event controllerInterface → Bool
  | ⟨.draw _ _, .ok _⟩ => true
  | _ => false

/-- The claim that was read. -/
def claimRead? : Event controllerInterface → Option Claim
  | ⟨.store (.readClaim _), .ok found⟩ => found
  | _ => none

/-- What was found in place of the Secret. -/
def secretRead? : Event controllerInterface → Option (Option Secret)
  | ⟨.store (.readSecret _), .ok existing⟩ => some existing
  | _ => none

/-- The claim and the Secret that a cycle has read, if it has come so far. -/
def found? : List (Event controllerInterface) → Option (Claim × Option Secret)
  | first :: second :: _ => do
    let claim ← claimRead? first
    let existing ← secretRead? second
    some (claim, existing)
  | _ => none

/-- The cycle has found a claim whose spec it rejects. -/
def rejects (heard : List (Event controllerInterface)) : Bool :=
  (found? heard).any fun (claim, existing) =>
    !isForeign claim existing && !claim.spec.validate.isOk

/-- The policy under which a cycle that has found these has to draw values. -/
def policy? (claim : Claim) (existing : Option Secret) : Option Policy :=
  match claim.spec.validate with
  | .ok (.generated p) =>
    if !isForeign claim existing && existing.all (fun old =>
        Drift.detect (.generated p) old.data claim.lastReconcileTrigger) then some p
    else none
  | _ => none

theorem policy?_eq_some_iff :
    policy? claim existing = some p ↔ Due claim existing (.generated p) := by
  constructor
  · intro h
    unfold policy? at h
    split at h
    next q hq =>
      split at h
      next hc =>
        obtain rfl := Option.some.inj h
        simp only [Bool.and_eq_true, Bool.not_eq_true', Option.all_eq_true] at hc
        exact ⟨hc.1, hq, hc.2⟩
      next => cases h
    next => cases h
  · rintro ⟨own, valid, drifted⟩
    simpa [policy?, valid, own, Option.all_eq_true] using drifted

/-- The values that a cycle has made: one for each key of its policy, once they are all drawn. -/
def valuesMade (heard : List (Event controllerInterface)) : Nat :=
  match (found? heard).bind fun (claim, existing) => policy? claim existing with
  | none => 0
  | some p =>
    if p.dataKeys.length ≤ heard.countP gaveValue then p.dataKeys.toFinset.card else 0

/-- What follows for the metrics from what the cycle has found and drawn. -/
def concluded (heard : List (Event controllerInterface)) : Metric → Nat
  | .counter .validationFailures => if rejects heard then 1 else 0
  | .counter .valuesGenerated => valuesMade heard
  | _ => 0

/-- How far a metric is to have moved once a cycle has had these store calls and draws. -/
def owed (heard : List (Event controllerInterface)) (m : Metric) : Nat :=
  heard.countP (charges m) + concluded heard m

section Owed

/-- What was found is known after two events. -/
theorem found?_append (h : 2 ≤ heard.length) (rest : List (Event controllerInterface)) :
    found? (heard ++ rest) = found? heard := by
  match heard with
  | [] => simp at h
  | [_] => simp at h
  | _ :: _ :: _ => rfl

/-- Nothing follows before anything is found. -/
theorem concluded_of_unfound (h : found? heard = none) : concluded heard m = 0 := by
  unfold concluded
  split
  · simp [rejects, h]
  · simp [valuesMade, h]
  · rfl

/-- A store call leaves the conclusions as they are. -/
theorem concluded_told (h : 2 ≤ heard.length) (call : StoreCall) (answer : call.Answer) :
    concluded (heard ++ [told call answer]) m = concluded heard m := by
  have hrejects : rejects (heard ++ [told call answer]) = rejects heard := by
    rw [rejects, rejects, found?_append h]
  have hdrawn : (heard ++ [told call answer]).countP gaveValue = heard.countP gaveValue := by
    rw [List.countP_append]
    rfl
  have hvalues : valuesMade (heard ++ [told call answer]) = valuesMade heard := by
    rw [valuesMade, valuesMade, found?_append h, hdrawn]
  simp only [concluded, hrejects, hvalues]

theorem rejects_reads : rejects (reads key claim existing) =
    (!isForeign claim existing && !claim.spec.validate.isOk) := rfl

theorem rejects_append (rest : List (Event controllerInterface)) :
    rejects (reads key claim existing ++ rest) = rejects (reads key claim existing) := rfl

theorem rejects_of_valid (valid : claim.spec.validate = .ok demand) :
    rejects (reads key claim existing) = false := by
  simp [rejects_reads, valid, Except.isOk, Except.toBool]

theorem rejects_of_invalid {e : ValidationError} (own : isForeign claim existing = false)
    (invalid : claim.spec.validate = .error e) : rejects (reads key claim existing) = true := by
  simp [rejects_reads, own, invalid, Except.isOk, Except.toBool]

/-- A cycle that comes to its end has rejected the spec just if that is its error. -/
theorem Course.rejects_iff {ending : Except CycleError Outcome} (h : Course key heard ending) :
    rejects heard = true ↔ ∃ e, ending = .error (.validation e) := by
  cases h with
  | unread e => simp [rejects, found?]
  | gone => simp [rejects, found?]
  | unprobed claim e stamp sent => simp [rejects, found?, secretRead?]
  | foreign h => simp [rejects_reads, isForeign, h]
  | refused stamp sent own h => simp [rejects_append, rejects_of_invalid own h]
  | failed stamp sent due h =>
    rw [List.append_assoc, rejects_append, rejects_of_valid due.valid]
    cases h <;> simp
  | written stamp sent due h =>
    rw [List.append_assoc, rejects_append, rejects_of_valid due.valid]
    simp
  | repaired stamp sent met h => simp [rejects_append, rejects_of_valid met.valid]
  | idle met h => simp [rejects_of_valid met.valid]

theorem owed_of_unfound (h : found? heard = none) : owed heard m = heard.countP (charges m) := by
  rw [owed, concluded_of_unfound h, Nat.add_zero]

/-- What a store call adds is what is charged to it. -/
theorem owed_told (h : 2 ≤ heard.length) (call : StoreCall) (answer : call.Answer) :
    owed (heard ++ [told call answer]) m =
      owed heard m + if charges m (told call answer) then 1 else 0 := by
  rw [owed, owed, concluded_told h, List.countP_append, List.countP_singleton]
  omega

theorem charges_reads {e : Event controllerInterface} (he : e ∈ reads key claim existing) :
    charges m e = false := by
  simp only [reads, List.mem_cons, List.not_mem_nil, or_false] at he
  rcases he with rfl | rfl <;> simp [charges]

/-- The two reads alone: nothing was drawn, but the spec may be rejected. -/
theorem owed_reads : owed (reads key claim existing) m =
      if m = .counter .validationFailures ∧ rejects (reads key claim existing) = true then 1
      else 0 := by
  have hcharged : (reads key claim existing).countP (charges m) = 0 :=
    List.countP_eq_zero.mpr fun e he => by simp [charges_reads he]
  have hvalues : valuesMade (reads key claim existing) = 0 := by
    unfold valuesMade
    split
    next => rfl
    next p _ =>
      split
      next hl =>
        have hnone : p.dataKeys = [] := List.length_eq_zero_iff.mp (Nat.le_zero.mp hl)
        rw [hnone]
        rfl
      next => rfl
  rw [owed, hcharged, Nat.zero_add]
  unfold concluded
  split
  · simp
  · simpa using hvalues
  · next hm _ => rw [if_neg fun h => hm h.1]

/-- The two reads and what was drawn after them, for a write that is due. -/
theorem owed_drawn (due : Due claim existing (.generated p))
    {drawn : List (Event controllerInterface)} (hd : ∀ e ∈ drawn, ∃ value, e = drew p value) :
    owed (reads key claim existing ++ drawn) m =
      if m = .counter .valuesGenerated ∧ p.dataKeys.length ≤ drawn.countP gaveValue then
        p.dataKeys.toFinset.card
      else 0 := by
  have hcharged : (reads key claim existing ++ drawn).countP (charges m) = 0 := by
    refine List.countP_eq_zero.mpr fun e he => ?_
    rcases List.mem_append.mp he with he | he
    · simp [charges_reads he]
    · obtain ⟨value, rfl⟩ := hd e he
      simp [charges]
  have hfound : found? (reads key claim existing ++ drawn) = some (claim, existing) := rfl
  have hgave : (reads key claim existing ++ drawn).countP gaveValue = drawn.countP gaveValue := by
    simp [reads, gaveValue]
  rw [owed, hcharged, Nat.zero_add]
  unfold concluded
  split
  · simp [rejects_append, rejects_of_valid due.valid]
  · simp [valuesMade, hfound, policy?_eq_some_iff.mpr due, hgave]
  · next hm => rw [if_neg fun h => hm h.1]

/-- The draws that meet a demand are draws of its policy. -/
theorem Materialized.drew {data : Dict Bytes} (h : Materialized (.generated p) heard data) :
    ∀ e ∈ heard, ∃ value, e = drew p value := by
  intro e he
  cases h with
  | generated p values hl =>
    obtain ⟨value, -, rfl⟩ := List.mem_map.mp he
    exact ⟨_, rfl⟩

theorem Unmaterialized.drew {x : EntropyFailure} (h : Unmaterialized (.generated p) heard x) :
    ∀ e ∈ heard, ∃ value, e = drew p value := by
  intro e he
  cases h with
  | generated p values x hl =>
    rcases List.mem_append.mp he with he | he
    · obtain ⟨value, -, rfl⟩ := List.mem_map.mp he
      exact ⟨_, rfl⟩
    · exact ⟨_, List.mem_singleton.mp he⟩

theorem countP_gaveValue_draws (p : Policy) (values : List String) :
    (draws p values).countP gaveValue = values.length := by
  simp [draws, List.countP_map, Function.comp_def, gaveValue]

/-- The data have one entry for each of the keys. -/
theorem size_fill {keys values : List String} (h : values.length = keys.length) :
    (fill keys values ∅).size = keys.toFinset.card := by
  rw [← Std.ExtTreeMap.length_keys, ← List.toFinset_card_of_nodup Std.ExtTreeMap.nodup_keys]
  congr 1
  ext key
  rw [List.mem_toFinset, List.mem_toFinset, Std.ExtTreeMap.mem_keys, mem_fill h]
  exact or_iff_left Std.ExtTreeMap.not_mem_empty

/-- Data that were made are owed to the values, one for each key. -/
theorem owed_materialized (due : Due claim existing (.generated p))
    {drawn : List (Event controllerInterface)} {data : Dict Bytes}
    (h : Materialized (.generated p) drawn data) :
    owed (reads key claim existing ++ drawn) m =
      if m = .counter .valuesGenerated then data.size else 0 := by
  rw [owed_drawn due h.drew]
  cases h with
  | generated p values hl => simp [countP_gaveValue_draws, hl, size_fill hl]

/-- Where one value is missing, nothing is owed to the others. -/
theorem owed_unmaterialized (due : Due claim existing (.generated p))
    {drawn : List (Event controllerInterface)} {x : EntropyFailure}
    (h : Unmaterialized (.generated p) drawn x) :
    owed (reads key claim existing ++ drawn) m = 0 := by
  rw [owed_drawn due h.drew]
  cases h with
  | generated p values x hl =>
    have hcount : (draws p values ++ [Controller.drew p (.error x)]).countP gaveValue =
        values.length := by
      rw [List.countP_append, countP_gaveValue_draws]
      rfl
    rw [if_neg]
    rintro ⟨-, h⟩
    omega

end Owed

/-! ## 2. On the way -/

/-- The metrics have moved as far as they are to. -/
def Balanced (log : List (Event controllerInterface)) : Prop :=
  ∀ m, moved m log = owed (outward log) m

/-- Whenever the controller waits for the stores, its metrics are balanced. -/
def BalancedAtCalls (log : List (Event controllerInterface)) (r : Effect) : Prop :=
  ∀ call, r = .store call → Balanced log

/-- The cycle has made its two reads, and its metrics are balanced. -/
structure Underway (log : List (Event controllerInterface)) : Prop where
  read : 2 ≤ (outward log).length
  balanced : Balanced log

/-- The cycle has found these with its two reads, and has done nothing since. -/
structure Probed (key : Key) (claim : Claim) (existing : Option Secret)
    (log : List (Event controllerInterface)) : Prop where
  heard : outward log = reads key claim existing
  still : ∀ m, moved m log = 0

/-- The counter was moved. -/
abbrev counted (c : Counter) (n : Nat) : Event controllerInterface := ⟨.count c n, ()⟩

section Underway

/-- Before anything is found, nothing is owed. -/
theorem balanced_of_unfound (still : ∀ m, moved m log = 0) (hlog : outward log = heard)
    (unfound : found? heard = none) (uncharged : ∀ m, ∀ e ∈ heard, charges m e = false) :
    Balanced log := by
  intro m
  rw [still, hlog, owed_of_unfound unfound, eq_comm, List.countP_eq_zero]
  intro e he
  rw [uncharged m e he]
  exact Bool.false_ne_true

theorem Underway.read_append (h : Underway log) (rest : List (Event controllerInterface)) :
    2 ≤ (outward (log ++ rest)).length := by
  have hread := h.read
  rw [outward_append, List.length_append]
  omega

/-- What neither moves a metric nor leaves the controller changes nothing. -/
theorem Underway.silent (h : Underway log) {e : Event controllerInterface}
    (inward : isOutward e = false) (still : ∀ m, e.request.moves m = 0) :
    Underway (log ++ [e]) := by
  refine ⟨h.read_append _, fun m => ?_⟩
  have hout : outward (log ++ [e]) = outward log := by simp [outward, List.filter_append, inward]
  rw [hout, moved_append, moved_cons, still, moved_nil]
  exact h.balanced m

/-- An answer that no metric counts. -/
theorem Underway.free (h : Underway log) {call : StoreCall} {answer : call.Answer}
    (uncharged : ∀ m, charges m (told call answer) = false) :
    Underway (log ++ [told call answer]) := by
  refine ⟨h.read_append _, fun m => ?_⟩
  have hout : outward (log ++ [told call answer]) = outward log ++ [told call answer] :=
    outward_append _ _
  rw [hout, owed_told h.read, uncharged, moved_append, h.balanced m]
  rfl

/-- An answer that a metric counts, and the metric moves. -/
theorem Underway.charged (h : Underway log) {call : StoreCall} {answer : call.Answer} {c : Counter}
    (charged : ∀ m, charges m (told call answer) = decide (m = .counter c)) :
    Underway (log ++ [told call answer] ++ [counted c 1]) := by
  constructor
  · rw [List.append_assoc]
    exact h.read_append _
  · intro m
    have hout : outward (log ++ [told call answer] ++ [counted c 1]) =
        outward log ++ [told call answer] := by
      rw [outward_append, outward_append]
      exact List.append_nil _
    rw [hout, owed_told h.read, charged]
    simp [h.balanced m, Effect.moves, eq_comm]

/-- A spec that is not rejected leaves nothing to count at first. -/
theorem Probed.underway (h : Probed key claim existing log)
    (valid : claim.spec.validate = .ok demand) : Underway log := by
  constructor
  · rw [h.heard]
    exact Nat.le_refl 2
  · intro m
    rw [h.still, h.heard, owed_reads, rejects_of_valid valid]
    simp

variable {drawn : List (Event controllerInterface)}

theorem outward_drawn (h : ∀ e ∈ drawn, ∃ value, e = drew p value) : outward drawn = drawn := by
  refine List.filter_eq_self.mpr fun e he => ?_
  obtain ⟨value, rfl⟩ := h e he
  rfl

theorem moved_drawn (h : ∀ e ∈ drawn, ∃ value, e = drew p value) : moved m drawn = 0 := by
  induction drawn with
  | nil => rfl
  | cons e drawn ih =>
    obtain ⟨⟨value, rfl⟩, hrest⟩ := List.forall_mem_cons.mp h
    rw [moved_cons, ih hrest]
    rfl

/-- All values were drawn, and they are counted. -/
theorem Probed.materialized (h : Probed key claim existing log)
    (due : Due claim existing (.generated p)) {data : Dict Bytes}
    (made : Materialized (.generated p) drawn data) :
    Underway (log ++ drawn ++ [counted .valuesGenerated data.size]) := by
  have underway := h.underway due.valid
  constructor
  · rw [List.append_assoc]
    exact underway.read_append _
  · intro m
    have hout : outward (log ++ drawn ++ [counted .valuesGenerated data.size]) =
        reads key claim existing ++ drawn := by
      rw [outward_append, outward_append, h.heard, outward_drawn made.drew]
      exact List.append_nil _
    rw [hout, owed_materialized due made]
    simp [h.still, moved_drawn made.drew, Effect.moves, eq_comm]

/-- A value is missing: the others are not counted. -/
theorem Probed.unmaterialized (h : Probed key claim existing log)
    (due : Due claim existing (.generated p)) {x : EntropyFailure}
    (unmade : Unmaterialized (.generated p) drawn x) : Underway (log ++ drawn) := by
  have underway := h.underway due.valid
  refine ⟨underway.read_append _, fun m => ?_⟩
  rw [outward_append, h.heard, outward_drawn unmade.drew, owed_unmaterialized due unmade,
    moved_append, h.still, moved_drawn unmade.drew]

end Underway

section Along

theorem along_call_iff {c : StoreCall} {post : List (Event controllerInterface) → c.Answer → Prop} :
    (call c).Along BalancedAtCalls post log ↔
      Balanced log ∧ ∀ answer, post (log ++ [told c answer]) answer := by
  constructor
  · rintro ⟨balanced, h⟩
    exact ⟨balanced c rfl, h⟩
  · rintro ⟨balanced, h⟩
    exact ⟨fun _ _ => balanced, h⟩

/-- Nothing is asked of other requests. -/
theorem along_inward_iff {r : Effect} {post : List (Event controllerInterface) → r.Answer → Prop}
    (inward : ∀ call, r ≠ .store call) :
    (request (I := controllerInterface) r).Along BalancedAtCalls post log ↔
      ∀ answer, post (log ++ [⟨r, answer⟩]) answer := by
  constructor
  · rintro ⟨-, h⟩
    exact h
  · intro h
    exact ⟨fun call hr => absurd hr (inward call), h⟩

theorem along_now_iff {post : List (Event controllerInterface) → String → Prop} :
    now.Along BalancedAtCalls post log ↔ ∀ stamp, post (log ++ [⟨.now, stamp⟩]) stamp := by
  refine along_inward_iff ?_
  rintro call ⟨⟩

theorem along_draw_iff
    {post : List (Event controllerInterface) → Except EntropyFailure String → Prop} :
    (draw p.encoding p.length).Along BalancedAtCalls post log ↔
      ∀ value, post (log ++ [drew p value]) value := by
  refine along_inward_iff ?_
  rintro call ⟨⟩

variable {post : List (Event controllerInterface) → Unit → Prop}

theorem along_note_iff {field value : String} :
    (note field value).Along BalancedAtCalls post log ↔
      post (log ++ [⟨.note field value, ()⟩]) () := by
  refine (along_inward_iff ?_).trans ⟨fun h => h (), fun h _ => h⟩
  rintro call ⟨⟩

theorem along_count_iff {c : Counter} {n : Nat} :
    (count c n).Along BalancedAtCalls post log ↔ post (log ++ [counted c n]) () := by
  refine (along_inward_iff ?_).trans ⟨fun h => h (), fun h _ => h⟩
  rintro call ⟨⟩

end Along

/-! ## 3. Reports -/

section Reports

variable {post : List (Event controllerInterface) → Except CycleError Outcome → Prop}

/-- A report that is lost is charged to its counter alone. -/
theorem charges_lost {status : Status} {e : StoreError} :
    charges m (told (.writeStatus claim status) (.error e)) =
      decide (m = .counter .statusWriteFailures) := by
  cases m with
  | observations => rfl
  | counter c => cases c <;> rfl

theorem writeStatus_along {status : Status} {post : List (Event controllerInterface) → Bool → Prop}
    (h : Underway log) (hpost : ∀ log written, Underway log → post log written) :
    (writeStatus claim status).Along BalancedAtCalls post log := by
  rw [writeStatus, along_bind_iff, along_call_iff]
  refine ⟨h.balanced, fun sent => ?_⟩
  cases sent with
  | ok _ => exact hpost _ _ (h.free fun m => by simp [charges])
  | error e =>
    rw [along_bind_iff, along_count_iff]
    exact hpost _ _ (h.charged fun m => charges_lost)

theorem fail_along {e : CycleError} (h : Underway log)
    (hpost : ∀ log, Underway log → post log (.error e)) :
    (fail claim e).Along BalancedAtCalls post log := by
  rw [fail, reportFailure, along_bind_iff, along_bind_iff, along_now_iff]
  intro stamp
  exact writeStatus_along (h.silent rfl fun m => rfl) fun log _ h => hpost log h

theorem succeed_along {outcome : Outcome} (h : Underway log)
    (hpost : ∀ log, Underway log → post log (.ok outcome)) :
    (succeed claim demand outcome).Along BalancedAtCalls post log := by
  rw [succeed, reportSync, along_bind_iff, along_bind_iff, along_now_iff]
  intro stamp
  exact writeStatus_along (h.silent rfl fun m => rfl) fun log _ h => hpost log h

end Reports

/-! ## 4. Writes -/

section Writes

/-- Values are drawn for the keys in order, up to the first failure. -/
theorem drawAll_along {keys : List String} {data : Dict Bytes}
    {post : List (Event controllerInterface) → Except EntropyFailure (Dict Bytes) → Prop}
    (all : ∀ values, values.length = keys.length →
      post (log ++ draws p values) (.ok (fill keys values data)))
    (some : ∀ values e, values.length < keys.length →
      post (log ++ (draws p values ++ [drew p (.error e)])) (.error e)) :
    (drawAll p keys data).Along BalancedAtCalls post log := by
  induction keys generalizing log data with
  | nil =>
    have h := all [] rfl
    rwa [draws, List.map_nil, List.append_nil] at h
  | cons key keys ih =>
    rw [drawAll, along_bind_iff, along_draw_iff]
    intro value
    cases value with
    | error e => exact some [] e (Nat.zero_lt_succ _)
    | ok value =>
      refine ih (fun values hl => ?_) fun values e hl => ?_
      · simpa [draws, fill] using all (value :: values) (congrArg (· + 1) hl)
      · simpa [draws] using some (value :: values) e (Nat.succ_lt_succ hl)

/-- The data are made, or not; either way the metrics are balanced. -/
theorem materialize_along
    {post : List (Event controllerInterface) → Except CycleError (Dict Bytes) → Prop}
    (h : Probed key claim existing log) (due : Due claim existing demand)
    (hpost : ∀ log made, Underway log → post log made) :
    (materialize demand).Along BalancedAtCalls post log := by
  cases demand with
  | verbatim data => exact hpost _ _ (h.underway due.valid)
  | generated p =>
    rw [materialize, along_bind_iff]
    refine drawAll_along (fun values hl => ?_) fun values e hl => ?_
    · rw [along_bind_iff, along_count_iff]
      exact hpost _ _ (h.materialized due (.generated p values hl))
    · exact hpost _ _ (h.unmaterialized due (.generated p values e hl))

/-- A write that succeeds is charged to its counter alone. -/
theorem charges_created {secret : Secret} {value : (StoreCall.createSecret secret).Value} :
    charges m (told (.createSecret secret) (.ok value)) =
      decide (m = .counter .secretsCreated) := by
  cases m with
  | observations => rfl
  | counter c => cases c <;> rfl

theorem charges_replaced {secret : Secret} {value : (StoreCall.replaceSecret secret).Value} :
    charges m (told (.replaceSecret secret) (.ok value)) =
      decide (m = .counter .secretsUpdated) := by
  cases m with
  | observations => rfl
  | counter c => cases c <;> rfl

theorem charges_unwritten {call : StoreCall} {e : StoreError} (h : call.writesSecret = true) :
    charges m (told call (.error e)) = false := by
  cases call with
  | writeStatus claim status => cases h
  | _ => simp [charges]

variable {post : List (Event controllerInterface) → Except CycleError Unit → Prop}

/-- A Secret is written with one call, and counted if that succeeds. -/
theorem store_along {c : StoreCall} {counter : Counter}
    {next : c.Answer → Controller (Except CycleError Unit)} (h : Underway log)
    (hw : c.writesSecret = true)
    (charged : ∀ m value, charges m (told c (.ok value)) = decide (m = .counter counter))
    (failed : ∀ e, next (.error e) = pure (.error (.store e)))
    (stored : ∀ value, next (.ok value) = (do count counter 1; pure (.ok ())))
    (hpost : ∀ log result, Underway log → post log result) :
    (call c >>= next).Along BalancedAtCalls post log := by
  rw [along_bind_iff, along_call_iff]
  refine ⟨h.balanced, fun answer => ?_⟩
  cases answer with
  | error e =>
    rw [failed]
    exact hpost _ _ (h.free fun m => charges_unwritten hw)
  | ok value =>
    rw [stored, along_bind_iff, along_count_iff]
    exact hpost _ _ (h.charged fun m => charged m value)

/-- A Secret is written, or not; either way the metrics are balanced. -/
theorem write_along (h : Probed key claim existing log) (due : Due claim existing demand)
    (hpost : ∀ log result, Underway log → post log result) :
    (write claim demand existing).Along BalancedAtCalls post log := by
  cases existing with
  | none =>
    rw [write, createSecret, along_bind_iff]
    refine materialize_along h due fun log made underway => ?_
    cases made with
    | error e => exact hpost _ _ underway
    | ok data =>
      exact store_along underway rfl (fun _ _ => charges_created) (fun _ => rfl) (fun _ => rfl)
        hpost
  | some old =>
    rw [write, updateSecret, along_bind_iff]
    refine materialize_along h due fun log made underway => ?_
    cases made with
    | error e => exact hpost _ _ underway
    | ok data =>
      exact store_along underway rfl (fun _ _ => charges_replaced) (fun _ => rfl) (fun _ => rfl)
        hpost

end Writes

/-! ## 5. The cycle -/

section Cycle

/-- At the end of a cycle the metrics have moved as far as they are to, and one skip is counted if
that is how the cycle ended. -/
def Reckoned (log : List (Event controllerInterface)) (ending : Except CycleError Outcome) : Prop :=
  ∀ m, moved m log = owed (outward log) m +
    if ending = .ok .skippedForeign ∧ m = .counter .ownershipSkips then 1 else 0

theorem Balanced.reckoned (h : Balanced log) {ending : Except CycleError Outcome}
    (hne : ending ≠ .ok .skippedForeign) : Reckoned log ending := by
  intro m
  rw [if_neg fun hm => hne hm.1]
  exact h m

/-- A write that is due is made, and what came of it is reported. -/
theorem due_along (h : Probed key claim existing log) (due : Due claim existing demand) :
    (write claim demand existing >>= fun
      | .error e => fail claim e
      | .ok _ => succeed claim demand (writeOutcome existing)).Along
      BalancedAtCalls Reckoned log := by
  rw [along_bind_iff]
  refine write_along h due fun log result underway => ?_
  cases result with
  | error e => exact fail_along underway fun _ h => h.balanced.reckoned (by simp)
  | ok _ =>
    refine succeed_along underway fun _ h => h.balanced.reckoned ?_
    cases existing <;> simp [writeOutcome]

theorem converge_along (h : Probed key claim existing log) (own : isForeign claim existing = false)
    (valid : claim.spec.validate = .ok demand) :
    (converge claim existing demand).Along BalancedAtCalls Reckoned log := by
  have underway := h.underway valid
  cases existing with
  | none => exact due_along h ⟨own, valid, by simp⟩
  | some secret =>
    rw [converge]
    split
    next hdrift => exact due_along h ⟨own, valid, by simpa using hdrift⟩
    next =>
      split
      next => exact underway.balanced.reckoned (by simp)
      next => exact succeed_along underway fun _ h => h.balanced.reckoned (by simp)

/-- A spec that is rejected is counted. -/
theorem Probed.rejected (h : Probed key claim existing log) (own : isForeign claim existing = false)
    {e : ValidationError} (he : claim.spec.validate = .error e) :
    Underway (log ++ [counted .validationFailures 1]) := by
  have hout : outward (log ++ [counted .validationFailures 1]) = reads key claim existing := by
    rw [outward_append, h.heard]
    exact List.append_nil _
  constructor
  · rw [hout]
    exact Nat.le_refl 2
  · intro m
    rw [hout, owed_reads, rejects_of_invalid own he]
    simp [h.still, Effect.moves, eq_comm]

/-- A foreign Secret is skipped, and the skip is counted. -/
theorem Probed.skipped (h : Probed key claim existing log)
    (foreign : isForeign claim existing = true) :
    Reckoned (log ++ [counted .ownershipSkips 1]) (.ok .skippedForeign) := by
  intro m
  have hout : outward (log ++ [counted .ownershipSkips 1]) = reads key claim existing := by
    rw [outward_append, h.heard]
    exact List.append_nil _
  have hrejects : rejects (reads key claim existing) = false := by simp [rejects_reads, foreign]
  rw [hout, owed_reads, hrejects]
  simp [h.still, Effect.moves, eq_comm]

theorem settle_along (h : Probed key claim existing log) :
    (settle claim existing).Along BalancedAtCalls Reckoned log := by
  unfold settle
  split
  next hforeign =>
    rw [along_bind_iff, along_count_iff]
    exact h.skipped hforeign
  next hown =>
    have own : isForeign claim existing = false := by simpa using hown
    split
    next e he =>
      rw [along_bind_iff, along_count_iff]
      exact fail_along (h.rejected own he) fun _ h => h.balanced.reckoned (by simp)
    next demand hv => exact converge_along h own hv

/-- What is noted about a claim neither moves a metric nor leaves the controller. -/
theorem noteClaim_along {post : List (Event controllerInterface) → Unit → Prop}
    (hpost : ∀ notes, outward notes = [] → (∀ m, moved m notes = 0) → post (log ++ notes) ()) :
    (noteClaim claim).Along BalancedAtCalls post log := by
  rw [noteClaim, along_bind_iff, along_note_iff]
  split
  next => exact hpost _ rfl fun m => rfl
  next =>
    rw [along_bind_iff, along_note_iff, List.append_assoc]
    split
    next => exact hpost _ rfl fun m => rfl
    next =>
      rw [along_note_iff, List.append_assoc]
      exact hpost _ rfl fun m => rfl

/-- The cycle once the claim has been read. -/
theorem probe_along {next : (StoreCall.readSecret key).Answer →
      Controller (Except CycleError Outcome)}
    (hlog : outward log = [told (.readClaim key) (.ok (some claim))])
    (still : ∀ m, moved m log = 0) (failed : ∀ e, next (.error e) = fail claim (.store e))
    (found : ∀ existing, next (.ok existing) = settle claim existing) :
    (call (.readSecret key) >>= next).Along BalancedAtCalls Reckoned log := by
  rw [along_bind_iff, along_call_iff]
  refine ⟨balanced_of_unfound still hlog rfl (by simp [charges]), fun answer => ?_⟩
  have still' : ∀ m, moved m (log ++ [told (.readSecret key) answer]) = 0 := by
    intro m
    rw [moved_append, still]
    rfl
  have hlog' : outward (log ++ [told (.readSecret key) answer]) =
      [told (.readClaim key) (.ok (some claim)), told (.readSecret key) answer] := by
    rw [outward_append, hlog]
    rfl
  cases answer with
  | error e =>
    have balanced := balanced_of_unfound still' hlog' rfl (by simp [charges])
    rw [failed]
    exact fail_along ⟨by simp [hlog'], balanced⟩ fun _ h => h.balanced.reckoned (by simp)
  | ok existing =>
    rw [found]
    exact settle_along ⟨hlog', still'⟩

/-- **A cycle keeps its metrics balanced**: they have moved as far as they are to whenever it
waits for the stores, and at its end. -/
theorem cycle_along : (cycle key).Along BalancedAtCalls Reckoned [] := by
  have nothing : Balanced [] := by
    have hlog : outward [] = [] := rfl
    exact balanced_of_unfound (fun m => rfl) hlog rfl (by simp)
  have unread : ∀ answer, Balanced [told (.readClaim key) answer] := by
    intro answer
    have hlog : outward [told (.readClaim key) answer] = [told (.readClaim key) answer] := rfl
    exact balanced_of_unfound (fun m => rfl) hlog rfl (by simp [charges])
  rw [cycle, along_bind_iff, along_call_iff]
  refine ⟨nothing, fun answer => ?_⟩
  rcases answer with e | _ | claim
  · exact (unread _).reckoned (by simp)
  · exact (unread _).reckoned (by simp)
  · rw [along_bind_iff]
    refine noteClaim_along fun notes hnotes hmoved => ?_
    refine probe_along ?_ (fun m => ?_) (fun _ => rfl) fun _ => rfl
    · rw [outward_append, hnotes]
      rfl
    · rw [moved_append, hmoved]
      rfl

end Cycle

end SecretKeeper.Controller
