/-
# The trace of a claim influences nothing

Two runs of deliveries, at the same times, with claims that differ in the context of a trace that
they carry: in one run its annotation has one value, in the other another or none.  All else is
the same: the random source, which may fail, the clock, and the stores, which may hold any claims
and Secrets, and may fail and be slow.

The stores give the annotation back where it was stored; but which way they answer does not
depend on it.  `Indifferent` says so by a relation between the states of the stores in the two
runs.  The spans are kept by a recorder of any kind, since they do differ: a context is shown in
one run, and another or none in the other.

A delivery of either claim then comes to the same, since a cycle resembles itself
(`resembles_cycle`) and servers in parallel stay so.
-/
import SecretKeeper.Proofs.Secrecy
import SecretKeeper.Proofs.Untraced

namespace SecretKeeper

/-- What is compared of a signal: the objects are without the context of a trace, and where the
context is shown there is nothing to compare. -/
def Signal.untraced? : Signal controllerInterface → Option (Signal controllerInterface)
  | .asked r => if Effect.showsNoTrace r then some (.asked (Effect.untraced r)) else none
  | .told e => if Effect.showsNoTrace e.request then some (.told e.untraced) else none

/-- The status that a signal asks to write. -/
def Signal.status? : Signal controllerInterface → Option Status
  | .asked (.store (.writeStatus _ status)) => some status
  | _ => none

/-- The data, the type and the owners of the Secret that a signal asks to write. -/
def Signal.contents? : Signal controllerInterface →
    Option (Option (Dict Bytes) × Option String × Option (List OwnerReference))
  | .asked (.store (.createSecret s)) => some (s.data, s.type, s.metadata.ownerReferences)
  | .asked (.store (.replaceSecret s)) => some (s.data, s.type, s.metadata.ownerReferences)
  | _ => none

/-- The counter that a signal asks to move, and by how much. -/
def Signal.counted? : Signal controllerInterface → Option (Counter × Nat)
  | .asked (.count counter n) => some (counter, n)
  | _ => none

/-- What is told of requests without the context of a trace, and of no notes, is the same in runs
that do not differ in anything else. -/
theorem Signal.filterMap_of_untraced {X : Type} {view : Signal controllerInterface → Option X}
    (told : ∀ e, view (.told e) = none)
    (noted : ∀ field value, view (.asked (.note field value)) = none)
    (asked : ∀ r, view (.asked (Effect.untraced r)) = view (.asked r))
    {seen seen' : List (Signal controllerInterface)}
    (same : seen.filterMap Signal.untraced? = seen'.filterMap Signal.untraced?) :
    seen.filterMap view = seen'.filterMap view := by
  have through (signal : Signal controllerInterface) :
      view signal = signal.untraced?.bind view := by
    cases signal with
    | asked r =>
      cases hr : Effect.showsNoTrace r with
      | true => simp [Signal.untraced?, hr, asked]
      | false =>
        cases r with
        | note field value => simp [Signal.untraced?, hr, noted]
        | _ => cases hr
    | told e =>
      rw [told, Signal.untraced?]
      split
      · exact (told _).symm
      · rfl
  rw [funext through, ← List.filterMap_filterMap, same, List.filterMap_filterMap]

namespace Effect

theorem showsNoTrace_untraced (r : Effect) : showsNoTrace r.untraced = showsNoTrace r := by
  cases r <;> rfl

/-- Requests that differ in the context of a trace are the same, or both are store calls. -/
theorem eq_or_calls_of_untraced {r r' : Effect} (h : r.untraced = r'.untraced) :
    r = r' ∨
      ∃ call call', r = .store call ∧ r' = .store call' ∧ call.untraced = call'.untraced := by
  cases r with
  | store call =>
    cases r' with
    | store call' => exact .inr ⟨call, call', rfl, rfl, Effect.store.inj h⟩
    | _ => cases h
  | _ =>
    cases r' with
    | store call' => cases h
    | _ => exact .inl h

end Effect

namespace Controller

open Likeness Program Simulation

/-- Signals that differ in the context of a trace look the same. -/
theorem traceless_views : traceless.Views Signal.untraced? where
  asked {r r'} h := by
    have hshows : Effect.showsNoTrace r = Effect.showsNoTrace r' := by
      rw [← Effect.showsNoTrace_untraced, show r.untraced = r'.untraced from h,
        Effect.showsNoTrace_untraced]
    simp only [Signal.untraced?, hshows, show Effect.untraced r = Effect.untraced r' from h]
  told {e e'} h := by
    have hrequest : Effect.untraced e.request = Effect.untraced e'.request :=
      congrArg Event.request h
    have hshows : Effect.showsNoTrace e.request = Effect.showsNoTrace e'.request := by
      rw [← Effect.showsNoTrace_untraced, hrequest, Effect.showsNoTrace_untraced]
    simp only [Signal.untraced?, hshows, show e.untraced = e'.untraced from h]
  aside_asked {r} h := by
    rw [Signal.untraced?, show Effect.showsNoTrace r = false from h]
    rfl
  aside_told {r} _ h := by
    rw [Signal.untraced?, show Effect.showsNoTrace r = false from h]
    rfl

/-- **Claims that differ in the context of a trace are treated alike.** -/
theorem alikeFor_untraced {claim claim' : Claim} (h : claim.untraced = claim'.untraced)
    (settings : Settings) (now : Instant) : AlikeFor traceless settings now claim claim' where
  key := Claim.key?_of_untraced h
  opening := resembles_opening
  cycle key _ := resembles_cycle key
  closing := resembles_closing
  handling e backoffs := resembles_handleError settings now h e backoffs

/-! ## 1. Runs -/

section Site

variable {S E W P : Type}

/-- Store calls go to the stores, draws to a source, spans to a recorder, and all else to the rest
of the world. -/
def recording (stores : StoreServer S)
    (draws : Encoding → Nat → E → Reply E (Except EntropyFailure String))
    (own : Server controllerInterface W) (record : Effect → P → P) :
    Server controllerInterface (Site S E (W × P))
  | .store call, site =>
    let reply := stores call site.stores
    { queued := reply.queued
      issued := { site with stores := reply.issued }
      delay := reply.delay
      answer := reply.answer
      after := { site with stores := reply.after } }
  | .draw enc length, site =>
    let reply := draws enc length site.entropy
    { queued := reply.queued
      issued := { site with entropy := reply.issued }
      delay := reply.delay
      answer := reply.answer
      after := { site with entropy := reply.after } }
  | .enter span fields, site => recorded (.enter span fields) site ()
  | .leave, site => recorded .leave site ()
  | .note field value, site => recorded (.note field value) site ()
  | r, site =>
    let reply := own r site.rest.1
    { queued := reply.queued
      issued := { site with rest := (reply.issued, site.rest.2) }
      delay := reply.delay
      answer := reply.answer
      after := { site with rest := (reply.after, site.rest.2) } }
where
  /-- A request about a span is recorded at once. -/
  recorded {A : Type} (r : Effect) (site : Site S E (W × P)) (answer : A) :
      Reply (Site S E (W × P)) A :=
    let after := { site with rest := (site.rest.1, record r site.rest.2) }
    { issued := after, delay := 0, answer := answer, after := after }

/-- The stores do not look at the context of a trace on the objects that they are given. -/
def Indifferent (stores : StoreServer S) (same : S → S → Prop) : Prop :=
  ∀ {call call' : StoreCall} {s s' : S}, same s s' → call.untraced = call'.untraced →
    traceless.InStep same (.store call) (.store call') (stores call s) (stores call' s')

/-- The stores are in step, and the rest of the world is the same but for the spans. -/
structure SameButSpans (same : S → S → Prop) (site site' : Site S E (W × P)) : Prop where
  stores : same site.stores site'.stores
  entropy : site.entropy = site'.entropy
  rest : site.rest.1 = site'.rest.1

/-- In a turn of the two runs others keep the stores in step, and the claims that are delivered
differ in the context of a trace at most. -/
structure SameTurn (same : S → S → Prop) (round round' : Round S) : Prop where
  outside : ∀ s s', same s s' → same (round.outside s) (round'.outside s')
  claim : round.claim.untraced = round'.claim.untraced
  now : round.now = round'.now

variable {stores : StoreServer S} {same : S → S → Prop}

/-- What is recorded of a span leaves the runs in step. -/
theorem SameButSpans.recorded {site site' : Site S E (W × P)} (h : SameButSpans same site site')
    (spans spans' : P) :
    SameButSpans same { site with rest := (site.rest.1, spans) }
      { site' with rest := (site'.rest.1, spans') } := ⟨h.stores, h.entropy, h.rest⟩

/-- **The world answers both runs in parallel**, if the stores do. -/
theorem Indifferent.parallel (indifferent : Indifferent stores same)
    (draws : Encoding → Nat → E → Reply E (Except EntropyFailure String))
    (own : Server controllerInterface W) (record : Effect → P → P) :
    traceless.Parallel (recording stores draws own record) (recording stores draws own record)
      (SameButSpans same) where
  reply {r r' site site'} h request := by
    obtain ⟨s, e, w, p⟩ := site
    obtain ⟨s', e', w', p'⟩ := site'
    obtain ⟨hstores, rfl, rfl⟩ := h
    rcases Effect.eq_or_calls_of_untraced request with rfl | ⟨call, call', rfl, rfl, hcall⟩
    · cases r with
      | store call =>
        have step := indifferent hstores (rfl : call.untraced = call.untraced)
        exact ⟨step.queued, step.delay, step.event, ⟨step.issued, rfl, rfl⟩, ⟨step.after, rfl, rfl⟩⟩
      | _ => exact ⟨rfl, rfl, rfl, ⟨hstores, rfl, rfl⟩, ⟨hstores, rfl, rfl⟩⟩
    · have step := indifferent hstores hcall
      exact ⟨step.queued, step.delay, step.event, ⟨step.issued, rfl, rfl⟩, ⟨step.after, rfl, rfl⟩⟩
  left {r site site'} h aside := by
    cases r with
    | note field value => exact ⟨⟨rfl, rfl⟩, h.recorded _ site'.rest.2⟩
    | _ => cases aside
  right {r site site'} h aside := by
    cases r with
    | note field value => exact ⟨⟨rfl, rfl⟩, h.recorded site.rest.2 _⟩
    | _ => cases aside

/-- Runs that are in step when they begin, and look the same, stay so to their end. -/
theorem attendAll_untraced {serve : Server controllerInterface (Site S E (W × P))}
    (m : traceless.Parallel serve serve (SameButSpans same)) (settings : Settings)
    {rounds rounds' : List (Round S)} (turns : List.Forall₂ (SameTurn same) rounds rounds')
    (backoffs : BackoffTable) {site site' : Site S E (W × P)}
    {seen seen' : List (Signal controllerInterface)}
    (h : SameView (SameButSpans same) Signal.untraced? (site, seen) (site', seen')) :
    let ran := attendAll serve settings rounds backoffs site seen
    let ran' := attendAll serve settings rounds' backoffs site' seen'
    ran.accounts = ran'.accounts ∧ ran.backoffs = ran'.backoffs ∧
      SameView (SameButSpans same) Signal.untraced? (ran.world, ran.seen)
        (ran'.world, ran'.seen) := by
  induction turns generalizing backoffs site site' seen seen' with
  | nil => exact ⟨rfl, rfl, h⟩
  | @cons round round' rounds rounds' turn _ ih =>
    have found : SameView (SameButSpans same) Signal.untraced?
        ({ site with stores := round.outside site.stores }, seen)
        ({ site' with stores := round'.outside site'.stores }, seen') :=
      ⟨⟨turn.outside _ _ h.1.stores, h.1.entropy, h.1.rest⟩, h.2⟩
    obtain ⟨haccount, htable, left⟩ := (alikeFor_untraced turn.claim settings round.now).attend
      (m.watched traceless_views) backoffs found
    obtain ⟨haccounts, hrest⟩ := ih _ left
    simp only [attendAll, ← turn.now, haccount, htable] at haccounts hrest ⊢
    exact ⟨by rw [haccounts], hrest⟩

/-- **The trace of a claim influences nothing.**  Claims are delivered one after the other in two
runs, and in one of them they may carry another context of a trace, or none; what others do in
between leaves the stores in step.  The stores may hold anything, fail and be slow, but do not
look at the context of a trace; the random source may fail.

* Every cycle ends in the same way in both runs, with the same error if there is one; every
  delivery has the same result, and the same is decided about it.
* The same statuses are written, and Secrets with the same data, types and owners, and the same
  counters move.
* All that passes is the same but for the annotation on the objects that are read and written, and
  the two fields that show it on a span: so are the other annotations and the other fields.
* The backoffs, the random source and the rest of the world are left the same, and the stores in
  step. -/
theorem trace_without_influence (indifferent : Indifferent stores same)
    (draws : Encoding → Nat → E → Reply E (Except EntropyFailure String))
    (own : Server controllerInterface W) (record : Effect → P → P) (settings : Settings)
    {rounds rounds' : List (Round S)} (turns : List.Forall₂ (SameTurn same) rounds rounds')
    {s s' : S} (start : same s s') (backoffs : BackoffTable) (e : E) (w : W) (p : P) :
    let serve := recording stores draws own record
    let ran := attendAll serve settings rounds backoffs ⟨s, e, (w, p)⟩ []
    let ran' := attendAll serve settings rounds' backoffs ⟨s', e, (w, p)⟩ []
    ran.accounts = ran'.accounts ∧
    ran.seen.filterMap Signal.status? = ran'.seen.filterMap Signal.status? ∧
    ran.seen.filterMap Signal.contents? = ran'.seen.filterMap Signal.contents? ∧
    ran.seen.filterMap Signal.counted? = ran'.seen.filterMap Signal.counted? ∧
    ran.seen.filterMap Signal.untraced? = ran'.seen.filterMap Signal.untraced? ∧
    ran.backoffs = ran'.backoffs ∧ ran.world.entropy = ran'.world.entropy ∧
    ran.world.rest.1 = ran'.world.rest.1 ∧ same ran.world.stores ran'.world.stores := by
  intro serve ran ran'
  have begun : SameView (SameButSpans same) Signal.untraced?
      ((⟨s, e, (w, p)⟩ : Site S E (W × P)), []) (⟨s', e, (w, p)⟩, []) :=
    ⟨⟨start, rfl, rfl⟩, rfl⟩
  obtain ⟨haccounts, htable, left, hseen⟩ := attendAll_untraced
    (indifferent.parallel draws own record) settings turns backoffs begun
  have told {X : Type} {view : Signal controllerInterface → Option X}
      (none_told : ∀ e, view (.told e) = none)
      (none_noted : ∀ field value, view (.asked (.note field value)) = none)
      (calls : ∀ call : StoreCall,
        view (.asked (.store call.untraced)) = view (.asked (.store call))) :
      ran.seen.filterMap view = ran'.seen.filterMap view := by
    refine Signal.filterMap_of_untraced none_told none_noted (fun r => ?_) hseen
    cases r with
    | store call => exact calls call
    | _ => rfl
  have statuses (call : StoreCall) : Signal.status? (.asked (.store call.untraced)) =
      Signal.status? (.asked (.store call)) := by cases call <;> rfl
  have contents (call : StoreCall) : Signal.contents? (.asked (.store call.untraced)) =
      Signal.contents? (.asked (.store call)) := by cases call <;> rfl
  exact ⟨haccounts, told (fun _ => rfl) (fun _ _ => rfl) statuses,
    told (fun _ => rfl) (fun _ _ => rfl) contents,
    told (fun _ => rfl) (fun _ _ => rfl) (fun _ => rfl), hseen, htable, left.entropy, left.rest,
    left.stores⟩

end Site

/-! ## 2. In memory -/

/-- The stores hold the same but for the context of a trace. -/
structure SameButTrace (m m' : Memory) : Prop where
  claims : ∀ k : Key, m.claims[k]?.map Claim.untraced = m'.claims[k]?.map Claim.untraced
  secrets : ∀ k : Key, m.secrets[k]?.map Secret.untraced = m'.secrets[k]?.map Secret.untraced
  faults : m.faults = m'.faults
  delays : m.delays = m'.delays

section SameButTrace

variable {m m' : Memory}

theorem SameButTrace.withClaim (h : SameButTrace m m') (key : Key) {claim claim' : Claim}
    (hc : claim.untraced = claim'.untraced) :
    SameButTrace { m with claims := m.claims.insert key claim }
      { m' with claims := m'.claims.insert key claim' } :=
  ⟨Keyed.map_getElem?_insert h.claims hc, h.secrets, h.faults, h.delays⟩

theorem SameButTrace.withSecret (h : SameButTrace m m') (key : Key) {s s' : Secret}
    (hs : s.untraced = s'.untraced) :
    SameButTrace { m with secrets := m.secrets.insert key s }
      { m' with secrets := m'.secrets.insert key s' } :=
  ⟨h.claims, Keyed.map_getElem?_insert h.secrets hs, h.faults, h.delays⟩

/-- There is a Secret in both or in neither. -/
theorem SameButTrace.contains (h : SameButTrace m m') (k : Key) :
    m.secrets.contains k = m'.secrets.contains k := Keyed.contains_of_map h.secrets k

/-- Claims that differ in the context of a trace do so with another status. -/
theorem untraced_withStatus {claim claim' : Claim} (h : claim.untraced = claim'.untraced)
    (status : Option Status) :
    ({ claim with status := status } : Claim).untraced =
      ({ claim' with status := status } : Claim).untraced :=
  congrArg (fun c : Claim => { c with status := status }) h

/-- Reports about claims that differ in the context of a trace, answered the same. -/
theorem untraced_report {claim claim' : Claim} (h : claim.untraced = claim'.untraced)
    (status : Status) (sent : Except StoreError Unit) :
    Event.untraced ⟨.store (.writeStatus claim status), sent⟩ =
      Event.untraced ⟨.store (.writeStatus claim' status), sent⟩ :=
  congrArg (fun c => (⟨.store (.writeStatus c status), sent⟩ : Event controllerInterface)) h

/-- Creations of Secrets that differ so, answered the same. -/
theorem untraced_creation {s s' : Secret} (h : s.untraced = s'.untraced)
    (sent : Except StoreError Unit) :
    Event.untraced ⟨.store (.createSecret s), sent⟩ =
      Event.untraced ⟨.store (.createSecret s'), sent⟩ :=
  congrArg (fun s => (⟨.store (.createSecret s), sent⟩ : Event controllerInterface)) h

/-- Replacements by Secrets that differ so, answered the same. -/
theorem untraced_replacement {s s' : Secret} (h : s.untraced = s'.untraced)
    (sent : Except StoreError Unit) :
    Event.untraced ⟨.store (.replaceSecret s), sent⟩ =
      Event.untraced ⟨.store (.replaceSecret s'), sent⟩ :=
  congrArg (fun s => (⟨.store (.replaceSecret s), sent⟩ : Event controllerInterface)) h

/-- What a call does that is not told to fail differs in the context of a trace at most. -/
theorem SameButTrace.act (h : SameButTrace m m') {call call' : StoreCall}
    (hc : call.untraced = call'.untraced) :
    Event.untraced ⟨.store call, (m.act call).1⟩ = Event.untraced ⟨.store call', (m'.act call').1⟩ ∧
      SameButTrace (m.act call).2 (m'.act call').2 := by
  cases call with
  | readClaim k =>
    cases call' <;> cases hc
    refine ⟨?_, h⟩
    simp only [Memory.act, Event.untraced, Effect.untracedAnswer, Except.map]
    rw [h.claims k]
  | readSecret k =>
    cases call' <;> cases hc
    refine ⟨?_, h⟩
    simp only [Memory.act, Event.untraced, Effect.untracedAnswer, Except.map]
    rw [h.secrets k]
  | writeStatus claim status =>
    cases call' with
    | writeStatus claim' status' =>
      obtain ⟨hclaim, rfl⟩ := StoreCall.writeStatus.inj hc
      have hplace : claim.metadata.place = claim'.metadata.place :=
        show claim.untraced.metadata.place = claim'.untraced.metadata.place by rw [hclaim]
      have hstored := h.claims claim'.metadata.place
      simp only [Memory.act, hplace]
      cases hs : m.claims[claim'.metadata.place]? with
      | none =>
        rw [hs] at hstored
        rw [Option.map_eq_none_iff.mp hstored.symm]
        exact ⟨untraced_report hclaim status _, h⟩
      | some stored =>
        rw [hs] at hstored
        obtain ⟨stored', hs', hsame⟩ := Option.map_eq_some_iff.mp hstored.symm
        rw [hs']
        exact ⟨untraced_report hclaim status _,
          h.withClaim _ (untraced_withStatus hsame.symm (some status))⟩
    | _ => cases hc
  | createSecret s =>
    cases call' with
    | createSecret s' =>
      have hs : s.untraced = s'.untraced := StoreCall.createSecret.inj hc
      have hplace : s.metadata.place = s'.metadata.place :=
        show s.untraced.metadata.place = s'.untraced.metadata.place by rw [hs]
      simp only [Memory.act, hplace, h.contains]
      split
      · exact ⟨untraced_creation hs _, h⟩
      · exact ⟨untraced_creation hs _, h.withSecret _ hs⟩
    | _ => cases hc
  | replaceSecret s =>
    cases call' with
    | replaceSecret s' =>
      have hs : s.untraced = s'.untraced := StoreCall.replaceSecret.inj hc
      have hplace : s.metadata.place = s'.metadata.place :=
        show s.untraced.metadata.place = s'.untraced.metadata.place by rw [hs]
      simp only [Memory.act, hplace]
      exact ⟨untraced_replacement hs _, h.withSecret _ hs⟩
    | _ => cases hc

/-- Calls that are told to fail, and differ in the context of a trace, fail the same. -/
theorem untraced_error {call call' : StoreCall} (h : call.untraced = call'.untraced)
    (e : StoreError) :
    Event.untraced ⟨.store call, .error e⟩ = Event.untraced ⟨.store call', .error e⟩ := by
  cases call with
  | writeStatus claim status =>
    cases call' with
    | writeStatus claim' status' =>
      obtain ⟨hclaim, rfl⟩ := StoreCall.writeStatus.inj h
      exact untraced_report hclaim status _
    | _ => cases h
  | createSecret s =>
    cases call' with
    | createSecret s' => exact untraced_creation (StoreCall.createSecret.inj h) _
    | _ => cases h
  | replaceSecret s =>
    cases call' with
    | replaceSecret s' => exact untraced_replacement (StoreCall.replaceSecret.inj h) _
    | _ => cases h
  | _ =>
    cases call' <;> cases h
    rfl

/-- **Stores in memory do not look at the context of a trace.** -/
theorem memory_indifferent : Indifferent Memory.serve SameButTrace := by
  intro call call' m m' h hc
  have hlogged : SameButTrace (m.logged call) (m'.logged call') :=
    ⟨h.claims, h.secrets, h.faults, h.delays⟩
  have hkind : call.kind = call'.kind := by
    cases call <;> cases call' <;> first | rfl | cases hc
  have hfaults : m'.faults call'.kind = m.faults call.kind := by rw [h.faults, hkind]
  have hdelay : m.delays call.kind = m'.delays call'.kind := by rw [h.delays, hkind]
  cases hf : m.faults call.kind with
  | some e =>
    rw [hf] at hfaults
    refine ⟨rfl, hdelay, ?_, hlogged, ?_⟩
    · simp only [Memory.serve, hf, hfaults]
      exact untraced_error hc e
    · simp only [Memory.serve, hf, hfaults]
      exact hlogged
  | none =>
    rw [hf] at hfaults
    obtain ⟨hanswer, hafter⟩ := hlogged.act hc
    refine ⟨rfl, hdelay, ?_, hlogged, ?_⟩
    · simp only [Memory.serve, hf, hfaults]
      exact hanswer
    · simp only [Memory.serve, hf, hfaults]
      exact hafter

/-- Claims that differ in the context of a trace are stored. -/
theorem SameButTrace.putClaim (h : SameButTrace m m') {claim claim' : Claim}
    (hc : claim.untraced = claim'.untraced) (keepStatus : Bool) :
    SameButTrace (m.putClaim claim keepStatus) (m'.putClaim claim' keepStatus) := by
  have hplace : claim.metadata.place = claim'.metadata.place :=
    show claim.untraced.metadata.place = claim'.untraced.metadata.place by rw [hc]
  have hkept : (m.claims[claim'.metadata.place]?).bind Claim.status =
      (m'.claims[claim'.metadata.place]?).bind Claim.status := by
    have hstored := congrArg (·.bind Claim.status) (h.claims claim'.metadata.place)
    rw [Option.bind_map, Option.bind_map] at hstored
    exact hstored
  have hown : claim.status = claim'.status :=
    show claim.untraced.status = claim'.untraced.status by rw [hc]
  simp only [Memory.putClaim, hplace, hkept, hown]
  exact h.withClaim _ (untraced_withStatus hc _)

theorem SameButTrace.removeSecret (h : SameButTrace m m') (key : Key) :
    SameButTrace (m.removeSecret key) (m'.removeSecret key) :=
  ⟨h.claims, Keyed.map_getElem?_erase h.secrets, h.faults, h.delays⟩

end SameButTrace

/-! ## 3. A claim with a trace, and without -/

namespace Traced

/-- Stores with the claim and no Secret. -/
def stores (context : Option String) : Memory :=
  { claims := (∅ : Keyed Claim).insert Rotating.key (Rotating.claim.withTrace context) }

/-- The claim is delivered as it is, then with another trigger, and then when its Secret has
been removed. -/
def rounds (context : Option String) : List (Round Memory) :=
  let rotated := Undisclosed.rotated.withTrace context
  [⟨id, Rotating.claim.withTrace context, ⟨0, 0⟩⟩, ⟨Memory.putClaim rotated true, rotated, ⟨60, 0⟩⟩,
    ⟨Memory.removeSecret Rotating.key, rotated, ⟨120, 0⟩⟩]

/-- A value, drawn at once. -/
def draws (enc : Encoding) (length : Nat) (e : Entropy) :
    Reply Entropy (Except EntropyFailure String) :=
  { issued := (e.generate enc length).2
    delay := 0
    answer := (e.generate enc length).1
    after := (e.generate enc length).2 }

/-- The run with this context of a trace, or with none; what is asked of spans is recorded. -/
def ran (context : Option String) : Ran (Site Memory Entropy (Bench Unit × List Effect)) :=
  attendAll (recording Memory.serve draws (Bench.serve nowhere) List.cons) {} (rounds context)
    .empty ⟨stores context, Rotating.bench.entropy,
      ({ stores := (), entropy := Rotating.bench.entropy }, [])⟩ []

/-- The context on the Secret in the stores. -/
def kept? (m : Memory) : Option String := do
  let secret ← m.secrets[Rotating.key]?
  secret.metadata.annotation? Trace.annotationKey

end Traced

/-- A password is made, replaced and made again, with the context of a trace and without: the
Secret keeps the context in one run alone, and nothing else differs. -/
theorem trace_unnoticed :
    let context := "00-0af7651916cd43dd8448eb211c80319c-b7ad6b7169203331-01"
    (Traced.ran (some context)).accounts.map Account.ending =
      [some (.ok .created), some (.ok .updated), some (.ok .created)] ∧
    Traced.kept? (Traced.ran (some context)).world.stores = some context ∧
    Traced.kept? (Traced.ran none).world.stores = none ∧
    (Traced.ran (some context)).accounts = (Traced.ran none).accounts ∧
    (Traced.ran (some context)).seen.filterMap Signal.contents? =
      (Traced.ran none).seen.filterMap Signal.contents? := by
  intro context
  have claims : (Rotating.claim.withTrace (some context)).untraced =
      (Rotating.claim.withTrace none).untraced := by
    rw [Claim.untraced_withTrace, Claim.untraced_withTrace]
  have rotated : (Undisclosed.rotated.withTrace (some context)).untraced =
      (Undisclosed.rotated.withTrace none).untraced := by
    rw [Claim.untraced_withTrace, Claim.untraced_withTrace]
  have bare : SameButTrace {} {} := ⟨fun _ => rfl, fun _ => rfl, rfl, rfl⟩
  have start : SameButTrace (Traced.stores (some context)) (Traced.stores none) :=
    bare.withClaim Rotating.key claims
  have turns : List.Forall₂ (SameTurn SameButTrace) (Traced.rounds (some context))
      (Traced.rounds none) :=
    .cons ⟨fun _ _ h => h, claims, rfl⟩
      (.cons ⟨fun _ _ h => h.putClaim rotated true, rotated, rfl⟩
        (.cons ⟨fun _ _ h => h.removeSecret Rotating.key, rotated, rfl⟩ .nil))
  obtain ⟨haccounts, -, hcontents, -⟩ := trace_without_influence memory_indifferent Traced.draws
    (Bench.serve nowhere) List.cons {} turns start .empty Rotating.bench.entropy
    { stores := (), entropy := Rotating.bench.entropy } []
  exact ⟨by decide +kernel, by decide +kernel, by decide +kernel, haccounts, hcontents⟩

end Controller

end SecretKeeper
