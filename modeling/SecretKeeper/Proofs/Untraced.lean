/-
# What does not depend on the trace of a claim

The annotation with the context of a trace is left on a claim by whoever writes it.  A cycle
shows it on its span, and a Secret that is made for the claim takes it over, so that it comes
back when the Secret is read.  To say that nothing else depends on it, everything that an object
is part of is given an untraced form, in which the objects are without that annotation.

A cycle resembles itself where the objects that it reads differ in the annotation alone
(`resembles_cycle`): it makes the same requests but for the annotation, and it ends in the same
way.  Only the fields of its span that show the context are an aside: a cycle that finds none
leaves them out.
-/
import SecretKeeper.Proofs.Belonging
import SecretKeeper.Proofs.Likeness

namespace SecretKeeper

/-! ## 1. Without the annotation -/

/-- The annotations without the context of a trace; none if no others are left. -/
def Trace.strip (annotations : Option (Dict String)) : Option (Dict String) :=
  let others := (annotations.getD ∅).erase Trace.annotationKey
  if others.isEmpty then none else some others

/-- The metadata without the context of a trace. -/
def Metadata.untraced (m : Metadata) : Metadata :=
  { m with annotations := Trace.strip m.annotations }

/-- The claim without the context of a trace. -/
def Claim.untraced (c : Claim) : Claim := { c with metadata := c.metadata.untraced }

/-- The Secret without the context of a trace. -/
def Secret.untraced (s : Secret) : Secret := { s with metadata := s.metadata.untraced }

/-- The claim with this context of a trace, or with none. -/
def Claim.withTrace (context : Option String) (c : Claim) : Claim :=
  let annotations := match context with
    | some value => some ((c.metadata.annotations.getD ∅).insert Trace.annotationKey value)
    | none => c.metadata.annotations.map (·.erase Trace.annotationKey)
  { c with metadata := { c.metadata with annotations := annotations } }

/-- The call about an object without the context of a trace. -/
def StoreCall.untraced : StoreCall → StoreCall
  | .writeStatus claim status => .writeStatus claim.untraced status
  | .createSecret secret => .createSecret secret.untraced
  | .replaceSecret secret => .replaceSecret secret.untraced
  | c => c

namespace Effect

/-- The request about an object without the context of a trace. -/
def untraced : Effect → Effect
  | .store call => .store call.untraced
  | r => r

/-- The answer with an object without the context of a trace. -/
def untracedAnswer : (r : Effect) → r.Answer → r.untraced.Answer
  | .store (.readClaim _), answer => Except.map (Option.map Claim.untraced) answer
  | .store (.readSecret _), answer => Except.map (Option.map Secret.untraced) answer
  | .store (.writeStatus _ _), answer => answer
  | .store (.createSecret _), answer => answer
  | .store (.replaceSecret _), answer => answer
  | .draw _ _, answer => answer
  | .now, answer => answer
  | .count _ _, answer => answer
  | .observe, answer => answer
  | .enter _ _, answer => answer
  | .leave, answer => answer
  | .note _ _, answer => answer

/-- The fields of a span that show the context of a trace. -/
def traceFields : List String := ["api.request.traceparent", "trace_id"]

/-- The request is any other than one that shows the context of a trace. -/
def showsNoTrace : Effect → Bool
  | .note field _ => !traceFields.contains field
  | _ => true

end Effect

/-- The request with its answer, the objects without the context of a trace. -/
def Event.untraced (e : Event controllerInterface) : Event controllerInterface :=
  ⟨Effect.untraced e.request, Effect.untracedAnswer e.request e.answer⟩

/-- Two runs of the controller may differ in the context of a trace that objects carry, and
show it or not. -/
def traceless : Likeness controllerInterface where
  request r r' := Effect.untraced r = Effect.untraced r'
  event e e' := e.untraced = e'.untraced
  aside r := Effect.showsNoTrace r = false

/-! ## 2. Objects -/

section Objects

variable {annotations annotations' : Option (Dict String)}

/-- **The annotations are the same but for the context of a trace** if every other key has the
same value. -/
theorem Trace.strip_eq_iff : Trace.strip annotations = Trace.strip annotations' ↔
    ∀ key, key ≠ Trace.annotationKey →
      (annotations.getD ∅)[key]? = (annotations'.getD ∅)[key]? := by
  have stripped (annotations : Option (Dict String)) :
      (Trace.strip annotations).getD ∅ = (annotations.getD ∅).erase Trace.annotationKey := by
    simp only [Trace.strip]
    cases h : ((annotations.getD ∅).erase Trace.annotationKey).isEmpty with
    | false => rfl
    | true => exact (Std.ExtTreeMap.isEmpty_iff.mp h).symm
  constructor
  · intro h key hkey
    have hd := congrArg (fun a => (a.getD ∅)[key]?) h
    simpa only [stripped, Dict.getElem?_erase_of_ne hkey] using hd
  · intro h
    have hd : (annotations.getD ∅).erase Trace.annotationKey =
        (annotations'.getD ∅).erase Trace.annotationKey := by
      refine Std.ExtTreeMap.ext_getElem? fun key => ?_
      by_cases hkey : key = Trace.annotationKey
      · rw [hkey, Std.ExtTreeMap.getElem?_erase_self, Std.ExtTreeMap.getElem?_erase_self]
      · rw [Dict.getElem?_erase_of_ne hkey, Dict.getElem?_erase_of_ne hkey, h key hkey]
    rw [Trace.strip, Trace.strip, hd]

/-- What a Secret takes over is the same but for the context of a trace. -/
theorem Trace.strip_inherited (h : Trace.strip annotations = Trace.strip annotations') :
    Trace.strip (Secret.inheritedAnnotations annotations) =
      Trace.strip (Secret.inheritedAnnotations annotations') := by
  refine Trace.strip_eq_iff.mpr fun key hkey => ?_
  rw [Secret.getD_inheritedAnnotations, Secret.getD_inheritedAnnotations,
    Std.ExtTreeMap.getElem?_filter', Std.ExtTreeMap.getElem?_filter',
    Trace.strip_eq_iff.mp h key hkey]

variable {claim claim' : Claim} {s s' : Secret}

/-- Another context, or none, is all that a claim then differs in. -/
theorem Claim.untraced_withTrace (context : Option String) (c : Claim) :
    (c.withTrace context).untraced = c.untraced := by
  have stripped : Trace.strip (c.withTrace context).metadata.annotations =
      Trace.strip c.metadata.annotations := by
    refine Trace.strip_eq_iff.mpr fun key hkey => ?_
    cases context with
    | none =>
      cases h : c.metadata.annotations with
      | none => simp [Claim.withTrace, h]
      | some dict => simpa [Claim.withTrace, h] using Dict.getElem?_erase_of_ne hkey
    | some value => exact Dict.getElem?_insert_of_ne hkey
  simp only [Claim.untraced, Metadata.untraced, stripped]
  rfl

theorem Claim.spec_of_untraced (h : claim.untraced = claim'.untraced) :
    claim.spec = claim'.spec := (Claim.mk.inj h).2.1

theorem Claim.key?_of_untraced (h : claim.untraced = claim'.untraced) :
    claim.key? = claim'.key? :=
  show claim.untraced.key? = claim'.untraced.key? by rw [h]

/-- New Secrets for claims that differ in the context of a trace differ in it at most. -/
theorem Secret.untraced_new (h : claim.untraced = claim'.untraced) (data : Dict Bytes) :
    (Secret.new claim data).untraced = (Secret.new claim' data).untraced := by
  have hmetadata : claim.metadata.untraced = claim'.metadata.untraced := (Claim.mk.inj h).1
  simp only [Metadata.untraced, Metadata.mk.injEq] at hmetadata
  obtain ⟨hname, -, hns, huid, -, -, -, -, -, -, hlabels, hannotations, -⟩ := hmetadata
  have howner : claim.ownerReference = claim'.ownerReference := by
    simp only [Claim.ownerReference, hname, huid]
  simp only [Secret.untraced, Metadata.untraced, Secret.new, hname, hns, hlabels, howner,
    Trace.strip_inherited hannotations]

theorem Secret.untraced_withData (h : s.untraced = s'.untraced) (data : Dict Bytes) :
    (s.withData data).untraced = (s'.withData data).untraced :=
  congrArg (Secret.withData · data) h

end Objects

namespace Controller

open Program

/-! ## 3. Requests -/

/-- The request is a store call. -/
def asksStore : Effect → Bool
  | .store _ => true
  | _ => false

/-- What makes no store calls does the same in both runs. -/
theorem resembles_storeless {α : Type} {p : Controller α} (h : p.Avoids asksStore) :
    Resembles traceless Eq p p := by
  refine resembles_self h fun r hr => ⟨rfl, fun answer answer' halike => ?_⟩
  cases r with
  | store call => cases hr
  | _ => exact eq_of_heq (Event.mk.inj halike).2

theorem resembles_count (counter : Counter) (n : Nat) :
    Resembles traceless Eq (count counter n) (count counter n) :=
  resembles_storeless (avoids_request rfl)

theorem resembles_readClaim (key : Key) :
    Resembles traceless (fun a b : Except StoreError (Option Claim) =>
        a.map (Option.map Claim.untraced) = b.map (Option.map Claim.untraced))
      (call (.readClaim key)) (call (.readClaim key)) :=
  .ask rfl fun _ _ h => .done (eq_of_heq (Event.mk.inj h).2)

theorem resembles_readSecret (key : Key) :
    Resembles traceless (fun a b : Except StoreError (Option Secret) =>
        a.map (Option.map Secret.untraced) = b.map (Option.map Secret.untraced))
      (call (.readSecret key)) (call (.readSecret key)) :=
  .ask rfl fun _ _ h => .done (eq_of_heq (Event.mk.inj h).2)

section Write

variable {claim claim' : Claim} {existing existing' : Option Secret} {s s' : Secret}

theorem resembles_create (h : s.untraced = s'.untraced) :
    Resembles traceless (fun a b : Except StoreError Unit => a = b)
      (call (.createSecret s)) (call (.createSecret s')) :=
  .ask (congrArg (fun s => Effect.store (.createSecret s)) h) fun _ _ same =>
    .done (eq_of_heq (Event.mk.inj same).2)

theorem resembles_replace (h : s.untraced = s'.untraced) :
    Resembles traceless (fun a b : Except StoreError Unit => a = b)
      (call (.replaceSecret s)) (call (.replaceSecret s')) :=
  .ask (congrArg (fun s => Effect.store (.replaceSecret s)) h) fun _ _ same =>
    .done (eq_of_heq (Event.mk.inj same).2)

/-- The same status is written, and the same comes of it. -/
theorem resembles_writeStatus (h : claim.untraced = claim'.untraced) (status : Status) :
    Resembles traceless Eq (writeStatus claim status) (writeStatus claim' status) := by
  have asked : Resembles traceless (fun a b : Except StoreError Unit => a = b)
      (call (.writeStatus claim status)) (call (.writeStatus claim' status)) :=
    .ask (congrArg (fun claim => Effect.store (.writeStatus claim status)) h) fun _ _ same =>
      .done (eq_of_heq (Event.mk.inj same).2)
  refine asked.bind fun sent sent' same => ?_
  obtain rfl : sent = sent' := same
  cases sent with
  | error e => exact (resembles_count _ _).bind_eq fun _ => resembles_pure _
  | ok _ => exact resembles_pure _

/-! ## 4. Cycles -/

theorem resembles_fail (h : claim.untraced = claim'.untraced) (e : CycleError) :
    Resembles traceless Eq (fail claim e) (fail claim' e) := by
  refine Resembles.bind_eq (Resembles.bind_eq (resembles_storeless (avoids_request rfl))
    fun stamp => ?_) fun _ => resembles_pure _
  have hstatus : Status.afterFailure claim e.message stamp =
      Status.afterFailure claim' e.message stamp :=
    show Status.afterFailure claim.untraced e.message stamp =
      Status.afterFailure claim'.untraced e.message stamp by rw [h]
  rw [hstatus]
  exact resembles_writeStatus h _

theorem resembles_succeed (h : claim.untraced = claim'.untraced) (demand : Demand)
    (outcome : Outcome) :
    Resembles traceless Eq (succeed claim demand outcome) (succeed claim' demand outcome) := by
  refine Resembles.bind_eq (Resembles.bind_eq (resembles_storeless (avoids_request rfl))
    fun stamp => ?_) fun _ => resembles_pure _
  have hstatus : Status.afterSync claim demand stamp = Status.afterSync claim' demand stamp :=
    show Status.afterSync claim.untraced demand stamp =
      Status.afterSync claim'.untraced demand stamp by rw [h]
  rw [hstatus]
  exact resembles_writeStatus h _

/-- The Secrets that are written differ in the context of a trace at most. -/
theorem resembles_write (h : claim.untraced = claim'.untraced) (demand : Demand)
    (hs : existing.map Secret.untraced = existing'.map Secret.untraced) :
    Resembles traceless Eq (write claim demand existing) (write claim' demand existing') := by
  have made : Resembles traceless Eq (materialize demand) (materialize demand) :=
    resembles_storeless (materialize_avoids (fun _ _ => rfl) (fun _ _ => rfl) demand)
  cases existing with
  | none =>
    obtain rfl : existing' = none := Option.map_eq_none_iff.mp hs.symm
    refine made.bind_eq fun result => ?_
    cases result with
    | error e => exact resembles_pure _
    | ok data =>
      refine (resembles_create (Secret.untraced_new h data)).bind fun sent sent' same => ?_
      obtain rfl : sent = sent' := same
      cases sent with
      | error e => exact resembles_pure _
      | ok _ => exact (resembles_count _ _).bind_eq fun _ => resembles_pure _
  | some old =>
    obtain ⟨old', rfl, hold⟩ := Option.map_eq_some_iff.mp hs.symm
    refine made.bind_eq fun result => ?_
    cases result with
    | error e => exact resembles_pure _
    | ok data =>
      refine (resembles_replace (Secret.untraced_withData hold.symm data)).bind
        fun sent sent' same => ?_
      obtain rfl : sent = sent' := same
      cases sent with
      | error e => exact resembles_pure _
      | ok _ => exact (resembles_count _ _).bind_eq fun _ => resembles_pure _

theorem resembles_converge (h : claim.untraced = claim'.untraced) (demand : Demand)
    (hs : existing.map Secret.untraced = existing'.map Secret.untraced) :
    Resembles traceless Eq (converge claim existing demand) (converge claim' existing' demand) := by
  have written := resembles_write h demand hs
  cases existing with
  | none =>
    obtain rfl : existing' = none := Option.map_eq_none_iff.mp hs.symm
    refine written.bind_eq fun result => ?_
    cases result with
    | error e => exact resembles_fail h e
    | ok _ => exact resembles_succeed h demand _
  | some old =>
    obtain ⟨old', rfl, hold⟩ := Option.map_eq_some_iff.mp hs.symm
    have hdrift : Drift.detect demand old.data claim.lastReconcileTrigger =
        Drift.detect demand old'.data claim'.lastReconcileTrigger :=
      show Drift.detect demand old.untraced.data claim.untraced.lastReconcileTrigger =
        Drift.detect demand old'.untraced.data claim'.untraced.lastReconcileTrigger by
          rw [h, hold]
    have hsynced : claim.isSynced = claim'.isSynced :=
      show claim.untraced.isSynced = claim'.untraced.isSynced by rw [h]
    simp only [converge, hdrift, hsynced]
    split
    · refine written.bind_eq fun result => ?_
      cases result with
      | error e => exact resembles_fail h e
      | ok _ => exact resembles_succeed h demand _
    · split
      · exact resembles_pure _
      · exact resembles_succeed h demand _

/-- Who owns a Secret is not seen from the context of a trace. -/
theorem isForeign_untraced (claim : Claim) (existing : Option Secret) :
    isForeign claim.untraced (existing.map Secret.untraced) = isForeign claim existing := by
  cases existing <;> rfl

theorem resembles_settle (h : claim.untraced = claim'.untraced)
    (hs : existing.map Secret.untraced = existing'.map Secret.untraced) :
    Resembles traceless Eq (settle claim existing) (settle claim' existing') := by
  have hforeign : isForeign claim existing = isForeign claim' existing' := by
    rw [← isForeign_untraced claim, h, hs, isForeign_untraced]
  simp only [settle, hforeign, Claim.spec_of_untraced h]
  split
  · exact (resembles_count _ _).bind_eq fun _ => resembles_pure _
  · split
    next e _ => exact (resembles_count _ _).bind_eq fun _ => resembles_fail h _
    next demand _ => exact resembles_converge h demand hs

/-- What a cycle shows of the context of a trace. -/
def showTrace (annotations : Option (Dict String)) : Controller Unit :=
  match Trace.carrier? annotations with
  | none => pure ()
  | some carrier => do
    note "api.request.traceparent" carrier
    match Trace.traceId? carrier with
    | none => pure ()
    | some id => note "trace_id" (Trace.idText id)

theorem noteClaim_eq (claim : Claim) :
    noteClaim claim =
      note "claim.type" claim.spec.type >>= fun _ => showTrace claim.metadata.annotations := rfl

theorem showTrace_avoids (annotations : Option (Dict String)) :
    (showTrace annotations).Avoids Effect.showsNoTrace := by
  rw [showTrace]
  split
  · trivial
  · refine Avoids.bind (avoids_request rfl) fun _ => ?_
    split
    · trivial
    · exact avoids_request rfl

/-- What is noted of the claims may differ, but not their type. -/
theorem resembles_noteClaim (h : claim.untraced = claim'.untraced) :
    Resembles traceless (fun _ _ => True) (noteClaim claim) (noteClaim claim') := by
  rw [noteClaim_eq, noteClaim_eq, Claim.spec_of_untraced h]
  refine Resembles.bind_eq (resembles_storeless (avoids_request rfl)) fun _ => ?_
  exact resembles_asides (showTrace_avoids _) (showTrace_avoids _) fun _ hr => hr

end Write

/-- **A cycle resembles itself** where what it reads differs in the context of a trace. -/
theorem resembles_cycle (key : Key) : Resembles traceless Eq (cycle key) (cycle key) := by
  refine (resembles_readClaim key).bind fun answer answer' h => ?_
  obtain ⟨e, rfl, rfl⟩ | ⟨found, found', rfl, rfl, hfound⟩ := same_cases h
  · exact resembles_pure _
  · cases found with
    | none =>
      obtain rfl : found' = none := Option.map_eq_none_iff.mp hfound.symm
      exact resembles_pure _
    | some claim =>
      obtain ⟨claim', rfl, hc⟩ := Option.map_eq_some_iff.mp hfound.symm
      refine (resembles_noteClaim hc.symm).bind fun _ _ _ => ?_
      refine (resembles_readSecret key).bind fun probe probe' hs => ?_
      obtain ⟨e, rfl, rfl⟩ | ⟨existing, existing', rfl, rfl, hexisting⟩ := same_cases hs
      · exact resembles_fail hc.symm _
      · exact resembles_settle hc.symm hexisting

/-! ## 5. Deliveries -/

theorem resembles_opening (key : Key) : Resembles traceless Eq (opening key) (opening key) :=
  resembles_storeless (Avoids.bind (avoids_request rfl) fun _ => avoids_request rfl)

theorem resembles_closing : Resembles traceless Eq closing closing :=
  resembles_storeless (Avoids.bind (avoids_request rfl) fun _ => avoids_request rfl)

/-- The error policy looks at the name and the namespace of a claim. -/
theorem resembles_handleError (settings : Settings) (now : Instant) {claim claim' : Claim}
    (h : claim.untraced = claim'.untraced) (e : DeliveryError) (backoffs : BackoffTable) :
    Resembles traceless Eq (handleError settings now claim e backoffs)
      (handleError settings now claim' e backoffs) := by
  have hspan : errorSpan claim e = errorSpan claim' e :=
    show errorSpan claim.untraced e = errorSpan claim'.untraced e by rw [h]
  have hkey : backoffKey claim = backoffKey claim' :=
    show backoffKey claim.untraced = backoffKey claim'.untraced by rw [h]
  simp only [handleError, hspan, hkey]
  refine resembles_storeless ?_
  refine Avoids.bind (avoids_request rfl) fun _ => Avoids.bind (avoids_request rfl) fun _ => ?_
  split
  · split
    · exact Avoids.bind (avoids_request rfl) fun _ => trivial
    · exact Avoids.bind (avoids_request rfl) fun _ =>
        Avoids.bind (avoids_request rfl) fun _ => trivial
  · exact Avoids.bind (avoids_request rfl) fun _ => trivial

end Controller

end SecretKeeper
