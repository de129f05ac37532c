/-
# What does not depend on generated values

A generated value is drawn, goes into the data of a Secret, and comes back when the Secret is
read.  To say that nothing else depends on it, every request and every answer is given a
`blank`: the same without the values of Secret data and without the value that was drawn.
The keys of the data stay, and so does everything that is not a Secret.

Two programs are `Alike` if they make the same requests but for blanks, as long as they are
answered the same but for blanks, and then come to related results.  A cycle for a claim that
is `AutoGenerated` is alike to itself (`alike_cycle`): where it has read two Secrets that differ
in values, all that follows differs in values, and it ends in the same way.

The claim must be `AutoGenerated`, since the stored values of an `Opaque` one are compared with
the wanted ones; and a draw must not fail, since a failure is reported.
-/
import SecretKeeper.Controller.Delivery
import SecretKeeper.Proofs.Course

namespace SecretKeeper

/-! ## 1. Blanks -/

/-- The data without their values. -/
def Dict.blank (data : Dict Bytes) : Dict Bytes := data.map fun _ _ => []

/-- The Secret without the values of its data. -/
def Secret.blank (s : Secret) : Secret :=
  { s with
    data := s.data.map Dict.blank
    stringData := s.stringData.map (·.map fun _ _ => "") }

/-- The call without the values of Secret data. -/
def StoreCall.blank : StoreCall → StoreCall
  | .createSecret secret => .createSecret secret.blank
  | .replaceSecret secret => .replaceSecret secret.blank
  | c => c

namespace Effect

/-- The request without the values of Secret data. -/
def blank : Effect → Effect
  | .store call => .store call.blank
  | r => r

/-- The answer without the values of Secret data, and without the value that was drawn. -/
def blankAnswer : (r : Effect) → r.Answer → r.blank.Answer
  | .store (.readClaim _), answer => answer
  | .store (.writeStatus _ _), answer => answer
  | .store (.readSecret _), answer => Except.map (Option.map Secret.blank) answer
  | .store (.createSecret _), answer => answer
  | .store (.replaceSecret _), answer => answer
  | .draw _ _, answer => Except.map (fun _ => "") answer
  | .now, answer => answer
  | .count _ _, answer => answer
  | .observe, answer => answer
  | .enter _ _, answer => answer
  | .leave, answer => answer
  | .note _ _, answer => answer

end Effect

/-- The request with its answer, without the values of Secret data and the value drawn. -/
def Event.blank (e : Event controllerInterface) : Event controllerInterface :=
  ⟨Effect.blank e.request, Effect.blankAnswer e.request e.answer⟩

section Blank

variable {data data' : Dict Bytes}

/-- With one more value each, data that had the same keys have the same keys. -/
theorem Dict.blank_insert (h : Dict.blank data = Dict.blank data') (key : String)
    (value value' : Bytes) :
    Dict.blank (data.insert key value) = Dict.blank (data'.insert key value') := by
  refine Std.ExtTreeMap.ext_getElem? fun k => ?_
  have hk : (Dict.blank data)[k]? = (Dict.blank data')[k]? := by rw [h]
  simp only [Dict.blank, Std.ExtTreeMap.getElem?_map, Std.ExtTreeMap.getElem?_insert] at hk ⊢
  split
  · rfl
  · exact hk

theorem Dict.size_of_blank (h : Dict.blank data = Dict.blank data') : data.size = data'.size := by
  have hsize : (Dict.blank data).size = (Dict.blank data').size := by rw [h]
  simpa [Dict.blank] using hsize

/-- A new Secret depends on the values in its data alone. -/
theorem Secret.blank_new (claim : Claim) (h : Dict.blank data = Dict.blank data') :
    (Secret.new claim data).blank = (Secret.new claim data').blank := by
  simp only [Secret.blank, Secret.new, Option.map_some, h]

/-- Of the Secret that is written again, its values are forgotten. -/
theorem Secret.blank_withData {s s' : Secret} (hs : s.blank = s'.blank)
    (h : Dict.blank data = Dict.blank data') :
    (s.withData data).blank = (s'.withData data').blank := by
  simp only [Secret.blank, Secret.mk.injEq] at hs
  simp only [Secret.blank, Secret.withData, Option.map_some, h, hs]

theorem Secret.metadata_of_blank {s s' : Secret} (h : s.blank = s'.blank) :
    s.metadata = s'.metadata := (Secret.mk.inj h).1

/-- Requests that differ in values are the same, or both are store calls. -/
theorem Effect.eq_or_calls_of_blank {r r' : Effect} (h : r.blank = r'.blank) :
    r = r' ∨ ∃ call call', r = .store call ∧ r' = .store call' ∧ call.blank = call'.blank := by
  cases r with
  | store call =>
    cases r' with
    | store call' => exact .inr ⟨call, call', rfl, rfl, Effect.store.inj h⟩
    | _ => cases h
  | _ =>
    cases r' with
    | store call' => cases h
    | _ => exact .inl h

/-- The answers are the same but for values. -/
theorem Event.blankAnswer_inj {r : Effect} {answer answer' : r.Answer}
    (h : Event.blank ⟨r, answer⟩ = Event.blank ⟨r, answer'⟩) :
    r.blankAnswer answer = r.blankAnswer answer' := by
  simpa [Event.blank] using h

/-- Creations that differ in values, and are answered the same. -/
theorem Event.blank_create {s s' : Secret} (h : s.blank = s'.blank)
    (sent : Except StoreError Unit) :
    Event.blank ⟨.store (.createSecret s), sent⟩ = Event.blank ⟨.store (.createSecret s'), sent⟩ :=
  congrArg (fun s => (⟨.store (.createSecret s), sent⟩ : Event controllerInterface)) h

/-- Replacements that differ in values, and are answered the same. -/
theorem Event.blank_replace {s s' : Secret} (h : s.blank = s'.blank)
    (sent : Except StoreError Unit) :
    Event.blank ⟨.store (.replaceSecret s), sent⟩ =
      Event.blank ⟨.store (.replaceSecret s'), sent⟩ :=
  congrArg (fun s => (⟨.store (.replaceSecret s), sent⟩ : Event controllerInterface)) h

end Blank

namespace Controller

open Program

/-! ## 2. Programs that are alike -/

/-- The claim of the key is `AutoGenerated` where it is read, and a draw does not fail. -/
def Fair (key : Key) : Event controllerInterface → Prop
  | ⟨.store (.readClaim k), answer⟩ =>
    k = key → ∀ claim : Claim, answer = .ok (some claim) → claim.spec.type = "AutoGenerated"
  | ⟨.draw _ _, answer⟩ => ∃ value, answer = .ok value
  | _ => True

/-- The programs make the same requests but for values, as long as the answers are the same but
for values, and come to related results. -/
inductive Alike (key : Key) {α β : Type} (R : α → β → Prop) : Controller α → Controller β → Prop
  | done {a : α} {b : β} (h : R a b) : Alike key R (.done a) (.done b)
  | ask {r r' : Effect} {resume : r.Answer → Controller α} {resume' : r'.Answer → Controller β}
      (request : r.blank = r'.blank)
      (rest : ∀ answer answer', Event.blank ⟨r, answer⟩ = Event.blank ⟨r', answer'⟩ →
        Fair key ⟨r, answer⟩ → Alike key R (resume answer) (resume' answer')) :
      Alike key R (.ask r resume) (.ask r' resume')

section Alike

variable {key : Key} {α β γ δ : Type} {R : α → β → Prop} {Q : γ → δ → Prop}

theorem Alike.bind {p : Controller α} {p' : Controller β} {f : α → Controller γ}
    {f' : β → Controller δ} (hp : Alike key R p p')
    (hf : ∀ a b, R a b → Alike key Q (f a) (f' b)) :
    Alike key Q (p >>= f : Controller γ) (p' >>= f' : Controller δ) := by
  induction hp with
  | done h => exact hf _ _ h
  | ask request _ ih => exact .ask request fun answer answer' h fair => ih answer answer' h fair

/-- Programs that come to the same are followed by programs that may use it. -/
theorem Alike.bind_eq {p p' : Controller α} {f : α → Controller γ} {f' : α → Controller δ}
    (hp : Alike key Eq p p') (hf : ∀ a, Alike key Q (f a) (f' a)) :
    Alike key Q (p >>= f : Controller γ) (p' >>= f' : Controller δ) := by
  refine hp.bind fun a b h => ?_
  rw [h]
  exact hf b

theorem alike_pure (a : α) : Alike key Eq (.done a) (.done a) := .done rfl

/-- The answer to a single request is the same but for values. -/
theorem alike_request (r : Effect) :
    Alike key (fun answer answer' : r.Answer =>
        r.blankAnswer answer = r.blankAnswer answer' ∧ Fair key ⟨r, answer⟩)
      (request (I := controllerInterface) r) (request (I := controllerInterface) r) :=
  .ask rfl fun _ _ h fair => .done ⟨Event.blankAnswer_inj h, fair⟩

theorem alike_now : Alike key Eq now now := .ask rfl fun _ _ h _ => .done (Event.blankAnswer_inj h)

theorem alike_count (counter : Counter) (n : Nat) :
    Alike key Eq (count counter n) (count counter n) :=
  .ask rfl fun _ _ h _ => .done (Event.blankAnswer_inj h)

theorem alike_observe : Alike key Eq observe observe :=
  .ask rfl fun _ _ h _ => .done (Event.blankAnswer_inj h)

theorem alike_enter (span : String) (fields : List (String × String)) :
    Alike key Eq (enter span fields) (enter span fields) :=
  .ask rfl fun _ _ h _ => .done (Event.blankAnswer_inj h)

theorem alike_leave : Alike key Eq leave leave :=
  .ask rfl fun _ _ h _ => .done (Event.blankAnswer_inj h)

theorem alike_note (field value : String) : Alike key Eq (note field value) (note field value) :=
  .ask rfl fun _ _ h _ => .done (Event.blankAnswer_inj h)

/-! ## 3. Materialization -/

/-- The same result, but for the values in the data. -/
def SameKeys {ε : Type} (made made' : Except ε (Dict Bytes)) : Prop :=
  made.map Dict.blank = made'.map Dict.blank

theorem sameKeys_ok {ε : Type} {data data' : Dict Bytes} (h : Dict.blank data = Dict.blank data') :
    SameKeys (.ok data : Except ε (Dict Bytes)) (.ok data') := congrArg Except.ok h

theorem alike_drawAll (p : Policy) (keys : List String) {drawn drawn' : Dict Bytes}
    (h : Dict.blank drawn = Dict.blank drawn') :
    Alike key SameKeys (drawAll p keys drawn) (drawAll p keys drawn') := by
  induction keys generalizing drawn drawn' with
  | nil => exact .done (sameKeys_ok h)
  | cons k keys ih =>
    refine (alike_request (.draw p.encoding p.length)).bind ?_
    rintro answer answer' ⟨same, value, rfl⟩
    cases answer' with
    | error e => cases same
    | ok value' => exact ih (Dict.blank_insert h k _ _)

theorem alike_materialize (demand : Demand) :
    Alike key SameKeys (materialize demand) (materialize demand) := by
  cases demand with
  | verbatim data => exact .done rfl
  | generated p =>
    refine (alike_drawAll p p.dataKeys rfl).bind ?_
    rintro (e | fields) (e' | fields') h
    · obtain rfl := Except.error.inj h
      exact .done rfl
    · cases h
    · cases h
    · have hfields : Dict.blank fields = Dict.blank fields' := Except.ok.inj h
      simp only [Dict.size_of_blank hfields]
      exact (alike_count _ _).bind_eq fun _ => .done (sameKeys_ok hfields)

/-! ## 4. Cycles -/

variable {claim : Claim} {existing existing' : Option Secret}

/-- A creation is answered the same, whatever the values. -/
theorem alike_create {s s' : Secret} (h : s.blank = s'.blank) :
    Alike key (fun sent sent' : Except StoreError Unit => sent = sent')
      (call (.createSecret s)) (call (.createSecret s')) :=
  .ask (congrArg (fun s => Effect.store (.createSecret s)) h) fun _ _ same _ =>
    .done (eq_of_heq (Event.mk.inj same).2)

/-- A replacement is answered the same, whatever the values. -/
theorem alike_replace {s s' : Secret} (h : s.blank = s'.blank) :
    Alike key (fun sent sent' : Except StoreError Unit => sent = sent')
      (call (.replaceSecret s)) (call (.replaceSecret s')) :=
  .ask (congrArg (fun s => Effect.store (.replaceSecret s)) h) fun _ _ same _ =>
    .done (eq_of_heq (Event.mk.inj same).2)

/-- What follows materialization may use the data but for their values. -/
theorem alike_made (demand : Demand) {f f' : Dict Bytes → Controller (Except CycleError Unit)}
    (h : ∀ data data', Dict.blank data = Dict.blank data' → Alike key Eq (f data) (f' data')) :
    Alike key Eq
      (do match ← materialize demand with
          | .error e => pure (.error e)
          | .ok data => f data)
      (do match ← materialize demand with
          | .error e => pure (.error e)
          | .ok data => f' data) := by
  refine (alike_materialize demand).bind ?_
  rintro (e | data) (e' | data') same
  · obtain rfl := Except.error.inj same
    exact alike_pure _
  · cases same
  · cases same
  · exact h data data' (Except.ok.inj same)

/-- A write comes to the same, whatever values it writes. -/
theorem alike_write (claim : Claim) (demand : Demand)
    (hs : existing.map Secret.blank = existing'.map Secret.blank) :
    Alike key Eq (write claim demand existing) (write claim demand existing') := by
  cases existing with
  | none =>
    cases existing' with
    | none =>
      refine alike_made demand fun data data' h => ?_
      refine (alike_create (Secret.blank_new claim h)).bind ?_
      rintro sent sent' rfl
      cases sent with
      | error e => exact alike_pure _
      | ok _ => exact (alike_count _ _).bind_eq fun _ => alike_pure _
    | some _ => cases hs
  | some old =>
    cases existing' with
    | none => cases hs
    | some old' =>
      refine alike_made demand fun data data' h => ?_
      refine (alike_replace (Secret.blank_withData (Option.some.inj hs) h)).bind ?_
      rintro sent sent' rfl
      cases sent with
      | error e => exact alike_pure _
      | ok _ => exact (alike_count _ _).bind_eq fun _ => alike_pure _

theorem alike_writeStatus (claim : Claim) (status : Status) :
    Alike key Eq (writeStatus claim status) (writeStatus claim status) := by
  refine (alike_request (.store (.writeStatus claim status))).bind ?_
  rintro sent sent' ⟨rfl, -⟩
  cases sent with
  | error e => exact (alike_count _ _).bind_eq fun _ => alike_pure _
  | ok _ => exact alike_pure _

theorem alike_fail (claim : Claim) (e : CycleError) :
    Alike key Eq (fail claim e) (fail claim e) :=
  (alike_now.bind_eq fun _ => alike_writeStatus claim _).bind_eq fun _ => alike_pure _

theorem alike_succeed (claim : Claim) (demand : Demand) (outcome : Outcome) :
    Alike key Eq (succeed claim demand outcome) (succeed claim demand outcome) :=
  (alike_now.bind_eq fun _ => alike_writeStatus claim _).bind_eq fun _ => alike_pure _

theorem alike_noteClaim (claim : Claim) : Alike key Eq (noteClaim claim) (noteClaim claim) := by
  refine (alike_note _ _).bind_eq fun _ => ?_
  split
  · exact alike_pure _
  · refine (alike_note _ _).bind_eq fun _ => ?_
    split
    · exact alike_pure _
    · exact alike_note _ _

/-- Whether generated values have drifted is not seen from the values. -/
theorem alike_converge (claim : Claim) (p : Policy)
    (hs : existing.map Secret.blank = existing'.map Secret.blank) :
    Alike key Eq (converge claim existing (.generated p))
      (converge claim existing' (.generated p)) := by
  -- either way the cycle reports, whatever comes between
  have reported : ∀ {next : Except CycleError Unit → Controller (Except CycleError Outcome)}
      (outcome : Outcome), (∀ e, next (.error e) = fail claim e) →
      next (.ok ()) = succeed claim (.generated p) outcome →
      ∀ result, Alike key Eq (next result) (next result) := by
    intro next outcome failed succeeded result
    cases result with
    | error e =>
      rw [failed]
      exact alike_fail claim e
    | ok _ =>
      rw [succeeded]
      exact alike_succeed claim _ outcome
  have written : Alike key Eq (write claim (.generated p) existing)
      (write claim (.generated p) existing') := alike_write claim (.generated p) hs
  cases existing with
  | none =>
    cases existing' with
    | none => exact written.bind_eq (reported .created (fun _ => rfl) rfl)
    | some _ => cases hs
  | some old =>
    cases existing' with
    | none => cases hs
    | some old' =>
      have seen : Drift.detect (.generated p) old.data claim.lastReconcileTrigger =
          Drift.detect (.generated p) old'.data claim.lastReconcileTrigger := rfl
      rw [converge, converge, seen]
      by_cases drifted : Drift.detect (.generated p) old'.data claim.lastReconcileTrigger = true
      · rw [if_pos drifted, if_pos drifted]
        exact written.bind_eq (reported .updated (fun _ => rfl) rfl)
      · rw [if_neg drifted, if_neg drifted]
        by_cases synced : claim.isSynced = true
        · rw [if_pos synced]
          exact alike_pure _
        · rw [if_neg synced]
          exact alike_succeed claim _ _

/-- Who owns a Secret is not seen from its values. -/
theorem isForeign_of_blank (claim : Claim)
    (hs : existing.map Secret.blank = existing'.map Secret.blank) :
    isForeign claim existing = isForeign claim existing' := by
  cases existing with
  | none =>
    cases existing' with
    | none => rfl
    | some _ => cases hs
  | some old =>
    cases existing' with
    | none => cases hs
    | some old' =>
      simp only [isForeign, Option.any_some, Secret.isOwnedBy,
        Secret.metadata_of_blank (Option.some.inj hs)]

theorem alike_settle (auto : claim.spec.type = "AutoGenerated")
    (hs : existing.map Secret.blank = existing'.map Secret.blank) :
    Alike key Eq (settle claim existing) (settle claim existing') := by
  rw [settle, settle, isForeign_of_blank claim hs]
  split
  · exact (alike_count _ _).bind_eq fun _ => alike_pure _
  · split
    next e _ => exact (alike_count _ _).bind_eq fun _ => alike_fail claim _
    next demand valid =>
      rcases ClaimSpec.validate_ok valid with ⟨other, -⟩ | ⟨-, -, p, -, -, rfl⟩
      · rw [auto] at other
        exact absurd other (by decide)
      · exact alike_converge claim p hs

/-- **A cycle is alike to itself**: nothing in it depends on generated values but the values in
the Secrets that it writes. -/
theorem alike_cycle (key : Key) : Alike key Eq (cycle key) (cycle key) := by
  refine (alike_request (.store (.readClaim key))).bind ?_
  rintro answer answer' ⟨same, fair⟩
  obtain rfl : answer = answer' := same
  match answer with
  | .error e => exact alike_pure _
  | .ok none => exact alike_pure _
  | .ok (some claim) =>
    have auto : claim.spec.type = "AutoGenerated" := fair rfl claim rfl
    refine (alike_noteClaim claim).bind_eq fun _ => ?_
    refine (alike_request (.store (.readSecret key))).bind ?_
    rintro probe probe' ⟨same, -⟩
    cases probe <;> cases probe'
    · obtain rfl := Except.error.inj same
      exact alike_fail claim _
    · cases same
    · cases same
    · exact alike_settle auto (Except.ok.inj same)

/-! ## 5. Around a cycle -/

theorem alike_opening (key k : Key) : Alike key Eq (opening k) (opening k) :=
  (alike_enter _ _).bind_eq fun _ => alike_count _ _

theorem alike_closing : Alike key Eq closing closing :=
  alike_leave.bind_eq fun _ => alike_observe

theorem alike_handleError (settings : Settings) (now : Instant) (claim : Claim) (e : DeliveryError)
    (backoffs : BackoffTable) :
    Alike key Eq (handleError settings now claim e backoffs)
      (handleError settings now claim e backoffs) := by
  refine (alike_enter _ _).bind_eq fun _ => (alike_count _ _).bind_eq fun _ => ?_
  split
  · dsimp only
    split
    · exact alike_leave.bind_eq fun _ => alike_pure _
    · exact (alike_count _ _).bind_eq fun _ => alike_leave.bind_eq fun _ => alike_pure _
  · exact alike_leave.bind_eq fun _ => alike_pure _

end Alike

end Controller

end SecretKeeper
