/-
# Generated values reach only the Secret

Two runs of deliveries, on the same claims and at the same times, with stores of the same make,
but each with a random source of its own.  Neither source ever fails, and every value that is
asked for can be made.

The stores hold the values, and give them back; but which way they answer does not depend on
them.  `Oblivious` says so by a relation between the states of the stores in the two runs:
calls that differ in values get answers that differ in values, take the same time, and leave
states that are related again.  Everything else that a cycle asks for has nothing to do with
values and is answered by the same world in both runs.

Then all that passes in the two runs is the same but for values: a cycle is alike to itself
whatever the values are, and alike programs against servers that match keep them in step
(`Alike.resembles`).
-/
import SecretKeeper.Proofs.Blind
import SecretKeeper.Proofs.Likeness
import SecretKeeper.Proofs.Staleness

namespace SecretKeeper

/-- The signal without the values of Secret data and the values drawn. -/
def Signal.blank : Signal controllerInterface → Signal controllerInterface
  | .asked r => .asked (Effect.blank r)
  | .told e => .told (Event.blank e)

namespace Controller

open Program Simulation

/-! ## 1. In step -/

section Step

variable {W W' α : Type} {same : W → W' → Prop} {serve : Server controllerInterface W}
  {serve' : Server controllerInterface W'} {key : Key}

/-- The replies are the same but for values, and leave worlds that are in step. -/
structure InStep (same : W → W' → Prop) (r r' : Effect) (reply : Reply W r.Answer)
    (reply' : Reply W' r'.Answer) : Prop where
  queued : reply.queued = reply'.queued
  delay : reply.delay = reply'.delay
  answer : Event.blank ⟨r, reply.answer⟩ = Event.blank ⟨r', reply'.answer⟩
  issued : same reply.issued reply'.issued
  after : same reply.after reply'.after

/-- Requests that differ in values get replies that differ in values. -/
structure Matching (key : Key) (serve : Server controllerInterface W)
    (serve' : Server controllerInterface W') (same : W → W' → Prop) : Prop where
  reply : ∀ {r r' : Effect} {w : W} {w' : W'}, same w w' → r.blank = r'.blank →
    InStep same r r' (serve r w) (serve' r' w')
  fair : ∀ {w : W} {w' : W'}, same w w' → ∀ r : Effect, Fair key ⟨r, (serve r w).answer⟩

/-- Two runs may differ in values, where a claim that is read is `AutoGenerated` and a draw does
not fail. -/
def blindness (key : Key) : Likeness controllerInterface where
  request r r' := Effect.blank r = Effect.blank r'
  event e e' := e.blank = e'.blank ∧ Fair key e
  aside _ := False

theorem Alike.resembles {p p' : Controller α} (h : Alike key Eq p p') :
    Resembles (blindness key) Eq p p' := by
  induction h with
  | done h => exact .done h
  | ask request _ ih => exact .ask request fun answer answer' h => ih answer answer' h.1 h.2

theorem Matching.parallel (m : Matching key serve serve' same) :
    (blindness key).Parallel serve serve' same where
  reply {r r' w w'} hw request := by
    have step := m.reply hw request
    exact ⟨step.queued, step.delay, ⟨step.answer, m.fair hw r⟩, step.issued, step.after⟩
  left _ aside := aside.elim
  right _ aside := aside.elim

/-- The worlds are in step, and what has passed is the same but for values. -/
def SameSeen (same : W → W' → Prop) (x : W × List (Signal controllerInterface))
    (y : W' × List (Signal controllerInterface)) : Prop :=
  same x.1 y.1 ∧ x.2.map Signal.blank = y.2.map Signal.blank

/-- Servers that match also match when they are watched. -/
theorem Matching.watched (m : Matching key serve serve' same) :
    Matching key (watched serve) (watched serve') (SameSeen same) where
  fair h r := m.fair h.1 r
  reply {r r' x y} h request := by
    obtain ⟨w, seen⟩ := x
    obtain ⟨w', seen'⟩ := y
    obtain ⟨hw, hseen⟩ := h
    have step := m.reply hw request
    have hasked : Signal.blank (.asked r) = Signal.blank (.asked r') :=
      congrArg Signal.asked request
    have htold : Signal.blank (.told ⟨r, (serve r w).answer⟩) =
        Signal.blank (.told ⟨r', (serve' r' w').answer⟩) := congrArg Signal.told step.answer
    have hseen : seen.map Signal.blank = seen'.map Signal.blank := hseen
    refine ⟨step.queued, step.delay, step.answer, ⟨step.issued, ?_⟩, step.after, ?_⟩
    · simp [Program.watched, hseen, hasked]
    · simp [Program.watched, hseen, hasked, htold]

end Step

/-! ## 2. Deliveries and their errors -/

/-- What comes of a delivery: how its cycle ended, unless it was cut off, the result, and, if
that is an error, what is decided about it. -/
structure Account where
  ending : Option (Except CycleError Outcome)
  result : Except DeliveryError Action
  decision : Option (Except BeyondCalendar Action)

/-- A claim is delivered, and an error is handled. -/
def attend {W : Type} (serve : Server controllerInterface W) (settings : Settings)
    (claim : Claim) (now : Instant) (backoffs : BackoffTable) (w : W) :
    Account × BackoffTable × W :=
  let ending := claim.key?.bind fun key =>
    ((cycle key).runWithin serve settings.reconcileTimeout.millis
      ((opening key).run serve w).2).1
  let (result, backoffs, w) := deliver serve settings claim backoffs w
  match result with
  | .ok action => (⟨ending, .ok action, none⟩, backoffs, w)
  | .error e =>
    let ((decision, backoffs), w) := (handleError settings now claim e backoffs).run serve w
    (⟨ending, .error e, some decision⟩, backoffs, w)

section Attend

variable {W W' : Type} {same : W → W' → Prop} {serve : Server controllerInterface W}
  {serve' : Server controllerInterface W'} {key : Key} {claim claim' : Claim}
  {L : Likeness controllerInterface} {settings : Settings} {now : Instant}

/-- What a delivery comes to, and the backoffs after it, once its cycle has ended or was cut off. -/
def consequence (settings : Settings) (key : Key) (backoffs : BackoffTable) :
    Option (Except CycleError Outcome) → Except DeliveryError Action × BackoffTable
  | none => (.error (.deadlineExceeded settings.reconcileTimeout), backoffs)
  | some (.error e) => (.error (.failed e), backoffs)
  | some (.ok _) => (.ok .awaitChange, backoffs.forget key.text)

theorem deliver_consequence (hk : claim.key? = some key) (backoffs : BackoffTable) (w : W) :
    let cycled := (cycle key).runWithin serve settings.reconcileTimeout.millis
      ((opening key).run serve w).2
    deliver serve settings claim backoffs w =
      ((consequence settings key backoffs cycled.1).1,
        (consequence settings key backoffs cycled.1).2, (closing.run serve cycled.2).2) := by
  rw [deliver_eq hk]
  dsimp only
  cases ((cycle key).runWithin serve settings.reconcileTimeout.millis
      ((opening key).run serve w).2).1 with
  | none => rfl
  | some ending => cases ending <;> rfl

/-- All that is done about two claims is alike. -/
structure AlikeFor (L : Likeness controllerInterface) (settings : Settings) (now : Instant)
    (claim claim' : Claim) : Prop where
  key : claim.key? = claim'.key?
  opening : ∀ key, Resembles L Eq (opening key) (opening key)
  cycle : ∀ key, claim.key? = some key → Resembles L Eq (cycle key) (cycle key)
  closing : Resembles L Eq closing closing
  handling : ∀ e backoffs, Resembles L Eq (handleError settings now claim e backoffs)
    (handleError settings now claim' e backoffs)

/-- Deliveries of such claims come to the same, where servers are in parallel. -/
theorem AlikeFor.deliver (h : AlikeFor L settings now claim claim')
    (m : L.Parallel serve serve' same) (backoffs : BackoffTable) {w : W} {w' : W'}
    (hw : same w w') :
    (deliver serve settings claim backoffs w).1 = (deliver serve' settings claim' backoffs w').1 ∧
      (deliver serve settings claim backoffs w).2.1 =
        (deliver serve' settings claim' backoffs w').2.1 ∧
      same (deliver serve settings claim backoffs w).2.2
        (deliver serve' settings claim' backoffs w').2.2 := by
  cases hk : claim.key? with
  | none =>
    have hk' : claim'.key? = none := h.key ▸ hk
    rw [deliver_unkeyed hk, deliver_unkeyed hk']
    exact ⟨rfl, rfl, hw⟩
  | some key =>
    have hk' : claim'.key? = some key := h.key ▸ hk
    have opened := ((h.opening key).run m hw).2
    obtain ⟨hending, left⟩ :=
      (h.cycle key hk).runWithin m settings.reconcileTimeout.millis opened
    rw [deliver_consequence hk, deliver_consequence hk', hending]
    exact ⟨rfl, rfl, (h.closing.run m left).2⟩

/-- So do deliveries with what is decided about their errors. -/
theorem AlikeFor.attend (h : AlikeFor L settings now claim claim')
    (m : L.Parallel serve serve' same) (backoffs : BackoffTable) {w : W} {w' : W'}
    (hw : same w w') :
    (attend serve settings claim now backoffs w).1 =
        (attend serve' settings claim' now backoffs w').1 ∧
      (attend serve settings claim now backoffs w).2.1 =
        (attend serve' settings claim' now backoffs w').2.1 ∧
      same (attend serve settings claim now backoffs w).2.2
        (attend serve' settings claim' now backoffs w').2.2 := by
  have hending : (claim.key?.bind fun key => ((Controller.cycle key).runWithin serve
        settings.reconcileTimeout.millis ((Controller.opening key).run serve w).2).1) =
      claim'.key?.bind fun key => ((Controller.cycle key).runWithin serve'
        settings.reconcileTimeout.millis ((Controller.opening key).run serve' w').2).1 := by
    rw [← h.key]
    cases hk : claim.key? with
    | none => rw [Option.bind_none, Option.bind_none]
    | some key =>
      rw [Option.bind_some, Option.bind_some]
      exact ((h.cycle key hk).runWithin m settings.reconcileTimeout.millis
        ((h.opening key).run m hw).2).1
  obtain ⟨hresult, htable, left⟩ := h.deliver m backoffs hw
  simp only [Controller.attend, hending, hresult, htable]
  cases (Controller.deliver serve' settings claim' backoffs w').1 with
  | ok action => exact ⟨rfl, rfl, left⟩
  | error e =>
    obtain ⟨hdecision, handled⟩ :=
      (h.handling e (Controller.deliver serve' settings claim' backoffs w').2.1).run m left
    simp only [hdecision]
    exact ⟨trivial, trivial, handled⟩

/-- A delivery and what is decided about it come to the same, whatever the values. -/
theorem Matching.attend (m : Matching key serve serve' same) (settings : Settings)
    (hk : claim.key? = some key) (now : Instant) (backoffs : BackoffTable) {w : W} {w' : W'}
    (hw : same w w') :
    (attend serve settings claim now backoffs w).1 =
        (attend serve' settings claim now backoffs w').1 ∧
      (attend serve settings claim now backoffs w).2.1 =
        (attend serve' settings claim now backoffs w').2.1 ∧
      same (attend serve settings claim now backoffs w).2.2
        (attend serve' settings claim now backoffs w').2.2 := by
  have alike : AlikeFor (blindness key) settings now claim claim :=
    { key := rfl
      opening := fun other => (alike_opening key other).resembles
      cycle := fun other hother => by
        obtain rfl : key = other := Option.some.inj (hk.symm.trans hother)
        exact (alike_cycle key).resembles
      closing := alike_closing.resembles
      handling := fun e backoffs => (alike_handleError settings now claim e backoffs).resembles }
  exact alike.attend m.parallel backoffs hw

end Attend

/-! ## 3. Sources, stores and runs -/

/-- A source of bytes that never fails, and from which every value can be made. -/
structure Source (E : Type) where
  fill : (count : Nat) → E → Bytes × E
  /-- A number of chunks that is enough for a value. -/
  enough : Encoding → (length : Nat) → E → Nat
  completes : ∀ (enc : Encoding) (length : Nat) (e : E),
    (Generator.gather (fun e => ((.ok (fill (Generator.chunkSize length) e).1),
      (fill (Generator.chunkSize length) e).2)) enc length (enough enc length e) [] e).isSome = true

namespace Source

variable {E : Type}

/-- One chunk of the size that values of this length ask for. -/
def fillChunk (source : Source E) (length : Nat) (e : E) : Except EntropyFailure Bytes × E :=
  (.ok (source.fill (Generator.chunkSize length) e).1,
    (source.fill (Generator.chunkSize length) e).2)

/-- A value, and the source after it. -/
def generate (source : Source E) (enc : Encoding) (length : Nat) (e : E) :
    Except EntropyFailure String × E :=
  (Generator.gather (source.fillChunk length) enc length (source.enough enc length e) [] e).get
    (source.completes enc length e)

/-- Where no chunk fails, no value fails. -/
theorem gather_ok {fill : E → Except EntropyFailure Bytes × E}
    (never : ∀ e, ∃ chunk, (fill e).1 = .ok chunk)
    (enc : Encoding) (length : Nat) (fuel : Nat) (value : List Char) (e : E)
    {made : Except EntropyFailure String × E}
    (h : Generator.gather fill enc length fuel value e = some made) :
    ∃ text, made.1 = .ok text := by
  induction fuel generalizing value e with
  | zero =>
    unfold Generator.gather at h
    split at h
    · obtain rfl := Option.some.inj h
      exact ⟨_, rfl⟩
    · cases h
  | succ fuel ih =>
    unfold Generator.gather at h
    split at h
    · obtain rfl := Option.some.inj h
      exact ⟨_, rfl⟩
    · obtain ⟨chunk, hchunk⟩ := never e
      generalize hfill : fill e = filled at h hchunk
      obtain ⟨answer, next⟩ := filled
      obtain rfl : answer = .ok chunk := hchunk
      exact ih _ _ h

theorem generate_ok (source : Source E) (enc : Encoding) (length : Nat) (e : E) :
    ∃ text, (source.generate enc length e).1 = .ok text :=
  gather_ok (fun _ => ⟨_, rfl⟩) enc length _ [] e (Option.some_get _).symm

end Source

/-- Stores, a random source, and the world of all other requests. -/
structure Site (S E W : Type) where
  stores : S
  entropy : E
  rest : W

section Site

variable {S E E' W : Type}

/-- Store calls go to the stores, draws to the source, and all else to the rest of the world. -/
def serving (stores : StoreServer S) (source : Source E) (own : Server controllerInterface W) :
    Server controllerInterface (Site S E W)
  | .store call, site =>
    let reply := stores call site.stores
    { queued := reply.queued
      issued := { site with stores := reply.issued }
      delay := reply.delay
      answer := reply.answer
      after := { site with stores := reply.after } }
  | .draw enc length, site =>
    let drawn := source.generate enc length site.entropy
    { issued := { site with entropy := drawn.2 }
      delay := 0
      answer := drawn.1
      after := { site with entropy := drawn.2 } }
  | r, site =>
    let reply := own r site.rest
    { queued := reply.queued
      issued := { site with rest := reply.issued }
      delay := reply.delay
      answer := reply.answer
      after := { site with rest := reply.after } }

/-- The stores do not look at the values of Secret data, and the claim of the key is
`AutoGenerated` whenever it is read. -/
structure Oblivious (key : Key) (stores : StoreServer S) (same : S → S → Prop) : Prop where
  reply : ∀ {call call' : StoreCall} {s s' : S}, same s s' → call.blank = call'.blank →
    InStep same (.store call) (.store call') (stores call s) (stores call' s')
  generated : ∀ {s s' : S} {claim : Claim}, same s s' →
    (stores (.readClaim key) s).answer = .ok (some claim) → claim.spec.type = "AutoGenerated"

/-- The stores are in step, and the rest of the world is the same. -/
structure SameSite (same : S → S → Prop) (site : Site S E W) (site' : Site S E' W) : Prop where
  stores : same site.stores site'.stores
  rest : site.rest = site'.rest

theorem Oblivious.matching {key : Key} {stores : StoreServer S} {same : S → S → Prop}
    (h : Oblivious key stores same) (source : Source E) (source' : Source E')
    (own : Server controllerInterface W) :
    Matching key (serving stores source own) (serving stores source' own) (SameSite same) where
  fair {site site'} hs r := by
    cases r with
    | store call =>
      cases call with
      | readClaim k =>
        rintro rfl claim hclaim
        exact h.generated hs.stores hclaim
      | _ => trivial
    | draw enc length => exact source.generate_ok enc length site.entropy
    | _ => trivial
  reply {r r' site site'} hs request := by
    obtain ⟨s, e, w⟩ := site
    obtain ⟨s', e', w'⟩ := site'
    obtain ⟨hstores, rfl⟩ := hs
    have hstores : same s s' := hstores
    rcases Effect.eq_or_calls_of_blank request with rfl | ⟨call, call', rfl, rfl, hcall⟩
    · cases r with
      | store call =>
        have step := h.reply hstores (rfl : call.blank = call.blank)
        exact ⟨step.queued, step.delay, step.answer, ⟨step.issued, rfl⟩, ⟨step.after, rfl⟩⟩
      | draw enc length =>
        obtain ⟨text, htext⟩ := source.generate_ok enc length e
        obtain ⟨text', htext'⟩ := source'.generate_ok enc length e'
        refine ⟨rfl, rfl, ?_, ⟨hstores, rfl⟩, ⟨hstores, rfl⟩⟩
        simp only [serving, Event.blank, Effect.blankAnswer, htext, htext']
        rfl
      | _ => exact ⟨rfl, rfl, rfl, ⟨hstores, rfl⟩, ⟨hstores, rfl⟩⟩
    · have step := h.reply hstores hcall
      exact ⟨step.queued, step.delay, step.answer, ⟨step.issued, rfl⟩, ⟨step.after, rfl⟩⟩

/-- One turn of a run: others change the stores, then a claim is delivered. -/
structure Round (S : Type) where
  outside : S → S
  claim : Claim
  /-- When an error of the delivery would be handled. -/
  now : Instant

/-- What has become of a run: what came of every delivery, the backoffs, the world, and all
that has passed. -/
structure Ran (W : Type) where
  accounts : List Account
  backoffs : BackoffTable
  world : W
  seen : List (Signal controllerInterface)

/-- Claims are delivered one after the other, and all that passes is seen. -/
def attendAll (serve : Server controllerInterface (Site S E W)) (settings : Settings) :
    List (Round S) → BackoffTable → Site S E W → List (Signal controllerInterface) →
    Ran (Site S E W)
  | [], backoffs, site, seen => ⟨[], backoffs, site, seen⟩
  | round :: rounds, backoffs, site, seen =>
    let found := { site with stores := round.outside site.stores }
    let (account, backoffs, site, seen) :=
      attend (watched serve) settings round.claim round.now backoffs (found, seen)
    let rest := attendAll serve settings rounds backoffs site seen
    { rest with accounts := account :: rest.accounts }

/-- **Generated values reach only the Secret.**  A claim is `AutoGenerated` whenever it is read,
and is delivered again and again; the stores do not look at the values of Secret data, and
neither does what others do to them in between.  Take two runs that begin with stores in step,
each with a random source of its own that never fails.

* Every cycle ends in the same way in both, with the same error if there is one; every delivery
  has the same result, and the same is decided about it.
* All that passes is the same but for the values in Secrets that are written and read, and the
  values drawn: the store calls with their arguments, the statuses among them, the counters
  that move, the spans with their fields, the clock.
* The rest of the world and the backoffs are left the same, and the stores in step. -/
theorem values_reach_secrets_only {key : Key} {stores : StoreServer S} {same : S → S → Prop}
    (oblivious : Oblivious key stores same) (source : Source E) (source' : Source E')
    (own : Server controllerInterface W) (settings : Settings) {rounds : List (Round S)}
    (on_key : ∀ round ∈ rounds, round.claim.key? = some key)
    (blind : ∀ round ∈ rounds, ∀ s s', same s s' → same (round.outside s) (round.outside s'))
    {s s' : S} (start : same s s') (backoffs : BackoffTable) (e : E) (e' : E') (w : W) :
    let ran := attendAll (serving stores source own) settings rounds backoffs ⟨s, e, w⟩ []
    let ran' := attendAll (serving stores source' own) settings rounds backoffs ⟨s', e', w⟩ []
    ran.accounts = ran'.accounts ∧
    ran.seen.map Signal.blank = ran'.seen.map Signal.blank ∧
    ran.backoffs = ran'.backoffs ∧ ran.world.rest = ran'.world.rest ∧
    same ran.world.stores ran'.world.stores := by
  have run : ∀ (seen seen' : List (Signal controllerInterface)) (site : Site S E W)
      (site' : Site S E' W), SameSite same site site' →
      seen.map Signal.blank = seen'.map Signal.blank →
      let ran := attendAll (serving stores source own) settings rounds backoffs site seen
      let ran' := attendAll (serving stores source' own) settings rounds backoffs site' seen'
      ran.accounts = ran'.accounts ∧ ran.seen.map Signal.blank = ran'.seen.map Signal.blank ∧
        ran.backoffs = ran'.backoffs ∧ SameSite same ran.world ran'.world := by
    clear start
    induction rounds generalizing backoffs with
    | nil => exact fun _ _ _ _ hs hseen => ⟨rfl, hseen, rfl, hs⟩
    | cons round rounds ih =>
      intro seen seen' site site' hs hseen
      obtain ⟨hk, on_key⟩ := List.forall_mem_cons.mp on_key
      obtain ⟨hround, blind⟩ := List.forall_mem_cons.mp blind
      have found : SameSeen (SameSite same)
          ({ site with stores := round.outside site.stores }, seen)
          ({ site' with stores := round.outside site'.stores }, seen') :=
        ⟨⟨hround _ _ hs.stores, hs.rest⟩, hseen⟩
      obtain ⟨haccount, htable, left⟩ := (oblivious.matching source source' own).watched.attend
        settings hk round.now backoffs found
      simp only [attendAll, haccount, htable]
      obtain ⟨haccounts, hrest⟩ := ih on_key blind _ _ _ _ _ left.1 left.2
      exact ⟨by rw [haccounts], hrest⟩
  obtain ⟨haccounts, hseen, htable, left⟩ := run [] [] ⟨s, e, w⟩ ⟨s', e', w⟩ ⟨start, rfl⟩ rfl
  exact ⟨haccounts, hseen, htable, left.rest, left.stores⟩

end Site

/-! ## 4. In memory -/

/-- The stores hold the same but for the values of Secret data, and the claim of the key, where
there is one, is `AutoGenerated`. -/
structure StoresSameButValues (key : Key) (m m' : Memory) : Prop where
  claims : m.claims = m'.claims
  secrets : ∀ k : Key, m.secrets[k]?.map Secret.blank = m'.secrets[k]?.map Secret.blank
  faults : m.faults = m'.faults
  delays : m.delays = m'.delays
  auto : ∀ claim : Claim, m.claims[key]? = some claim → claim.spec.type = "AutoGenerated"

section StoresSameButValues

variable {key : Key} {m m' : Memory}

/-- A Secret is stored in both, with the same but values. -/
theorem StoresSameButValues.insert (h : StoresSameButValues key m m') {secret secret' : Secret}
    (hs : secret.blank = secret'.blank) :
    StoresSameButValues key
      { m with secrets := m.secrets.insert secret.metadata.place secret }
      { m' with secrets := m'.secrets.insert secret'.metadata.place secret' } where
  claims := h.claims
  faults := h.faults
  delays := h.delays
  auto := h.auto
  secrets := by
    rw [← Secret.metadata_of_blank hs]
    exact Keyed.map_getElem?_insert h.secrets hs

/-- There is a Secret in both or in neither. -/
theorem StoresSameButValues.contains (h : StoresSameButValues key m m') (k : Key) :
    m.secrets.contains k = m'.secrets.contains k := Keyed.contains_of_map h.secrets k

/-- What a call does that is not told to fail differs in values at most. -/
theorem StoresSameButValues.act (h : StoresSameButValues key m m') {call call' : StoreCall}
    (hc : call.blank = call'.blank) :
    Event.blank ⟨.store call, (m.act call).1⟩ = Event.blank ⟨.store call', (m'.act call').1⟩ ∧
      StoresSameButValues key (m.act call).2 (m'.act call').2 := by
  have hclaims := h.claims
  cases call with
  | readClaim k =>
    cases call' <;> cases hc
    simp only [Memory.act, hclaims]
    exact ⟨trivial, h⟩
  | readSecret k =>
    cases call' <;> cases hc
    refine ⟨?_, h⟩
    simp only [Memory.act, Event.blank, Effect.blankAnswer, Except.map]
    rw [h.secrets k]
  | writeStatus claim status =>
    cases call' <;> cases hc
    simp only [Memory.act, hclaims]
    split
    · exact ⟨rfl, h⟩
    next stored hs =>
      refine ⟨rfl, ⟨rfl, h.secrets, h.faults, h.delays, fun found hfound => ?_⟩⟩
      rcases Keyed.getElem?_insert_cases hfound with ⟨rfl, rfl⟩ | ⟨-, hfound⟩
      · exact h.auto stored (hclaims ▸ hs)
      · exact h.auto found (hclaims ▸ hfound)
  | createSecret secret =>
    cases call' with
    | createSecret secret' =>
      have hs : secret.blank = secret'.blank := StoreCall.createSecret.inj hc
      have hplace := congrArg Metadata.place (Secret.metadata_of_blank hs)
      have inserted := h.insert hs
      simp only [Memory.act, ← hplace, ← h.contains]
      rw [← hplace] at inserted
      split
      · exact ⟨Event.blank_create hs _, h⟩
      · exact ⟨Event.blank_create hs _, inserted⟩
    | _ => cases hc
  | replaceSecret secret =>
    cases call' with
    | replaceSecret secret' =>
      have hs : secret.blank = secret'.blank := StoreCall.replaceSecret.inj hc
      exact ⟨Event.blank_replace hs _, h.insert hs⟩
    | _ => cases hc

theorem StoresSameButValues.logged (h : StoresSameButValues key m m') (call call' : StoreCall) :
    StoresSameButValues key (m.logged call) (m'.logged call') :=
  ⟨h.claims, h.secrets, h.faults, h.delays, h.auto⟩

theorem kind_of_blank {call call' : StoreCall} (h : call.blank = call'.blank) :
    call.kind = call'.kind := by
  cases call <;> cases call' <;> first | rfl | cases h

/-- Calls that are told to fail, and differ in values, fail the same. -/
theorem blank_error {call call' : StoreCall} (h : call.blank = call'.blank) (e : StoreError) :
    Event.blank ⟨.store call, .error e⟩ = Event.blank ⟨.store call', .error e⟩ := by
  cases call with
  | createSecret secret =>
    cases call' with
    | createSecret secret' => exact Event.blank_create (StoreCall.createSecret.inj h) _
    | _ => cases h
  | replaceSecret secret =>
    cases call' with
    | replaceSecret secret' => exact Event.blank_replace (StoreCall.replaceSecret.inj h) _
    | _ => cases h
  | _ =>
    cases call' <;> cases h
    rfl

/-- **Stores in memory do not look at the values of Secret data.** -/
theorem memory_oblivious (key : Key) : Oblivious key Memory.serve (StoresSameButValues key) where
  generated {m m' claim} h hread := h.auto claim (Memory.readClaim_ok hread).1
  reply {call call' m m'} h hc := by
    have hlogged := h.logged call call'
    have hkind := kind_of_blank hc
    have hfaults : m'.faults call'.kind = m.faults call.kind := by rw [h.faults, hkind]
    have hdelay : m.delays call.kind = m'.delays call'.kind := by rw [h.delays, hkind]
    cases hf : m.faults call.kind with
    | some e =>
      rw [hf] at hfaults
      refine ⟨rfl, hdelay, ?_, hlogged, ?_⟩
      · simp only [Memory.serve, hf, hfaults]
        exact blank_error hc e
      · simp only [Memory.serve, hf, hfaults]
        exact hlogged
    | none =>
      rw [hf] at hfaults
      obtain ⟨hanswer, hafter⟩ := hlogged.act hc
      refine ⟨rfl, hdelay, ?_, hlogged, ?_⟩
      · simp only [Memory.serve, hf, hfaults]
        exact hanswer
      · simp only [Memory.serve, hf, hfaults]
        exact hafter

end StoresSameButValues

/-! ## 5. Two passwords for one claim -/

namespace Source

/-- Where every chunk has a character to offer, as many chunks as characters are enough. -/
theorem gather_isSome_of_productive {E : Type} {fill : E → Except EntropyFailure Bytes × E}
    {enc : Encoding}
    (productive : ∀ e, ∃ chunk, (fill e).1 = .ok chunk ∧ chunk.filterMap enc.char? ≠ [])
    {length fuel : Nat} {value : List Char} (e : E) (h : length ≤ value.length + fuel) :
    (Generator.gather fill enc length fuel value e).isSome = true := by
  induction fuel generalizing value e with
  | zero =>
    unfold Generator.gather
    rw [if_pos (by omega)]
    rfl
  | succ fuel ih =>
    unfold Generator.gather
    split
    · rfl
    next hshort =>
      obtain ⟨chunk, hchunk, hoffer⟩ := productive e
      generalize hfill : fill e = filled at hchunk
      obtain ⟨answer, next⟩ := filled
      obtain rfl : answer = .ok chunk := hchunk
      have hlength := List.length_pos_iff.mpr hoffer
      refine ih next ?_
      simp only [Generator.absorb, List.length_append, List.length_take]
      omega

/-- Bytes that are all the same, one that every class of characters accepts. -/
def constant (b : UInt8) (accepted : ∀ enc : Encoding, (enc.char? b).isSome = true) :
    Source Unit where
  fill count _ := (List.replicate count b, ())
  enough _ length _ := length
  completes enc length e := by
    refine gather_isSome_of_productive (fun _ => ⟨_, rfl, ?_⟩) e (by simp)
    obtain ⟨c, hc⟩ := Option.isSome_iff_exists.mp (accepted enc)
    have hsize : Generator.chunkSize length ≠ 0 := by
      unfold Generator.chunkSize
      omega
    simpa [List.filterMap_replicate, hc] using hsize

end Source

namespace Undisclosed

/-- The claim with another trigger. -/
def rotated : Claim :=
  { Rotating.claim with
    spec :=
      { Rotating.claim.spec with
        generation := Rotating.claim.spec.generation.map ({ · with reconcileTrigger := "t2" }) } }

/-- Stores with the claim and no Secret. -/
def stores : Memory := { claims := (∅ : Keyed Claim).insert Rotating.key Rotating.claim }

/-- The claim is delivered as it is, then with another trigger, and then when its Secret has
been removed. -/
def rounds : List (Round Memory) :=
  [⟨id, Rotating.claim, ⟨0, 0⟩⟩, ⟨Memory.putClaim rotated true, rotated, ⟨60, 0⟩⟩,
    ⟨Memory.removeSecret Rotating.key, rotated, ⟨120, 0⟩⟩]

/-- All bytes are zero, or all are one. -/
def source (one : Bool) : Source Unit :=
  .constant (if one then 1 else 0) fun enc => by cases one <;> cases enc <;> decide

/-- The run with one source or the other. -/
def ran (one : Bool) : Ran (Site Memory Unit (Bench Unit)) :=
  attendAll (serving Memory.serve (source one) (Bench.serve nowhere)) {} rounds .empty
    ⟨stores, (), { stores := (), entropy := Rotating.bench.entropy }⟩ []

theorem start : StoresSameButValues Rotating.key stores stores where
  claims := rfl
  secrets _ := rfl
  faults := rfl
  delays := rfl
  auto claim h := by
    rcases Keyed.getElem?_insert_cases h with ⟨-, rfl⟩ | ⟨-, h⟩
    · rfl
    · rw [Std.ExtTreeMap.getElem?_empty] at h
      cases h

/-- Nobody looks at the values. -/
theorem blind : ∀ round ∈ rounds, ∀ m m', StoresSameButValues Rotating.key m m' →
    StoresSameButValues Rotating.key (round.outside m) (round.outside m') := by
  intro round hround m m' h
  simp only [rounds, List.mem_cons, List.not_mem_nil, or_false] at hround
  rcases hround with rfl | rfl | rfl
  · exact h
  · have hclaims := h.claims
    refine ⟨by simp only [Memory.putClaim, hclaims], h.secrets, h.faults, h.delays, ?_⟩
    intro claim hclaim
    rcases Keyed.getElem?_insert_cases hclaim with ⟨-, rfl⟩ | ⟨-, hclaim⟩
    · rfl
    · exact h.auto claim hclaim
  · exact ⟨h.claims, Keyed.map_getElem?_erase h.secrets, h.faults, h.delays, h.auto⟩

end Undisclosed

/-- A password is made, replaced and made again, from one source or the other: the passwords
differ, and nothing else does. -/
theorem passwords_undisclosed :
    (Undisclosed.ran true).accounts.map Account.ending =
      [some (.ok .created), some (.ok .updated), some (.ok .created)] ∧
    Rotating.password? (Undisclosed.ran true).world.stores ≠
      Rotating.password? (Undisclosed.ran false).world.stores ∧
    (Undisclosed.ran true).accounts = (Undisclosed.ran false).accounts ∧
    (Undisclosed.ran true).seen.map Signal.blank =
      (Undisclosed.ran false).seen.map Signal.blank := by
  have on_key : ∀ round ∈ Undisclosed.rounds, round.claim.key? = some Rotating.key := by decide
  obtain ⟨haccounts, hseen, -⟩ := values_reach_secrets_only (memory_oblivious Rotating.key)
    (Undisclosed.source true) (Undisclosed.source false) (Bench.serve nowhere) {} on_key
    Undisclosed.blind Undisclosed.start .empty () ()
    { stores := (), entropy := Rotating.bench.entropy }
  exact ⟨by decide +kernel, by decide +kernel, haccounts, hseen⟩

end Controller

end SecretKeeper
