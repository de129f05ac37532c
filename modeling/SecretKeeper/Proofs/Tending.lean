/-
# What a cycle knows at its end

Of one claim a single cycle is on its way at a time.  While it is, the status of the claim is
its own: it is the one that the cycle has read, or the one that it has reported since (`Tells`).
And the Secret that it has found, or written, is still there.  Others may edit the spec of the
claim and whatever is in the Secret (`Tended`).

So what the transcript of a cycle says is so at its end (`Step.current`).
-/
import SecretKeeper.Proofs.Run

namespace SecretKeeper.Controller

section Tending

variable {key : Key} {s s' : System} {move : Move} {claim : Claim} {c c' : Cluster}

/-! ## 1. One cycle at a time -/

/-- At most one cycle for the key is on its way. -/
def System.Single (key : Key) (s : System) : Prop := (s.flights.map Flight.key).count key ≤ 1

theorem System.Grounded.count_eq_zero (grounded : s.Grounded key) :
    (s.flights.map Flight.key).count key = 0 := by
  refine List.count_eq_zero.mpr fun hm => ?_
  obtain ⟨f, hf, hk⟩ := List.mem_map.mp hm
  exact grounded f hf hk

theorem System.Grounded.none_single (grounded : s.Grounded key) : s.Single key := by
  simp [System.Single, grounded.count_eq_zero]

/-- The first cycle for a key is the only one. -/
theorem System.Grounded.single (grounded : s.Grounded key) (h : Step s (.begun key) s') :
    s'.Single key := by
  cases h with
  | begun c flights k => simpa [System.Single, Flight.start] using grounded.count_eq_zero

/-- It remains the only one while no other begins. -/
theorem System.Single.step (single : s.Single key) (h : Step s move s') (hb : move ≠ .begun key) :
    s'.Single key := by
  cases h with
  | outside flights _ => exact single
  | begun c flights k =>
    have hk : k ≠ key := fun hk => hb (by rw [hk])
    simpa [System.Single, Flight.start, List.count_cons, hk] using single
  | asked before after _ => simpa [System.Single] using single
  | dropped c before after f =>
    simp only [System.Single, List.map_append, List.map_cons, List.count_append,
      List.count_cons] at single ⊢
    omega

/-- No other cycle is for the key of the only one. -/
theorem System.Single.others {before after : List Flight} {f : Flight}
    (single : System.Single f.key ⟨c, before ++ f :: after⟩) :
    ∀ g ∈ before ++ after, g.key ≠ f.key := by
  simp only [System.Single, List.map_append, List.map_cons, List.count_append,
    List.count_cons_self] at single
  have hnone : ((before ++ after).map Flight.key).count f.key = 0 := by
    rw [List.map_append, List.count_append]
    omega
  exact fun g hg hk => List.count_eq_zero.mp hnone (List.mem_map.mpr ⟨g, hg, hk⟩)

theorem System.Single.eq {f g : Flight} (single : s.Single key) (hf : f ∈ s.flights)
    (hg : g ∈ s.flights) (hkf : f.key = key) (hkg : g.key = key) : g = f := by
  subst hkf
  obtain ⟨c, flights⟩ := s
  obtain ⟨before, after, rfl⟩ := List.append_of_mem hf
  have hothers := single.others g
  simp only [List.mem_append, List.mem_cons] at hg hothers
  rcases hg with hg | rfl | hg
  · exact absurd hkg (hothers (.inl hg))
  · rfl
  · exact absurd hkg (hothers (.inr hg))

/-- If the only cycle for the key is answered, then all that is on its way for the key after
that has this answer last in its log. -/
theorem Step.log_of_single {f : Flight} {r : Effect} {answer : r.Answer}
    (h : Step s (.asked f r answer) s') (single : s.Single f.key) :
    ∀ g ∈ s'.flights, g.key = f.key → g.log = f.log ++ [⟨r, answer⟩] := by
  have single' := single.step h nofun
  cases h with
  | @asked c c' key log r resume answer before after ha =>
    intro g hg hk
    have heq : g = ⟨key, log ++ [⟨r, answer⟩], resume answer⟩ := single'.eq (by simp) hg rfl hk
    rw [heq]

/-- What a step is to the only cycle for a key: this cycle is answered, or it has no part in it,
and then what is stored under the key changes only if others change it. -/
inductive Turn (key : Key) (s : System) (move : Move) (s' : System) : Prop
  | heard {log : List (Event controllerInterface)} {r : Effect} {answer : r.Answer}
      {resume : r.Answer → Controller (Except CycleError Outcome)}
      (there : ⟨key, log, .ask r resume⟩ ∈ s.flights)
      (move_eq : move = .asked ⟨key, log, .ask r resume⟩ r answer)
      (answered : Cluster.Answers r s.cluster answer s'.cluster)
      (only : ∀ f ∈ s'.flights, f.key = key → f = ⟨key, log ++ [⟨r, answer⟩], resume answer⟩)
  | apart (others : ∀ g r answer, move = .asked g r answer → g.key ≠ key)
      (stayed : ∀ f ∈ s'.flights, f.key = key → f ∈ s.flights ∨ f = .start key)
      (kept : move ≠ .outside → s'.cluster.claims[key]? = s.cluster.claims[key]? ∧
        s'.cluster.secrets[key]? = s.cluster.secrets[key]?)

theorem Step.turn (h : Step s move s') (hs : s.Sound) (single : s.Single key) :
    Turn key s move s' := by
  by_cases hasked : ∃ (g : Flight) (r : Effect) (answer : r.Answer),
      move = .asked g r answer ∧ g.key = key
  · obtain ⟨g, r, answer, rfl, rfl⟩ := hasked
    have single' := single.step h nofun
    cases h with
    | @asked c c' k log r resume answer before after ha =>
      exact .heard (by simp) rfl ha fun f hf hk => single'.eq (by simp) hf rfl hk
  · have others : ∀ g r answer, move = .asked g r answer → g.key ≠ key :=
      fun g r answer hmove hg => hasked ⟨g, r, answer, hmove, hg⟩
    refine .apart others (fun f hf hk => ?_) fun ho => ⟨?_, ?_⟩
    · cases h.since hf with
      | stayed hf => exact .inl hf
      | begun k _ => exact .inr (by rw [← hk]; rfl)
      | @told k log r answer resume _ hmove _ => exact absurd hk (others ⟨k, log, _⟩ r answer hmove)
    · rcases h.claim_cases key hs ho with same | ⟨g, _, _, _, _, hmove, -, hg, -⟩
      · exact same
      · exact absurd hg (others _ _ _ hmove)
    · rcases h.secret_cases key hs ho with same | ⟨g, _, _, _, _, _, _, _, hmove, -, hg, -⟩
      · exact same
      · exact absurd hg (others _ _ _ hmove)

/-! ## 2. What others do -/

/-- Others edit the spec of the claim at most, and leave a Secret where there is one. -/
structure Tended (key : Key) (s : System) (move : Move) (s' : System) : Prop where
  status : move = .outside → ∀ old, s.cluster.claims[key]? = some old →
    ∃ claim, s'.cluster.claims[key]? = some claim ∧ claim.status = old.status
  secret : move = .outside → s.cluster.secrets[key]? ≠ none → s'.cluster.secrets[key]? ≠ none

/-- Where there was a Secret there is one: the controller removes none. -/
theorem Tended.secret_there (h : Tended key s move s') (step : Step s move s') (hs : s.Sound)
    (there : s.cluster.secrets[key]? ≠ none) : s'.cluster.secrets[key]? ≠ none := by
  by_cases ho : move = .outside
  · exact h.secret ho there
  · rcases step.secret_cases key hs ho with
      hsame | ⟨f, claim, existing, demand, drawn, data, answer, v, -, -, -, -, -, hnew⟩
    · rw [hsame]
      exact there
    · rw [hnew]
      nofun

/-! ## 3. What a transcript says -/

/-- The claim is there, with this status. -/
def StatusIs (c : Cluster) (key : Key) (status : Option Status) : Prop :=
  ∃ stored, c.claims[key]? = some stored ∧ stored.status = status

/-- The event says which status the claim has. -/
inductive TellsStatus (key : Key) : Event controllerInterface → Option Status → Prop
  | read (claim : Claim) :
      TellsStatus key (told (.readClaim key) (.ok (some claim))) claim.status
  | reported {claim : Claim} (status : Status)
      (value : (StoreCall.writeStatus claim status).Value) :
      TellsStatus key (told (.writeStatus claim status) (.ok value)) (some status)

/-- The status that the transcript tells: no report came after the event that says so. -/
def Tells (key : Key) (log : List (Event controllerInterface)) (status : Option Status) : Prop :=
  ∃ before e after, log = before ++ e :: after ∧ TellsStatus key e status ∧
    ∀ x ∈ after, writesStatus x = false

/-- A report that got through tells what it says. -/
theorem tells_report (front : List (Event controllerInterface)) (status : Status)
    (value : (StoreCall.writeStatus claim status).Value) :
    Tells key (front ++ [told (.writeStatus claim status) (.ok value)]) (some status) :=
  ⟨front, _, [], rfl, .reported status value, List.forall_mem_nil _⟩

/-- What the store calls of a transcript tell, the transcript tells. -/
theorem Tells.of_outward {log : List (Event controllerInterface)} {status : Option Status}
    (h : Tells key (outward log) status) : Tells key log status := by
  obtain ⟨front, e, back, hlog, tells, hback⟩ := h
  obtain ⟨before, after, rfl, -, hafter⟩ := exists_cut hlog
  refine ⟨before, e, after, rfl, tells, fun x hx => ?_⟩
  by_cases hout : isOutward x = true
  · exact hback x (hafter ▸ List.mem_filter.mpr ⟨hx, hout⟩)
  · obtain ⟨r, answer⟩ := x
    cases r with
    | store call => exact absurd rfl hout
    | _ => rfl

/-- The event shows that there is a Secret under the key. -/
inductive ShowsSecret (key : Key) : Event controllerInterface → Prop
  | read (secret : Secret) : ShowsSecret key (told (.readSecret key) (.ok (some secret)))
  | created {secret : Secret} (value : (StoreCall.createSecret secret).Value)
      (h : secret.key? = some key) : ShowsSecret key (told (.createSecret secret) (.ok value))
  | replaced {secret : Secret} (value : (StoreCall.replaceSecret secret).Value)
      (h : secret.key? = some key) : ShowsSecret key (told (.replaceSecret secret) (.ok value))

/-- An answer that shows a Secret comes with one. -/
theorem ShowsSecret.there {r : Effect} {answer : r.Answer} (h : ShowsSecret key ⟨r, answer⟩)
    (ha : Cluster.Answers r c answer c') : c'.secrets[key]? ≠ none := by
  cases h with
  | read secret =>
    rw [ha.secret_stored]
    nofun
  | created value h =>
    cases ha.acts with
    | createSecret hk free fresh =>
      obtain rfl := Option.some.inj (hk.symm.trans h)
      exact ne_of_eq_of_ne Std.ExtTreeMap.getElem?_insert_self nofun
  | replaced value h =>
    cases ha.acts with
    | replaceSecret hk there current fresh =>
      obtain rfl := Option.some.inj (hk.symm.trans h)
      exact ne_of_eq_of_ne Std.ExtTreeMap.getElem?_insert_self nofun

/-- What is not a report changes no claim. -/
theorem claims_of_not_report {r : Effect} {answer : r.Answer} (ha : Cluster.Answers r c answer c')
    (h : writesStatus ⟨r, answer⟩ = false) : c'.claims = c.claims := by
  rcases ha.claims_cases with same | ⟨claim, status, k, stored, rfl, -⟩
  · exact same
  · cases h

/-- What an answer says of the status is so. -/
theorem TellsStatus.holds {log : List (Event controllerInterface)} {r : Effect}
    {resume : r.Answer → Controller (Except CycleError Outcome)} {answer : r.Answer}
    {status : Option Status} (h : TellsStatus key ⟨r, answer⟩ status)
    (sound : Flight.Sound c ⟨key, log, .ask r resume⟩) (ha : Cluster.Answers r c answer c') :
    StatusIs c' key status := by
  cases h with
  | read claim =>
    refine ⟨claim, ?_, rfl⟩
    rw [claims_of_not_report ha rfl]
    exact ha.claim_stored
  | reported status value =>
    have reporting := report_of_reaches sound.reaches
    have hk := sound.claims key _ (mem_of_mem_outward reporting.claim_read)
    cases ha.acts with
    | @writeStatus _ _ stored k _ hk' there =>
      obtain rfl := Option.some.inj (hk'.symm.trans hk)
      exact ⟨{ stored with status := some status }, Std.ExtTreeMap.getElem?_insert_self, rfl⟩

/-- What the transcript says of the status is so. -/
def StatusTold (key : Key) (c : Cluster) (log : List (Event controllerInterface)) : Prop :=
  ∀ status, Tells key log status → StatusIs c key status

theorem StatusTold.nil : StatusTold key c [] := by
  rintro status ⟨before, e, after, hlog, -, -⟩
  simp at hlog

/-- An answer leaves it as true as it was. -/
theorem StatusTold.told {log : List (Event controllerInterface)} {r : Effect}
    {resume : r.Answer → Controller (Except CycleError Outcome)} {answer : r.Answer}
    (h : StatusTold key c log) (sound : Flight.Sound c ⟨key, log, .ask r resume⟩)
    (ha : Cluster.Answers r c answer c') : StatusTold key c' (log ++ [⟨r, answer⟩]) := by
  rintro status ⟨before, e, after, hlog, tells, hafter⟩
  rcases concat_cut_cases hlog with ⟨-, rfl, -⟩ | ⟨rest, rfl, rfl⟩
  · exact tells.holds sound ha
  · have hsame := claims_of_not_report ha (hafter _ (by simp))
    have hrest : ∀ x ∈ rest, writesStatus x = false := fun x hx => hafter x (by simp [hx])
    rw [StatusIs, hsame]
    exact h status ⟨before, e, rest, rfl, tells, hrest⟩

/-- **What the transcript of the only cycle says of the status stays so**, while others leave the
status alone. -/
theorem Step.statusTold (h : Step s move s') (hs : s.Sound) (single : s.Single key)
    (kept : move = .outside → ∀ old, s.cluster.claims[key]? = some old →
      ∃ claim, s'.cluster.claims[key]? = some claim ∧ claim.status = old.status)
    (told : ∀ f ∈ s.flights, f.key = key → StatusTold key s.cluster f.log) :
    ∀ f ∈ s'.flights, f.key = key → StatusTold key s'.cluster f.log := by
  intro f hf hk
  cases h.turn hs single with
  | heard there _ answered only =>
    rw [only f hf hk]
    exact (told _ there rfl).told (hs _ there) answered
  | apart _ stayed same =>
    rcases stayed f hf hk with hf | rfl
    · intro status ht
      obtain ⟨stored, hstored, rfl⟩ := told f hf hk status ht
      by_cases ho : move = .outside
      · exact kept ho stored hstored
      · exact ⟨stored, (same ho).1.trans hstored, rfl⟩
    · exact .nil

/-- What the transcript says is so. -/
structure Current (key : Key) (c : Cluster) (log : List (Event controllerInterface)) : Prop where
  status : StatusTold key c log
  secret : ∀ e ∈ log, ShowsSecret key e → c.secrets[key]? ≠ none

theorem Current.nil : Current key c [] := ⟨.nil, fun _ he _ => absurd he List.not_mem_nil⟩

/-- **What the transcript of the only cycle says stays so**, while others keep to what is
theirs. -/
theorem Step.current (h : Step s move s') (hs : s.Sound) (single : s.Single key)
    (tended : Tended key s move s')
    (current : ∀ f ∈ s.flights, f.key = key → Current key s.cluster f.log) :
    ∀ f ∈ s'.flights, f.key = key → Current key s'.cluster f.log := by
  have secret := tended.secret_there h hs
  refine fun f hf hk => ⟨h.statusTold hs single tended.status
    (fun g hg hkg => (current g hg hkg).status) f hf hk, fun e he shows' => ?_⟩
  cases h.turn hs single with
  | heard there _ answered only =>
    rw [only f hf hk] at he
    rcases List.mem_append.mp he with he | he
    · exact secret ((current _ there rfl).secret e he shows')
    · obtain rfl := List.mem_singleton.mp he
      exact shows'.there answered
  | apart _ stayed _ =>
    rcases stayed f hf hk with hf | rfl
    · exact secret ((current f hf hk).secret e he shows')
    · exact absurd he List.not_mem_nil

/-! ## 4. One cycle after another -/

/-- A cycle for the key begins when no other is on its way, and all its store calls succeed.
Others edit the claim at most, and not its status. -/
structure Orderly (key : Key) (s : System) (move : Move) (s' : System) : Prop where
  alone : move = .begun key → s.Grounded key
  succeeds : ∀ f call e, move = .asked f (.store call) (.error e) → f.key ≠ key
  status : move = .outside → ∀ old, s.cluster.claims[key]? = some old →
    ∃ claim, s'.cluster.claims[key]? = some claim ∧ claim.status = old.status

theorem Orderly.begun (grounded : s.Grounded key) {k : Key} : Orderly key s (.begun k) s' where
  alone _ := grounded
  succeeds _ _ _ h := nomatch h
  status h := nomatch h

theorem Orderly.answered {f : Flight} {call : StoreCall} {value : call.Value} :
    Orderly key s (.asked f (.store call) (.ok value)) s' where
  alone h := nomatch h
  succeeds _ _ _ h := by cases h
  status h := nomatch h

/-- What is not a store call cannot fail as one. -/
theorem Orderly.apart {f : Flight} {r : Effect} {answer : r.Answer}
    (h : call? ⟨r, answer⟩ = none) : Orderly key s (.asked f r answer) s' where
  alone h := nomatch h
  succeeds _ _ _ heq := by
    cases heq
    cases h
  status h := nomatch h

theorem Orderly.dropped {f : Flight} : Orderly key s (.dropped f) s' where
  alone h := nomatch h
  succeeds _ _ _ h := nomatch h
  status h := nomatch h

/-- An edit of the claim. -/
theorem Orderly.edited {old claim : Claim} (there : s.cluster.claims[key]? = some old)
    (stored : s'.cluster.claims[key]? = some claim) (same : claim.status = old.status) :
    Orderly key s .outside s' where
  alone h := nomatch h
  succeeds _ _ _ h := nomatch h
  status _ c hc := by
    obtain rfl := Option.some.inj (there.symm.trans hc)
    exact ⟨claim, stored, same⟩

theorem Orderly.single (h : Orderly key s move s') (step : Step s move s')
    (single : s.Single key) : s'.Single key := by
  by_cases hb : move = .begun key
  · subst hb
    exact (h.alone rfl).single step
  · exact single.step step hb

/-- At most one cycle is on its way in an orderly run. -/
theorem Run.inTurn {rule : Rule} {moves : List Move} (run : Run rule s moves s')
    (orderly : ∀ {t move u}, rule t move u → Orderly key t move u) (grounded : s.Grounded key) :
    s'.Single key := by
  induction run with
  | here => exact grounded.none_single
  | step _ step kept ih => exact (orderly kept).single step ih

/-- Every store call that a cycle of an orderly run was told about has succeeded. -/
theorem Run.flawless {rule : Rule} {moves : List Move} (run : Run rule s moves s')
    (orderly : ∀ {t move u}, rule t move u → Orderly key t move u) (grounded : s.Grounded key)
    {f : Flight} (hf : f ∈ s'.flights) (hk : f.key = key) :
    ∀ e ∈ calls f.log, succeeded e = true := by
  rintro ⟨call, answer⟩ he
  obtain ⟨before, rest, hm⟩ := (run.recorded grounded f hf hk).asked (mem_of_mem_calls he)
  obtain ⟨_, _, _, _, _, kept⟩ := run.allowed hm
  cases answer with
  | ok value => rfl
  | error e => exact absurd hk ((orderly kept).succeeds ⟨f.key, before, rest⟩ call e rfl)

/-- What its transcript says of the status is so. -/
theorem Run.statusTold {rule : Rule} {moves : List Move} (run : Run rule s moves s')
    (orderly : ∀ {t move u}, rule t move u → Orderly key t move u) (hs : s.Sound)
    (grounded : s.Grounded key) :
    ∀ f ∈ s'.flights, f.key = key → StatusTold key s'.cluster f.log := by
  induction run with
  | here =>
    intro f hf hk
    exact absurd hk (grounded f hf)
  | step run step kept ih =>
    have single := run.inTurn orderly grounded
    exact step.statusTold (run.sound hs) single (orderly kept).status ih

end Tending

end SecretKeeper.Controller
