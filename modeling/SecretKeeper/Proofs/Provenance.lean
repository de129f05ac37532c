/-
# Where the values of a Secret come from

The type of a claim may change between cycles, back and forth.  Its Secret keeps what was written
last, and for a claim with generated values a cycle does not look at what this is: it writes only
if there is no Secret, or if the trigger of the claim is a new one.

So once a cycle has ended with an outcome, the data of the Secret are those of the last write of
the run (`Traced`).  They were generated for the write, or else the claim carries no new trigger;
then they may still be the verbatim values of an earlier version (`generated_data_origin`), and
there is a run in which they are (`verbatim_data_kept`).
-/
import SecretKeeper.Proofs.Generation
import SecretKeeper.Proofs.Stability
import SecretKeeper.Proofs.Settling

namespace SecretKeeper

/-- Claims of one name and one UID own the same Secrets. -/
theorem Secret.isOwnedBy_congr {c d : Claim} (hname : c.metadata.name = d.metadata.name)
    (huid : c.metadata.uid = d.metadata.uid) (s : Secret) : s.isOwnedBy c = s.isOwnedBy d := by
  simp [isOwnedBy, OwnerReference.pointsTo, hname, huid]

/-- The Secret belongs to any claim with this key and this UID. -/
def Secret.Belongs (s : Secret) (key : Key) (uid : Option String) : Prop :=
  ∀ claim : Claim, claim.key? = some key → claim.metadata.uid = uid → s.isOwnedBy claim = true

theorem Secret.belongs_of_isOwnedBy {s : Secret} {claim : Claim} {key : Key}
    (h : s.isOwnedBy claim = true) (placed : claim.key? = some key) :
    s.Belongs key claim.metadata.uid := by
  intro other hkey huid
  have hname := (Metadata.name_of_key? hkey).trans (Metadata.name_of_key? placed).symm
  rw [isOwnedBy_congr hname huid, h]

namespace Controller

section Provenance

variable {key : Key} {uid : Option String} {s s' t : System} {move : Move} {moves : List Move}
  {claim : Claim} {existing : Option Secret} {demand : Demand} {data : Dict Bytes}
  {drawn events : List (Event controllerInterface)} {f : Flight} {outcome : Outcome}

/-! ## 1. What others do -/

/-- Cycles for the key come one after another, and their store calls succeed.  Others edit the
claim, which remains the same object, with the same status; and they leave the Secret alone. -/
structure Attended (key : Key) (s : System) (move : Move) (s' : System) : Prop
    extends Orderly key s move s' where
  identity : move = .outside → ∀ old claim, s.cluster.claims[key]? = some old →
    s'.cluster.claims[key]? = some claim → claim.metadata.uid = old.metadata.uid
  spared : move = .outside → s'.cluster.secrets[key]? = s.cluster.secrets[key]?

/-- What is not done by others has only to be orderly. -/
theorem Attended.of_orderly (h : Orderly key s move s') (ho : move ≠ .outside) :
    Attended key s move s' where
  toOrderly := h
  identity heq := absurd heq ho
  spared heq := absurd heq ho

theorem Attended.tended (h : Attended key s move s') : Tended key s move s' where
  status := h.status
  secret ho there := by
    rw [h.spared ho]
    exact there

/-! ## 2. The Secret belongs to the claim -/

/-- The claim is there and has this UID, as has all that the cycles for the key have read of it;
and its Secret belongs to it, as do those that they have read. -/
structure System.Owned (key : Key) (uid : Option String) (s : System) : Prop where
  claim : ∃ claim, s.cluster.claims[key]? = some claim ∧ claim.metadata.uid = uid
  secret : ∀ secret, s.cluster.secrets[key]? = some secret → secret.Belongs key uid
  claims : ∀ f ∈ s.flights, f.key = key → ∀ claim,
    told (.readClaim key) (.ok (some claim)) ∈ f.log → claim.metadata.uid = uid
  secrets : ∀ f ∈ s.flights, f.key = key → ∀ secret,
    told (.readSecret key) (.ok (some secret)) ∈ f.log → secret.Belongs key uid

/-- A claim that is edited or reported on remains the same object. -/
theorem System.Owned.claim_later (h : s.Owned key uid) (hs : s.Sound) (step : Step s move s')
    (attended : Attended key s move s') :
    ∃ claim, s'.cluster.claims[key]? = some claim ∧ claim.metadata.uid = uid := by
  obtain ⟨old, hold, huid⟩ := h.claim
  by_cases ho : move = .outside
  · obtain ⟨claim, hclaim, -⟩ := attended.status ho old hold
    exact ⟨claim, hclaim, (attended.identity ho old claim hold hclaim).trans huid⟩
  · rcases step.claim_cases key hs ho with
      same | ⟨f, c, status, answer, stored, -, -, -, -, there, hnew⟩
    · exact ⟨old, same.trans hold, huid⟩
    · obtain rfl := Option.some.inj (there.symm.trans hold)
      exact ⟨_, hnew, huid⟩

/-- What the controller writes belongs to the claim that it has read. -/
theorem System.Owned.secret_later (h : s.Owned key uid) (hs : s.Sound) (step : Step s move s')
    (attended : Attended key s move s') (secret : Secret)
    (stored : s'.cluster.secrets[key]? = some secret) : secret.Belongs key uid := by
  by_cases ho : move = .outside
  · rw [attended.spared ho] at stored
    exact h.secret secret stored
  · rcases step.secret_cases key hs ho with
      same | ⟨f, claim, existing, demand, drawn, data, answer, v, -, hf, rfl, ready, -, hnew⟩
    · rw [same] at stored
      exact h.secret secret stored
    · obtain rfl := Option.some.inj (hnew.symm.trans stored)
      have read : told (.readClaim f.key) (.ok (some claim)) ∈ f.log :=
        ready.read_mem List.mem_cons_self
      have placed := (hs f hf).claims f.key claim read
      rw [← h.claims f hf rfl claim read]
      exact Secret.belongs_of_isOwnedBy (written_isOwnedBy placed ready.due.own) placed

theorem System.Owned.step (h : s.Owned key uid) (hs : s.Sound) (step : Step s move s')
    (attended : Attended key s move s') : s'.Owned key uid where
  claim := h.claim_later hs step attended
  secret := h.secret_later hs step attended
  claims f hf hk claim hm := by
    cases step.since hf with
    | stayed hf => exact h.claims f hf hk claim hm
    | begun k _ => exact absurd hm List.not_mem_nil
    | told there _ answered =>
      rcases List.mem_append.mp hm with hm | hm
      · exact h.claims _ there hk claim hm
      · cases List.mem_singleton.mp hm
        obtain ⟨stored, hstored, huid⟩ := h.claim
        obtain rfl := Option.some.inj (answered.claim_stored.symm.trans hstored)
        exact huid
  secrets f hf hk secret hm := by
    cases step.since hf with
    | stayed hf => exact h.secrets f hf hk secret hm
    | begun k _ => exact absurd hm List.not_mem_nil
    | told there _ answered =>
      rcases List.mem_append.mp hm with hm | hm
      · exact h.secrets _ there hk secret hm
      · cases List.mem_singleton.mp hm
        exact h.secret_later hs step attended secret answered.secret_stored

/-! ## 3. The last write -/

/-- The Secret write for the key that the move is the success of, with the cycle that made it. -/
def secretWrite? (key : Key) : Move → Option (Flight × StoreCall)
  | .asked f (.store call) (.ok _) =>
    if f.key = key ∧ call.writesSecret = true then some (f, call) else none
  | _ => none

/-- The last Secret write for the key. -/
def lastWrite (key : Key) (moves : List Move) : Option (Flight × StoreCall) :=
  (moves.filterMap (secretWrite? key)).getLast?

theorem secretWrite?_asked {g : Flight} {call : StoreCall} {value : call.Value} (hk : g.key = key)
    (hw : call.writesSecret = true) :
    secretWrite? key (.asked g (.store call) (.ok value)) = some (g, call) := if_pos ⟨hk, hw⟩

theorem of_secretWrite? {g : Flight} {call : StoreCall}
    (h : secretWrite? key move = some (g, call)) :
    g.key = key ∧ call.writesSecret = true ∧
      ∃ value, move = .asked g (.store call) (.ok value) := by
  unfold secretWrite? at h
  split at h
  next f c value =>
    split at h
    next hc =>
      cases h
      exact ⟨hc.1, hc.2, value, rfl⟩
    next => cases h
  next => cases h

theorem lastWrite_concat_of_none (moves : List Move) (h : secretWrite? key move = none) :
    lastWrite key (moves ++ [move]) = lastWrite key moves := by simp [lastWrite, h]

theorem lastWrite_concat_of_some (moves : List Move) {w : Flight × StoreCall}
    (h : secretWrite? key move = some w) :
    lastWrite key (moves ++ [move]) = some w := by simp [lastWrite, h]

/-- The last Secret write for the key is that of a cycle which had read the claim, and had made
these data for its demand. -/
def Origin (moves : List Move) (key : Key) (claim : Claim) (demand : Demand)
    (data : Dict Bytes) : Prop :=
  ∃ g existing drawn, lastWrite key moves = some (g, writeCall claim existing data) ∧
    g.key = key ∧ g.Ready claim existing demand drawn data

/-- The data of the Secret are those of the last write; and a cycle on its way that has written
the Secret has made just this write. -/
structure Traced (moves : List Move) (key : Key) (s : System) : Prop where
  stored : ∀ secret, s.cluster.secrets[key]? = some secret →
    ∃ claim demand data, secret.data = some data ∧ Origin moves key claim demand data
  wrote : ∀ f ∈ s.flights, f.key = key → ∀ call value, call.writesSecret = true →
    told call (.ok value) ∈ f.log →
      ∃ g, lastWrite key moves = some (g, call) ∧ ∀ e ∈ g.log, e ∈ f.log

/-- What is no successful write leaves the last one as it is. -/
theorem Traced.kept (h : Traced moves key s) (hnone : secretWrite? key move = none)
    (secret : s'.cluster.secrets[key]? = s.cluster.secrets[key]?)
    (wrote : ∀ f ∈ s'.flights, f.key = key → ∀ call value, call.writesSecret = true →
      told call (.ok value) ∈ f.log → ∃ g ∈ s.flights, g.key = key ∧
        told call (.ok value) ∈ g.log ∧ ∀ e ∈ g.log, e ∈ f.log) :
    Traced (moves ++ [move]) key s' where
  stored found hfound := by
    rw [secret] at hfound
    simpa only [Origin, lastWrite_concat_of_none moves hnone] using h.stored found hfound
  wrote f hf hk call value hw hm := by
    obtain ⟨g, hg, hkg, hmg, hsub⟩ := wrote f hf hk call value hw hm
    obtain ⟨w, hlast, hsame⟩ := h.wrote g hg hkg call value hw hmg
    exact ⟨w, (lastWrite_concat_of_none moves hnone).trans hlast, fun e he => hsub e (hsame e he)⟩

/-- Before its write a cycle has written nothing. -/
theorem Flight.Ready.unwritten (ready : f.Ready claim existing demand drawn data)
    {call : StoreCall} {answer : call.Answer} (hw : call.writesSecret = true) :
    told call answer ∉ f.log := by
  intro hm
  have hm : told call answer ∈ outward f.log := List.mem_filter.mpr ⟨hm, rfl⟩
  have hwrites : Controller.writesSecret (told call answer) = true := hw
  rw [ready.log_eq] at hm
  rcases List.mem_append.mp hm with hm | hm
  · rw [writesSecret_of_mem_reads hm] at hwrites
    cases hwrites
  · rw [ready.made.writesSecret_of_mem hm] at hwrites
    cases hwrites

/-- **No step loses track of the last write.** -/
theorem Traced.step (h : Traced moves key s) (hs : s.Sound) (single : s.Single key)
    (step : Step s move s') (attended : Attended key s move s') :
    Traced (moves ++ [move]) key s' := by
  cases step.turn hs single with
  | apart others stayed kept =>
    have hnone : secretWrite? key move = none := by
      refine Option.eq_none_iff_forall_ne_some.mpr fun w hw => ?_
      obtain ⟨hk, -, value, rfl⟩ := of_secretWrite? hw
      exact others _ _ _ rfl hk
    have secret : s'.cluster.secrets[key]? = s.cluster.secrets[key]? := by
      by_cases ho : move = .outside
      · exact attended.spared ho
      · exact (kept ho).2
    refine h.kept hnone secret fun f hf hk call value _ hm => ?_
    rcases stayed f hf hk with hf | rfl
    · exact ⟨f, hf, hk, hm, fun e he => he⟩
    · exact absurd hm List.not_mem_nil
  | @heard log r answer resume there move_eq answered only =>
    subst move_eq
    cases hwrite : secretWrite? key (.asked ⟨key, log, .ask r resume⟩ r answer) with
    | none =>
      have idle : ∀ call value, call.writesSecret = true → r = .store call →
          (⟨r, answer⟩ : Event controllerInterface) ≠ told call (.ok value) := by
        rintro call value hw rfl heq
        cases heq
        exact absurd (hwrite.symm.trans (secretWrite?_asked rfl hw)) nofun
      have secret : s'.cluster.secrets[key]? = s.cluster.secrets[key]? := by
        by_contra hne
        obtain ⟨call, value, rfl, hw, -⟩ := answered.acts_of_changed hne
        cases answer with
        | error e => exact attended.succeeds _ call e rfl rfl
        | ok value => exact idle call value hw rfl rfl
      refine h.kept hwrite secret fun f hf hk call value hw hm => ?_
      rw [only f hf hk] at hm ⊢
      refine ⟨_, there, rfl, ?_, fun e he => List.mem_append_left _ he⟩
      rcases List.mem_append.mp hm with hm | hm
      · exact hm
      · cases List.mem_singleton.mp hm
        exact absurd rfl (idle call value hw rfl)
    | some w =>
      obtain ⟨g, call⟩ := w
      obtain ⟨-, hw, value, hmove⟩ := of_secretWrite? hwrite
      cases hmove
      obtain ⟨claim, existing, demand, drawn, data, due, made, hlog, rfl⟩ :=
        write_of_reaches (hs _ there).reaches hw
      have ready : Flight.Ready ⟨key, log, _⟩ claim existing demand drawn data :=
        ⟨due, made, hlog⟩
      obtain ⟨-, ver, hnew⟩ := ready.stores hs step
      have hlast := lastWrite_concat_of_some moves hwrite
      refine ⟨fun secret stored => ?_, fun f hf hk call value hw hm => ?_⟩
      · obtain rfl := Option.some.inj (hnew.symm.trans stored)
        exact ⟨claim, demand, data, written_data, _, existing, drawn, hlast, rfl, ready⟩
      · rw [only f hf hk] at hm ⊢
        rcases List.mem_append.mp hm with hm | hm
        · exact absurd hm (ready.unwritten hw)
        · cases List.mem_singleton.mp hm
          exact ⟨_, hlast, fun e he => List.mem_append_left _ he⟩

/-! ## 4. Over a run -/

/-- What the transcript of the only cycle says is so, and the Secret belongs to the claim. -/
theorem Run.attended (run : Run (Attended key) s moves t) (hs : s.Sound)
    (grounded : s.Grounded key) (owned : s.Owned key uid) :
    (∀ f ∈ t.flights, f.key = key → Current key t.cluster f.log) ∧ t.Owned key uid := by
  have kept := run.keeps (P := fun s => s.Single key ∧
    (∀ f ∈ s.flights, f.key = key → Current key s.cluster f.log) ∧ s.Owned key uid) hs ?_
    ⟨grounded.none_single, fun f hf hk => absurd hk (grounded f hf), owned⟩
  · exact kept.2
  · rintro t move u hs step attended ⟨single, current, owned⟩
    exact ⟨attended.single step single, step.current hs single attended.tended current,
      owned.step hs step attended⟩

theorem Run.traced (run : Run (Attended key) s moves t) (hs : s.Sound)
    (grounded : s.Grounded key) (absent : s.cluster.secrets[key]? = none) :
    Traced moves key t := by
  induction run with
  | here =>
    refine ⟨fun secret stored => ?_, fun f hf hk => absurd hk (grounded f hf)⟩
    rw [absent] at stored
    cases stored
  | step run step kept ih =>
    have single := run.inTurn (fun kept => kept.toOrderly) grounded
    exact ih.step (run.sound hs) single step kept

/-- A cycle for generated values that ended with an outcome has written the Secret, or it has
found no new trigger. -/
theorem Course.wrote_or_still (h : Course key events (.ok outcome))
    (read : told (.readClaim key) (.ok (some claim)) ∈ events)
    (generated : claim.spec.type = "AutoGenerated") (hforeign : outcome ≠ .skippedForeign) :
    (∃ existing data value, told (writeCall claim existing data) (.ok value) ∈ events) ∨
      claim.reconcileTrigger = "" ∨ claim.reconcileTrigger = claim.lastReconcileTrigger := by
  have unique : ∀ {other}, told (.readClaim key) (.ok (some other)) ∈ events → claim = other :=
    fun again => h.claim_unique read again
  have still : ∀ {secret demand}, Met claim secret demand →
      claim.reconcileTrigger = "" ∨ claim.reconcileTrigger = claim.lastReconcileTrigger := by
    intro secret demand met
    obtain ⟨p, rfl, hp⟩ := claim.demand_of_generated generated met.valid
    rw [← hp]
    exact Drift.triggerChanged_eq_false_iff.mp met.still
  cases h with
  | gone => cases List.mem_singleton.mp read
  | foreign _ => exact absurd rfl hforeign
  | @written other existing demand attempt stamp sent due h =>
    obtain rfl : claim = other := unique (by simp [reads])
    obtain ⟨drawn, data, value, -, rfl⟩ := h.eq_of_ok
    exact .inl ⟨existing, data, value, by simp⟩
  | @repaired other secret demand stamp sent met h =>
    obtain rfl : claim = other := unique (by simp [reads])
    exact .inr (still met)
  | @idle other secret demand met h =>
    obtain rfl : claim = other := unique (by simp [reads])
    exact .inr (still met)

/-- A cycle that ended without a claim has read none. -/
theorem Course.ne_claimGone (h : Course key events (.ok outcome))
    (read : told (.readClaim key) (.ok (some claim)) ∈ events) : outcome ≠ .claimGone := by
  rintro rfl
  generalize hending : (Except.ok .claimGone : Except CycleError Outcome) = ending at h
  cases h with
  | gone => cases List.mem_singleton.mp read
  | @written _ existing => cases existing <;> cases hending
  | _ => cases hending

/-- A cycle that ended at the Secret of somebody else has read it. -/
theorem Course.foreign_read (h : Course key events (.ok .skippedForeign))
    (read : told (.readClaim key) (.ok (some claim)) ∈ events) :
    ∃ old, told (.readSecret key) (.ok (some old)) ∈ events ∧ old.isOwnedBy claim = false := by
  have unique : ∀ {other}, told (.readClaim key) (.ok (some other)) ∈ events → claim = other :=
    fun again => h.claim_unique read again
  generalize hending : (Except.ok .skippedForeign : Except CycleError Outcome) = ending at h
  cases h with
  | @foreign other old h =>
    obtain rfl : claim = other := unique (by simp [reads])
    exact ⟨old, by simp [reads], h⟩
  | @written _ existing => cases existing <;> cases hending
  | _ => cases hending

/-- **Where the data come from.**  At first there is a claim and no Secret, and no cycle for the
key is on its way.  Cycles come one after another, their store calls succeed, nobody else writes
the Secret, and others edit the spec of the claim as they like, its type too.  If a cycle that has
read the claim as one for generated values ends with an outcome, then the data of the Secret are
those of the last write of the run.  They were generated for it, or the claim that was read
carries no new trigger. -/
theorem generated_data_origin (past : Reachable s) (grounded : s.Grounded key)
    (claimed : ∃ first, s.cluster.claims[key]? = some first)
    (absent : s.cluster.secrets[key]? = none) (run : Run (Attended key) s moves t)
    (hf : f ∈ t.flights) (hk : f.key = key) (done : f.rest = .done (.ok outcome))
    (read : told (.readClaim key) (.ok (some claim)) ∈ f.log)
    (generated : claim.spec.type = "AutoGenerated") :
    ∃ secret origin demand data, t.cluster.secrets[key]? = some secret ∧
      secret.data = some data ∧ Origin moves key origin demand data ∧
        ((∃ p, demand = .generated p) ∨
          claim.reconcileTrigger = "" ∨ claim.reconcileTrigger = claim.lastReconcileTrigger) := by
  subst hk
  obtain ⟨first, hfirst⟩ := claimed
  have owned : s.Owned f.key first.metadata.uid :=
    { claim := ⟨first, hfirst, rfl⟩
      secret := fun secret stored => by rw [absent] at stored; cases stored
      claims := fun g hg hk => absurd hk (grounded g hg)
      secrets := fun g hg hk => absurd hk (grounded g hg) }
  have sound := run.sound past.sound f hf
  have placed := sound.claims f.key
  obtain ⟨current, owned⟩ := run.attended past.sound grounded owned
  have traced := run.traced past.sound grounded absent
  have course := sound.course done
  have read' : told (.readClaim f.key) (.ok (some claim)) ∈ outward f.log :=
    List.mem_filter.mpr ⟨read, rfl⟩
  have hforeign : outcome ≠ .skippedForeign := by
    rintro rfl
    obtain ⟨old, hold, notown⟩ := course.foreign_read read'
    have own := owned.secrets f hf rfl old (mem_of_mem_outward hold) claim (placed claim read)
      (owned.claims f hf rfl claim read)
    rw [own] at notown
    cases notown
  obtain ⟨e, he, shows'⟩ := course.shows_secret (course.ne_claimGone read') hforeign
    fun claim read => placed claim (mem_of_mem_outward read)
  obtain ⟨secret, stored⟩ := Option.ne_none_iff_exists'.mp
    ((current f hf rfl).secret e (mem_of_mem_outward he) shows')
  obtain ⟨origin, demand, data, hdata, g, existing, drawn, hlast, hg, ready⟩ :=
    traced.stored secret stored
  refine ⟨secret, origin, demand, data, stored, hdata,
    ⟨g, existing, drawn, hlast, hg, ready⟩, ?_⟩
  rcases course.wrote_or_still read' generated hforeign with ⟨old, made, value, hwrite⟩ | still
  · -- this cycle has made the last write itself, so the origin is the claim that it has read
    obtain ⟨h, hlast', hsub⟩ := traced.wrote f hf rfl (writeCall claim old made) value
      (by cases old <;> rfl) (mem_of_mem_outward hwrite)
    obtain ⟨rfl, -⟩ := Prod.mk.inj (Option.some.inj (hlast.symm.trans hlast'))
    have again : told (.readClaim f.key) (.ok (some origin)) ∈ outward f.log :=
      List.mem_filter.mpr ⟨hsub _ (hg ▸ ready.read_mem List.mem_cons_self), rfl⟩
    obtain rfl := course.claim_unique read' again
    obtain ⟨p, rfl, -⟩ := claim.demand_of_generated generated ready.due.valid
    exact .inl ⟨p, rfl⟩
  · exact .inr still

end Provenance

/-! ## 5. A claim that changes its type

A cycle makes the Secret of a claim for verbatim values.  Then the claim becomes one for a
generated password, without a trigger, and the next cycle finds nothing to do. -/

namespace Switch

def key : Key := ⟨"default", "db"⟩

def plain : Claim where
  metadata := { ns := some "default", name := some "db", uid := some "u1", generation := some 1 }
  spec := { type := "Opaque", data := Std.ExtTreeMap.ofList [("user", "admin")] }

/-- The claim with a report of its Secret. -/
def reported : Claim :=
  { plain with status := some (.afterSync plain (.verbatim plain.spec.data) "now") }

/-- The claim with another spec. -/
def switched : Claim :=
  { reported with
    metadata := { plain.metadata with generation := some 2 }
    spec :=
      { type := "AutoGenerated"
        generation := some { dataKeys := ["password"], length := 12 } } }

def data : Dict Bytes := verbatimBytes plain.spec.data

def secret : Secret := (Secret.new plain data).versioned "1"

theorem plain_key? : plain.key? = some key := rfl

theorem secret_key? : (Secret.new plain data).key? = some key := rfl

theorem switched_key? : switched.key? = some key := rfl

/-- A cluster with the claim alone. -/
def start : Cluster := Cluster.empty.putClaim key plain plain_key?

def created : Cluster := start.putSecret key (.new plain data) "1" secret_key?

def settled : Cluster := created.putClaim key reported plain_key?

/-- The cluster once the user has changed the spec. -/
def edited : Cluster := settled.putClaim key switched switched_key?

theorem plain_stored : start.claims[key]? = some plain := Cluster.claim_putClaim _ plain_key?

theorem secret_absent : start.secrets[key]? = none := Cluster.secret_empty key

theorem reported_stored : settled.claims[key]? = some reported := Cluster.claim_putClaim _ rfl

theorem switched_stored : edited.claims[key]? = some switched := Cluster.claim_putClaim _ rfl

theorem secret_stored : edited.secrets[key]? = some secret :=
  Cluster.secret_putSecret start "1" secret_key?

theorem secret_created : Cluster.Answers (.store (.createSecret (.new plain data))) start (.ok ())
    created := .done (.createSecret secret_key? secret_absent List.not_mem_nil)

theorem plain_reported : Cluster.Answers
    (.store (.writeStatus plain (.afterSync plain (.verbatim plain.spec.data) "now"))) created
    (.ok ()) settled := by
  have there : created.claims[key]? = some plain := plain_stored
  exact .done (.writeStatus _ plain_key? there)

theorem spec_edited : Step ⟨settled, []⟩ .outside ⟨edited, []⟩ :=
  .outside [] (.putClaim settled switched_key?)

/-- Such a run is allowed if the rule allows cycles one after another, whose store calls succeed,
and this edit. -/
structure Allows (rule : Rule) : Prop where
  begun : ∀ s s', s.Grounded key → rule s (.begun key) s'
  answered : ∀ s f (call : StoreCall) (value : call.Value) s',
    rule s (.asked f (.store call) (.ok value)) s'
  apart : ∀ s f (r : Effect) (answer : r.Answer) s', call? ⟨r, answer⟩ = none →
    rule s (.asked f r answer) s'
  dropped : ∀ s f s', rule s (.dropped f) s'
  edited : rule ⟨settled, []⟩ .outside ⟨edited, []⟩

end Switch

/-- The cycle after the edit ends without a write; and nothing was ever drawn. -/
theorem exists_switch {rule : Rule} (allows : Switch.Allows rule) :
    ∃ (moves : List Move) (f : Flight),
      Run rule ⟨Switch.start, []⟩ moves ⟨Switch.edited, [f]⟩ ∧ f.key = Switch.key ∧
        f.rest = .done (.ok .idle) ∧
        told (.readClaim Switch.key) (.ok (some Switch.switched)) ∈ f.log ∧
        ∀ g e length answer, .asked g (.draw e length) answer ∉ moves := by
  have h : Run rule ⟨Switch.start, []⟩ [] _ := .here
  have h := h.step (.begun Switch.start [] Switch.key) (allows.begun _ _ nofun)
  have h := h.step (.asked [] [] (.claim_read Switch.plain_stored)) (allows.answered ..)
  have h := h.step (.asked [] [] (.noted "claim.type" "Opaque")) (allows.apart _ _ _ _ _ rfl)
  have h := h.step (.asked [] [] (.secret_missing Switch.secret_absent)) (allows.answered ..)
  have h := h.step (.asked [] [] Switch.secret_created) (allows.answered ..)
  have h := h.step (.asked [] [] (.counted .secretsCreated 1)) (allows.apart _ _ _ _ _ rfl)
  have h := h.step (.asked [] [] (.timed "now")) (allows.apart _ _ _ _ _ rfl)
  have h := h.step (.asked [] [] Switch.plain_reported) (allows.answered ..)
  have h := h.step (.dropped Switch.settled [] [] _) (allows.dropped _ _ _)
  have h := h.step Switch.spec_edited allows.edited
  have h := h.step (.begun Switch.edited [] Switch.key) (allows.begun _ _ nofun)
  have h := h.step (.asked [] [] (.claim_read Switch.switched_stored)) (allows.answered ..)
  have h := h.step (.asked [] [] (.noted "claim.type" "AutoGenerated"))
    (allows.apart _ _ _ _ _ rfl)
  have h := h.step (.asked [] [] (.secret_read Switch.secret_stored)) (allows.answered ..)
  refine ⟨_, _, h, rfl, rfl, by simp, fun g e length answer hm => ?_⟩
  simp only [List.nil_append, List.cons_append, List.mem_cons, List.not_mem_nil, or_false] at hm
  rcases hm with h | h | h | h | h | h | h | h | h | h | h | h | h | h <;> cases h

theorem Switch.attended : Switch.Allows (Attended Switch.key) where
  begun _ _ grounded := .of_orderly (.begun grounded) nofun
  answered _ _ _ _ _ := .of_orderly .answered nofun
  apart _ _ _ _ _ h := .of_orderly (.apart h) nofun
  dropped _ _ _ := .of_orderly .dropped nofun
  edited :=
    { toOrderly := .edited reported_stored switched_stored rfl
      identity := fun _ old claim hold hclaim => by
        obtain rfl := Option.some.inj (reported_stored.symm.trans hold)
        obtain rfl := Option.some.inj (switched_stored.symm.trans hclaim)
        rfl
      spared := fun _ => rfl }

/-- The Secret of the claim for a generated password holds the verbatim values of the claim as it
was before, and the status says that all is well. -/
theorem verbatim_data_kept : ∃ (s t : System) (moves : List Move) (f : Flight) (first claim : Claim)
    (status : Status) (secret : Secret),
    Reachable s ∧ s.Grounded Switch.key ∧ s.cluster.secrets[Switch.key]? = none ∧
      s.cluster.claims[Switch.key]? = some first ∧ first.status = none ∧
      first.spec.type = "Opaque" ∧ Run (Attended Switch.key) s moves t ∧ f ∈ t.flights ∧
      f.key = Switch.key ∧ f.rest = .done (.ok .idle) ∧
      told (.readClaim Switch.key) (.ok (some claim)) ∈ f.log ∧
      claim.spec.type = "AutoGenerated" ∧ t.cluster.claims[Switch.key]? = some claim ∧
      claim.status = some status ∧ status.synced = true ∧
      t.cluster.secrets[Switch.key]? = some secret ∧
      secret.data = some (verbatimBytes first.spec.data) ∧
      ∀ g e length answer, .asked g (.draw e length) answer ∉ moves := by
  obtain ⟨moves, f, run, hk, done, read, undrawn⟩ := exists_switch Switch.attended
  exact ⟨_, _, moves, f, Switch.plain, Switch.switched, _, Switch.secret, .start Switch.start,
    nofun, Switch.secret_absent, Switch.plain_stored, rfl, rfl, run, List.mem_cons_self, hk, done,
    read, rfl, Switch.switched_stored, rfl, rfl, Switch.secret_stored, rfl, undrawn⟩

/-- Its data come from the only write, and the claim carries no trigger at all. -/
theorem switched_data_origin : ∃ (t : System) (moves : List Move) (secret : Secret)
    (origin : Claim) (demand : Demand) (data : Dict Bytes),
    Run (Attended Switch.key) ⟨Switch.start, []⟩ moves t ∧
      t.cluster.secrets[Switch.key]? = some secret ∧ secret.data = some data ∧
      Origin moves Switch.key origin demand data ∧
      ((∃ p, demand = .generated p) ∨ Switch.switched.reconcileTrigger = "" ∨
        Switch.switched.reconcileTrigger = Switch.switched.lastReconcileTrigger) := by
  obtain ⟨moves, f, run, hk, done, read, -⟩ := exists_switch Switch.attended
  have grounded : System.Grounded Switch.key ⟨Switch.start, []⟩ := nofun
  obtain ⟨secret, origin, demand, data, h⟩ := generated_data_origin (.start Switch.start) grounded
    ⟨_, Switch.plain_stored⟩ Switch.secret_absent run List.mem_cons_self hk done read rfl
  exact ⟨_, moves, secret, origin, demand, data, run, h⟩

end Controller

end SecretKeeper
