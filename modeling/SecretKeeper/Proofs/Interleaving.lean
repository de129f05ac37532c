/-
# No Secret is taken from others

Many cycles are on their way at once, and between any two of their requests others may
change whatever they like.  The owner of a Secret is looked at when it is read, and the
write comes several requests later: by then the Secret may belong to somebody else, be
another one of the same name, or be gone.

A cycle knows two things at its write, whatever has happened since its reads: the claim that
it read has the cycle's key, and the Secret that it read is still the stored one if its
version is.  That is `Flight.Sound`, and no step of anybody breaks it.  Since a replacement
carries the version that was read, the Secret it replaces is the one whose owner was looked
at; and a creation is refused wherever there is a Secret.

A cycle may be dropped at any moment, and a write may be carried out although its answer is
an error, so what the cluster holds is spoken of as well as what the controller is told.
-/
import SecretKeeper.Proofs.Cluster
import SecretKeeper.Proofs.Discipline

namespace SecretKeeper.Controller

open Program

/-! ## 1. Cycles on their way -/

/-- A cycle on its way: its key, what it was told so far, and what is left of it. -/
structure Flight where
  key : Key
  log : List (Event controllerInterface)
  rest : Controller (Except CycleError Outcome)

namespace Flight

/-- A cycle that begins. -/
def start (key : Key) : Flight := ⟨key, [], cycle key⟩

/-- The store calls so far are the two reads, and draws at most came after them. -/
def HasRead (f : Flight) (claim : Claim) (existing : Option Secret) : Prop :=
  calls f.log = calls (reads f.key claim existing)

end Flight

/-- A cluster, and the cycles that are on their way in it. -/
structure System where
  cluster : Cluster
  flights : List Flight

/-- What happens in one step. -/
inductive Move where
  /-- Somebody else changes the cluster. -/
  | outside
  | begun (key : Key)
  /-- A cycle asks, and is answered. -/
  | asked (f : Flight) (r : Effect) (answer : r.Answer)
  /-- A cycle is cut off, or has come to its end. -/
  | dropped (f : Flight)

/-- One step of anybody. -/
inductive Step : System → Move → System → Prop
  | outside {c c' : Cluster} (flights : List Flight) (h : Cluster.Meddles c c') :
      Step ⟨c, flights⟩ .outside ⟨c', flights⟩
  | begun (c : Cluster) (flights : List Flight) (key : Key) :
      Step ⟨c, flights⟩ (.begun key) ⟨c, .start key :: flights⟩
  | asked {c c' : Cluster} {key : Key} {log : List (Event controllerInterface)} {r : Effect}
      {resume : r.Answer → Controller (Except CycleError Outcome)} {answer : r.Answer}
      (before after : List Flight) (h : Cluster.Answers r c answer c') :
      Step ⟨c, before ++ ⟨key, log, .ask r resume⟩ :: after⟩
        (.asked ⟨key, log, .ask r resume⟩ r answer)
        ⟨c', before ++ ⟨key, log ++ [⟨r, answer⟩], resume answer⟩ :: after⟩
  | dropped (c : Cluster) (before after : List Flight) (f : Flight) :
      Step ⟨c, before ++ f :: after⟩ (.dropped f) ⟨c, before ++ after⟩

/-- What a run comes to that begins in some cluster without any cycle. -/
inductive Reachable : System → Prop
  | start (c : Cluster) : Reachable ⟨c, []⟩
  | step {s s' : System} {move : Move} : Reachable s → Step s move s' → Reachable s'

/-! ## 2. What a cycle knows -/

/-- The claim that the cycle has read is that of its key, and the Secret that it has read is
the stored one as long as the version says so. -/
structure Flight.Sound (c : Cluster) (f : Flight) : Prop where
  reaches : Reaches (cycle f.key) f.log f.rest
  claims : ∀ key claim, told (.readClaim key) (.ok (some claim)) ∈ f.log →
    claim.key? = some key
  secrets : ∀ key old, told (.readSecret key) (.ok (some old)) ∈ f.log → c.Known key old

/-- Every cycle on its way is sound. -/
def System.Sound (s : System) : Prop := ∀ f ∈ s.flights, f.Sound s.cluster

theorem Flight.sound_start (c : Cluster) (key : Key) : (start key).Sound c where
  reaches := .here _
  claims _ _ h := by cases h
  secrets _ _ h := by cases h

/-- What a cycle knows is not lost with what others do. -/
theorem Flight.Sound.later {c c' : Cluster} {f : Flight} (h : f.Sound c) (hl : c.Later c') :
    f.Sound c' where
  reaches := h.reaches
  claims := h.claims
  secrets key old hm := (h.secrets key old hm).later hl

/-- The answer to a read is what is stored. -/
theorem Flight.Sound.asked {c c' : Cluster} {key : Key} {log : List (Event controllerInterface)}
    {r : Effect} {resume : r.Answer → Controller (Except CycleError Outcome)}
    {answer : r.Answer} (h : Flight.Sound c ⟨key, log, .ask r resume⟩)
    (ha : Cluster.Answers r c answer c') :
    Flight.Sound c' ⟨key, log ++ [⟨r, answer⟩], resume answer⟩ where
  reaches := h.reaches.tell answer
  claims k claim hm := by
    rcases List.mem_append.mp hm with hm | hm
    · exact h.claims k claim hm
    · cases List.mem_singleton.mp hm
      exact c.claims_placed k claim ha.claim_stored
  secrets k old hm := by
    rcases List.mem_append.mp hm with hm | hm
    · exact (h.secrets k old hm).later ha.later
    · cases List.mem_singleton.mp hm
      exact Cluster.known_of_stored ha.secret_stored

/-- **No step of anybody makes a cycle unsound.** -/
theorem Step.sound {s s' : System} {move : Move} (h : Step s move s') (hs : s.Sound) :
    s'.Sound := by
  cases h with
  | outside flights h => exact fun f hf => (hs f hf).later h.later
  | begun c flights key =>
    intro f hf
    rcases List.mem_cons.mp hf with rfl | hf
    · exact Flight.sound_start c key
    · exact hs f hf
  | @asked c c' key log r resume answer before after h =>
    intro f hf
    rcases List.mem_append.mp hf with hf | hf
    · exact (hs f (List.mem_append_left _ hf)).later h.later
    · rcases List.mem_cons.mp hf with rfl | hf
      · exact (hs _ (by simp)).asked h
      · exact (hs f (by simp [hf])).later h.later
  | dropped c before after f =>
    intro g hg
    refine hs g ?_
    rcases List.mem_append.mp hg with hg | hg
    · exact List.mem_append_left _ hg
    · exact List.mem_append_right _ (List.mem_cons_of_mem _ hg)

theorem Reachable.sound {s : System} (h : Reachable s) : s.Sound := by
  induction h with
  | start c => intro f hf; cases hf
  | step _ h ih => exact h.sound ih

/-! ## 3. What a Secret write does -/

/-- The Secret write of a cycle, as it should be: it creates a Secret where there was none,
or it replaces the version that the cycle has read, whose owner was the claim that it has
read.  Nothing else is touched. -/
inductive Rightful (f : Flight) (c c' : Cluster) : StoreCall → Prop
  | created {claim : Claim} {data : Dict Bytes} {v : String} (read : f.HasRead claim none)
      (free : c.secrets[f.key]? = none)
      (there : c'.secrets[f.key]? = some ((Secret.new claim data).versioned v))
      (rest : ∀ key, key ≠ f.key → c'.secrets[key]? = c.secrets[key]?) :
      Rightful f c c' (.createSecret (.new claim data))
  | replaced {claim : Claim} {old : Secret} {data : Dict Bytes} {v : String}
      (read : f.HasRead claim (some old)) (own : old.isOwnedBy claim = true)
      (stored : c.secrets[f.key]? = some old)
      (there : c'.secrets[f.key]? = some ((old.withData data).versioned v))
      (rest : ∀ key, key ≠ f.key → c'.secrets[key]? = c.secrets[key]?) :
      Rightful f c c' (.replaceSecret (old.withData data))

/-- Where a rightful write leaves something else, it is a write for that key. -/
theorem Rightful.key_eq_of_changed {f : Flight} {c c' : Cluster} {call : StoreCall} {key : Key}
    (h : Rightful f c c' call) (hne : c'.secrets[key]? ≠ c.secrets[key]?) : f.key = key := by
  by_cases hk : key = f.key
  · exact hk.symm
  · cases h with
    | created _ _ _ rest => exact absurd (rest key hk) hne
    | replaced _ _ _ _ rest => exact absurd (rest key hk) hne

/-- What a cycle has read at the moment of a Secret write. -/
theorem Flight.hasRead_of_outward {f : Flight} {claim : Claim} {existing : Option Secret}
    {demand : Demand} {drawn : List (Event controllerInterface)} {data : Dict Bytes}
    (h : outward f.log = reads f.key claim existing ++ drawn)
    (hm : Materialized demand drawn data) : f.HasRead claim existing := by
  have hc : calls (outward f.log) = calls (reads f.key claim existing ++ drawn) := by rw [h]
  rw [calls_outward, calls_append, hm.calls_eq_nil, List.append_nil] at hc
  exact hc

/-- **A Secret write that is carried out is rightful.** -/
theorem Flight.Sound.rightful {c c' : Cluster} {key : Key}
    {log : List (Event controllerInterface)} {call : StoreCall}
    {resume : call.Answer → Controller (Except CycleError Outcome)} {value : call.Value}
    (h : Flight.Sound c ⟨key, log, .ask (.store call) resume⟩) (ha : Cluster.Acts call c value c')
    (hw : call.writesSecret = true) :
    Rightful ⟨key, log, .ask (.store call) resume⟩ c c' call := by
  obtain ⟨claim, existing, demand, drawn, data, due, hm, hl, rfl⟩ := write_of_reaches h.reaches hw
  have hread : Flight.HasRead ⟨key, log, _⟩ claim existing := Flight.hasRead_of_outward hl hm
  have mem : ∀ e ∈ reads key claim existing, e ∈ log := fun e he =>
    (List.mem_filter.mp (hl ▸ List.mem_append_left _ he : e ∈ outward log)).1
  cases existing with
  | none =>
    have hkey : claim.key? = some key := h.claims key claim (mem _ (by simp [reads]))
    cases ha with
    | createSecret hk free fresh =>
      obtain rfl := Option.some.inj (hk.symm.trans hkey)
      exact .created hread free Std.ExtTreeMap.getElem?_insert_self
        fun _ hne => Keyed.getElem?_insert_of_ne hne
  | some old =>
    have hknown : c.Known key old := h.secrets key old (mem _ (by simp [reads]))
    have hown : old.isOwnedBy claim = true := by simpa [isForeign] using due.own
    cases ha with
    | replaceSecret hk there current fresh =>
      obtain rfl := Option.some.inj (hk.symm.trans hknown.placed)
      obtain rfl := hknown.unchanged _ there current.symm
      exact .replaced hread hown there Std.ExtTreeMap.getElem?_insert_self
        fun _ hne => Keyed.getElem?_insert_of_ne hne

/-! ## 4. Every run -/

/-- A step of the controller that leaves another Secret under a key is a rightful write of a
cycle for that key, whatever the cycle is told about it. -/
theorem Step.rightful_of_changed {s s' : System} {move : Move} (h : Step s move s')
    (hs : s.Sound) (ho : move ≠ .outside) {key : Key}
    (hne : s'.cluster.secrets[key]? ≠ s.cluster.secrets[key]?) :
    ∃ f call answer, move = .asked f (.store call) answer ∧ f ∈ s.flights ∧ f.key = key ∧
      Rightful f s.cluster s'.cluster call := by
  cases h with
  | outside flights h => exact absurd rfl ho
  | begun c flights k => exact absurd rfl hne
  | dropped c before after f => exact absurd rfl hne
  | @asked c c' k log r resume answer before after ha =>
    obtain ⟨call, value, rfl, hw, hacts⟩ := ha.acts_of_changed hne
    have hf : (⟨k, log, .ask (.store call) resume⟩ : Flight) ∈
        before ++ ⟨k, log, .ask (.store call) resume⟩ :: after := by simp
    have hr := (hs _ hf).rightful hacts hw
    exact ⟨_, call, answer, rfl, hf, hr.key_eq_of_changed hne, hr⟩

/-- **No Secret is taken from others.**  In every run, with any number of cycles on their way
and others changing what they like at any time:

* a Secret write that succeeds is rightful;
* a step of the controller that leaves something else under a key is a rightful write of a
  cycle for that key, even if the cycle is told that it failed;
* a Secret that such a step changes is the one that the cycle has read, it is owned by the
  claim that the cycle has read, and it stays there with other data. -/
theorem secrets_not_taken {s s' : System} {move : Move} (run : Reachable s)
    (step : Step s move s') :
    (∀ f call value, move = .asked f (.store call) (.ok value) → call.writesSecret = true →
      Rightful f s.cluster s'.cluster call) ∧
    (∀ key, move ≠ .outside → s'.cluster.secrets[key]? ≠ s.cluster.secrets[key]? →
      ∃ f call answer, move = .asked f (.store call) answer ∧ f ∈ s.flights ∧ f.key = key ∧
        Rightful f s.cluster s'.cluster call) ∧
    ∀ key secret, move ≠ .outside → s.cluster.secrets[key]? = some secret →
      s'.cluster.secrets[key]? ≠ some secret →
      ∃ f claim data v, f ∈ s.flights ∧ f.key = key ∧ f.HasRead claim (some secret) ∧
        secret.isOwnedBy claim = true ∧
        s'.cluster.secrets[key]? = some ((secret.withData data).versioned v) := by
  refine ⟨?_, fun key ho hne => step.rightful_of_changed run.sound ho hne, ?_⟩
  · rintro f call value rfl hw
    cases step with
    | asked before after h => exact (run.sound _ (by simp)).rightful h.acts hw
  · intro key secret ho hstored hne
    rw [← hstored] at hne
    obtain ⟨f, call, answer, -, hf, rfl, hr⟩ := step.rightful_of_changed run.sound ho hne
    cases hr with
    | created _ free _ _ =>
      rw [hstored] at free
      cases free
    | replaced read own stored there _ =>
      obtain rfl := Option.some.inj (hstored.symm.trans stored)
      exact ⟨f, _, _, _, hf, rfl, read, own, there⟩

/-! ## 5. One run

A claim with a new trigger and its Secret.  A cycle reads both; then the claim is removed,
and the cycle, which does not know, still replaces the Secret that it has read. -/

namespace Sample

def key : Key := ⟨"default", "db"⟩

def claim : Claim where
  metadata := { ns := some "default", name := some "db", uid := some "u1" }
  spec :=
    { type := "AutoGenerated"
      generation := some { length := 8, reconcileTrigger := "t1" } }

def secret : Secret where
  metadata :=
    { ns := some "default"
      name := some "db"
      resourceVersion := some "1"
      ownerReferences := some [claim.ownerReference] }

/-- A cluster with the claim and the Secret. -/
def cluster : Cluster := (Cluster.empty.putClaim key claim rfl).putSecret key secret "1" rfl

theorem claim_stored : cluster.claims[key]? = some claim := Cluster.claim_putClaim _ rfl

theorem secret_stored : cluster.secrets[key]? = some secret := Cluster.secret_putSecret _ "1" rfl

/-- The cluster once the claim is gone. -/
def later : Cluster := cluster.removeClaim key

end Sample

/-- The run: the replacement is answered well, although the claim is gone. -/
theorem exists_replacement : ∃ (s s' : System) (f : Flight), Reachable s ∧
    Step s (.asked f (.store (.replaceSecret (Sample.secret.withData ∅))) (.ok ())) s' := by
  have h := Reachable.start Sample.cluster
  have h := h.step (.begun Sample.cluster [] Sample.key)
  have h := h.step (.asked [] [] (.claim_read Sample.claim_stored))
  have h := h.step (.asked [] [] (.noted "claim.type" "AutoGenerated"))
  have h := h.step (.asked [] [] (.secret_read Sample.secret_stored))
  have h := h.step (.asked [] [] (.counted .valuesGenerated 0))
  have h := h.step (.outside _ (.removeClaim Sample.cluster Sample.key))
  have ha : Cluster.Answers (.store (.replaceSecret (Sample.secret.withData ∅))) Sample.later
      (.ok ()) (Sample.later.putSecret Sample.key (Sample.secret.withData ∅) "2" rfl) :=
    .done (.replaceSecret rfl Sample.secret_stored rfl (by decide))
  exact ⟨_, _, _, h, .asked [] [] ha⟩

/-- Its last step is rightful. -/
theorem replacement_rightful : ∃ (s s' : System) (f : Flight), Reachable s ∧
    Step s (.asked f (.store (.replaceSecret (Sample.secret.withData ∅))) (.ok ())) s' ∧
      Rightful f s.cluster s'.cluster (.replaceSecret (Sample.secret.withData ∅)) := by
  obtain ⟨s, s', f, run, step⟩ := exists_replacement
  have h := (secrets_not_taken run step).1 f (.replaceSecret (Sample.secret.withData ∅)) ()
  exact ⟨s, s', f, run, step, h rfl rfl⟩

end SecretKeeper.Controller
