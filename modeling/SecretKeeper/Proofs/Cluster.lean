/-
# A cluster, and everybody who changes it

The API server keeps every object under its own key and gives a Secret a version on every
write that no Secret of that key ever had.  It refuses to create what is there, and to
replace what does not have the version that was read.  Beyond that it may refuse any call
at any time, and may carry a call out and still answer with an error.

`Cluster` holds the objects and the versions given so far, with the proofs that they fit.
`Acts` is what a call does that is carried out, `Answers` what the controller may be told,
`Meddles` what others do: they write, change the owners of and remove any objects.

What everybody keeps is `Later`: a Secret is what it was, or it has a version that is new.
So a Secret that was read is still the stored one if its version is (`Known`), however many
writes by whomever came in between.
-/
import SecretKeeper.Artifact
import SecretKeeper.Controller.Effect
import SecretKeeper.Proofs.Dict

namespace SecretKeeper

/-! ## 1. What is stored -/

/-- The Secret with this version. -/
def Secret.versioned (s : Secret) (v : String) : Secret :=
  { s with metadata := { s.metadata with resourceVersion := some v } }

/-- The objects in a cluster, each under its own key. -/
structure Cluster where
  claims : Keyed Claim
  secrets : Keyed Secret
  /-- Every version that was ever given to a Secret, with the key of the Secret. -/
  given : List (Key × String)
  claims_placed : ∀ (key : Key) (claim : Claim), claims[key]? = some claim →
    claim.key? = some key
  secrets_placed : ∀ (key : Key) (secret : Secret), secrets[key]? = some secret →
    secret.key? = some key
  secrets_versioned : ∀ (key : Key) (secret : Secret), secrets[key]? = some secret →
    ∃ v, secret.metadata.resourceVersion = some v ∧ (key, v) ∈ given

namespace Cluster

/-- A cluster without any object. -/
def empty : Cluster where
  claims := ∅
  secrets := ∅
  given := []
  claims_placed := Keyed.forall_empty
  secrets_placed := Keyed.forall_empty
  secrets_versioned := Keyed.forall_empty

/-- A Secret is stored under its key, with a version. -/
def putSecret (c : Cluster) (key : Key) (secret : Secret) (v : String)
    (hk : secret.key? = some key) : Cluster where
  claims := c.claims
  secrets := c.secrets.insert key (secret.versioned v)
  given := (key, v) :: c.given
  claims_placed := c.claims_placed
  secrets_placed := Keyed.forall_insert c.secrets_placed hk
  secrets_versioned k s h := by
    rcases Keyed.getElem?_insert_cases h with ⟨rfl, rfl⟩ | ⟨-, h⟩
    · exact ⟨v, rfl, List.mem_cons_self⟩
    · obtain ⟨u, hu, hg⟩ := c.secrets_versioned k s h
      exact ⟨u, hu, List.mem_cons_of_mem _ hg⟩

/-- The Secret under a key is removed. -/
def removeSecret (c : Cluster) (key : Key) : Cluster where
  claims := c.claims
  secrets := c.secrets.erase key
  given := c.given
  claims_placed := c.claims_placed
  secrets_placed k s h := c.secrets_placed k s (Keyed.getElem?_of_erase h)
  secrets_versioned k s h := c.secrets_versioned k s (Keyed.getElem?_of_erase h)

/-- A claim is stored under its key. -/
def putClaim (c : Cluster) (key : Key) (claim : Claim) (hk : claim.key? = some key) :
    Cluster where
  claims := c.claims.insert key claim
  secrets := c.secrets
  given := c.given
  claims_placed := Keyed.forall_insert c.claims_placed hk
  secrets_placed := c.secrets_placed
  secrets_versioned := c.secrets_versioned

/-- A cluster without any object has no Secret. -/
theorem secret_empty (key : Key) : empty.secrets[key]? = none := Std.ExtTreeMap.getElem?_empty

/-- A Secret that was stored is there, with its version. -/
theorem secret_putSecret (c : Cluster) {key : Key} {secret : Secret} (v : String)
    (hk : secret.key? = some key) :
    (c.putSecret key secret v hk).secrets[key]? = some (secret.versioned v) :=
  Std.ExtTreeMap.getElem?_insert_self

/-- A claim that was stored is there. -/
theorem claim_putClaim (c : Cluster) {key : Key} {claim : Claim} (hk : claim.key? = some key) :
    (c.putClaim key claim hk).claims[key]? = some claim :=
  Std.ExtTreeMap.getElem?_insert_self

/-- The claim under a key is removed. -/
def removeClaim (c : Cluster) (key : Key) : Cluster where
  claims := c.claims.erase key
  secrets := c.secrets
  given := c.given
  claims_placed k d h := c.claims_placed k d (Keyed.getElem?_of_erase h)
  secrets_placed := c.secrets_placed
  secrets_versioned := c.secrets_versioned

/-! ## 2. Who changes it -/

/-- The call is carried out, and yields its value. -/
inductive Acts : (call : StoreCall) → Cluster → call.Value → Cluster → Prop
  | readClaim (c : Cluster) (key : Key) : Acts (.readClaim key) c c.claims[key]? c
  | readSecret (c : Cluster) (key : Key) : Acts (.readSecret key) c c.secrets[key]? c
  | createSecret {c : Cluster} {secret : Secret} {key : Key} {v : String}
      (hk : secret.key? = some key) (free : c.secrets[key]? = none)
      (fresh : (key, v) ∉ c.given) :
      Acts (.createSecret secret) c () (c.putSecret key secret v hk)
  | replaceSecret {c : Cluster} {secret stored : Secret} {key : Key} {v : String}
      (hk : secret.key? = some key) (there : c.secrets[key]? = some stored)
      (current : secret.metadata.resourceVersion = stored.metadata.resourceVersion)
      (fresh : (key, v) ∉ c.given) :
      Acts (.replaceSecret secret) c () (c.putSecret key secret v hk)
  | writeStatus {c : Cluster} {claim stored : Claim} {key : Key} (status : Status)
      (hk : claim.key? = some key) (there : c.claims[key]? = some stored) :
      Acts (.writeStatus claim status) c ()
        (c.putClaim key { stored with status := some status } (c.claims_placed key stored there))

/-- What the controller may be told, and how the cluster changes with it. -/
inductive Answers : (r : Effect) → Cluster → r.Answer → Cluster → Prop
  | done {call : StoreCall} {c c' : Cluster} {value : call.Value} (h : Acts call c value c') :
      Answers (.store call) c (.ok value) c'
  /-- The call is carried out, but the answer is lost. -/
  | lost {call : StoreCall} {c c' : Cluster} {value : call.Value} (e : StoreError)
      (h : Acts call c value c') : Answers (.store call) c (.error e) c'
  | refused (call : StoreCall) (c : Cluster) (e : StoreError) :
      Answers (.store call) c (.error e) c
  /-- What is not a store call does not concern the cluster. -/
  | apart {r : Effect} (c : Cluster) (answer : r.Answer) (h : ∀ call, r ≠ .store call) :
      Answers r c answer c

/-- What others do. -/
inductive Meddles : Cluster → Cluster → Prop
  | putSecret {c : Cluster} {key : Key} {secret : Secret} {v : String}
      (hk : secret.key? = some key) (fresh : (key, v) ∉ c.given) :
      Meddles c (c.putSecret key secret v hk)
  | removeSecret (c : Cluster) (key : Key) : Meddles c (c.removeSecret key)
  | putClaim (c : Cluster) {key : Key} {claim : Claim} (hk : claim.key? = some key) :
      Meddles c (c.putClaim key claim hk)
  | removeClaim (c : Cluster) (key : Key) : Meddles c (c.removeClaim key)

/-- A call that is answered with its value was carried out. -/
theorem Answers.acts {call : StoreCall} {c c' : Cluster} {value : call.Value}
    (h : Answers (.store call) c (.ok value) c') : Acts call c value c' := by
  cases h with
  | done h => exact h
  | apart _ _ h => exact absurd rfl (h call)

theorem Answers.claim_read {c : Cluster} {key : Key} {claim : Claim}
    (h : c.claims[key]? = some claim) :
    Answers (.store (.readClaim key)) c (.ok (some claim)) c := h ▸ .done (.readClaim c key)

theorem Answers.secret_read {c : Cluster} {key : Key} {secret : Secret}
    (h : c.secrets[key]? = some secret) :
    Answers (.store (.readSecret key)) c (.ok (some secret)) c := h ▸ .done (.readSecret c key)

theorem Answers.secret_missing {c : Cluster} {key : Key} (h : c.secrets[key]? = none) :
    Answers (.store (.readSecret key)) c (.ok none) c := h ▸ .done (.readSecret c key)

theorem Answers.drawn {c : Cluster} {e : Encoding} {length : Nat}
    (answer : Except EntropyFailure String) : Answers (.draw e length) c answer c :=
  .apart c _ fun _ h => nomatch h

theorem Answers.noted {c : Cluster} (field value : String) :
    Answers (.note field value) c () c := .apart c _ fun _ h => nomatch h

theorem Answers.counted {c : Cluster} (counter : Counter) (n : Nat) :
    Answers (.count counter n) c () c := .apart c _ fun _ h => nomatch h

theorem Answers.timed {c : Cluster} (stamp : String) : Answers .now c stamp c :=
  .apart c _ fun _ h => nomatch h

/-- A claim that was read is the stored one. -/
theorem Answers.claim_stored {c c' : Cluster} {key : Key} {found : Option Claim}
    (h : Answers (.store (.readClaim key)) c (.ok found) c') : c.claims[key]? = found := by
  have ha : Acts (.readClaim key) c found c' := h.acts
  cases ha
  rfl

/-- A Secret that was read is the stored one, before and after. -/
theorem Answers.secret_stored {c c' : Cluster} {key : Key} {found : Option Secret}
    (h : Answers (.store (.readSecret key)) c (.ok found) c') : c'.secrets[key]? = found := by
  have ha : Acts (.readSecret key) c found c' := h.acts
  cases ha
  rfl

/-- Only a Secret write changes a Secret. -/
theorem Acts.secrets_of_not_write {call : StoreCall} {c c' : Cluster}
    {value : call.Value} (h : Acts call c value c') (hw : call.writesSecret = false) :
    c'.secrets = c.secrets := by
  cases h with
  | readClaim key => rfl
  | readSecret key => rfl
  | createSecret => cases hw
  | replaceSecret => cases hw
  | writeStatus status hk there => rfl

/-- An answer that comes with another Secret under some key is the answer to a Secret write
that was carried out. -/
theorem Answers.acts_of_changed {r : Effect} {c c' : Cluster} {answer : r.Answer}
    {key : Key} (h : Answers r c answer c') (hne : c'.secrets[key]? ≠ c.secrets[key]?) :
    ∃ call value, r = .store call ∧ call.writesSecret = true ∧ Acts call c value c' := by
  have written : ∀ (call : StoreCall) (value : call.Value), Acts call c value c' →
      call.writesSecret = true := by
    intro call value ha
    cases hw : call.writesSecret with
    | true => rfl
    | false => exact absurd (by rw [ha.secrets_of_not_write hw]) hne
  cases h with
  | done ha => exact ⟨_, _, rfl, written _ _ ha, ha⟩
  | lost e ha => exact ⟨_, _, rfl, written _ _ ha, ha⟩
  | refused call e => exact absurd rfl hne
  | apart answer h => exact absurd rfl hne

/-- What a report does that is carried out: the stored claim has the reported status. -/
structure Reported (claim : Claim) (status : Status) (c c' : Cluster) (key : Key)
    (stored : Claim) : Prop where
  key_eq : claim.key? = some key
  there : c.claims[key]? = some stored
  claims : c'.claims = c.claims.insert key { stored with status := some status }

/-- Only a report changes a claim. -/
theorem Acts.claims_cases {call : StoreCall} {c c' : Cluster} {value : call.Value}
    (h : Acts call c value c') : c'.claims = c.claims ∨
      ∃ claim status key stored, call = .writeStatus claim status ∧
        Reported claim status c c' key stored := by
  cases h with
  | readClaim key => exact .inl rfl
  | readSecret key => exact .inl rfl
  | createSecret => exact .inl rfl
  | replaceSecret => exact .inl rfl
  | writeStatus status hk there => exact .inr ⟨_, status, _, _, rfl, hk, there, rfl⟩

theorem Answers.claims_cases {r : Effect} {c c' : Cluster} {answer : r.Answer}
    (h : Answers r c answer c') : c'.claims = c.claims ∨
      ∃ claim status key stored, r = .store (.writeStatus claim status) ∧
        Reported claim status c c' key stored := by
  have carried : ∀ (call : StoreCall) (value : call.Value), Acts call c value c' →
      c'.claims = c.claims ∨ ∃ claim status key stored,
        Effect.store call = .store (.writeStatus claim status) ∧
          Reported claim status c c' key stored := by
    intro call value ha
    rcases ha.claims_cases with hc | ⟨claim, status, key, stored, rfl, hr⟩
    · exact .inl hc
    · exact .inr ⟨claim, status, key, stored, rfl, hr⟩
  cases h with
  | done ha => exact carried _ _ ha
  | lost e ha => exact carried _ _ ha
  | refused call e => exact .inl rfl
  | apart answer h => exact .inl rfl

/-! ## 3. What everybody keeps -/

/-- A later cluster: every version stays given, and a Secret is what it was or has a version
that is new. -/
structure Later (c c' : Cluster) : Prop where
  given : ∀ p ∈ c.given, p ∈ c'.given
  secrets : ∀ (key : Key) (secret : Secret), c'.secrets[key]? = some secret →
    c.secrets[key]? = some secret ∨
      ∃ v, secret.metadata.resourceVersion = some v ∧ (key, v) ∉ c.given

theorem Later.refl (c : Cluster) : Later c c := ⟨fun _ h => h, fun _ _ h => .inl h⟩

theorem later_putSecret (c : Cluster) {key : Key} (secret : Secret) {v : String}
    (hk : secret.key? = some key) (fresh : (key, v) ∉ c.given) :
    Later c (c.putSecret key secret v hk) where
  given _ h := List.mem_cons_of_mem _ h
  secrets k s h := by
    rcases Keyed.getElem?_insert_cases h with ⟨rfl, rfl⟩ | ⟨-, h⟩
    · exact .inr ⟨v, rfl, fresh⟩
    · exact .inl h

theorem later_removeSecret (c : Cluster) (key : Key) : Later c (c.removeSecret key) where
  given _ h := h
  secrets _ _ h := .inl (Keyed.getElem?_of_erase h)

theorem Acts.later {call : StoreCall} {c c' : Cluster} {value : call.Value}
    (h : Acts call c value c') : Later c c' := by
  cases h with
  | readClaim key => exact .refl c
  | readSecret key => exact .refl c
  | createSecret hk _ fresh => exact later_putSecret c _ hk fresh
  | replaceSecret hk _ _ fresh => exact later_putSecret c _ hk fresh
  | writeStatus status hk there => exact ⟨fun _ h => h, fun _ _ h => .inl h⟩

theorem Answers.later {r : Effect} {c c' : Cluster} {answer : r.Answer}
    (h : Answers r c answer c') : Later c c' := by
  cases h with
  | done h => exact h.later
  | lost e h => exact h.later
  | refused call e => exact .refl c
  | apart answer h => exact .refl c

theorem Meddles.later {c c' : Cluster} (h : Meddles c c') : Later c c' := by
  cases h with
  | putSecret hk fresh => exact later_putSecret c _ hk fresh
  | removeSecret key => exact later_removeSecret c key
  | putClaim hk => exact ⟨fun _ h => h, fun _ _ h => .inl h⟩
  | removeClaim key => exact ⟨fun _ h => h, fun _ _ h => .inl h⟩

/-- The Secret was stored under the key at some time: its version was given, and a Secret
that is stored there with that version is this one. -/
structure Known (c : Cluster) (key : Key) (old : Secret) : Prop where
  placed : old.key? = some key
  versioned : ∃ v, old.metadata.resourceVersion = some v ∧ (key, v) ∈ c.given
  unchanged : ∀ (stored : Secret), c.secrets[key]? = some stored →
    stored.metadata.resourceVersion = old.metadata.resourceVersion → stored = old

/-- What is stored is known. -/
theorem known_of_stored {c : Cluster} {key : Key} {secret : Secret}
    (h : c.secrets[key]? = some secret) : Known c key secret where
  placed := c.secrets_placed key secret h
  versioned := c.secrets_versioned key secret h
  unchanged stored hs _ := by
    rw [h] at hs
    exact (Option.some.inj hs).symm

/-- **What was known stays known**: a new Secret has a new version. -/
theorem Known.later {c c' : Cluster} {key : Key} {old : Secret} (h : Known c key old)
    (hl : Later c c') : Known c' key old where
  placed := h.placed
  versioned := by
    obtain ⟨v, hv, hg⟩ := h.versioned
    exact ⟨v, hv, hl.given _ hg⟩
  unchanged stored hs heq := by
    rcases hl.secrets key stored hs with hs | ⟨u, hu, hn⟩
    · exact h.unchanged stored hs heq
    · obtain ⟨v, hv, hg⟩ := h.versioned
      rw [hu, hv, Option.some.injEq] at heq
      rw [heq] at hn
      exact absurd hg hn

end Cluster

end SecretKeeper
