/-
# The stores refine a keyed store

A store call becomes a request, the request an answer of the server, and what comes back is read
as the answer to the call.  Seen from the two ends there is nothing between them but a map from
keys to objects (`Keeps`): a read yields what is stored or none, a creation fails where there is
an object, a replacement where there is another version or none, and a report replaces the
status of the stored claim.  Only the server's own imprint is on all that was written.

`Shows` ties the documents of a server to the objects of a cluster, and `Conveyed.mirrored` says
that a call keeps them tied: exactly one request is sent, it is for the object that the call is
about, and it is answered as by the map.

One thing the encoding does not keep: a time is written to the second.  So a Secret is taken to
tell its times in whole seconds, as the server has them, and what is handed over to be written
must be `Lasting`.  Claims are never written back, only their status is.
-/
import SecretKeeper.Proofs.ApiServer
import SecretKeeper.Proofs.Cluster
import SecretKeeper.Proofs.Replay
import SecretKeeper.Proofs.StatusPatch

namespace SecretKeeper.Production

open Api Controller Program

/-! ## 1. A keyed store -/

/-- What a store of objects under their keys answers to a call, and what it holds then. -/
inductive Keeps : (call : StoreCall) → Cluster → call.Answer → Cluster → Prop
  | readClaim (c : Cluster) (key : Key) : Keeps (.readClaim key) c (.ok c.claims[key]?) c
  | readSecret (c : Cluster) (key : Key) : Keeps (.readSecret key) c (.ok c.secrets[key]?) c
  | created {c : Cluster} {secret : Secret} {key : Key} {own : Imprint} {v : String}
      (version : own.version = some v) (hk : secret.key? = some key)
      (free : c.secrets[key]? = none) :
      Keeps (.createSecret secret) c (.ok ()) (c.putSecret key (own.onSecret secret) v hk)
  | taken {c : Cluster} {secret stored : Secret} {key : Key} (hk : secret.key? = some key)
      (there : c.secrets[key]? = some stored) :
      Keeps (.createSecret secret) c (.error (.alreadyExists key.text)) c
  | replaced {c : Cluster} {secret stored : Secret} {key : Key} {own : Imprint} {v : String}
      (version : own.version = some v) (hk : secret.key? = some key)
      (there : c.secrets[key]? = some stored)
      (current : secret.metadata.resourceVersion = stored.metadata.resourceVersion) :
      Keeps (.replaceSecret secret) c (.ok ()) (c.putSecret key (own.onSecret secret) v hk)
  | stale {c : Cluster} {secret stored : Secret} {key : Key} (hk : secret.key? = some key)
      (there : c.secrets[key]? = some stored)
      (old : secret.metadata.resourceVersion ≠ stored.metadata.resourceVersion) :
      Keeps (.replaceSecret secret) c (.error (.conflict key.text)) c
  | vanished {c : Cluster} {secret : Secret} {key : Key} {r : Refusal}
      (hk : secret.key? = some key) (gone : c.secrets[key]? = none) (code : r.code = 404) :
      Keeps (.replaceSecret secret) c (.error (.api (.refused r))) c
  | reported {c : Cluster} {claim stored : Claim} {key : Key} {own : Imprint}
      (revision : own.IsRevision) (status : Status) (hk : claim.key? = some key)
      (there : c.claims[key]? = some stored) :
      Keeps (.writeStatus claim status) c (.ok ())
        (c.putClaim key { stored with metadata := own.on stored.metadata, status := some status }
          (c.claims_placed key stored there))
  | unreported {c : Cluster} {claim : Claim} {key : Key} {r : Refusal} (status : Status)
      (hk : claim.key? = some key) (gone : c.claims[key]? = none) (code : r.code = 404) :
      Keeps (.writeStatus claim status) c (.error (.api (.refused r))) c

/-! ## 2. Documents that show a cluster -/

/-- The document of a claim. -/
structure ClaimDocument (doc : Json) (claim : Claim) : Prop where
  isObject : ∃ m, doc = .obj m
  read : Claim.ofJson? doc = some claim

/-- The document of a Secret; it tells the version, and times to whole seconds. -/
structure SecretDocument (doc : Json) (secret : Secret) : Prop where
  read : Secret.ofJson? doc = some secret
  version : ∃ v, doc.at? versionPath = some (.str v) ∧ secret.metadata.resourceVersion = some v
  inSeconds : secret.metadata.InSeconds

/-- The documents are those of the objects in the cluster, and of no others. -/
structure Shows (d : Documents) (c : Cluster) : Prop where
  claims : ∀ key : Key, Option.Rel ClaimDocument (d .claims)[key]? c.claims[key]?
  secrets : ∀ key : Key, Option.Rel SecretDocument (d .secrets)[key]? c.secrets[key]?

section Kept

variable {α β : Type} {R : α → β → Prop} {m : Keyed α} {n : Keyed β}

/-- What two maps have under a key: related values, or neither has one. -/
theorem rel_cases {o : Option α} {p : Option β} (h : Option.Rel R o p) :
    (o = none ∧ p = none) ∨ ∃ a b, o = some a ∧ p = some b ∧ R a b := by
  cases h with
  | none => exact .inl ⟨rfl, rfl⟩
  | some h => exact .inr ⟨_, _, rfl, rfl, h⟩

theorem rel_empty (k : Key) : Option.Rel R (∅ : Keyed α)[k]? (∅ : Keyed β)[k]? := by
  rw [Std.ExtTreeMap.getElem?_empty, Std.ExtTreeMap.getElem?_empty]
  exact .none

theorem rel_insert (h : ∀ k : Key, Option.Rel R m[k]? n[k]?) (key : Key) {a : α} {b : β}
    (hab : R a b) (k : Key) : Option.Rel R (m.insert key a)[k]? (n.insert key b)[k]? := by
  by_cases hkey : k = key
  · subst hkey
    rw [Std.ExtTreeMap.getElem?_insert_self, Std.ExtTreeMap.getElem?_insert_self]
    exact .some hab
  · rw [Keyed.getElem?_insert_of_ne hkey, Keyed.getElem?_insert_of_ne hkey]
    exact h k

end Kept

section Shows

variable {d : Documents} {c : Cluster} {key : Key}

theorem secrets_ne_claims : Resource.secrets ≠ Resource.claims := by decide

theorem Shows.putSecret (h : Shows d c) {doc : Json} {secret : Secret} {v : String}
    (hk : secret.key? = some key) (hdoc : SecretDocument doc (secret.versioned v)) :
    Shows (d.put .secrets key doc) (c.putSecret key secret v hk) where
  claims k := by
    rw [Documents.put_of_ne _ secrets_ne_claims.symm]
    exact h.claims k
  secrets k := by
    rw [Documents.put_self]
    exact rel_insert h.secrets key hdoc k

theorem Shows.putClaim (h : Shows d c) {doc : Json} {claim : Claim}
    (hk : claim.key? = some key) (hdoc : ClaimDocument doc claim) :
    Shows (d.put .claims key doc) (c.putClaim key claim hk) where
  claims k := by
    rw [Documents.put_self]
    exact rel_insert h.claims key hdoc k
  secrets k := by
    rw [Documents.put_of_ne _ secrets_ne_claims]
    exact h.secrets k

end Shows

/-! ## 3. One call -/

/-- A call to the stores, the requests that are sent for it, and the answer: what is read from the
server's reply to the one request, or an error where none can be built. -/
inductive Conveyed {S : Type} (server : Backend S) (manager : String) (call : StoreCall) (s : S) :
    List Request → call.Answer → S → Prop
  | unsent {e : StoreError} (h : Store.prepare manager call = .error e) :
      Conveyed server manager call s [] (.error e) s
  | sent {request : Request} {x : Exchange} {s' : S} (h : Store.prepare manager call = .ok request)
      (back : server s request x s') :
      Conveyed server manager call s [request] (Store.interpret call x) s'

/-- The request is about the object of this key: its path leads there, or it brings a new object
of that name to the namespace. -/
def IsAbout (key : Key) (request : Request) : Prop :=
  ∃ p, place? request.target.path = some p ∧ p.ns = key.ns ∧
    (p.name = some key.name ∨
      p.name = none ∧ request.body.bind (Json.at? namePath) = some (.str key.name))

/-- The call is about the object of this key, and of what it hands over nothing is lost when it
is written. -/
inductive Faithful (key : Key) : StoreCall → Prop
  | readClaim : Faithful key (.readClaim key)
  | readSecret : Faithful key (.readSecret key)
  | writeStatus {claim : Claim} (status : Status) (hk : claim.key? = some key) :
      Faithful key (.writeStatus claim status)
  | createSecret {secret : Secret} (hk : secret.key? = some key)
      (lasting : secret.metadata.Lasting) : Faithful key (.createSecret secret)
  | replaceSecret {secret : Secret} {v : String} (hk : secret.key? = some key)
      (lasting : secret.metadata.Lasting) (version : secret.metadata.resourceVersion = some v) :
      Faithful key (.replaceSecret secret)

/-- What came of a call: one request for its object was sent, the answer is that of a keyed
store, and the documents show what such a store holds. -/
def Mirrored (key : Key) (call : StoreCall) (c : Cluster) (sent : List Request)
    (answer : call.Answer) (d' : Documents) : Prop :=
  ∃ request c', sent = [request] ∧ IsAbout key request ∧ Keeps call c answer c' ∧ Shows d' c'

theorem at?_version (s : Secret) :
    s.toJson.at? versionPath = s.metadata.resourceVersion.map .str := by
  simp [versionPath, Json.at?, Json.member?, Secret.toJson, Metadata.toJson, List.lookup_append,
    Json.Members.lookup_optional, List.lookup_cons]

theorem at?_name (s : Secret) : s.toJson.at? namePath = s.metadata.name.map .str := by
  simp [namePath, Json.at?, Json.member?, Secret.toJson, Metadata.toJson, List.lookup_append,
    Json.Members.lookup_optional, List.lookup_cons]

/-- The document of a Secret that was written. -/
theorem secretDocument_imprinted {s : Secret} (lasting : s.metadata.Lasting) {own : Imprint}
    {v : String} (version : own.version = some v) :
    SecretDocument (own.onDocument s.toJson) ((own.onSecret s).versioned v) where
  read := by
    have hversioned : (own.onSecret s).versioned v = own.onSecret s := by
      simp [Secret.versioned, Imprint.onSecret, Imprint.on, version]
    rw [hversioned]
    exact Secret.ofJson?_onDocument lasting own
  version := ⟨v, Imprint.at?_version version s.toJson, rfl⟩
  inSeconds := own.inSeconds_on fun t ht => (lasting.times t ht).2

/-- The document of a claim whose status was patched. -/
theorem claimDocument_patched {doc : Json} {claim : Claim} (h : ClaimDocument doc claim)
    (own : Imprint) (s : Status) :
    ClaimDocument (own.onDocument (withPatchedStatus doc (Store.statusPatch s)))
      { claim with metadata := own.on claim.metadata, status := some s } := by
  obtain ⟨m, rfl⟩ := h.isObject
  have hmerge : (Json.obj m).merge (Store.statusPatch s) =
      .obj (Json.Members.set "status" (((m.lookup "status").getD .null).merge s.toJson) m) := rfl
  have hpatched : withPatchedStatus (.obj m) (Store.statusPatch s) =
      .obj (Json.Members.set "status" (((m.lookup "status").getD .null).merge s.toJson) m) := by
    rw [withPatchedStatus, hmerge, Json.member?, Json.Members.lookup_set_self]
    rfl
  have hread := Claim.ofJson?_set_status h.read Json.noConfusion
    (Status.ofJson?_merge_toJson ((m.lookup "status").getD .null) s)
  rw [hpatched]
  exact ⟨⟨_, rfl⟩, Claim.ofJson?_onDocument hread own⟩

section Replies

variable {key : Key} {d d' : Documents} {x : Exchange} {reply : Reply}

/-- What is found is read as the object, and nothing as none; the documents stay. -/
theorem found_read {α : Type} {f : Json → Option α} {R : Json → α → Prop} {r : Resource}
    {o : Option α} (hrel : Option.Rel R (d r)[key]? o)
    (hread : ∀ {doc : Json} {a : α}, R doc a → f doc = some a)
    (served : d.find r key = (reply, d')) (back : Carries x reply) :
    Response.optionalValue? f x = .ok o ∧ d' = d := by
  rw [Documents.find] at served
  rcases rel_cases hrel with ⟨hd, rfl⟩ | ⟨doc, value, hd, rfl, h⟩
  · simp only [hd] at served
    cases served
    obtain ⟨r, hr, -, hreason⟩ := exists_refusal back
    rw [Response.optionalValue?, hr f]
    exact ⟨if_pos (hreason _ rfl), rfl⟩
  · simp only [hd] at served
    cases served
    rw [Response.optionalValue?, value?_document back (hread h)]
    exact ⟨rfl, rfl⟩

/-- A write that is answered with a document has succeeded. -/
theorem writeAnswer_document {α : Type} {f : Json → Option α} {doc : Json} {v : α}
    (what : Key) (back : Carries x (.document doc)) (h : f doc = some v) :
    Store.writeAnswer what f x = .ok () := by
  rw [Store.writeAnswer, value?_document back h]

/-- An object that is not there: the error is the refusal. -/
theorem writeAnswer_missing {α : Type} (f : Json → Option α) (what : Key)
    (back : Carries x (.refusal (some 404) none)) :
    ∃ r : Refusal, r.code = 404 ∧ Store.writeAnswer what f x = .error (.api (.refused r)) := by
  obtain ⟨r, hr, hcode, -⟩ := exists_refusal (α := α) back
  have hmissing : r.code = 404 := hcode _ rfl
  refine ⟨r, hmissing, ?_⟩
  rw [Store.writeAnswer, hr f]
  exact congrArg Except.error (if_neg (by omega))

/-- An object that is there already. -/
theorem writeAnswer_taken {α : Type} (f : Json → Option α) (what : Key)
    (back : Carries x (.refusal (some 409) (some "AlreadyExists"))) :
    Store.writeAnswer what f x = .error (.alreadyExists what.text) := by
  obtain ⟨r, hr, hcode, hreason⟩ := exists_refusal (α := α) back
  rw [Store.writeAnswer, hr f]
  exact congrArg Except.error ((if_pos (hcode _ rfl)).trans (if_pos (hreason _ rfl)))

/-- An object that was written in the meantime. -/
theorem writeAnswer_stale {α : Type} (f : Json → Option α) (what : Key)
    (back : Carries x (.refusal (some 409) (some "Conflict"))) :
    Store.writeAnswer what f x = .error (.conflict what.text) := by
  obtain ⟨r, hr, hcode, hreason⟩ := exists_refusal (α := α) back
  have hconflict : ¬ r.reason = "AlreadyExists" := by
    rw [hreason _ rfl]
    decide
  rw [Store.writeAnswer, hr f]
  exact congrArg Except.error ((if_pos (hcode _ rfl)).trans (if_neg hconflict))

theorem isAbout_of_place {request : Request} {r : Resource} {part : Option String}
    (h : place? request.target.path = some ⟨r, key.ns, some key.name, part⟩) :
    IsAbout key request := ⟨_, h, rfl, .inl rfl⟩

end Replies

section Prepared

variable {manager : String} {key : Key} (a : Addressable manager key)

include a

theorem prepare_readClaim :
    Store.prepare manager (.readClaim key) = .ok (.finding .claims key) := by
  rw [Store.prepare, Request.get_eq .claims a]
  rfl

theorem prepare_readSecret :
    Store.prepare manager (.readSecret key) = .ok (.finding .secrets key) := by
  rw [Store.prepare, Request.get_eq .secrets a]
  rfl

theorem prepare_createSecret {secret : Secret}
    (hm : manager.utf8ByteSize ≤ Request.maxManagerBytes) (hk : secret.key? = some key) :
    Store.prepare manager (.createSecret secret) =
      .ok (.creating .secrets key.ns manager secret.toJson) := by
  rw [Store.prepare, hk, Store.keyOf]
  exact congrArg Store.built (Request.create_eq .secrets a hm secret.toJson)

theorem prepare_replaceSecret {secret : Secret} (hk : secret.key? = some key) :
    Store.prepare manager (.replaceSecret secret) =
      .ok (.replacing .secrets key manager secret.toJson) := by
  rw [Store.prepare, hk, Store.keyOf]
  exact congrArg Store.built (Request.replace_eq .secrets a secret.toJson)

theorem prepare_writeStatus {claim : Claim} (status : Status)
    (hm : manager.utf8ByteSize ≤ Request.maxManagerBytes) (hk : claim.key? = some key) :
    Store.prepare manager (.writeStatus claim status) =
      .ok (.patchingStatus .claims key manager (Store.statusPatch status)) := by
  rw [Store.prepare, hk, Store.keyOf]
  exact congrArg Store.built (Request.patch_eq .claims a hm _)

end Prepared

section Calls

variable {S : Type} {server : Backend S} {documents : S → Documents} {manager : String} {key : Key}
  {s s' : S} {c : Cluster} {sent : List Request}

/-- A request that is built is the one that is sent, and the answer is read from the reply. -/
theorem Conveyed.eq_of_prepare {call : StoreCall} {answer : call.Answer} {request : Request}
    (h : Conveyed server manager call s sent answer s')
    (built : Store.prepare manager call = .ok request) :
    ∃ x, sent = [request] ∧ server s request x s' ∧ answer = Store.interpret call x := by
  cases h with
  | unsent h =>
    rw [built] at h
    cases h
  | sent h back =>
    rw [built] at h
    cases h
    exact ⟨_, rfl, back, rfl⟩

variable (documented : Documented server documents) (a : Addressable manager key)
  (shows : Shows (documents s) c)

include documented a shows

theorem mirrored_readClaim {answer : (StoreCall.readClaim key).Answer}
    (h : Conveyed server manager (.readClaim key) s sent answer s') :
    Mirrored key (.readClaim key) c sent answer (documents s') := by
  obtain ⟨x, rfl, back, rfl⟩ := h.eq_of_prepare (prepare_readClaim a)
  obtain ⟨reply, back, served⟩ := documented.finding .claims a back
  obtain ⟨read, same⟩ := found_read (shows.claims key) ClaimDocument.read served back
  have hanswer : Store.interpret (.readClaim key) x = .ok c.claims[key]? := by
    rw [Store.interpret, read]
    rfl
  rw [hanswer, same]
  exact ⟨_, c, rfl, isAbout_of_place (place?_objectPath .claims a), .readClaim c key, shows⟩

theorem mirrored_readSecret {answer : (StoreCall.readSecret key).Answer}
    (h : Conveyed server manager (.readSecret key) s sent answer s') :
    Mirrored key (.readSecret key) c sent answer (documents s') := by
  obtain ⟨x, rfl, back, rfl⟩ := h.eq_of_prepare (prepare_readSecret a)
  obtain ⟨reply, back, served⟩ := documented.finding .secrets a back
  obtain ⟨read, same⟩ := found_read (shows.secrets key) SecretDocument.read served back
  have hanswer : Store.interpret (.readSecret key) x = .ok c.secrets[key]? := by
    rw [Store.interpret, read]
    rfl
  rw [hanswer, same]
  exact ⟨_, c, rfl, isAbout_of_place (place?_objectPath .secrets a), .readSecret c key, shows⟩

theorem mirrored_createSecret {secret : Secret}
    (hm : manager.utf8ByteSize ≤ Request.maxManagerBytes) (hk : secret.key? = some key)
    (lasting : secret.metadata.Lasting) {answer : (StoreCall.createSecret secret).Answer}
    (h : Conveyed server manager (.createSecret secret) s sent answer s') :
    Mirrored key (.createSecret secret) c sent answer (documents s') := by
  have hname : secret.toJson.at? namePath = some (.str key.name) := by
    rw [at?_name, Metadata.name_of_key? hk]
    rfl
  obtain ⟨x, rfl, back, rfl⟩ := h.eq_of_prepare (prepare_createSecret a hm hk)
  obtain ⟨own, v, reply, version, back, served⟩ := documented.creating .secrets a back hname
  generalize documents s' = d' at served ⊢
  have about : IsAbout key (.creating .secrets key.ns manager secret.toJson) :=
    ⟨_, place?_path .secrets a, rfl, .inr ⟨rfl, hname⟩⟩
  have hwhat : secret.metadata.place = key := Metadata.place_of_key? hk
  rw [Documents.create] at served
  rcases rel_cases (shows.secrets key) with ⟨hd, hc⟩ | ⟨doc, stored, hd, hc, -⟩
  · simp only [hd] at served
    cases served
    have hdoc := secretDocument_imprinted lasting version
    have hown : (own.onSecret secret).key? = some key := hk
    have hanswer : Store.interpret (.createSecret secret) x = .ok () :=
      writeAnswer_document _ back hdoc.read
    rw [hanswer]
    exact ⟨_, _, rfl, about, .created version hk hc, shows.putSecret hown hdoc⟩
  · simp only [hd] at served
    cases served
    have hanswer : Store.interpret (.createSecret secret) x = .error (.alreadyExists key.text) :=
      hwhat ▸ writeAnswer_taken Secret.ofJson? secret.metadata.place back
    rw [hanswer]
    exact ⟨_, c, rfl, about, .taken hk hc, shows⟩

theorem mirrored_replaceSecret {secret : Secret} {version : String} (hk : secret.key? = some key)
    (lasting : secret.metadata.Lasting) (hv : secret.metadata.resourceVersion = some version)
    {answer : (StoreCall.replaceSecret secret).Answer}
    (h : Conveyed server manager (.replaceSecret secret) s sent answer s') :
    Mirrored key (.replaceSecret secret) c sent answer (documents s') := by
  have hversion : secret.toJson.at? versionPath = some (.str version) := by
    rw [at?_version, hv]
    rfl
  obtain ⟨x, rfl, back, rfl⟩ := h.eq_of_prepare (prepare_replaceSecret a hk)
  obtain ⟨own, v, reply, given, back, served⟩ := documented.replacing .secrets a back hversion
  generalize documents s' = d' at served ⊢
  have about : IsAbout key (.replacing .secrets key manager secret.toJson) :=
    isAbout_of_place (place?_objectPath .secrets a)
  have hwhat : secret.metadata.place = key := Metadata.place_of_key? hk
  rw [Documents.replace, hversion] at served
  rcases rel_cases (shows.secrets key) with ⟨hd, hc⟩ | ⟨doc, stored, hd, hc, hstored⟩
  · simp only [hd] at served
    cases served
    obtain ⟨r, hgone, hr⟩ := writeAnswer_missing Secret.ofJson? secret.metadata.place back
    have hanswer : Store.interpret (.replaceSecret secret) x = .error (.api (.refused r)) := hr
    rw [hanswer]
    exact ⟨_, c, rfl, about, .vanished hk hc hgone, shows⟩
  · obtain ⟨storedVersion, hdocVersion, hstoredVersion⟩ := hstored.version
    simp only [hd, hdocVersion] at served
    by_cases hsame : version = storedVersion
    · subst hsame
      rw [if_pos rfl] at served
      cases served
      have hdoc := secretDocument_imprinted lasting given
      have hown : (own.onSecret secret).key? = some key := hk
      have hanswer : Store.interpret (.replaceSecret secret) x = .ok () :=
        writeAnswer_document _ back hdoc.read
      rw [hanswer]
      exact ⟨_, _, rfl, about, .replaced given hk hc (hv.trans hstoredVersion.symm),
        shows.putSecret hown hdoc⟩
    · have hother : some (Json.str version) ≠ some (Json.str storedVersion) := by simp [hsame]
      rw [if_neg hother] at served
      cases served
      have hanswer : Store.interpret (.replaceSecret secret) x = .error (.conflict key.text) :=
        hwhat ▸ writeAnswer_stale Secret.ofJson? secret.metadata.place back
      rw [hanswer]
      refine ⟨_, c, rfl, about, .stale hk hc ?_, shows⟩
      rw [hv, hstoredVersion]
      simpa using hsame

theorem mirrored_writeStatus {claim : Claim} (status : Status)
    (hm : manager.utf8ByteSize ≤ Request.maxManagerBytes) (hk : claim.key? = some key)
    {answer : (StoreCall.writeStatus claim status).Answer}
    (h : Conveyed server manager (.writeStatus claim status) s sent answer s') :
    Mirrored key (.writeStatus claim status) c sent answer (documents s') := by
  obtain ⟨x, rfl, back, rfl⟩ := h.eq_of_prepare (prepare_writeStatus a status hm hk)
  obtain ⟨own, reply, revision, back, served⟩ := documented.patchingStatus .claims a back
  generalize documents s' = d' at served ⊢
  have about : IsAbout key (.patchingStatus .claims key manager (Store.statusPatch status)) :=
    isAbout_of_place (place?_status .claims a)
  rw [Documents.patchStatus] at served
  rcases rel_cases (shows.claims key) with ⟨hd, hc⟩ | ⟨doc, stored, hd, hc, hstored⟩
  · simp only [hd] at served
    cases served
    obtain ⟨r, hgone, hr⟩ := writeAnswer_missing Claim.ofJson? claim.metadata.place back
    have hanswer : Store.interpret (.writeStatus claim status) x = .error (.api (.refused r)) := hr
    rw [hanswer]
    exact ⟨_, c, rfl, about, .unreported status hk hc hgone, shows⟩
  · simp only [hd] at served
    cases served
    have hdoc := claimDocument_patched hstored own status
    have hanswer : Store.interpret (.writeStatus claim status) x = .ok () :=
      writeAnswer_document _ back hdoc.read
    rw [hanswer]
    exact ⟨_, _, rfl, about, .reported revision status hk hc, shows.putClaim _ hdoc⟩

/-- **One call**: a faithful call sends one request, for its object, and is answered as by a
keyed store. -/
theorem Conveyed.mirrored (hm : manager.utf8ByteSize ≤ Request.maxManagerBytes) {call : StoreCall}
    (faithful : Faithful key call) {answer : call.Answer}
    (h : Conveyed server manager call s sent answer s') :
    Mirrored key call c sent answer (documents s') := by
  cases faithful with
  | readClaim => exact mirrored_readClaim documented a shows h
  | readSecret => exact mirrored_readSecret documented a shows h
  | writeStatus status hk => exact mirrored_writeStatus documented a shows status hm hk h
  | createSecret hk lasting => exact mirrored_createSecret documented a shows hm hk lasting h
  | replaceSecret hk lasting version =>
    exact mirrored_replaceSecret documented a shows hk lasting version h

end Calls

end SecretKeeper.Production
