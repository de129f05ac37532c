/-
# Cycles against the API server

Any number of cycles are on their way, their store calls go through the API server one at a time,
and between any two of them others may leave whatever documents they like, as long as these are
documents of objects.

A cycle never asks for what the encoding would lose (`Bearing.faithful`): it writes under its own
key, and a Secret that it writes again is one that it has read from a document.  So every call of
a run is answered as by a map from keys to objects, and the documents of the server stay those of
the map: step by step (`Step.refines`), then by induction along the run (`Run.refines`).
-/
import SecretKeeper.Json.Writer
import SecretKeeper.Proofs.Apart
import SecretKeeper.Proofs.Interleaving
import SecretKeeper.Proofs.Legibility
import SecretKeeper.Proofs.Mirror

namespace SecretKeeper.Production

open Api Controller Program

/-! ## 1. Runs -/

/-- The state of the server, and the cycles that are on their way. -/
structure State (S : Type) where
  server : S
  flights : List Flight

/-- What happens in one step. -/
inductive Move where
  /-- Somebody else leaves these documents. -/
  | outside (left : Documents)
  | begun (key : Key)
  /-- A cycle makes a store call, for which requests are sent, and is answered. -/
  | conveyed (f : Flight) (call : StoreCall) (sent : List Request) (answer : call.Answer)
  /-- A cycle asks for something else. -/
  | aside (f : Flight) (r : Effect) (answer : r.Answer)
  /-- A cycle is cut off, or has come to its end. -/
  | dropped (f : Flight)

/-- One step of anybody. -/
inductive Step {S : Type} (server : Backend S) (documents : S → Documents) (manager : String) :
    State S → Move → State S → Prop
  | outside (s left : S) (flights : List Flight) {c : Cluster} (h : Shows (documents left) c) :
      Step server documents manager ⟨s, flights⟩ (.outside (documents left)) ⟨left, flights⟩
  | begun (s : S) (flights : List Flight) {key : Key} (a : Addressable manager key) :
      Step server documents manager ⟨s, flights⟩ (.begun key) ⟨s, .start key :: flights⟩
  | conveyed {s s' : S} {key : Key} {log : List (Event controllerInterface)}
      {call : StoreCall} {resume : call.Answer → Controller (Except CycleError Outcome)}
      {sent : List Request} {answer : call.Answer} (before after : List Flight)
      (h : Conveyed server manager call s sent answer s') :
      Step server documents manager
        ⟨s, before ++ ⟨key, log, .ask (.store call) resume⟩ :: after⟩
        (.conveyed ⟨key, log, .ask (.store call) resume⟩ call sent answer)
        ⟨s', before ++ ⟨key, log ++ [told call answer], resume answer⟩ :: after⟩
  | aside (s : S) {key : Key} {log : List (Event controllerInterface)} {r : Effect}
      {resume : r.Answer → Controller (Except CycleError Outcome)} (answer : r.Answer)
      (before after : List Flight) (h : ∀ call, r ≠ .store call) :
      Step server documents manager ⟨s, before ++ ⟨key, log, .ask r resume⟩ :: after⟩
        (.aside ⟨key, log, .ask r resume⟩ r answer)
        ⟨s, before ++ ⟨key, log ++ [⟨r, answer⟩], resume answer⟩ :: after⟩
  | dropped (s : S) (before after : List Flight) (f : Flight) :
      Step server documents manager ⟨s, before ++ f :: after⟩ (.dropped f) ⟨s, before ++ after⟩

/-- A run, with everything that happened in it. -/
inductive Run {S : Type} (server : Backend S) (documents : S → Documents) (manager : String)
    (first : State S) : List Move → State S → Prop
  | start : Run server documents manager first [] first
  | step {s s' : State S} {moves : List Move} {move : Move}
      (run : Run server documents manager first moves s)
      (step : Step server documents manager s move s') :
      Run server documents manager first (moves ++ [move]) s'

/-- What a move comes to where objects are kept under their keys.  A call is for the cycle's key,
exactly one request is sent for it, which is about the object of that key, and the answer is that
of the map. -/
inductive Kept : Move → Cluster → Cluster → Prop
  | outside {left : Documents} {c' : Cluster} (c : Cluster) (h : Shows left c') :
      Kept (.outside left) c c'
  | begun (c : Cluster) (key : Key) : Kept (.begun key) c c
  | conveyed {f : Flight} {call : StoreCall} {request : Request} {answer : call.Answer}
      {c c' : Cluster} (place : call.place = f.key) (about : IsAbout f.key request)
      (h : Keeps call c answer c') :
      Kept (.conveyed f call [request] answer) c c'
  | aside (c : Cluster) (f : Flight) (r : Effect) (answer : r.Answer) :
      Kept (.aside f r answer) c c
  | dropped (c : Cluster) (f : Flight) : Kept (.dropped f) c c

/-- What the moves of a run come to, one after the other. -/
inductive AllKept (c : Cluster) : List Move → Cluster → Prop
  | start : AllKept c [] c
  | step {c' c'' : Cluster} {moves : List Move} {move : Move} (before : AllKept c moves c')
      (kept : Kept move c' c'') : AllKept c (moves ++ [move]) c''

/-! ## 2. What a cycle hands over -/

theorem key?_of_place {manager : String} {m : Metadata} {key : Key} (a : Addressable manager key)
    (h : m.place = key) : m.key? = some key := by
  have hns : m.ns.getD "" = key.ns := congrArg Key.ns h
  have hname : m.name.getD "" = key.name := congrArg Key.name h
  cases hn : m.ns with
  | none =>
    rw [hn] at hns
    exact absurd hns.symm a.ns.nonempty
  | some ns =>
    cases hm : m.name with
    | none =>
      rw [hm] at hname
      exact absurd hname.symm a.name.nonempty
    | some name =>
      rw [hn] at hns
      rw [hm] at hname
      obtain rfl : ns = key.ns := hns
      obtain rfl : name = key.name := hname
      rw [Metadata.key?, hn, hm]
      rfl

/-- A new Secret tells no times, and nobody's account of its fields. -/
theorem lasting_new (claim : Claim) (data : Dict Bytes) :
    (Secret.new claim data).metadata.Lasting :=
  ⟨fun _ h => (nomatch h), fun _ h => (nomatch h)⟩

/-- The Secret has a version, and nothing of it is lost when it is written. -/
structure Rewritable (secret : Secret) : Prop where
  version : ∃ v, secret.metadata.resourceVersion = some v
  lasting : secret.metadata.Lasting

/-- What a cycle knows of itself: it stays at its key, and has read only what it can write. -/
structure Bearing (manager : String) (f : Flight) : Prop where
  addressable : Addressable manager f.key
  reaches : Reaches (cycle f.key) f.log f.rest
  confined : Confined f.key f.rest
  secrets : ∀ key secret, told (.readSecret key) (.ok (some secret)) ∈ f.log → Rewritable secret

section Bearing

variable {manager : String} {key : Key} {log : List (Event controllerInterface)}
  {d : Documents} {c c' : Cluster}

theorem bearing_start (a : Addressable manager key) : Bearing manager (.start key) where
  addressable := a
  reaches := .here _
  confined := confined_cycle key
  secrets _ _ h := nomatch h

/-- A call that is next is one that nothing is lost of. -/
theorem Bearing.faithful {call : StoreCall}
    {resume : call.Answer → Controller (Except CycleError Outcome)}
    (h : Bearing manager ⟨key, log, .ask (.store call) resume⟩) : Faithful key call := by
  have hplace : call.place = key := h.confined.1 call rfl
  cases call with
  | readClaim k =>
    obtain rfl : k = key := hplace
    exact .readClaim
  | readSecret k =>
    obtain rfl : k = key := hplace
    exact .readSecret
  | writeStatus claim status => exact .writeStatus status (key?_of_place h.addressable hplace)
  | createSecret secret =>
    obtain ⟨claim, existing, _, _, data, -, -, -, hcall⟩ := write_of_reaches h.reaches rfl
    cases existing with
    | none =>
      cases hcall
      exact .createSecret (key?_of_place h.addressable hplace) (lasting_new claim data)
    | some old => cases hcall
  | replaceSecret secret =>
    obtain ⟨claim, existing, _, drawn, data, -, -, hlog, hcall⟩ := write_of_reaches h.reaches rfl
    cases existing with
    | none => cases hcall
    | some old =>
      cases hcall
      have hread : told (.readSecret key) (.ok (some old)) ∈ outward log := by
        rw [hlog]
        simp [reads]
      obtain ⟨⟨v, hv⟩, lasting⟩ := h.secrets key old (List.mem_filter.mp hread).1
      exact .replaceSecret (v := v) (key?_of_place h.addressable hplace) lasting hv

/-- An answer leaves a cycle its bearing, if an object that was read is that of the key, and a
Secret can be written again. -/
theorem Bearing.tell {r : Effect} {resume : r.Answer → Controller (Except CycleError Outcome)}
    (h : Bearing manager ⟨key, log, .ask r resume⟩) {answer : r.Answer} (fits : Fits key r answer)
    (rewritable : ∀ k secret, (⟨r, answer⟩ : Event controllerInterface) =
      told (.readSecret k) (.ok (some secret)) → Rewritable secret) :
    Bearing manager ⟨key, log ++ [⟨r, answer⟩], resume answer⟩ where
  addressable := h.addressable
  reaches := h.reaches.tell answer
  confined := h.confined.2 answer fits
  secrets k secret hm := by
    rcases List.mem_append.mp hm with hm | hm
    · exact h.secrets k secret hm
    · exact rewritable k secret (List.mem_singleton.mp hm).symm

theorem Bearing.aside {r : Effect} {resume : r.Answer → Controller (Except CycleError Outcome)}
    (h : Bearing manager ⟨key, log, .ask r resume⟩) (apart : ∀ call, r ≠ .store call)
    (answer : r.Answer) : Bearing manager ⟨key, log ++ [⟨r, answer⟩], resume answer⟩ := by
  refine h.tell ?_ fun k secret he => ?_
  · cases r with
    | store call => exact absurd rfl (apart call)
    | _ => trivial
  · cases he
    exact absurd rfl (apart _)

/-- A Secret that was read from its document can be written again. -/
theorem Shows.rewritable (h : Shows d c) {k : Key} {secret : Secret}
    (there : c.secrets[k]? = some secret) : Rewritable secret := by
  rcases rel_cases (h.secrets k) with ⟨-, gone⟩ | ⟨doc, stored, -, hs, hdoc⟩
  · rw [there] at gone
    cases gone
  · rw [there] at hs
    cases hs
    obtain ⟨v, -, hv⟩ := hdoc.version
    exact ⟨⟨v, hv⟩, Secret.lasting_of_ofJson? hdoc.read hdoc.inSeconds⟩

theorem Bearing.told {call : StoreCall}
    {resume : call.Answer → Controller (Except CycleError Outcome)} {answer : call.Answer}
    (h : Bearing manager ⟨key, log, .ask (.store call) resume⟩) (shows : Shows d c)
    (keeps : Keeps call c answer c') :
    Bearing manager ⟨key, log ++ [told call answer], resume answer⟩ := by
  have hplace : call.place = key := h.confined.1 call rfl
  refine h.tell ?_ fun k secret he => ?_
  · cases keeps with
    | readClaim =>
      cases hplace
      exact fun claim ha => Metadata.place_of_key? (c.claims_placed _ claim (Except.ok.inj ha))
    | readSecret =>
      cases hplace
      exact fun secret ha => Metadata.place_of_key? (c.secrets_placed _ secret (Except.ok.inj ha))
    | _ => trivial
  · cases he
    generalize hs : (Except.ok (some secret) : (StoreCall.readSecret k).Answer) = answer at keeps
    cases keeps with
    | readSecret => exact shows.rewritable (Except.ok.inj hs).symm

end Bearing

/-! ## 3. Every run -/

section Runs

variable {S : Type} {server : Backend S} {documents : S → Documents} {manager : String}

/-- Every cycle on its way has its bearing. -/
def State.Sound (manager : String) (s : State S) : Prop := ∀ f ∈ s.flights, Bearing manager f

/-- A cycle among others. -/
theorem sound_iff {s : S} {before after : List Flight} {f : Flight} :
    State.Sound manager ⟨s, before ++ f :: after⟩ ↔
      (∀ g ∈ before, Bearing manager g) ∧ Bearing manager f ∧ ∀ g ∈ after, Bearing manager g := by
  rw [State.Sound, List.forall_mem_append, List.forall_mem_cons]

variable (documented : Documented server documents)
  (hm : manager.utf8ByteSize ≤ Request.maxManagerBytes)

include documented hm

/-- **A step is one of a keyed store**, and leaves the documents and the cycles as they should
be. -/
theorem Step.refines {s s' : State S} {move : Move} {c : Cluster}
    (h : Step server documents manager s move s') (sound : s.Sound manager)
    (shows : Shows (documents s.server) c) :
    s'.Sound manager ∧ ∃ c', Kept move c c' ∧ Shows (documents s'.server) c' := by
  cases h with
  | outside s left flights shows' => exact ⟨sound, _, .outside c shows', shows'⟩
  | begun s flights a =>
    exact ⟨List.forall_mem_cons.mpr ⟨bearing_start a, sound⟩, c, .begun c _, shows⟩
  | conveyed before after h =>
    obtain ⟨hbefore, hf, hafter⟩ := sound_iff.mp sound
    obtain ⟨request, c', rfl, about, keeps, shows'⟩ :=
      h.mirrored documented hf.addressable shows hm hf.faithful
    exact ⟨sound_iff.mpr ⟨hbefore, hf.told shows keeps, hafter⟩,
      c', .conveyed (hf.confined.1 _ rfl) about keeps, shows'⟩
  | aside s answer before after h =>
    obtain ⟨hbefore, hf, hafter⟩ := sound_iff.mp sound
    exact ⟨sound_iff.mpr ⟨hbefore, hf.aside h answer, hafter⟩, c, .aside c _ _ answer, shows⟩
  | dropped s before after f =>
    obtain ⟨hbefore, -, hafter⟩ := sound_iff.mp sound
    exact ⟨List.forall_mem_append.mpr ⟨hbefore, hafter⟩, c, .dropped c f, shows⟩

theorem Run.refines {s s' : State S} {moves : List Move} {c : Cluster}
    (h : Run server documents manager s moves s') (sound : s.Sound manager)
    (shows : Shows (documents s.server) c) :
    s'.Sound manager ∧ ∃ c', AllKept c moves c' ∧ Shows (documents s'.server) c' := by
  induction h with
  | start => exact ⟨sound, c, .start, shows⟩
  | step _ step ih =>
    obtain ⟨sound', c', before, shows'⟩ := ih
    obtain ⟨sound'', c'', kept, shows''⟩ := step.refines documented hm sound' shows'
    exact ⟨sound'', c'', .step before kept, shows''⟩

/-- **The stores refine a keyed store.**  The server does what is documented, the field manager
has at most 128 bytes, the documents are those of the objects in a cluster, and every cycle that
begins is for a key whose namespace and name are segments of a path, and not too long for a
target.  Then for every run, with any number of cycles on their way and others changing the
documents at any time:

* every store call is for the cycle's key and sends exactly one request, which is about the object
  of that key;
* it is answered as by the map from keys to objects that is held at that moment, and does to the
  map what such a call does: a read yields what is stored or none, a creation succeeds where the
  key is free and else says that the object exists, a replacement succeeds where the stored
  version is the one given and else says that there is a conflict, or that nothing is there,
  and a report replaces the status of the stored claim and nothing else, but for the version and
  the account of who manages the fields;
* in the end, as at every moment, the documents are those of the objects in the map. -/
theorem stores_refine {first : S} {c : Cluster} (shows : Shows (documents first) c)
    {moves : List Move} {s : State S}
    (run : Run server documents manager ⟨first, []⟩ moves s) :
    ∃ c', AllKept c moves c' ∧ Shows (documents s.server) c' :=
  (run.refines documented hm (List.forall_mem_nil _) shows).2

end Runs

/-! ## 4. One run

A claim without its Secret.  A cycle reads both; then somebody else creates a Secret of that
name, and the cycle, which does not know, is told so when it creates its own. -/

namespace Sample

def manager : String := "secret-keeper"

def key : Key := ⟨"default", "db"⟩

def claim : Claim where
  metadata := { ns := some "default", name := some "db", uid := some "u1" }
  spec := { type := "Opaque", data := (∅ : Dict String).insert "user" "admin" }

/-- The Secret that the claim asks for. -/
def secret : Secret := .new claim ((∅ : Dict Bytes).insert "user" (Bytes.utf8 "admin"))

/-- The Secret of somebody else. -/
def other : Secret where
  metadata := { ns := some "default", name := some "db" }

def documents : Documents := Documents.put (fun _ => ∅) .claims key claim.toJson

def cluster : Cluster := Cluster.empty.putClaim key claim rfl

/-- What the server has added to it. -/
def imprint : Imprint where
  version := some "7"
  uid := some "u7"
  creationTimestamp := some ⟨1700000000, 0⟩
  inSeconds t ht := by
    cases ht
    decide +kernel

/-- The documents once there is a Secret. -/
def left : Documents := documents.put .secrets key (imprint.onDocument other.toJson)

/-- What the server says where it refuses. -/
def refusal (reason : String) (code : Nat) : Json :=
  .obj [("status", .str "Failure"), ("reason", .str reason), ("code", .nat code)]

theorem addressable : Addressable manager key where
  ns := ⟨by decide, List.all_eq_true.mp (by decide), by decide⟩
  name := ⟨by decide, List.all_eq_true.mp (by decide), by decide⟩
  fits := by decide +kernel

theorem tells (reason : String) (code : Nat) :
    Tells (refusal reason code).members ⟨"Failure", "", reason, code⟩ where
  distinct := (by decide : ["status", "reason", "code"].Nodup)
  status := rfl
  message := rfl
  reason := rfl
  code := rfl

theorem claim_document : ClaimDocument claim.toJson claim :=
  ⟨⟨_, rfl⟩, by decide +kernel⟩

theorem empty_shown : Shows (fun _ => ∅) Cluster.empty where
  claims := rel_empty
  secrets := rel_empty

theorem shown : Shows documents cluster := empty_shown.putClaim rfl claim_document

theorem left_shown : Shows left (cluster.putSecret key (imprint.onSecret other) "7" rfl) :=
  have lasting : other.metadata.Lasting := ⟨fun _ h => (nomatch h), fun _ h => (nomatch h)⟩
  shown.putSecret rfl (secretDocument_imprinted lasting rfl)

theorem claim_read : Conveyed Documents.Serves manager (.readClaim key) documents
    [.finding .claims key] (.ok (some claim)) documents := by
  have unmanaged : ∀ j ∈ claim.metadata.accounts, j.Plain (Json.Reader.depthLimit - 4) :=
    List.forall_mem_nil _
  have plain : claim.toJson.Plain Json.Reader.depthLimit := Claim.plain_toJson unmanaged
  have back : Carries (.answered 200 claim.toJson.render "") (.document claim.toJson) :=
    .document (by decide) (Json.parse?_render plain)
  have read : Store.interpret (.readClaim key) (.answered 200 claim.toJson.render "") =
      .ok (some claim) := by
    rw [Store.interpret, Response.optionalValue?, value?_document back claim_document.read]
    rfl
  have served : Documents.Serves documents (.finding .claims key)
      (.answered 200 claim.toJson.render "") (documents.find .claims key).2 :=
    .get rfl (place?_objectPath .claims addressable) back
  have same : (documents.find .claims key).2 = documents := rfl
  rw [← read]
  exact .sent rfl (same ▸ served)

theorem secret_missing : Conveyed Documents.Serves manager (.readSecret key) documents
    [.finding .secrets key] (.ok none) documents := by
  have back : Carries (.answered 404 (refusal "NotFound" 404).render "")
      (.refusal none (some "NotFound")) :=
    .refusal (by decide) (by decide +kernel) (tells "NotFound" 404) (fun _ h => nomatch h)
      fun _ h => Option.some.inj h
  have found : Response.optionalValue? Secret.ofJson?
      (.answered 404 (refusal "NotFound" 404).render "") = .ok none := by decide +kernel
  have read : Store.interpret (.readSecret key) (.answered 404 (refusal "NotFound" 404).render "") =
      .ok none := by
    rw [Store.interpret, found]
    rfl
  have served : Documents.Serves documents (.finding .secrets key)
      (.answered 404 (refusal "NotFound" 404).render "") (documents.find .secrets key).2 :=
    .get rfl (place?_objectPath .secrets addressable) back
  have same : (documents.find .secrets key).2 = documents := rfl
  rw [← read]
  exact .sent rfl (same ▸ served)

theorem secret_taken : Conveyed Documents.Serves manager (.createSecret secret) left
    [.creating .secrets "default" manager secret.toJson]
    (.error (.alreadyExists "default/db")) left := by
  have back : Carries (.answered 409 (refusal "AlreadyExists" 409).render "")
      (.refusal (some 409) (some "AlreadyExists")) :=
    .refusal (by decide) (by decide +kernel) (tells "AlreadyExists" 409)
      (fun _ h => Option.some.inj h) fun _ h => Option.some.inj h
  have read : Store.interpret (.createSecret secret)
      (.answered 409 (refusal "AlreadyExists" 409).render "") =
      .error (.alreadyExists "default/db") := writeAnswer_taken Secret.ofJson? key back
  have place : place? (Resource.secrets.path key.ns) = some ⟨.secrets, key.ns, none, none⟩ :=
    place?_path .secrets addressable
  have served : Documents.Serves left (.creating .secrets "default" manager secret.toJson)
      (.answered 409 (refusal "AlreadyExists" 409).render "")
      (left.create .secrets key imprint secret.toJson).2 := .post rfl rfl place rfl rfl back
  have same : (left.create .secrets key imprint secret.toJson).2 = left := rfl
  rw [← read]
  exact .sent rfl (same ▸ served)

/-- A cycle that comes too late. -/
theorem exists_run : ∃ moves f,
    Run Documents.Serves id manager ⟨documents, []⟩ moves ⟨left, []⟩ ∧
    Move.conveyed f (.createSecret secret) [.creating .secrets "default" manager secret.toJson]
      (.error (.alreadyExists "default/db")) ∈ moves := by
  have h : Run Documents.Serves id manager ⟨documents, []⟩ [] ⟨documents, []⟩ := .start
  have h := h.step (.begun documents [] addressable)
  have h := h.step (.conveyed [] [] claim_read)
  have h := h.step (.aside (r := .note "claim.type" "Opaque") documents () [] []
    fun _ h => nomatch h)
  have h := h.step (.conveyed [] [] secret_missing)
  have h := h.step (.outside documents left _ left_shown)
  have h := h.step (.conveyed [] [] secret_taken)
  have h := h.step (.dropped left [] [] _)
  exact ⟨_, _, h, List.mem_append_left _ List.mem_concat_self⟩

end Sample

/-- The documents that are left are those of a map, in which the Secret is that of somebody
else. -/
theorem late_creation_refines : ∃ (moves : List Move) (f : Flight) (c' : Cluster),
    Run Documents.Serves id Sample.manager ⟨Sample.documents, []⟩ moves ⟨Sample.left, []⟩ ∧
    Move.conveyed f (.createSecret Sample.secret)
      [.creating .secrets "default" Sample.manager Sample.secret.toJson]
      (.error (.alreadyExists "default/db")) ∈ moves ∧
    AllKept Sample.cluster moves c' ∧ Shows Sample.left c' := by
  obtain ⟨moves, f, run, taken⟩ := Sample.exists_run
  obtain ⟨c', kept, shown⟩ := stores_refine serves_documented (by decide) Sample.shown run
  exact ⟨moves, f, c', run, taken, kept, shown⟩

end SecretKeeper.Production
