/-
# An API server

What the stores rely on.  The server is not part of the program, so it may be any (`Backend`) that
keeps documents, each under the key of its object, and does with them what is documented
(`Documented`): it shows what is there, and says NotFound where nothing is; it refuses to create
a document that is there, and to replace a version that is not the stored one; and it patches the
status of a claim and nothing beside it.  Whatever it writes, it leaves its imprint in the metadata.

It answers with a document or a refusal.  How they are sent is left open as well: any body that
reads as the document will do (`Carries`), and a refusal tells its status, code and reason, in
whatever order and among whatever else.  What the stores make of both is the same for all of them
(`value?_document`, `exists_refusal`).
-/
import SecretKeeper.Proofs.Imprint
import SecretKeeper.Proofs.Targets

namespace SecretKeeper.Api

/-! ## 1. What is kept -/

/-- The documents of a server, by their kind and key. -/
abbrev Documents := Resource → Keyed Json

/-- Where a document tells the name of its object. -/
def namePath : List String := ["metadata", "name"]

/-- Where a document tells its version. -/
def versionPath : List String := ["metadata", "resourceVersion"]

/-- The document with the status that it has after a patch, and nothing else changed. -/
def withPatchedStatus (doc patch : Json) : Json :=
  match (doc.merge patch).member? "status" with
  | some status => .obj (doc.members.set "status" status)
  | none => .obj (doc.members.remove "status")

/-- What a server answers. -/
inductive Reply where
  | document (doc : Json)
  /-- A refusal, with its code and its reason where they are fixed. -/
  | refusal (code : Option Nat) (reason : Option String)

namespace Documents

/-! ## 2. What a request does -/

/-- The documents with one more, or another one in its place. -/
def put (d : Documents) (r : Resource) (key : Key) (doc : Json) : Documents := fun other =>
  if other = r then (d r).insert key doc else d other

/-- A document is written, and is the answer. -/
def store (d : Documents) (r : Resource) (key : Key) (doc : Json) : Reply × Documents :=
  (.document doc, d.put r key doc)

/-- What is there is shown. -/
def find (d : Documents) (r : Resource) (key : Key) : Reply × Documents :=
  match (d r)[key]? with
  | some doc => (.document doc, d)
  | none => (.refusal none (some "NotFound"), d)

/-- A document is written with the imprint, unless there is one. -/
def create (d : Documents) (r : Resource) (key : Key) (own : Imprint) (body : Json) :
    Reply × Documents :=
  match (d r)[key]? with
  | some _ => (.refusal (some 409) (some "AlreadyExists"), d)
  | none => d.store r key (own.onDocument body)

/-- A document takes the place of the one that has its version, and has the imprint then. -/
def replace (d : Documents) (r : Resource) (key : Key) (own : Imprint) (body : Json) :
    Reply × Documents :=
  match (d r)[key]? with
  | none => (.refusal (some 404) none, d)
  | some old =>
    if body.at? versionPath = old.at? versionPath then d.store r key (own.onDocument body)
    else (.refusal (some 409) (some "Conflict"), d)

/-- The status of a document is patched. -/
def patchStatus (d : Documents) (r : Resource) (key : Key) (own : Imprint) (patch : Json) :
    Reply × Documents :=
  match (d r)[key]? with
  | none => (.refusal (some 404) none, d)
  | some old => d.store r key (own.onDocument (withPatchedStatus old patch))

@[simp] theorem put_self (d : Documents) (r : Resource) (key : Key) (doc : Json) :
    d.put r key doc r = (d r).insert key doc := if_pos rfl

theorem put_of_ne (d : Documents) {r other : Resource} (h : other ≠ r) (key : Key) (doc : Json) :
    d.put r key doc other = d other := if_neg h

end Documents

/-! ## 3. How it is told -/

/-- The members tell the refusal; an empty message or reason may be left out. -/
structure Tells (m : Json.Members) (r : Refusal) : Prop where
  distinct : m.Distinct
  status : m.lookup "status" = some (.str r.status)
  message : (m.lookup "message").getD (.str "") = .str r.message
  reason : (m.lookup "reason").getD (.str "") = .str r.reason
  code : m.lookup "code" = some (.nat r.code)

/-- What comes back carries the reply. -/
inductive Carries : Exchange → Reply → Prop
  | document {status : Nat} {body complaint : String} {doc : Json}
      (taken : ¬ (400 ≤ status ∧ status < 600)) (h : Json.parse? body = some doc) :
      Carries (.answered status body complaint) (.document doc)
  | refusal {body complaint : String} {m : Json.Members} {r : Refusal} {code : Option Nat}
      {reason : Option String} (refused : 400 ≤ r.code ∧ r.code < 600)
      (h : Json.parse? body = some (.obj m)) (tells : Tells m r)
      (hcode : ∀ n, code = some n → r.code = n) (hreason : ∀ s, reason = some s → r.reason = s) :
      Carries (.answered r.code body complaint) (.refusal code reason)

theorem natOfBits?_nat {n : Nat} (bits : Nat) (h : (n : Int) < Int.pow 2 bits) :
    Json.natOfBits? bits (.nat n) = some n := by
  have hbits : 0 ≤ (n : Int) ∧ (n : Int) < Int.pow 2 bits := ⟨Int.natCast_nonneg n, h⟩
  simp only [Json.natOfBits?, Json.nat, Json.int?, Option.bind_eq_bind, Option.bind_some,
    if_pos hbits, Int.toNat_natCast]

theorem Tells.ofJson? {m : Json.Members} {r : Refusal} (h : Tells m r) (hr : r.code < 600) :
    Refusal.ofJson? (.obj m) = some r := by
  have hrecord : Json.record? ["status", "message", "reason", "code"] (.obj m) = some m := by
    simp [Json.record?, h.distinct.unrepeated]
  have text : ∀ {o : Option Json} {s : String}, o.getD (.str "") = .str s →
      (match o with
        | some j => Json.str? j
        | none => some "") = some s := by
    intro o s ho
    cases o with
    | none =>
      cases ho
      rfl
    | some j =>
      obtain rfl : j = .str s := ho
      rfl
  have hmessage : m.orDefault? "message" Json.str? "" = some r.message := text h.message
  have hreason : m.orDefault? "reason" Json.str? "" = some r.reason := text h.reason
  have hbits : Int.pow 2 16 = 65536 := by decide
  have hcode : Json.natOfBits? 16 (.nat r.code) = some r.code := by
    refine natOfBits?_nat 16 ?_
    rw [hbits]
    omega
  have hstatus : m.required? "status" Json.str? = some r.status := by
    rw [Json.Members.required?, h.status]
    rfl
  have hread : m.required? "code" (Json.natOfBits? 16) = some r.code := by
    rw [Json.Members.required?, h.code, Option.bind_eq_bind, Option.bind_some, hcode]
  rw [Refusal.ofJson?, hrecord, Option.bind_eq_bind, Option.bind_some, hstatus, hmessage, hreason,
    hread]
  rfl

section Replies

variable {α : Type} {f : Json → Option α} {x : Exchange}

/-- A document is read from any body that carries it. -/
theorem value?_document {doc : Json} {a : α} (h : Carries x (.document doc)) (ha : f doc = some a) :
    Response.value? f x = .ok a := by
  cases h with
  | @document status body _ doc taken h =>
    have hread : (Json.parse? body).bind f = some a := by rw [h, Option.bind_some, ha]
    rw [Response.value?, Response.body?, if_neg taken]
    simp only [bind, Except.bind, hread]
    rfl

/-- A refusal is read from any body that carries it. -/
theorem exists_refusal {code : Option Nat} {reason : Option String}
    (h : Carries x (.refusal code reason)) :
    ∃ r, (∀ f : Json → Option α, Response.value? f x = .error (.refused r)) ∧
      (∀ n, code = some n → r.code = n) ∧ ∀ s, reason = some s → r.reason = s := by
  cases h with
  | @refusal body _ m r _ _ refused h tells hcode hreason =>
    have hread : Response.refusal r.code body = r := by
      rw [Response.refusal, h, Option.bind_some, tells.ofJson? refused.2]
    refine ⟨r, fun f => ?_, hcode, hreason⟩
    rw [Response.value?, Response.body?, if_pos refused, hread]
    rfl

end Replies

/-! ## 4. Servers -/

/-- What a server may send back for a request, and the state that it is in then. -/
abbrev Backend (S : Type) := S → Request → Exchange → S → Prop

/-- The server keeps documents, and does what is documented about the four kinds of requests:
each is about one object, and is answered with a document or a refusal. -/
structure Documented {S : Type} (server : Backend S) (documents : S → Documents) : Prop where
  get : ∀ {s s' : S} {request : Request} {x : Exchange} {r : Resource} {key : Key},
    server s request x s' → request.method = .get →
    place? request.target.path = some ⟨r, key.ns, some key.name, none⟩ →
      ∃ reply, Carries x reply ∧ (documents s).find r key = (reply, documents s')
  /-- What the server writes for an author has a version. -/
  post : ∀ {s s' : S} {request : Request} {x : Exchange} {r : Resource} {key : Key} {body : Json},
    server s request x s' → request.method = .post →
    place? request.target.path = some ⟨r, key.ns, none, none⟩ →
    request.body = some body → body.at? namePath = some (.str key.name) →
      ∃ own v reply, own.version = some v ∧ Carries x reply ∧
        (documents s).create r key own body = (reply, documents s')
  put : ∀ {s s' : S} {request : Request} {x : Exchange} {r : Resource} {key : Key} {body : Json}
      {version : String},
    server s request x s' → request.method = .put →
    place? request.target.path = some ⟨r, key.ns, some key.name, none⟩ →
    request.body = some body → body.at? versionPath = some (.str version) →
      ∃ own v reply, own.version = some v ∧ Carries x reply ∧
        (documents s).replace r key own body = (reply, documents s')
  /-- A patch of the status gives the object no new identity. -/
  patch : ∀ {s s' : S} {request : Request} {x : Exchange} {r : Resource} {key : Key} {body : Json},
    server s request x s' → request.method = .patch → request.contentType = some .mergePatch →
    place? request.target.path = some ⟨r, key.ns, some key.name, some "status"⟩ →
    request.body = some body →
      ∃ own reply, own.IsRevision ∧ Carries x reply ∧
        (documents s).patchStatus r key own body = (reply, documents s')

section Requests

variable {S : Type} {server : Backend S} {documents : S → Documents} {r : Resource}
  {manager : String} {key : Key} {s s' : S} {x : Exchange} {body : Json}
  (documented : Documented server documents) (hr : r.Served) (a : Addressable manager key)

include documented hr a

theorem Documented.finding (h : server s (.finding r key) x s') :
    ∃ reply, Carries x reply ∧ (documents s).find r key = (reply, documents s') :=
  documented.get h rfl (place?_objectPath hr a)

theorem Documented.creating (h : server s (.creating r key.ns manager body) x s')
    (hname : body.at? namePath = some (.str key.name)) :
    ∃ own v reply, own.version = some v ∧ Carries x reply ∧
      (documents s).create r key own body = (reply, documents s') :=
  documented.post h rfl (place?_path hr a) rfl hname

theorem Documented.replacing {version : String} (h : server s (.replacing r key manager body) x s')
    (hversion : body.at? versionPath = some (.str version)) :
    ∃ own v reply, own.version = some v ∧ Carries x reply ∧
      (documents s).replace r key own body = (reply, documents s') :=
  documented.put h rfl (place?_objectPath hr a) rfl hversion

theorem Documented.patchingStatus (h : server s (.patchingStatus r key manager body) x s') :
    ∃ own reply, own.IsRevision ∧ Carries x reply ∧
      (documents s).patchStatus r key own body = (reply, documents s') :=
  documented.patch h rfl rfl (place?_status hr a) rfl

end Requests

/-- A server that keeps its documents and nothing else, and answers no other requests. -/
inductive Documents.Serves : Backend Documents
  | get {d : Documents} {request : Request} {x : Exchange} {r : Resource} {key : Key}
      (method : request.method = .get)
      (place : place? request.target.path = some ⟨r, key.ns, some key.name, none⟩)
      (back : Carries x (d.find r key).1) : Serves d request x (d.find r key).2
  | post {d : Documents} {request : Request} {x : Exchange} {r : Resource} {key : Key}
      {body : Json} {own : Imprint} {v : String} (version : own.version = some v)
      (method : request.method = .post)
      (place : place? request.target.path = some ⟨r, key.ns, none, none⟩)
      (told : request.body = some body) (name : body.at? namePath = some (.str key.name))
      (back : Carries x (d.create r key own body).1) :
      Serves d request x (d.create r key own body).2
  | put {d : Documents} {request : Request} {x : Exchange} {r : Resource} {key : Key}
      {body : Json} {own : Imprint} {v : String} (version : own.version = some v)
      (method : request.method = .put)
      (place : place? request.target.path = some ⟨r, key.ns, some key.name, none⟩)
      (told : request.body = some body) (back : Carries x (d.replace r key own body).1) :
      Serves d request x (d.replace r key own body).2
  | patch {d : Documents} {request : Request} {x : Exchange} {r : Resource} {key : Key}
      {body : Json} {own : Imprint} (revision : own.IsRevision) (method : request.method = .patch)
      (place : place? request.target.path = some ⟨r, key.ns, some key.name, some "status"⟩)
      (told : request.body = some body) (back : Carries x (d.patchStatus r key own body).1) :
      Serves d request x (d.patchStatus r key own body).2

theorem one_place {place : Option Place} {r r' : Resource} {key key' : Key}
    {part part' : Option String} (h : place = some ⟨r, key.ns, some key.name, part⟩)
    (h' : place = some ⟨r', key'.ns, some key'.name, part'⟩) : r = r' ∧ key = key' := by
  obtain ⟨ns, name⟩ := key
  obtain ⟨ns', name'⟩ := key'
  rw [h] at h'
  cases h'
  exact ⟨rfl, rfl⟩

/-- What is documented can be met. -/
theorem serves_documented : Documented Documents.Serves id where
  get h method place := by
    cases h with
    | get _ place' back =>
      obtain ⟨rfl, rfl⟩ := one_place place' place
      exact ⟨_, back, rfl⟩
    | post _ method' => cases method.symm.trans method'
    | put _ method' => cases method.symm.trans method'
    | patch _ method' => cases method.symm.trans method'
  post {_ _ _ _ r key body} h method place told name := by
    cases h with
    | @post _ _ _ r' key' body' own v version _ place' told' name' back =>
      obtain rfl : body' = body := Option.some.inj (told'.symm.trans told)
      obtain ⟨ns', n'⟩ := key'
      obtain ⟨ns, n⟩ := key
      cases place'.symm.trans place
      cases name'.symm.trans name
      exact ⟨own, v, _, version, back, rfl⟩
    | get method' => cases method.symm.trans method'
    | put _ method' => cases method.symm.trans method'
    | patch _ method' => cases method.symm.trans method'
  put h method place told _ := by
    cases h with
    | put version _ place' told' back =>
      obtain ⟨rfl, rfl⟩ := one_place place' place
      cases told'.symm.trans told
      exact ⟨_, _, _, version, back, rfl⟩
    | get method' => cases method.symm.trans method'
    | post _ method' => cases method.symm.trans method'
    | patch _ method' => cases method.symm.trans method'
  patch h method _ place told := by
    cases h with
    | patch revision _ place' told' back =>
      obtain ⟨rfl, rfl⟩ := one_place place' place
      cases told'.symm.trans told
      exact ⟨_, _, revision, back, rfl⟩
    | get method' => cases method.symm.trans method'
    | post _ method' => cases method.symm.trans method'
    | put _ method' => cases method.symm.trans method'

end SecretKeeper.Api
