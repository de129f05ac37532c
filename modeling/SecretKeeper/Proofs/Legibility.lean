/-
# Claims that are written can be read

A claim goes to the server and comes back as text.  Its document is plain, so the text is parsed
as the document (`Json.parse?_render`), and every field of the document is read as it was written:
what is left out has the default it was left out for, and what is null is read as nothing.  The
readers overlook what others have inserted (`Claim.overlooks`), so a wider document is read as the
same claim.

For specs and statuses this holds without a condition.  The metadata of a claim carry along what
others have written there, and these have to last (`Metadata.Lasting`); the accounts of managed
fields have to be plain, too, as nothing else is known of them.
-/
import SecretKeeper.Proofs.Rendering
import SecretKeeper.Proofs.StatusPatch
import SecretKeeper.Proofs.Widening

namespace SecretKeeper

namespace Json

/-! ## 1. Plain documents -/

namespace Plain

variable {α : Type} {room : Nat}

theorem strings (xs : List String) : Plain (room + 1) (Json.strings xs) :=
  .arr fun _ h => by
    obtain ⟨x, -, rfl⟩ := List.mem_map.mp h
    exact .str x

theorem ofDict {f : α → Json} (h : ∀ a, Plain room (f a)) (d : Dict α) :
    Plain (room + 1) (Json.ofDict f d) :=
  .obj fun _ hp => by
    obtain ⟨p, -, rfl⟩ := List.mem_map.mp hp
    exact h p.2

theorem word (n : Int64) : Plain room (Metadata.wordJson n) :=
  .int n.le_toInt (n.toInt_lt.trans (by decide))

theorem time (t : Instant) : Plain room t.toJson := .str _

theorem orNull {f : α → Json} (h : ∀ a, Plain room (f a)) (o : Option α) :
    Plain room (Json.orNull f o) := by
  cases o with
  | none => exact .null
  | some a => exact h a

theorem arr_map {f : α → Json} {xs : List α} (h : ∀ a ∈ xs, Plain room (f a)) :
    Plain (room + 1) (.arr (xs.map f)) :=
  .arr fun _ hj => by
    obtain ⟨a, ha, rfl⟩ := List.mem_map.mp hj
    exact h a ha

/-- A member that may be left out. -/
theorem optional {name : String} {f : α → Json} {o : Option α}
    (h : ∀ a, o = some a → Plain room (f a)) : ∀ p ∈ Json.optional name f o, Plain room p.2 := by
  cases o with
  | none => exact List.forall_mem_nil _
  | some a => exact List.forall_mem_singleton.mpr (h a rfl)

end Plain

end Json

theorem GenerationSpec.plain_toJson {room : Nat} (g : GenerationSpec) :
    g.toJson.Plain (room + 2) := by
  refine .obj ?_
  simp only [List.forall_mem_cons]
  exact ⟨.strings _, .str _, .word _, .str _, List.forall_mem_nil _⟩

/-- The data, if there are any. -/
def ClaimSpec.data? (s : ClaimSpec) : Option (Dict String) :=
  if s.data = ∅ then none else some s.data

theorem ClaimSpec.toJson_eq (s : ClaimSpec) :
    s.toJson = .obj (Json.optional "data" (Json.ofDict .str) s.data? ++
      Json.optional "generation" GenerationSpec.toJson s.generation ++
      [("type", .str s.type)]) := by
  by_cases h : s.data = ∅
  · simp [toJson, data?, Json.optional, h]
  · have hempty : s.data.isEmpty = false := by simpa using h
    simp [toJson, data?, Json.optional, h, hempty]

theorem ClaimSpec.plain_toJson {room : Nat} (s : ClaimSpec) : s.toJson.Plain (room + 3) := by
  rw [s.toJson_eq]
  refine .obj ?_
  simp only [List.forall_mem_append]
  exact ⟨⟨.optional fun d _ => .ofDict .str d, .optional fun g _ => g.plain_toJson⟩,
    List.forall_mem_singleton.mpr (.str _)⟩

theorem Condition.plain_toJson {room : Nat} (c : Condition) : c.toJson.Plain (room + 1) := by
  refine .obj ?_
  simp only [List.forall_mem_cons]
  exact ⟨.orNull .str _, .orNull .str _, .orNull .str _, .str _, .str _, List.forall_mem_nil _⟩

theorem Status.plain_toJson {room : Nat} (s : Status) : s.toJson.Plain (room + 3) := by
  refine .obj ?_
  simp only [List.forall_mem_cons]
  exact ⟨.arr_map fun c _ => c.plain_toJson, .str _, .str _, .str _, .orNull .str _,
    .orNull .word _, .bool _, List.forall_mem_nil _⟩

theorem OwnerReference.plain_toJson {room : Nat} (r : OwnerReference) :
    r.toJson.Plain (room + 1) := by
  refine .obj ?_
  simp only [List.forall_mem_append, List.forall_mem_cons]
  exact ⟨⟨⟨⟨.str _, List.forall_mem_nil _⟩, .optional fun b _ => .bool b⟩,
    .optional fun b _ => .bool b⟩, .str _, .str _, .str _, List.forall_mem_nil _⟩

theorem ManagedFields.plain_toJson {room : Nat} {e : ManagedFields}
    (h : ∀ j, e.fields = some j → j.Plain room) : e.toJson.Plain (room + 1) := by
  have text {name : String} {o : Option String} :
      ∀ p ∈ Json.optional name Json.str o, p.2.Plain room := .optional fun s _ => .str s
  refine .obj ?_
  simp only [List.forall_mem_append]
  exact ⟨⟨⟨⟨⟨⟨text, text⟩, .optional h⟩, text⟩, text⟩, text⟩, .optional fun t _ => .time t⟩

theorem Metadata.plain_toJson {room : Nat} {m : Metadata}
    (h : ∀ j ∈ m.accounts, j.Plain room) : m.toJson.Plain (room + 3) := by
  have text {name : String} {o : Option String} :
      ∀ p ∈ Json.optional name Json.str o, p.2.Plain (room + 2) := .optional fun s _ => .str s
  have time {name : String} {o : Option Instant} :
      ∀ p ∈ Json.optional name Instant.toJson o, p.2.Plain (room + 2) :=
    .optional fun t _ => .time t
  have word {name : String} {o : Option Int64} :
      ∀ p ∈ Json.optional name wordJson o, p.2.Plain (room + 2) := .optional fun n _ => .word n
  have dict {name : String} {o : Option (Dict String)} :
      ∀ p ∈ Json.optional name (Json.ofDict Json.str) o, p.2.Plain (room + 2) :=
    .optional fun d _ => .ofDict .str d
  have managed : ∀ es, m.managedFields = some es →
      Json.Plain (room + 2) (.arr (es.map ManagedFields.toJson)) := fun es hes =>
    .arr_map fun e he => e.plain_toJson fun j hj =>
      h j (List.mem_filterMap.mpr ⟨e, by rw [hes]; exact he, hj⟩)
  refine .obj ?_
  simp only [List.forall_mem_append]
  exact ⟨⟨⟨⟨⟨⟨⟨⟨⟨⟨⟨⟨⟨⟨dict, time⟩, word⟩, time⟩, .optional fun xs _ => .strings xs⟩, text⟩, word⟩,
    dict⟩, .optional managed⟩, text⟩, text⟩, .optional fun _ _ => .arr_map fun r _ =>
      r.plain_toJson⟩, text⟩, text⟩, text⟩

theorem Claim.plain_toJson {room : Nat} {c : Claim} (h : ∀ j ∈ c.metadata.accounts, j.Plain room) :
    c.toJson.Plain (room + 4) := by
  refine .obj ?_
  simp only [List.forall_mem_append, List.forall_mem_cons]
  exact ⟨⟨.str _, .str _, c.metadata.plain_toJson h, c.spec.plain_toJson, List.forall_mem_nil _⟩,
    .optional fun s _ => s.plain_toJson⟩

/-! ## 2. Documents that are read again -/

theorem Json.record?_of_distinct {ms : Members} (h : ms.Distinct) (names : List String) :
    record? names (.obj ms) = some ms := by
  simp [record?, h.unrepeated]

theorem GenerationSpec.distinct_members (g : GenerationSpec) : g.toJson.members.Distinct := by
  show ["dataKeys", "encoding", "length", "reconcileTrigger"].Nodup
  decide

theorem GenerationSpec.ofJson?_toJson (g : GenerationSpec) : ofJson? g.toJson = some g := by
  have hobj : g.toJson = .obj g.toJson.members := rfl
  have hkeys := Json.list?_strings g.dataKeys
  have hlength : Json.int64? (Json.int g.length.toInt) = some g.length := Json.int64?_wordJson _
  rw [hobj, ofJson?, Json.record?_of_distinct g.distinct_members]
  simp [toJson, Json.members, Json.Members.orDefault?, Json.Members.required?, List.lookup_cons,
    Json.str?, hkeys, hlength]

namespace ClaimSpec

theorem toJson_obj (s : ClaimSpec) : s.toJson = .obj s.toJson.members := by
  rw [toJson_eq]
  rfl

theorem distinct_members (s : ClaimSpec) : s.toJson.members.Distinct := by
  have hnames : (s.toJson.members.map Prod.fst).Sublist
      (["data"] ++ ["generation"] ++ ["type"]) := by
    simp only [toJson_eq, Json.members, List.map_append]
    repeat' apply List.Sublist.append
    all_goals first | exact Json.Members.names_optional _ _ _ | exact .refl _
  exact hnames.nodup (by decide)

theorem lookup_data (s : ClaimSpec) :
    s.toJson.members.lookup "data" = s.data?.map (Json.ofDict .str) := by
  simp [toJson_eq, Json.members, List.lookup_append, Json.Members.lookup_optional,
    List.lookup_cons]

theorem lookup_generation (s : ClaimSpec) :
    s.toJson.members.lookup "generation" = s.generation.map GenerationSpec.toJson := by
  simp [toJson_eq, Json.members, List.lookup_append, Json.Members.lookup_optional,
    List.lookup_cons]

theorem lookup_type (s : ClaimSpec) : s.toJson.members.lookup "type" = some (.str s.type) := by
  simp [toJson_eq, Json.members, List.lookup_append, Json.Members.lookup_optional]

theorem ofJson?_toJson (s : ClaimSpec) : ofJson? s.toJson = some s := by
  have hread : Json.dict? Json.str? (Json.ofDict .str s.data) = some s.data :=
    Json.dict?_ofDict (f := Json.str?) (g := .str) (fun _ => rfl) s.data
  have hdata : s.toJson.members.orDefault? "data" (Json.dict? Json.str?) ∅ = some s.data := by
    rw [Json.Members.orDefault?, lookup_data]
    by_cases h : s.data = ∅
    · simp [data?, h]
    · simp [data?, h, hread]
  have hgeneration : s.toJson.members.optional? "generation" GenerationSpec.ofJson? =
      some s.generation := by
    rw [Json.Members.optional?_eq, lookup_generation]
    exact Json.field?_map fun g _ => congrArg (Option.map some) g.ofJson?_toJson
  have htype : s.toJson.members.required? "type" Json.str? = some s.type := by
    rw [Json.Members.required?, lookup_type]
    rfl
  rw [s.toJson_obj, ofJson?, Json.record?_of_distinct s.distinct_members]
  simp [hdata, hgeneration, htype]

end ClaimSpec

theorem Json.nullable?_orNull {α : Type} {f : Json → Option α} {g : α → Json}
    (h : ∀ o : Option α, field? f (o.map g) = some o) (o : Option α) :
    nullable? f (orNull g o) = some o := by
  cases o with
  | none => rfl
  | some a => exact h (some a)

theorem Status.ofJson?_toJson (s : Status) : ofJson? s.toJson = some s := by
  have hobj : s.toJson = .obj s.toJson.members := rfl
  have hupdate := Json.nullable?_orNull Json.field?_str s.lastUpdate
  have hgeneration : Json.nullable? Json.int64?
      (Json.orNull (fun n : Int64 => Json.int n.toInt) s.observedGeneration) =
        some s.observedGeneration := Json.nullable?_orNull Json.field?_word _
  have hconditions : Json.list? Condition.ofJson? (.arr (s.conditions.map Condition.toJson)) =
      some s.conditions := Json.list?_arr fun c _ => c.ofJson?_toJson
  rw [hobj, ofJson?, Json.record?_of_distinct s.distinct_members]
  simp [toJson, Json.members, Json.Members.orDefault?, Json.Members.optional?, List.lookup_cons,
    Json.str?, Json.bool?, hupdate, hgeneration, hconditions]

theorem Claim.distinct_members (c : Claim) : c.toJson.members.Distinct := by
  have hnames : (c.toJson.members.map Prod.fst).Sublist
      (["apiVersion", "kind", "metadata", "spec"] ++ ["status"]) := by
    rw [toJson, Json.members, List.map_append]
    exact (List.Sublist.refl _).append (Json.Members.names_optional _ _ _)
  exact hnames.nodup (by decide)

theorem Claim.ofJson?_toJson {c : Claim} (h : c.metadata.Lasting) : ofJson? c.toJson = some c := by
  have hrecord : Json.fullRecord? ["metadata", "spec", "status"] c.toJson =
      some c.toJson.members := Json.record?_of_distinct c.distinct_members _
  have hstatus : Json.field? Status.ofJson? (c.status.map Status.toJson) = some c.status :=
    Json.field?_map fun s _ => congrArg (Option.map some) s.ofJson?_toJson
  rw [ofJson?, hrecord]
  simp [toJson, Json.members, Json.Members.required?, Json.Members.optional?_eq,
    Json.Members.lookup_optional, List.lookup_cons, Metadata.ofJson?_toJson h,
    c.spec.ofJson?_toJson, hstatus]

/-! ## 3. Claims -/

namespace Json

/-- The document of a value can be read: its text gives the value back, and a wider document
stands for the same value. -/
structure Legible {α : Type} (write : α → Json) (read : Json → Option α) (R : Widening) (a : α) :
    Prop where
  again : (parse? (write a).render).bind read = some a
  wider : ∀ ⦃j : Json⦄, R (write a) j → read j = some a

theorem Overlooks.legible {α : Type} {write : α → Json} {read : Json → Option α} {R : Widening}
    {a : α} (h : Overlooks read R) (plain : (write a).Plain Reader.depthLimit)
    (same : read (write a) = some a) : Legible write read R a where
  again := by rw [parse?_render plain, Option.bind_some, same]
  wider _ hj := (h hj).trans same

/-- The member is never missing, and null where there is no value. -/
def NullFor {α : Type} (name : String) (o : Option α) (j : Json) : Prop :=
  ∃ k, j.member? name = some k ∧ (k = .null ↔ o = none)

theorem nullFor_orNull {α : Type} {name : String} {f : α → Json} {o : Option α} {j : Json}
    (hj : j.member? name = some (orNull f o)) (h : ∀ a, f a ≠ .null) : j.NullFor name o := by
  refine ⟨_, hj, ?_⟩
  cases o with
  | none => simp [orNull]
  | some a => simp [orNull, h a]

end Json

/-- What the document of a spec leaves out. -/
structure ClaimSpec.Omissions (s : ClaimSpec) : Prop where
  data : s.toJson.member? "data" = none ↔ s.data = ∅
  generation : s.toJson.member? "generation" = none ↔ s.generation = none

theorem ClaimSpec.omissions (s : ClaimSpec) : s.Omissions where
  data := by
    rw [s.toJson_obj, Json.member?, lookup_data]
    simp [data?]
  generation := by
    rw [s.toJson_obj, Json.member?, lookup_generation]
    simp

/-- What the document of a status writes as null. -/
structure Status.Nulls (s : Status) : Prop where
  lastUpdate : s.toJson.NullFor "lastUpdate" s.lastUpdate
  observedGeneration : s.toJson.NullFor "observedGeneration" s.observedGeneration
  conditions : ∃ items, s.toJson.member? "conditions" = some (.arr items) ∧
    List.Forall₂ (fun (c : Condition) j =>
      j.NullFor "lastTransitionTime" c.lastTransitionTime ∧ j.NullFor "reason" c.reason ∧
        j.NullFor "message" c.message) s.conditions items

theorem Condition.nulls (c : Condition) :
    c.toJson.NullFor "lastTransitionTime" c.lastTransitionTime ∧
      c.toJson.NullFor "reason" c.reason ∧ c.toJson.NullFor "message" c.message :=
  ⟨Json.nullFor_orNull rfl fun _ => Json.noConfusion,
    Json.nullFor_orNull rfl fun _ => Json.noConfusion,
    Json.nullFor_orNull rfl fun _ => Json.noConfusion⟩

theorem Status.nulls (s : Status) : s.Nulls where
  lastUpdate := Json.nullFor_orNull rfl fun _ => Json.noConfusion
  observedGeneration := Json.nullFor_orNull rfl fun _ => Json.noConfusion
  conditions := by
    refine ⟨s.conditions.map Condition.toJson, rfl, ?_⟩
    rw [List.forall₂_map_right_iff, List.forall₂_same]
    intro c _
    exact c.nulls

open Json in
/-- **A claim is read as it was written**, from its text and from every wider document: any spec,
any status, and the claim of both with any metadata that last.  Empty data, a missing policy and
a missing status are left out, and what a status does not tell is null. -/
theorem Claim.read_as_written (spec : ClaimSpec) (status : Option Status) :
    (Legible ClaimSpec.toJson ClaimSpec.ofJson? ClaimSpec.schema.widening spec ∧
      spec.Omissions) ∧
    (∀ s, status = some s →
      Legible Status.toJson Status.ofJson? Status.schema.widening s ∧ s.Nulls) ∧
    ∀ m : Metadata, m.Lasting → (∀ j ∈ m.accounts, j.Plain (Reader.depthLimit - 4)) →
      Legible Claim.toJson Claim.ofJson? Claim.widening ⟨m, spec, status⟩ ∧
        ((Claim.toJson ⟨m, spec, status⟩).member? "status" = none ↔ status = none) := by
  refine ⟨⟨?_, spec.omissions⟩, ?_, ?_⟩
  · exact ClaimSpec.overlooks.legible spec.plain_toJson spec.ofJson?_toJson
  · intro s _
    exact ⟨Status.overlooks.legible s.plain_toJson s.ofJson?_toJson, s.nulls⟩
  · intro m lasting plain
    refine ⟨?_, ?_⟩
    · exact Claim.overlooks.legible (Claim.plain_toJson plain) (Claim.ofJson?_toJson lasting)
    · simp [toJson, member?, Members.lookup_optional, List.lookup_cons]

/-! ## 4. A claim from a newer version -/

namespace Newer

/-- A spec with texts that are escaped, and the least length that a number can be. -/
def spec : ClaimSpec where
  type := "AutoGenerated"
  data := .ofList [("schlüssel \"\\\n", "\u0001")]
  generation := some { dataKeys := ["a", "a"], length := Int64.minValue }

/-- A status that tells as little as it can. -/
def status : Status where
  conditions := [⟨"Ready", "Unknown", none, some "", none⟩]

/-- Metadata with an account of what somebody has written. -/
def metadata : Metadata where
  name := some "db"
  ns := some "default"
  managedFields :=
    some [⟨some "v1", none, some (.obj [("f:spec", .obj [])]), none, none, none, none⟩]

/-- The document of the spec, in which the policy has got an alphabet, and has it twice. -/
def specDocument : Json :=
  .obj [("immutable", .bool true), ("data", .obj [("schlüssel \"\\\n", .str "\u0001")]),
    ("generation", .obj [("dataKeys", Json.strings ["a", "a"]), ("encoding", .str ""),
      ("alphabet", .str "abc"), ("length", .int (-Int.pow 2 63)), ("reconcileTrigger", .str ""),
      ("alphabet", .null)]),
    ("type", .str "AutoGenerated")]

/-- The document of the status, in which the condition has got what stands for no value. -/
def statusDocument : Json :=
  .obj [("conditions", .arr [.obj [("lastTransitionTime", .null), ("message", .null),
      ("reason", .str ""), ("severity", .broken), ("status", .str "Unknown"),
      ("type", .str "Ready")]]),
    ("createdSecretName", .str ""), ("errorMessage", .str ""), ("lastReconcileTrigger", .str ""),
    ("lastUpdate", .null), ("observedGeneration", .null), ("synced", .bool false),
    ("phase", .arr [])]

/-- The document of the claim. -/
def document : Json :=
  .obj [("apiVersion", .str Claim.apiVersion), ("kind", .str Claim.kind),
    ("metadata", .obj [("zone", .null), ("managedFields", .arr [.obj [("apiVersion", .str "v1"),
      ("note", .null), ("fieldsV1", .obj [("f:spec", .obj [])])]]), ("name", .str "db"),
      ("namespace", .str "default")]),
    ("extra", .null), ("spec", specDocument), ("status", statusDocument)]

theorem spec_widened : ClaimSpec.schema.widening spec.toJson specDocument := by
  have hwritten : spec.toJson = .obj [("data", .obj [("schlüssel \"\\\n", .str "\u0001")]),
      ("generation", .obj [("dataKeys", Json.strings ["a", "a"]), ("encoding", .str ""),
        ("length", .int (-Int.pow 2 63)), ("reconcileTrigger", .str "")]),
      ("type", .str "AutoGenerated")] := by decide +kernel
  rw [hwritten]
  refine .members (.inserted (by decide) _ (.field rfl rfl (.field rfl (.members ?_)
    (.field rfl rfl .nil))))
  exact .field rfl (.same _) (.field rfl rfl (.inserted (by decide) _ (.field rfl rfl
    (.field rfl rfl (.inserted (by decide) _ .nil)))))

theorem status_widened : Status.schema.widening status.toJson statusDocument := by
  refine .members (.field rfl (.each (.cons (.members ?_) .nil)) (.field rfl rfl (.field rfl rfl
    (.field rfl rfl (.field rfl rfl (.field rfl rfl (.field rfl rfl
      (.inserted (by decide) _ .nil))))))))
  exact .field rfl rfl (.field rfl rfl (.field rfl rfl (.inserted (by decide) _ (.field rfl rfl
    (.field rfl rfl .nil)))))

theorem document_widened :
    Claim.widening (Claim.toJson ⟨metadata, spec, some status⟩) document := by
  refine .members (.field rfl rfl (.field rfl rfl (.field rfl (.members ?_)
    (.inserted (by decide) _ (.field rfl spec_widened (.field rfl status_widened .nil))))))
  refine .inserted (by decide) _ (.field rfl (.each (.cons (.members ?_) .nil)) (.field rfl rfl
    (.field rfl rfl .nil)))
  exact .field rfl rfl (.inserted (by decide) _ (.field rfl rfl .nil))

theorem lasting : metadata.Lasting where
  times _ h := nomatch h
  accounts j h := by
    obtain rfl := List.mem_singleton.mp h
    exact ⟨by decide, by decide⟩

theorem plain : ∀ j ∈ metadata.accounts, j.Plain (Json.Reader.depthLimit - 4) := fun j h => by
  obtain rfl := List.mem_singleton.mp h
  exact .obj (List.forall_mem_singleton.mpr (.obj (List.forall_mem_nil _)))

end Newer

/-- Members that only a newer version knows are overlooked at every depth. -/
theorem newer_claim_read :
    ClaimSpec.ofJson? Newer.specDocument = some Newer.spec ∧
      Status.ofJson? Newer.statusDocument = some Newer.status ∧
      Claim.ofJson? Newer.document = some ⟨Newer.metadata, Newer.spec, some Newer.status⟩ ∧
      (Json.parse? (Claim.toJson ⟨Newer.metadata, Newer.spec, some Newer.status⟩).render).bind
        Claim.ofJson? = some ⟨Newer.metadata, Newer.spec, some Newer.status⟩ := by
  obtain ⟨⟨hspec, -⟩, hstatus, hclaim⟩ := Claim.read_as_written Newer.spec (some Newer.status)
  obtain ⟨hlegible, -⟩ := hclaim Newer.metadata Newer.lasting Newer.plain
  exact ⟨hspec.wider Newer.spec_widened, (hstatus Newer.status rfl).1.wider Newer.status_widened,
    hlegible.wider Newer.document_widened, hlegible.again⟩

end SecretKeeper
