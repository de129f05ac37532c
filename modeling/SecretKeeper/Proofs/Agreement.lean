/-
# What the schema promises the reader

A spec is described three times: by the schema that is published, by its reader, and by
validation.  A document that the schema permits and the reader refuses could be stored and never
be answered, so what is permitted has to be readable, and its length has to be one that
validation accepts.

A reader goes with a schema if it reads every value that the schema accepts (`Schema.ReadBy`), and
this goes from the properties of a record to the record.  In the other direction, the document of
a spec is accepted just if its policy has a length in range (`ClaimSpec.accepts_toJson_iff`), so
one for which values are generated is accepted.  An `Opaque` spec may still have a policy that
nobody looks at and whose document is refused for its length.
-/
import SecretKeeper.Proofs.Admission
import SecretKeeper.Proofs.Legibility
import SecretKeeper.Proofs.Publication

namespace SecretKeeper

/-! ## 1. Schemas and their readers -/

namespace Schema

/-- The reader gives a value with the property for everything that the schema accepts. -/
def ReadBy {α : Type} (s : Schema) (f : Json → Option α) (P : α → Prop) : Prop :=
  ∀ j, s.accepts j = true → ∃ a, f j = some a ∧ P a

section Values

variable {α : Type} {s : Schema} {f : Json → Option α} {P : α → Prop} {n : Notes}

/-- Where null is not accepted, the values of the type are what is left to read. -/
theorem readBy_of_kind (hs : s.accepts .null = false)
    (h : ∀ j : Json, j.kind? = some s.kind → s.accepts j = true → ∃ a, f j = some a ∧ P a) :
    s.ReadBy f P := by
  intro j hj
  have hnull : j ≠ .null := by
    rintro rfl
    rw [hs] at hj
    cases hj
  exact h j (kind?_of_accepts hnull hj) hj

/-- Null is read as nothing. -/
theorem readBy_nullable
    (h : ∀ j : Json, j.kind? = some s.kind → s.accepts j = true → ∃ a, f j = some a ∧ P a) :
    s.ReadBy (Json.nullable? f) fun o => ∀ a, o = some a → P a := by
  intro j hj
  by_cases hnull : j = .null
  · subst hnull
    exact ⟨none, rfl, fun _ h => nomatch h⟩
  · obtain ⟨a, ha, hp⟩ := h j (kind?_of_accepts hnull hj) hj
    refine ⟨some a, by rw [Json.nullable?_of_ne_null hnull, ha]; rfl, ?_⟩
    rintro _ ⟨⟩
    exact hp

theorem readBy_text (hn : n.nullable = false) : (text n).ReadBy Json.str? fun _ => True :=
  readBy_of_kind (by simp [accepts, hn]) fun
    | .str s, _, _ => ⟨s, rfl, trivial⟩

/-- What is accepted has 64 bits and is in the range. -/
theorem readBy_integer {least most : Nat} (hn : n.nullable = false) :
    (integer n (some (least, most))).ReadBy Json.int64? fun i : Int64 =>
      least ≤ i.toInt ∧ i.toInt ≤ most :=
  readBy_of_kind (by simp [accepts, hn]) fun
    | .num (.int i), _, hj => by
      simp only [accepts, integerOk, Bool.and_eq_true, decide_eq_true_eq] at hj
      obtain ⟨hfits, hrange⟩ := hj
      have hi : (Int64.ofInt i).toInt = i := Int64.toInt_ofInt_of_le hfits.1 hfits.2
      refine ⟨.ofInt i, ?_, by rw [hi]; exact hrange⟩
      simp only [Json.int64?, Json.int?, Option.bind_eq_bind, Option.bind_some, if_pos hfits]

theorem exists_mapM {β : Type} {g : β → Option α} {xs : List β} (h : ∀ x ∈ xs, ∃ a, g x = some a) :
    ∃ as, xs.mapM g = some as := by
  induction xs with
  | nil => exact ⟨[], rfl⟩
  | cons x xs ih =>
    obtain ⟨⟨a, ha⟩, hxs⟩ := List.forall_mem_cons.mp h
    obtain ⟨as, has⟩ := ih hxs
    exact ⟨a :: as, by simp [List.mapM_cons, ha, has]⟩

theorem readBy_list (hn : n.nullable = false) (h : s.ReadBy f P) :
    (list n s).ReadBy (Json.list? f) fun _ => True :=
  readBy_of_kind (by simp [accepts, hn]) fun
    | .arr js, _, hj => by
      have each : ∀ j ∈ js, ∃ a, f j = some a := fun j hmem => by
        obtain ⟨a, ha, -⟩ := h j (List.all_eq_true.mp hj j hmem)
        exact ⟨a, ha⟩
      obtain ⟨as, has⟩ := exists_mapM each
      exact ⟨as, has, trivial⟩

theorem readBy_dict (hn : n.nullable = false) (h : s.ReadBy f P) :
    (dict n s).ReadBy (Json.dict? f) fun _ => True :=
  readBy_of_kind (by simp [accepts, hn]) fun
    | .obj ms, _, hj => by
      have each : ∀ m ∈ ms, ∃ entry, (f m.2).map (m.1, ·) = some entry := fun m hmem => by
        obtain ⟨a, ha, -⟩ := h m.2 (List.all_eq_true.mp hj m hmem)
        exact ⟨(m.1, a), by rw [ha]; rfl⟩
      obtain ⟨entries, hentries⟩ := exists_mapM each
      exact ⟨.ofList entries, by simp [Json.dict?, hentries], trivial⟩

end Values

section Records

variable {α : Type} {s : Schema} {f : Json → Option α} {P : α → Prop} {n : Notes}
  {properties : List (String × Schema)} {required : List String} {ms : Json.Members}

/-- A property that is there is accepted. -/
theorem accepts_of_lookup (h : (record n properties required).accepts (.obj ms) = true)
    {name : String} (hs : (name, s) ∈ properties) {j : Json} (hj : ms.lookup name = some j) :
    s.accepts j = true :=
  (accepts_record_iff.mp h).2.2 (name, s) hs j (Dict.mem_of_lookup hj)

theorem record?_of_accepts (h : (record n properties required).accepts (.obj ms) = true)
    {names : List String} (hnames : ∀ name ∈ names, name ∈ properties.map Prod.fst) :
    Json.record? names (.obj ms) = some ms := by
  have hnone : names.any ms.repeats = false := by
    refine List.any_eq_false.mpr fun name hname => ?_
    obtain ⟨p, hp, rfl⟩ := List.mem_map.mp (hnames name hname)
    rw [(accepts_record_iff.mp h).2.1 p hp]
    exact Bool.false_ne_true
  rw [Json.record?, if_neg (Bool.eq_false_iff.mp hnone)]

theorem exists_required? (h : (record n properties required).accepts (.obj ms) = true)
    {name : String} (hs : (name, s) ∈ properties) (hname : name ∈ required) (hf : s.ReadBy f P) :
    ∃ a, ms.required? name f = some a ∧ P a := by
  cases hj : ms.lookup name with
  | none =>
    obtain ⟨p, hp, rfl⟩ := List.mem_map.mp ((accepts_record_iff.mp h).1 name hname)
    simpa using List.lookup_eq_none_iff.mp hj p hp
  | some j =>
    simp only [Json.Members.required?, hj, Option.bind_eq_bind, Option.bind_some]
    exact hf j (accepts_of_lookup h hs hj)

theorem exists_orDefault? (h : (record n properties required).accepts (.obj ms) = true)
    {name : String} (hs : (name, s) ∈ properties) (hf : s.ReadBy f P) {d : α} (hd : P d) :
    ∃ a, ms.orDefault? name f d = some a ∧ P a := by
  cases hj : ms.lookup name with
  | none => exact ⟨d, by simp only [Json.Members.orDefault?, hj], hd⟩
  | some j =>
    simp only [Json.Members.orDefault?, hj]
    exact hf j (accepts_of_lookup h hs hj)

theorem exists_optional? (h : (record n properties required).accepts (.obj ms) = true)
    {name : String} (hs : (name, s) ∈ properties)
    (hf : s.ReadBy (Json.nullable? f) fun o => ∀ a, o = some a → P a) :
    ∃ o, ms.optional? name f = some o ∧ ∀ a, o = some a → P a := by
  cases hj : ms.lookup name with
  | none => exact ⟨none, by simp only [Json.Members.optional?, hj], fun _ h => nomatch h⟩
  | some j =>
    simp only [Json.Members.optional?, hj]
    exact hf j (accepts_of_lookup h hs hj)

end Records

end Schema

/-! ## 2. What is permitted is read -/

/-- The length of the policy is in range. -/
def GenerationSpec.InRange (g : GenerationSpec) : Prop :=
  8 ≤ g.length.toInt ∧ g.length.toInt ≤ 4096

theorem GenerationSpec.schema_readBy :
    GenerationSpec.schema.ReadBy (Json.nullable? ofJson?) fun o => ∀ g, o = some g → g.InRange :=
  Schema.readBy_nullable fun
    | .obj ms, _, h => by
      have htext {n : Schema.Notes} (hn : n.nullable = false) := Schema.readBy_text hn
      have hrecord := Schema.record?_of_accepts h
        (by decide : ∀ name ∈ ["dataKeys", "length", "encoding", "reconcileTrigger"], name ∈ _)
      obtain ⟨keys, hkeys, -⟩ := Schema.exists_orDefault? h (.head _)
        (Schema.readBy_list rfl (htext rfl)) (d := []) trivial
      obtain ⟨encoding, hencoding, -⟩ := Schema.exists_orDefault? h (.tail _ (.head _))
        (htext rfl) (d := "") trivial
      obtain ⟨length, hlength, hrange⟩ := Schema.exists_required? h
        (.tail _ (.tail _ (.head _))) (by decide) (Schema.readBy_integer rfl)
      obtain ⟨trigger, htrigger, -⟩ := Schema.exists_orDefault? h
        (.tail _ (.tail _ (.tail _ (.head _)))) (htext rfl) (d := "") trivial
      refine ⟨⟨keys, length, encoding, trigger⟩, ?_, hrange⟩
      simp [ofJson?, hrecord, hkeys, hlength, hencoding, htrigger]

theorem ClaimSpec.schema_readBy :
    ClaimSpec.schema.ReadBy ofJson? fun s => ∀ g, s.generation = some g → g.InRange :=
  Schema.readBy_of_kind rfl fun
    | .obj ms, _, h => by
      have hrecord := Schema.record?_of_accepts h
        (by decide : ∀ name ∈ ["type", "data", "generation"], name ∈ _)
      obtain ⟨data, hdata, -⟩ := Schema.exists_orDefault? h (.head _)
        (Schema.readBy_dict rfl (Schema.readBy_text rfl)) (d := ∅) trivial
      obtain ⟨generation, hgeneration, hrange⟩ := Schema.exists_optional? h (.tail _ (.head _))
        GenerationSpec.schema_readBy
      obtain ⟨type, htype, -⟩ := Schema.exists_required? h (.tail _ (.tail _ (.head _)))
        (by decide) (Schema.readBy_text rfl)
      refine ⟨⟨type, data, generation⟩, ?_, hrange⟩
      simp [ofJson?, hrecord, hdata, hgeneration, htype]

/-! ## 3. What is written is permitted -/

namespace Schema

variable {n m : Notes}

/-- Where no name stands twice, a property is the member that is found. -/
theorem accepts_distinct_iff {properties : List (String × Schema)} {required : List String}
    {ms : Json.Members} (hd : ms.Distinct) :
    (record n properties required).accepts (.obj ms) = true ↔
      (∀ name ∈ required, name ∈ ms.map Prod.fst) ∧
      ∀ p ∈ properties, ∀ j, ms.lookup p.1 = some j → p.2.accepts j = true := by
  rw [accepts_record_iff]
  refine and_congr_right fun _ => ?_
  constructor
  · rintro ⟨-, h⟩ p hp j hj
    exact h p hp j (Dict.mem_of_lookup hj)
  · intro h
    refine ⟨fun p _ => hd.unrepeated p.1, ?_⟩
    intro p hp j hj
    exact h p hp j (hd.lookup_of_mem hj)

/-- The property is found, and its value is accepted. -/
theorem accepts_found {s : Schema} {ms : Json.Members} {name : String} {j : Json}
    (hj : ms.lookup name = some j) (h : s.accepts j = true) :
    ∀ k, ms.lookup name = some k → s.accepts k = true := by
  rw [hj]
  rintro _ ⟨⟩
  exact h

/-- So is that of a property that may be left out. -/
theorem accepts_optional {α : Type} {s : Schema} {ms : Json.Members} {name : String}
    {f : α → Json} {o : Option α} (hms : ms.lookup name = o.map f)
    (h : ∀ a, o = some a → s.accepts (f a) = true) :
    ∀ k, ms.lookup name = some k → s.accepts k = true := by
  rw [hms]
  intro k hk
  obtain ⟨a, ha, rfl⟩ := Option.map_eq_some_iff.mp hk
  exact h a ha

theorem accepts_strings (xs : List String) :
    (list n (text m)).accepts (Json.strings xs) = true := by
  simp [accepts, Json.strings]

theorem accepts_ofDict (d : Dict String) :
    (dict n (text m)).accepts (Json.ofDict .str d) = true := by
  simp [accepts, Json.ofDict]

theorem accepts_word_iff {least most : Nat} (i : Int64) :
    (integer n (some (least, most))).accepts (Json.int i.toInt) = true ↔
      least ≤ i.toInt ∧ i.toInt ≤ most := by
  have hlow : -Int.pow 2 63 ≤ i.toInt := i.le_toInt
  have hhigh : i.toInt < Int.pow 2 63 := i.toInt_lt
  simp only [accepts, Json.int, integerOk, Bool.and_eq_true, decide_eq_true_eq, hlow, hhigh,
    true_and]

end Schema

theorem GenerationSpec.accepts_toJson_iff (g : GenerationSpec) :
    GenerationSpec.schema.accepts g.toJson = true ↔ g.InRange := by
  refine (Schema.accepts_distinct_iff g.distinct_members).trans ?_
  constructor
  · rintro ⟨-, h⟩
    have hlength := h ("length", _) (.tail _ (.tail _ (.head _))) (.int g.length.toInt) rfl
    exact (Schema.accepts_word_iff g.length).mp hlength
  · intro h
    refine ⟨?_, ?_⟩
    · show ∀ name ∈ ["length"], name ∈ ["dataKeys", "encoding", "length", "reconcileTrigger"]
      decide
    · simp only [List.forall_mem_cons]
      exact ⟨Schema.accepts_found rfl (Schema.accepts_strings _), Schema.accepts_found rfl rfl,
        Schema.accepts_found rfl ((Schema.accepts_word_iff g.length).mpr h),
        Schema.accepts_found rfl rfl, List.forall_mem_nil _⟩

/-- **The document of a spec is permitted just if its policy has a length in range**, whatever the
type. -/
theorem ClaimSpec.accepts_toJson_iff (s : ClaimSpec) :
    ClaimSpec.schema.accepts s.toJson = true ↔ ∀ g, s.generation = some g → g.InRange := by
  rw [s.toJson_obj, schema, Schema.accepts_distinct_iff s.distinct_members]
  constructor
  · rintro ⟨-, h⟩ g hg
    have hpolicy : s.toJson.members.lookup "generation" = some g.toJson := by
      rw [s.lookup_generation, hg]
      rfl
    exact g.accepts_toJson_iff.mp (h ("generation", _) (.tail _ (.head _)) _ hpolicy)
  · intro h
    refine ⟨?_, ?_⟩
    · intro name hname
      obtain rfl := List.mem_singleton.mp hname
      exact List.mem_map.mpr ⟨_, Dict.mem_of_lookup s.lookup_type, rfl⟩
    · simp only [List.forall_mem_cons]
      exact ⟨Schema.accepts_optional s.lookup_data fun d _ => Schema.accepts_ofDict d,
        Schema.accepts_optional s.lookup_generation fun g hg => g.accepts_toJson_iff.mpr (h g hg),
        Schema.accepts_found s.lookup_type rfl, List.forall_mem_nil _⟩

/-- An `Opaque` spec is valid with any policy, and its document is still refused. -/
example : let s : ClaimSpec := { type := "Opaque", generation := some { length := 3 } }
    s.validate = .ok (.verbatim ∅) ∧ ClaimSpec.schema.accepts s.toJson = false := by
  decide +kernel

/-! ## 4. What is published -/

/-- The schema that is published for a version of the resource. -/
def Claim.publishedSchema? (version : String) : Option Json := do
  let spec ← definition.member? "spec"
  let .arr versions ← spec.member? "versions" | none
  let found ← versions.find? fun v => v.member? "name" == some (.str version)
  let schema ← found.member? "schema"
  schema.member? "openAPIV3Schema"

/-- The part of it that is about the spec. -/
def Claim.publishedSpec? : Option Json := (publishedSchema? version).bind (Json.property? "spec")

theorem Claim.publishedSpec?_eq : publishedSpec? = some ClaimSpec.schema.toJson := rfl

namespace ClaimSpec

/-- **Schema, reader and validation agree.**  A document of a spec that the published schema
permits is read, and what is read is never refused for its length.  The document of a spec for
which values are generated is permitted. -/
theorem schema_agrees : ∃ published, Claim.publishedSpec? = some published ∧
    (∀ j, Permits published j → ∃ s, ofJson? j = some s ∧
      ∀ e, s.validate = .error e → e = .unknownType s.type ∨ e = .missingPolicy) ∧
    ∀ (s : ClaimSpec) (p : Policy), s.validate = .ok (.generated p) →
      Permits published s.toJson := by
  have hpermits := Schema.permits_toJson_iff schema (by decide)
  refine ⟨_, Claim.publishedSpec?_eq, ?_, ?_⟩
  · intro j hj
    obtain ⟨s, hs, hrange⟩ := schema_readBy j ((hpermits j).mp hj)
    refine ⟨s, hs, ?_⟩
    intro e he
    rcases validate_eq_error_iff.mp he with ⟨-, -, rfl⟩ | ⟨-, -, rfl⟩ | ⟨-, g, hg, he⟩
    · exact .inl rfl
    · exact .inr rfl
    · obtain ⟨hmin, hmax⟩ := hrange g hg
      rcases Policy.ofSpec_eq_error_iff.mp he with ⟨hshort, -⟩ | ⟨hlong, -⟩ <;> omega
  · intro s p h
    obtain ⟨-, g, hg, hp⟩ := validate_eq_generated_iff.mp h
    obtain ⟨hmin, hmax, -⟩ := Policy.ofSpec_eq_ok_iff.mp hp
    rw [hpermits, s.accepts_toJson_iff]
    intro g' hg'
    obtain rfl := Option.some.inj (hg.symm.trans hg')
    exact ⟨hmin, hmax⟩

/-- A document whose policy gives nothing but its length, and members that nobody knows. -/
def stored : Json :=
  .obj [("mode", .null), ("type", .str "AutoGenerated"),
    ("generation", .obj [("length", .int 4096), ("alphabet", .broken)])]

/-- A spec of the least length that is allowed. -/
def shortest : ClaimSpec where
  type := "AutoGenerated"
  generation := some { dataKeys := ["a", "b", "a"], length := 8, encoding := "hex" }

/-- The document is permitted and read, the spec is valid and its document permitted. -/
theorem shortest_agreed : ∃ published, Claim.publishedSpec? = some published ∧
    Permits published stored ∧
    (∃ s, ofJson? stored = some s ∧
      ∀ e, s.validate = .error e → e = .unknownType s.type ∨ e = .missingPolicy) ∧
    shortest.validate = .ok (.generated ⟨["a", "b"], 8, .ofName "hex", ""⟩) ∧
    Permits published shortest.toJson := by
  obtain ⟨published, hpublished, read, written⟩ := schema_agrees
  have hstored : Permits published stored := by
    obtain rfl := Option.some.inj (hpublished.symm.trans Claim.publishedSpec?_eq)
    exact (Schema.permits_toJson_iff schema (by decide) stored).mpr (by decide +kernel)
  have hvalid : shortest.validate = .ok (.generated ⟨["a", "b"], 8, .ofName "hex", ""⟩) := by
    decide +kernel
  exact ⟨published, hpublished, hstored, read stored hstored, hvalid, written _ _ hvalid⟩

end ClaimSpec

end SecretKeeper
