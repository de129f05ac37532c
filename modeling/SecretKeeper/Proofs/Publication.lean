/-
# What a published schema says

A schema is published as an object, and the server that reads the object knows nothing of the
schema.  Here it is said what such an object permits, keyword by keyword and in its own words:
a type, a format, bounds that are compared as the numbers they are, the items of a list, and the
properties of an object, of which some are required and others unknown (`Permits`).

This is what `Schema.accepts` decides (`permits_toJson_iff`), if the schema names no property twice
and its bounds are exact as doubles (`Schema.wellFormed`).
-/
import Mathlib.Algebra.Order.Field.Rat
import Mathlib.Tactic.FieldSimp
import SecretKeeper.Object.Definition
import SecretKeeper.Proofs.Codec

namespace SecretKeeper

/-! ## 1. Bounds -/

/-- The number that is meant, exactly. -/
def Number.value : Number → ℚ
  | .int n => n
  | .real negative x => (if negative then -1 else 1) * (x.mantissa * 2 ^ x.exponent)

theorem Magnitude.binaryOrder_one {n : Nat} (hn : n ≠ 0) : binaryOrder n 1 = n.log2 := by
  have hone : Nat.log2 1 = 0 := by decide
  have hlow : ¬ n < 2 ^ n.log2 := Nat.not_lt.mpr (Nat.log2_self_le hn)
  simp [binaryOrder, hone, hlow]

theorem Magnitude.nearest_one (n : Nat) : nearest n 1 = n := by
  simp [nearest, Nat.mod_one]

/-- A natural number of at most 53 bits needs no rounding. -/
theorem Magnitude.ofNat?_of_lt {n : Nat} (hn : n ≠ 0) (h : n < 2 ^ 53) :
    ofNat? n = some ⟨n * 2 ^ (52 - n.log2), n.log2 - 52⟩ := by
  have hlog : n.log2 < 53 := (Nat.log2_lt hn).mpr h
  have hexponent : max ((n.log2 : Int) - 52) leastExponent = n.log2 - 52 :=
    max_eq_left (by simp only [leastExponent]; omega)
  have hscale : (-((n.log2 : Int) - 52)).toNat = 52 - n.log2 := by omega
  have hnone : ((n.log2 : Int) - 52).toNat = 0 := by omega
  have hfits : n * 2 ^ (52 - n.log2) < 2 ^ 53 := calc
    n * 2 ^ (52 - n.log2) < 2 ^ (n.log2 + 1) * 2 ^ (52 - n.log2) :=
      Nat.mul_lt_mul_of_pos_right Nat.lt_log2_self (Nat.two_pow_pos _)
    _ = 2 ^ 53 := by rw [← Nat.pow_add]; congr 1; omega
  have hrange : (n.log2 : Int) - 52 ≤ greatestExponent := by simp only [greatestExponent]; omega
  simp only [ofNat?, round?, binaryOrder_one hn, hexponent, hscale, hnone]
  simp only [Nat.pow_eq, Nat.pow_zero, Nat.mul_one, nearest_one, if_pos hfits, if_pos hrange]
  simp [hn]

theorem Number.value_wholeReal {n : Nat} (h : n < 2 ^ 53) : (wholeReal n).value = n := by
  by_cases hn : n = 0
  · subst hn
    have hzero : wholeReal 0 = .real false .zero := rfl
    simp [hzero, value, Magnitude.zero]
  · have hlog : n.log2 < 53 := (Nat.log2_lt hn).mpr h
    have hscale : ((n.log2 : Int) - 52) = -((52 - n.log2 : Nat) : Int) := by omega
    rw [wholeReal, Magnitude.ofNat?_of_lt hn h, Option.getD_some, value, hscale, zpow_neg,
      zpow_natCast]
    push_cast
    simp

/-! ## 2. Permission -/

/-- What a schema says about a property. -/
def Json.property? (name : String) (schema : Json) : Option Json :=
  (schema.member? "properties").bind (Json.member? name)

/-- The value has the form that the published object describes.  An integer is a number that is
written without fraction and exponent; of a property that stands twice nobody knows which is
meant. -/
inductive Permits : (schema value : Json) → Prop
  | null {schema : Json} (nullable : schema.member? "nullable" = some (.bool true)) :
      Permits schema .null
  | text {schema : Json} (type : schema.member? "type" = some (.str "string")) (s : String) :
      Permits schema (.str s)
  | flag {schema : Json} (type : schema.member? "type" = some (.str "boolean")) (b : Bool) :
      Permits schema (.bool b)
  | integer {schema : Json} {n : Int} (type : schema.member? "type" = some (.str "integer"))
      (format : schema.member? "format" = some (.str "int64") → -2 ^ 63 ≤ n ∧ n < 2 ^ 63)
      (least : ∀ b : Number, schema.member? "minimum" = some (.num b) → b.value ≤ n)
      (most : ∀ b : Number, schema.member? "maximum" = some (.num b) → n ≤ b.value) :
      Permits schema (.num (.int n))
  | list {schema : Json} {js : List Json} (type : schema.member? "type" = some (.str "array"))
      (items : ∀ t, schema.member? "items" = some t → ∀ j ∈ js, Permits t j) :
      Permits schema (.arr js)
  | object {schema : Json} {ms : Json.Members}
      (type : schema.member? "type" = some (.str "object"))
      (required : ∀ names, schema.member? "required" = some (.arr names) →
        ∀ name, .str name ∈ names → name ∈ ms.map Prod.fst)
      (unrepeated : ∀ name t, schema.property? name = some t → ms.repeats name = false)
      (properties : ∀ name t, schema.property? name = some t →
        ∀ j, (name, j) ∈ ms → Permits t j)
      (additional : ∀ t, schema.member? "additionalProperties" = some t →
        ∀ name j, (name, j) ∈ ms → schema.property? name = none → Permits t j) :
      Permits schema (.obj ms)

namespace Permits

variable {schema : Json}

theorem null_iff : Permits schema .null ↔ schema.member? "nullable" = some (.bool true) :=
  ⟨fun | .null h => h, .null⟩

theorem int_iff {n : Int} : Permits schema (.num (.int n)) ↔
    schema.member? "type" = some (.str "integer") ∧
      (schema.member? "format" = some (.str "int64") → -2 ^ 63 ≤ n ∧ n < 2 ^ 63) ∧
      (∀ b : Number, schema.member? "minimum" = some (.num b) → b.value ≤ n) ∧
      ∀ b : Number, schema.member? "maximum" = some (.num b) → n ≤ b.value :=
  ⟨fun | .integer type format least most => ⟨type, format, least, most⟩,
    fun ⟨type, format, least, most⟩ => .integer type format least most⟩

theorem arr_iff {js : List Json} : Permits schema (.arr js) ↔
    schema.member? "type" = some (.str "array") ∧
      ∀ t, schema.member? "items" = some t → ∀ j ∈ js, Permits t j :=
  ⟨fun | .list type items => ⟨type, items⟩, fun ⟨type, items⟩ => .list type items⟩

theorem obj_iff {ms : Json.Members} : Permits schema (.obj ms) ↔
    schema.member? "type" = some (.str "object") ∧
      (∀ names, schema.member? "required" = some (.arr names) →
        ∀ name, .str name ∈ names → name ∈ ms.map Prod.fst) ∧
      (∀ name t, schema.property? name = some t → ms.repeats name = false) ∧
      (∀ name t, schema.property? name = some t → ∀ j, (name, j) ∈ ms → Permits t j) ∧
      ∀ t, schema.member? "additionalProperties" = some t →
        ∀ name j, (name, j) ∈ ms → schema.property? name = none → Permits t j :=
  ⟨fun
    | .object type required unrepeated properties additional =>
      ⟨type, required, unrepeated, properties, additional⟩,
    fun ⟨type, required, unrepeated, properties, additional⟩ =>
      .object type required unrepeated properties additional⟩

end Permits

/-- The types that schemas tell apart. -/
inductive Json.Kind where
  | text
  | flag
  | integer
  | list
  | object

/-- The name of the type in a published schema. -/
@[simp] def Json.Kind.name : Kind → String
  | .text => "string"
  | .flag => "boolean"
  | .integer => "integer"
  | .list => "array"
  | .object => "object"

theorem Json.Kind.name_injective : Function.Injective name := by
  intro k k' h
  cases k <;> cases k' <;> simp_all

/-- The type of a value, unless it has none. -/
def Json.kind? : Json → Option Kind
  | .str _ => some .text
  | .bool _ => some .flag
  | .num (.int _) => some .integer
  | .arr _ => some .list
  | .obj _ => some .object
  | .null | .num (.real _ _) | .broken => none

theorem Permits.kind?_eq {schema j : Json} {kind : Json.Kind} (h : Permits schema j)
    (hnull : j ≠ .null) (htype : schema.member? "type" = some (.str kind.name)) :
    j.kind? = some kind := by
  have same {k : Json.Kind} (hk : schema.member? "type" = some (.str k.name)) :
      some k = some kind := by
    rw [hk, Option.some.injEq, Json.str.injEq] at htype
    rw [Json.Kind.name_injective htype]
  cases h with
  | null => exact absurd rfl hnull
  | text type => exact same (k := .text) type
  | flag type => exact same (k := .flag) type
  | integer type => exact same (k := .integer) type
  | list type => exact same (k := .list) type
  | object type => exact same (k := .object) type

/-! ## 3. What is published -/

namespace Schema

/-- No property is named twice, and bounds are exact as doubles. -/
def wellFormed : Schema → Bool
  | .text _ | .flag _ | .integer _ none => true
  | .integer _ (some (least, most)) => decide (least < 2 ^ 53) && decide (most < 2 ^ 53)
  | .list _ items => items.wellFormed
  | .dict _ values => values.wellFormed
  | .record _ properties _ => decide (properties.map Prod.fst).Nodup && wellFormedAll properties
where
  wellFormedAll : List (String × Schema) → Bool
    | [] => true
    | (_, s) :: rest => s.wellFormed && wellFormedAll rest

/-- The type that is published. -/
@[simp] def kind : Schema → Json.Kind
  | .text _ => .text
  | .flag _ => .flag
  | .integer _ _ => .integer
  | .list _ _ => .list
  | .dict _ _ | .record _ _ _ => .object

section Keywords

variable (n : Notes) (name : String)

@[simp] theorem lookup_openingMembers (hdefault : name ≠ "default")
    (hdescription : name ≠ "description") : (openingMembers n).lookup name = none := by
  simp [openingMembers, defaultMember, List.lookup_append, Json.Members.lookup_optional, hdefault,
    hdescription]

@[simp] theorem lookup_nullableMember : (nullableMember n).lookup name =
    if name = "nullable" ∧ n.nullable = true then some (.bool true) else none := by
  cases hn : n.nullable with
  | false => simp [nullableMember, hn]
  | true =>
    have h : nullableMember n = Json.optional "nullable" .bool (some true) := by
      simp [nullableMember, hn, Json.optional]
    simp [h, Json.Members.lookup_optional]

@[simp] theorem lookup_requiredMember (names : List String) : (requiredMember names).lookup name =
    if name = "required" ∧ names ≠ [] then some (Json.strings names) else none := by
  cases names with
  | nil => simp [requiredMember]
  | cons first rest =>
    have h : requiredMember (first :: rest) =
        Json.optional "required" Json.strings (some (first :: rest)) := rfl
    simp [h, Json.Members.lookup_optional]

@[simp] theorem lookup_rangeMembers (range : Option (Nat × Nat)) :
    (rangeMembers range).lookup name =
      if name = "maximum" then range.map fun r => bound r.2
      else if name = "minimum" then range.map fun r => bound r.1
      else none := by
  have h : rangeMembers range = Json.optional "maximum" (fun r : Nat × Nat => bound r.2) range ++
      Json.optional "minimum" (fun r : Nat × Nat => bound r.1) range := by cases range <;> rfl
  rw [h, List.lookup_append, Json.Members.lookup_optional, Json.Members.lookup_optional]
  by_cases hmost : name = "maximum"
  · simp [hmost]
  · simp [hmost]

end Keywords

theorem member?_nullable (s : Schema) :
    s.toJson.member? "nullable" = some (.bool true) ↔ s.notes.nullable = true := by
  cases s <;> simp [toJson, Json.member?, notes, List.lookup_append, List.lookup_cons,
    Json.Members.lookup_optional]

theorem member?_type (s : Schema) : s.toJson.member? "type" = some (.str s.kind.name) := by
  cases s <;> simp [toJson, Json.member?, List.lookup_append, List.lookup_cons,
    Json.Members.lookup_optional]

theorem lookup_propertiesJson (properties : List (String × Schema)) (name : String) :
    (propertiesJson properties).lookup name = (properties.lookup name).map toJson := by
  induction properties with
  | nil => rfl
  | cons p rest ih =>
    obtain ⟨n, s⟩ := p
    by_cases h : name = n
    · subst h
      simp [propertiesJson]
    · have hne : (name == n) = false := beq_false_of_ne h
      simp [propertiesJson, List.lookup_cons, hne, ih]

section Record

variable (n : Notes) (properties : List (String × Schema)) (required : List String)

/-- The properties are those that the schema names. -/
theorem property?_record_iff (hnames : (properties.map Prod.fst).Nodup) {name : String}
    {t : Json} : (record n properties required).toJson.property? name = some t ↔
      ∃ s, (name, s) ∈ properties ∧ s.toJson = t := by
  have hproperty : (record n properties required).toJson.property? name =
      (properties.lookup name).map toJson := by
    rw [← lookup_propertiesJson]
    simp [Json.property?, toJson, Json.member?, List.lookup_append]
  rw [hproperty, Option.map_eq_some_iff]
  exact exists_congr fun s => and_congr_left fun _ =>
    ⟨Dict.mem_of_lookup, Dict.lookup_of_mem hnames⟩

/-- The names that are required. -/
theorem mem_required {name : String} : name ∈ required ↔
    ∃ names, (record n properties required).toJson.member? "required" = some (.arr names) ∧
      .str name ∈ names := by
  have hrequired : (record n properties required).toJson.member? "required" =
      if required ≠ [] then some (Json.strings required) else none := by
    simp [toJson, Json.member?, List.lookup_append, List.lookup_cons,
      Json.Members.lookup_optional]
  rw [hrequired]
  by_cases h : required = []
  · simp [h]
  · simp [h, Json.strings]

theorem member?_additional_record :
    (record n properties required).toJson.member? "additionalProperties" = none := by
  simp [toJson, Json.member?, List.lookup_append, List.lookup_cons,
    Json.Members.lookup_optional]

end Record

/-! ## 4. What is accepted -/

theorem acceptsMembers_iff {properties : List (String × Schema)} {ms : Json.Members} :
    acceptsMembers properties ms = true ↔
      ∀ p ∈ properties, ∀ j, (p.1, j) ∈ ms → p.2.accepts j = true := by
  induction properties with
  | nil => simp [acceptsMembers]
  | cons p rest ih =>
    obtain ⟨name, s⟩ := p
    simp only [acceptsMembers, Bool.and_eq_true, ih, List.forall_mem_cons, List.all_eq_true]
    refine and_congr_left fun _ => ?_
    constructor
    · intro h j hj
      simpa using h (name, j) hj
    · intro h m hm
      by_cases hname : m.1 = name
      · subst hname
        simpa using h m.2 hm
      · simp [hname]

/-- The members have the names that are required, every property at most once, and each of them in
its form. -/
theorem accepts_record_iff {n : Notes} {properties : List (String × Schema)}
    {required : List String} {ms : Json.Members} :
    (record n properties required).accepts (.obj ms) = true ↔
      (∀ name ∈ required, name ∈ ms.map Prod.fst) ∧
      (∀ p ∈ properties, ms.repeats p.1 = false) ∧
      ∀ p ∈ properties, ∀ j, (p.1, j) ∈ ms → p.2.accepts j = true := by
  have hrequired : hasAll ms required = true ↔ ∀ name ∈ required, name ∈ ms.map Prod.fst := by
    simp [hasAll]
  have hunrepeated : noneRepeated properties ms = true ↔
      ∀ p ∈ properties, ms.repeats p.1 = false := by simp [noneRepeated]
  rw [accepts, Bool.and_eq_true, Bool.and_eq_true, hrequired, hunrepeated, acceptsMembers_iff]
  exact ⟨fun ⟨⟨h, h'⟩, h''⟩ => ⟨h', h, h''⟩, fun ⟨h, h', h''⟩ => ⟨⟨h', h⟩, h''⟩⟩

theorem permits_null (s : Schema) : Permits s.toJson .null ↔ s.accepts .null = true := by
  rw [Permits.null_iff, member?_nullable]
  cases s <;> simp [accepts, notes, Json.isNull]

theorem kind?_of_accepts {s : Schema} {j : Json} (hnull : j ≠ .null)
    (h : s.accepts j = true) : j.kind? = some s.kind := by
  have hother (n : Notes) : (n.nullable && j.isNull) = false := by
    cases j with
    | null => exact absurd rfl hnull
    | _ => exact Bool.and_false _
  -- each schema asks for its type first, and then whether null is meant
  cases s <;> unfold accepts at h <;> split at h <;> first | rfl | simp [hother] at h

/-- What is not null has to be of the type. -/
theorem permits_of_kind {s : Schema}
    (h : ∀ j : Json, j.kind? = some s.kind → (Permits s.toJson j ↔ s.accepts j = true)) (j : Json) :
    Permits s.toJson j ↔ s.accepts j = true := by
  by_cases hnull : j = .null
  · exact hnull ▸ s.permits_null
  · by_cases hkind : j.kind? = some s.kind
    · exact h j hkind
    · have hpermits : ¬ Permits s.toJson j := by
        intro hp
        exact hkind (hp.kind?_eq hnull s.member?_type)
      have haccepts : s.accepts j ≠ true := by
        intro ha
        exact hkind (kind?_of_accepts hnull ha)
      exact iff_of_false hpermits haccepts

/-- The bounds are compared as the numbers that they were published as. -/
theorem permits_integer {n : Notes} {range : Option (Nat × Nat)}
    (h : (integer n range).wellFormed = true) (i : Int) :
    Permits (integer n range).toJson (.num (.int i)) ↔
      (integer n range).accepts (.num (.int i)) = true := by
  have hformat : (integer n range).toJson.member? "format" = some (.str "int64") := by
    simp [toJson, Json.member?, List.lookup_append]
  have hleast : (integer n range).toJson.member? "minimum" =
      range.map fun r => bound r.1 := by
    simp [toJson, Json.member?, List.lookup_append, List.lookup_cons]
  have hmost : (integer n range).toJson.member? "maximum" =
      range.map fun r => bound r.2 := by
    simp [toJson, Json.member?, List.lookup_append, List.lookup_cons]
  rw [Permits.int_iff, hformat, hleast, hmost]
  rcases range with _ | ⟨least, most⟩
  · simp [member?_type, accepts, integerOk]
  · obtain ⟨hl, hm⟩ : least < 2 ^ 53 ∧ most < 2 ^ 53 := by simpa [wellFormed] using h
    have low : (least : ℚ) ≤ (i : ℚ) ↔ (least : Int) ≤ i := by norm_cast
    have high : (i : ℚ) ≤ (most : ℚ) ↔ i ≤ (most : Int) := by norm_cast
    simp [member?_type, accepts, integerOk, bound,
      Number.value_wholeReal hl, Number.value_wholeReal hm, low, high]

theorem permits_list {n : Notes} {items : Schema} {js : List Json}
    (ih : ∀ j, Permits items.toJson j ↔ items.accepts j = true) :
    Permits (list n items).toJson (.arr js) ↔ (list n items).accepts (.arr js) = true := by
  have hitems : (list n items).toJson.member? "items" = some items.toJson := by
    simp [toJson, Json.member?, List.lookup_append]
  simp [Permits.arr_iff, member?_type, hitems, accepts, ih]

theorem permits_dict {n : Notes} {values : Schema} {ms : Json.Members}
    (ih : ∀ j, Permits values.toJson j ↔ values.accepts j = true) :
    Permits (dict n values).toJson (.obj ms) ↔ (dict n values).accepts (.obj ms) = true := by
  have hvalues : (dict n values).toJson.member? "additionalProperties" = some values.toJson := by
    simp [toJson, Json.member?]
  have hrequired : (dict n values).toJson.member? "required" = none := by
    simp [toJson, Json.member?, List.lookup_append, List.lookup_cons]
  have hproperty (name : String) : (dict n values).toJson.property? name = none := by
    simp [toJson, Json.property?, Json.member?, List.lookup_append, List.lookup_cons]
  simp [Permits.obj_iff, member?_type, hvalues, hrequired, hproperty, accepts, ih]

theorem permits_record {n : Notes} {properties : List (String × Schema)} {required : List String}
    {ms : Json.Members} (hnames : (properties.map Prod.fst).Nodup)
    (ih : ∀ p ∈ properties, ∀ j, Permits p.2.toJson j ↔ p.2.accepts j = true) :
    Permits (record n properties required).toJson (.obj ms) ↔
      (record n properties required).accepts (.obj ms) = true := by
  have hproperty {name : String} {t : Json} :
      (record n properties required).toJson.property? name = some t ↔
        ∃ s, (name, s) ∈ properties ∧ s.toJson = t :=
    property?_record_iff n properties required hnames
  rw [Permits.obj_iff, member?_additional_record, accepts_record_iff]
  constructor
  · rintro ⟨-, hrequired, hunrepeated, hproperties, -⟩
    refine ⟨?_, ?_, ?_⟩
    · intro name hname
      obtain ⟨names, hnames, hmem⟩ := (mem_required n properties required).mp hname
      exact hrequired names hnames name hmem
    · intro p hp
      exact hunrepeated p.1 _ (hproperty.mpr ⟨p.2, hp, rfl⟩)
    · intro p hp j hj
      exact (ih p hp j).mp (hproperties p.1 _ (hproperty.mpr ⟨p.2, hp, rfl⟩) j hj)
  · rintro ⟨hrequired, hunrepeated, hproperties⟩
    refine ⟨member?_type _, ?_, ?_, ?_, fun _ h => nomatch h⟩
    · intro names hnames name hname
      exact hrequired name ((mem_required n properties required).mpr ⟨names, hnames, hname⟩)
    · intro name t ht
      obtain ⟨s, hs, -⟩ := hproperty.mp ht
      exact hunrepeated (name, s) hs
    · intro name t ht j hj
      obtain ⟨s, hs, rfl⟩ := hproperty.mp ht
      exact (ih (name, s) hs j).mpr (hproperties (name, s) hs j hj)

mutual

/-- **A published schema permits what the schema accepts.** -/
theorem permits_toJson_iff : (s : Schema) → s.wellFormed = true → (j : Json) →
    (Permits s.toJson j ↔ s.accepts j = true)
  | .text n, _, j => permits_of_kind (fun
      | .str s, _ => iff_of_true (.text (member?_type _) s) rfl) j
  | .flag n, _, j => permits_of_kind (fun
      | .bool b, _ => iff_of_true (.flag (member?_type _) b) rfl) j
  | .integer _ _, h, j => permits_of_kind (fun
      | .num (.int i), _ => permits_integer h i) j
  | .list _ items, h, j => permits_of_kind (fun
      | .arr _, _ => permits_list (permits_toJson_iff items h)) j
  | .dict _ values, h, j => permits_of_kind (fun
      | .obj _, _ => permits_dict (permits_toJson_iff values h)) j
  | .record _ properties _, h, j => permits_of_kind (fun
      | .obj _, _ => by
        obtain ⟨hnames, hproperties⟩ := Bool.and_eq_true_iff.mp h
        exact permits_record (of_decide_eq_true hnames)
          (permits_propertiesJson_iff properties hproperties)) j

theorem permits_propertiesJson_iff : (properties : List (String × Schema)) →
    wellFormed.wellFormedAll properties = true → ∀ p ∈ properties, ∀ j,
      (Permits p.2.toJson j ↔ p.2.accepts j = true)
  | [], _ => List.forall_mem_nil _
  | (_, s) :: rest, h => by
    obtain ⟨hs, hrest⟩ := Bool.and_eq_true_iff.mp h
    exact List.forall_mem_cons.mpr
      ⟨permits_toJson_iff s hs, permits_propertiesJson_iff rest hrest⟩

end

end Schema

end SecretKeeper
