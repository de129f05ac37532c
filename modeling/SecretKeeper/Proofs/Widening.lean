/-
# Members that nobody knows

A newer version of a resource may have members that this library has never heard of, and a
document of it is still read.  A *widening* relates a document to the same document with such
members inserted: into its records, in any number, at any place and with any value, but under a
name that no field of the record has.  Which names these are is taken from the published schema;
a map has no unknown members, and nothing is inserted there.

A reader *overlooks* a widening if it reads the wider document as it reads the other one, and
that goes from the fields of a record to the record (`Members.Widened.record?_bind`).  So
every reader of claims overlooks the widening of its schema (`Claim.overlooks`), and so do those
of the metadata, which have no schema.
-/
import Mathlib.Data.List.Forall2
import SecretKeeper.Object.Definition
import SecretKeeper.Proofs.Dict

namespace SecretKeeper

namespace Json

/-! ## 1. Wider documents -/

/-- How documents may be widened: which ones are wider than which. -/
abbrev Widening := Json → Json → Prop

/-- The fields are widened, each in its way, and members of other names are inserted. -/
inductive Members.Widened (fields : List (String × Widening)) : Members → Members → Prop
  | nil : Widened fields [] []
  | field {name : String} {R : Widening} {j k : Json} {ms ns : Members}
      (known : fields.lookup name = some R) (value : R j k) (rest : Widened fields ms ns) :
      Widened fields ((name, j) :: ms) ((name, k) :: ns)
  | inserted {name : String} {ms ns : Members} (unknown : name ∉ fields.map Prod.fst) (j : Json)
      (rest : Widened fields ms ns) : Widened fields ms ((name, j) :: ns)

namespace Widening

/-- A list is widened item by item. -/
inductive items (R : Widening) : Widening
  | same (j : Json) : items R j j
  | each {js ks : List Json} (h : List.Forall₂ R js ks) : items R (.arr js) (.arr ks)

/-- A record is widened by members that are none of its fields. -/
inductive record (fields : List (String × Widening)) : Widening
  | same (j : Json) : record fields j j
  | members {ms ns : Members} (h : ms.Widened fields ns) : record fields (.obj ms) (.obj ns)

/-- A record of fields that hold no records themselves. -/
def flat (names : List String) : Widening := record (names.map (·, Eq))

end Widening

end Json

namespace Schema

mutual

/-- How a document may be widened by what its schema does not know. -/
def widening : Schema → Json.Widening
  | .text _ | .flag _ | .integer _ _ | .dict _ _ => Eq
  | .list _ items => .items (widening items)
  | .record _ properties _ => .record (widenings properties)

/-- The same for the properties of a record. -/
def widenings : List (String × Schema) → List (String × Json.Widening)
  | [] => []
  | (name, s) :: rest => (name, widening s) :: widenings rest

end

end Schema

/-- Unknown members of an account of managed fields; the fields themselves are taken as they
are. -/
def ManagedFields.widening : Json.Widening :=
  .flat ["apiVersion", "fieldsType", "fieldsV1", "manager", "operation", "subresource", "time"]

/-- Unknown members of a reference to an owner. -/
def OwnerReference.widening : Json.Widening :=
  .flat ["apiVersion", "blockOwnerDeletion", "controller", "kind", "name", "uid"]

/-- Unknown members of metadata. -/
def Metadata.widening : Json.Widening :=
  .record [("annotations", Eq), ("creationTimestamp", Eq), ("deletionGracePeriodSeconds", Eq),
    ("deletionTimestamp", Eq), ("finalizers", Eq), ("generateName", Eq), ("generation", Eq),
    ("labels", Eq), ("managedFields", .items ManagedFields.widening), ("name", Eq),
    ("namespace", Eq), ("ownerReferences", .items OwnerReference.widening),
    ("resourceVersion", Eq), ("selfLink", Eq), ("uid", Eq)]

/-- Unknown members of a claim, at any depth. -/
def Claim.widening : Json.Widening :=
  .record [("apiVersion", Eq), ("kind", Eq), ("metadata", Metadata.widening),
    ("spec", ClaimSpec.schema.widening), ("status", Status.schema.widening)]

namespace Json

/-! ## 2. Readers that overlook them -/

/-- The reader reads a wider document as it reads the document. -/
def Overlooks {α : Type} (f : Json → Option α) (R : Widening) : Prop :=
  ∀ ⦃j k : Json⦄, R j k → f k = f j

section Readers

variable {α : Type} {f : Json → Option α} {R : Widening} {fields : List (String × Widening)}

theorem overlooks_eq (f : Json → Option α) : Overlooks f Eq := fun _ _ h => h ▸ rfl

theorem mapM_of_forall₂ {β : Type} {g : β → Option α} {xs ys : List β} {r : β → β → Prop}
    (hg : ∀ ⦃x y⦄, r x y → g y = g x) (h : List.Forall₂ r xs ys) : ys.mapM g = xs.mapM g := by
  induction h with
  | nil => rfl
  | cons hxy _ ih => rw [List.mapM_cons, List.mapM_cons, hg hxy, ih]

theorem Overlooks.list? (h : Overlooks f R) : Overlooks (Json.list? f) (.items R) := by
  rintro _ _ (_ | hitems)
  · rfl
  · exact mapM_of_forall₂ h hitems

theorem Overlooks.nullable?_items (h : Overlooks f (.items R)) :
    Overlooks (nullable? f) (.items R) := by
  rintro _ _ (_ | hitems)
  · rfl
  · exact congrArg (Option.map some) (h (.each hitems))

theorem Overlooks.nullable?_record (h : Overlooks f (.record fields)) :
    Overlooks (nullable? f) (.record fields) := by
  rintro _ _ (_ | hmembers)
  · rfl
  · exact congrArg (Option.map some) (h (.members hmembers))

end Readers

namespace Members.Widened

variable {α : Type} {f : Json → Option α} {R : Widening} {fields : List (String × Widening)}
  {ms ns : Members}

theorem name_mem {name : String} (known : fields.lookup name = some R) :
    name ∈ fields.map Prod.fst :=
  List.mem_map.mpr ⟨(name, R), Dict.mem_of_lookup known, rfl⟩

/-- A field is found in both documents or in neither, and then widened in its way. -/
theorem lookup (h : ms.Widened fields ns) {name : String} (known : fields.lookup name = some R) :
    (ms.lookup name = none ∧ ns.lookup name = none) ∨
      ∃ j k, ms.lookup name = some j ∧ ns.lookup name = some k ∧ R j k := by
  induction h with
  | nil => exact .inl ⟨rfl, rfl⟩
  | @field n R' j k ms ns known' value rest ih =>
    by_cases hname : name = n
    · subst hname
      obtain rfl : R' = R := Option.some.inj (known'.symm.trans known)
      exact .inr ⟨j, k, List.lookup_cons_self, List.lookup_cons_self, value⟩
    · have hne : (name == n) = false := beq_false_of_ne hname
      simpa only [List.lookup_cons, hne] using ih
  | @inserted n ms ns unknown j rest ih =>
    have hne : (name == n) = false := beq_false_of_ne fun he => unknown (he ▸ name_mem known)
    simpa only [List.lookup_cons, hne] using ih

/-- A field stands as often in both. -/
theorem repeats (h : ms.Widened fields ns) {name : String} (known : name ∈ fields.map Prod.fst) :
    ns.repeats name = ms.repeats name := by
  have hcount : ns.countP (·.1 == name) = ms.countP (·.1 == name) := by
    induction h with
    | nil => rfl
    | field _ _ _ ih => rw [List.countP_cons, List.countP_cons, ih]
    | @inserted n ms ns unknown j rest ih =>
      have hne : n ≠ name := fun he => unknown (he ▸ known)
      simpa [hne] using ih
  rw [Members.repeats, Members.repeats, hcount]

theorem required? (h : ms.Widened fields ns) (name : String)
    (known : fields.lookup name = some R) (hf : Overlooks f R) :
    ns.required? name f = ms.required? name f := by
  rcases h.lookup known with ⟨hms, hns⟩ | ⟨j, k, hms, hns, hR⟩
  · rw [Members.required?, Members.required?, hms, hns]
  · rw [Members.required?, Members.required?, hms, hns]
    exact hf hR

theorem orDefault? (h : ms.Widened fields ns) (name : String)
    (known : fields.lookup name = some R) (hf : Overlooks f R) (d : α) :
    ns.orDefault? name f d = ms.orDefault? name f d := by
  rcases h.lookup known with ⟨hms, hns⟩ | ⟨j, k, hms, hns, hR⟩
  · rw [Members.orDefault?, Members.orDefault?, hms, hns]
  · rw [Members.orDefault?, Members.orDefault?, hms, hns]
    exact hf hR

theorem optional? (h : ms.Widened fields ns) (name : String)
    (known : fields.lookup name = some R) (hf : Overlooks (nullable? f) R) :
    ns.optional? name f = ms.optional? name f := by
  rcases h.lookup known with ⟨hms, hns⟩ | ⟨j, k, hms, hns, hR⟩
  · rw [Members.optional?, Members.optional?, hms, hns]
  · rw [Members.optional?, Members.optional?, hms, hns]
    exact hf hR

/-- The members of a field's name are widened one by one. -/
theorem filter (h : ms.Widened fields ns) {name : String} (known : fields.lookup name = some R) :
    List.Forall₂ (fun p q => R p.2 q.2) (ms.filter (·.1 == name)) (ns.filter (·.1 == name)) := by
  induction h with
  | nil => exact .nil
  | @field n R' j k ms ns known' value rest ih =>
    by_cases hname : n = name
    · subst hname
      obtain rfl : R' = R := Option.some.inj (known'.symm.trans known)
      simpa using And.intro value ih
    · simpa [hname] using ih
  | @inserted n ms ns unknown j rest ih =>
    have hne : n ≠ name := fun he => unknown (he ▸ name_mem known)
    simpa [hne] using ih

theorem latest? (h : ms.Widened fields ns) (name : String)
    (known : fields.lookup name = some R) (hf : Overlooks (nullable? f) R) :
    ns.latest? name f = ms.latest? name f := by
  rw [Members.latest?, mapM_of_forall₂ (fun _ _ hR => hf hR) (h.filter known), ← Members.latest?]

/-- **A record is overlooked if its fields are.** -/
theorem record?_bind (h : ms.Widened fields ns) {names : List String}
    (known : ∀ name ∈ names, name ∈ fields.map Prod.fst) {F : Members → Option α}
    (hF : F ns = F ms) : (record? names (.obj ns) >>= F) = (record? names (.obj ms) >>= F) := by
  have hany : names.any ns.repeats = names.any ms.repeats := by
    rw [Bool.eq_iff_iff, List.any_eq_true, List.any_eq_true]
    exact exists_congr fun name => and_congr_right fun hname => by rw [h.repeats (known name hname)]
  simp only [record?, hany]
  split
  · rfl
  · exact hF

end Members.Widened

end Json

/-! ## 3. The readers of claims -/

open Json

theorem GenerationSpec.overlooks : Overlooks ofJson? GenerationSpec.schema.widening := by
  rintro _ _ (_ | h)
  · rfl
  · have hkeys := h.orDefault? "dataKeys" rfl (overlooks_eq str?).list? []
    have hlength := h.required? "length" rfl (overlooks_eq int64?)
    have hencoding := h.orDefault? "encoding" rfl (overlooks_eq str?) ""
    have htrigger := h.orDefault? "reconcileTrigger" rfl (overlooks_eq str?) ""
    refine h.record?_bind (by decide) ?_
    simp only [hkeys, hlength, hencoding, htrigger]

theorem ClaimSpec.overlooks : Overlooks ofJson? ClaimSpec.schema.widening := by
  rintro _ _ (_ | h)
  · rfl
  · have htype := h.required? "type" rfl (overlooks_eq str?)
    have hdata := h.orDefault? "data" rfl (overlooks_eq (dict? str?)) ∅
    have hgeneration := h.optional? "generation" rfl
      GenerationSpec.overlooks.nullable?_record
    refine h.record?_bind (by decide) ?_
    simp only [htype, hdata, hgeneration]

theorem Condition.overlooks : Overlooks ofJson? Condition.schema.widening := by
  rintro _ _ (_ | h)
  · rfl
  · have htype := h.required? "type" rfl (overlooks_eq str?)
    have hstatus := h.required? "status" rfl (overlooks_eq str?)
    have htime := h.optional? "lastTransitionTime" rfl (overlooks_eq (nullable? str?))
    have hreason := h.optional? "reason" rfl (overlooks_eq (nullable? str?))
    have hmessage := h.optional? "message" rfl (overlooks_eq (nullable? str?))
    refine h.record?_bind (by decide) ?_
    simp only [htype, hstatus, htime, hreason, hmessage]

theorem Status.overlooks : Overlooks ofJson? Status.schema.widening := by
  rintro _ _ (_ | h)
  · rfl
  · have hsynced := h.orDefault? "synced" rfl (overlooks_eq bool?) false
    have hname := h.orDefault? "createdSecretName" rfl (overlooks_eq str?) ""
    have herror := h.orDefault? "errorMessage" rfl (overlooks_eq str?) ""
    have htrigger := h.orDefault? "lastReconcileTrigger" rfl (overlooks_eq str?) ""
    have hupdate := h.optional? "lastUpdate" rfl (overlooks_eq (nullable? str?))
    have hgeneration := h.optional? "observedGeneration" rfl
      (overlooks_eq (nullable? int64?))
    have hconditions := h.orDefault? "conditions" rfl Condition.overlooks.list? []
    refine h.record?_bind (by decide) ?_
    simp only [hsynced, hname, herror, htrigger, hupdate, hgeneration, hconditions]

/-! ## 4. The readers of metadata and of the whole -/

theorem lookup_flat {names : List String} {name : String} (known : name ∈ names) :
    (names.map fun n => (n, (Eq : Widening))).lookup name = some Eq := by
  induction names with
  | nil => cases known
  | cons n names ih =>
    by_cases hname : name = n
    · subst hname
      exact List.lookup_cons_self
    · have hne : (name == n) = false := beq_false_of_ne hname
      rw [List.map_cons, List.lookup_cons, hne]
      exact ih (List.mem_of_ne_of_mem hname known)

theorem ManagedFields.overlooks : Overlooks ofJson? ManagedFields.widening := by
  rintro _ _ (_ | h)
  · rfl
  · have latest {α : Type} (name : String) (f : Json → Option α) (known : name ∈ _) :=
      h.latest? name (lookup_flat known) (overlooks_eq (nullable? f))
    simp only [ofJson?, latest "apiVersion" str? (by decide), latest "fieldsType" str? (by decide),
      latest "fieldsV1" settle? (by decide), latest "manager" str? (by decide),
      latest "operation" str? (by decide), latest "subresource" str? (by decide),
      latest "time" Instant.ofJson? (by decide)]

theorem OwnerReference.overlooks : Overlooks ofJson? OwnerReference.widening := by
  rintro _ _ (_ | h)
  · rfl
  · have latest {α : Type} (name : String) (f : Json → Option α) (known : name ∈ _) :=
      h.latest? name (lookup_flat known) (overlooks_eq (nullable? f))
    simp only [ofJson?, latest "apiVersion" str? (by decide), latest "kind" str? (by decide),
      latest "name" str? (by decide), latest "uid" str? (by decide),
      latest "controller" bool? (by decide), latest "blockOwnerDeletion" bool? (by decide)]

theorem Metadata.overlooks : Overlooks ofJson? Metadata.widening := by
  rintro _ _ (_ | h)
  · rfl
  · have latest {α : Type} (name : String) (f : Json → Option α) (known : _ = some Eq) :=
      h.latest? name known (overlooks_eq (nullable? f))
    have managed := h.latest? "managedFields" rfl ManagedFields.overlooks.list?.nullable?_items
    have owners := h.latest? "ownerReferences" rfl OwnerReference.overlooks.list?.nullable?_items
    simp only [ofJson?, latest "name" str? rfl, latest "generateName" str? rfl,
      latest "namespace" str? rfl, latest "uid" str? rfl, latest "resourceVersion" str? rfl,
      latest "generation" int64? rfl, latest "selfLink" str? rfl,
      latest "creationTimestamp" Instant.ofJson? rfl,
      latest "deletionTimestamp" Instant.ofJson? rfl,
      latest "deletionGracePeriodSeconds" int64? rfl, latest "labels" (dict? str?) rfl,
      latest "annotations" (dict? str?) rfl, managed, latest "finalizers" (list? str?) rfl, owners]

/-- **A claim is read as if nothing was inserted**, wherever it was. -/
theorem Claim.overlooks : Overlooks ofJson? Claim.widening := by
  rintro _ _ (_ | h)
  · rfl
  · have hmetadata := h.required? "metadata" rfl Metadata.overlooks
    have hspec := h.required? "spec" rfl ClaimSpec.overlooks
    have hstatus := h.optional? "status" rfl Status.overlooks.nullable?_record
    refine h.record?_bind (by decide) ?_
    simp only [hmetadata, hspec, hstatus]

end SecretKeeper
