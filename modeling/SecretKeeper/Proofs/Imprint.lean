/-
# What a server adds to an object

A server keeps an account of its own in the metadata of every object that it writes: it gives the
object a version, and may give it a UID, a time of creation, a generation, and note who manages
which of its fields.  What it adds (`Imprint`) is merged into the metadata, and says nothing of
what the author of the object has to say.

A document with an imprint is read as the object with that imprint, whatever the document was
before: `Metadata.ofJson?_merge`, and from it `Claim.ofJson?_onDocument` and
`Secret.ofJson?_onDocument`.
-/
import SecretKeeper.Proofs.StatusPatch

namespace SecretKeeper

/-- What a server adds to the metadata of an object that it writes.  What is none stays as it
was. -/
structure Imprint where
  version : Option String := none
  uid : Option String := none
  generation : Option Int64 := none
  creationTimestamp : Option Instant := none
  managedFields : Option (List ManagedFields) := none
  inSeconds : ∀ t, creationTimestamp = some t → t.isValid = true ∧ t.nanos % 1000000000 = 0 := by
    nofun
  lasting : ∀ es, managedFields = some es → ∀ e ∈ es, e.Lasting := by nofun

namespace Json.Members

/-! ## 1. Changes that replace -/

section Replacing

variable {α : Type} {m changes : Members} {name other : String} {f : Json → Option α}

theorem filter_set_self (name : String) (j : Json) (m : Members) :
    (m.set name j).filter (·.1 == name) = [(name, j)] := by
  have hrest (m : Members) : (m.remove name).filter (·.1 == name) = [] := by
    rw [List.filter_eq_nil_iff]
    intro p hp
    simpa using (List.mem_filter.mp hp).2
  induction m with
  | nil => simp [Members.set]
  | cons p m ih =>
    obtain ⟨n, old⟩ := p
    by_cases hn : n = name
    · simp [Members.set, hn, hrest]
    · simp [Members.set, hn, ih]

theorem filter_set_of_ne (h : other ≠ name) (j : Json) (m : Members) :
    (m.set name j).filter (·.1 == other) = m.filter (·.1 == other) := by
  have hrest (m : Members) : (m.remove name).filter (·.1 == other) = m.filter (·.1 == other) := by
    rw [Members.remove, List.filter_filter]
    apply List.filter_congr
    intro p _
    by_cases hp : p.1 = other <;> simp [hp, h]
  induction m with
  | nil => simp [Members.set, Ne.symm h]
  | cons p m ih =>
    obtain ⟨n, old⟩ := p
    by_cases hn : n = name
    · simp [Members.set, hn, Ne.symm h, hrest]
    · simp [Members.set, hn, List.filter_cons, ih]

/-- The patch takes the place of what stands there. -/
def Replaces (patch : Json) : Prop := patch ≠ .null ∧ ∀ old : Json, old.merge patch = patch

theorem change_of_replaces {patch : Json} (h : Replaces patch) (m : Members) (name : String) :
    m.change name patch = m.set name patch := by
  have hnull : patch.isNull = false := by
    obtain ⟨hne, -⟩ := h
    cases patch <;> first | rfl | exact absurd rfl hne
  rw [change, changed, hnull]
  simp only [Bool.false_eq_true, if_false, h.2]

/-- **A member after changes that replace**: what was set is read, or else what was there. -/
theorem latest?_mergeMembers (hd : changes.Distinct) (hr : ∀ p ∈ changes, Replaces p.2)
    (m : Members) :
    (mergeMembers m changes).latest? name f =
      match changes.lookup name with
      | some j => nullable? f j
      | none => m.latest? name f := by
  induction changes generalizing m with
  | nil => rfl
  | cons p changes ih =>
    obtain ⟨n, patch⟩ := p
    obtain ⟨hn, hrest⟩ := List.nodup_cons.mp hd
    obtain ⟨hpatch, hr⟩ := List.forall_mem_cons.mp hr
    rw [mergeMembers_cons, change_of_replaces hpatch, ih hrest hr]
    by_cases hname : name = n
    · subst hname
      rw [Dict.lookup_of_notMem hn, List.lookup_cons_self]
      simp only [latest?, filter_set_self]
      cases h : nullable? f patch <;> simp [h]
    · have hne : (name == n) = false := beq_false_of_ne hname
      simp only [List.lookup_cons, hne]
      cases changes.lookup name with
      | some j => rfl
      | none => simp only [latest?, filter_set_of_ne hname]

/-- A field that may have been set: the new value is read, or else the old one. -/
theorem latest?_mergeMembers_field {g : α → Json} {o x : Option α} (hd : changes.Distinct)
    (hr : ∀ p ∈ changes, Replaces p.2) (hl : changes.lookup name = o.map g)
    (hread : field? f (o.map g) = some o) (h : m.latest? name f = some x) :
    (mergeMembers m changes).latest? name f = some (o.or x) := by
  rw [latest?_mergeMembers hd hr, hl]
  cases o with
  | none => exact h
  | some a => exact hread

theorem latest?_mergeMembers_of_notSet (hd : changes.Distinct) (hr : ∀ p ∈ changes, Replaces p.2)
    (hl : changes.lookup name = none) :
    (mergeMembers m changes).latest? name f = m.latest? name f := by
  rw [latest?_mergeMembers hd hr, hl]

end Replacing

end Json.Members

/-! ## 2. The imprint -/

namespace Imprint

/-- The members that the imprint sets. -/
def members (own : Imprint) : Json.Members :=
  Json.optional "creationTimestamp" Instant.toJson own.creationTimestamp ++
    Json.optional "generation" Metadata.wordJson own.generation ++
    Json.optional "managedFields" (fun es => Json.arr (es.map ManagedFields.toJson))
      own.managedFields ++
    Json.optional "resourceVersion" Json.str own.version ++
    Json.optional "uid" Json.str own.uid

/-- The imprint as a patch of the metadata. -/
def toJson (own : Imprint) : Json := .obj own.members

/-- The metadata with the imprint. -/
def on (own : Imprint) (m : Metadata) : Metadata :=
  { m with
    resourceVersion := own.version.or m.resourceVersion
    uid := own.uid.or m.uid
    generation := own.generation.or m.generation
    creationTimestamp := own.creationTimestamp.or m.creationTimestamp
    managedFields := own.managedFields.or m.managedFields }

/-- The Secret with the imprint. -/
def onSecret (own : Imprint) (s : Secret) : Secret := { s with metadata := own.on s.metadata }

/-- The imprint says nothing but the version and who manages the fields, as after a change to an
object that was there. -/
structure IsRevision (own : Imprint) : Prop where
  uid : own.uid = none
  generation : own.generation = none
  creationTimestamp : own.creationTimestamp = none

/-- The document with the imprint in its metadata. -/
def onDocument (own : Imprint) (doc : Json) : Json := doc.merge (.obj [("metadata", own.toJson)])

/-- The names of the fields that a server may set. -/
def fields : List String :=
  ["creationTimestamp"] ++ ["generation"] ++ ["managedFields"] ++ ["resourceVersion"] ++ ["uid"]

theorem names_members (own : Imprint) : (own.members.map Prod.fst).Sublist fields := by
  simp only [members, List.map_append]
  repeat' apply List.Sublist.append
  all_goals exact Json.Members.names_optional _ _ _

theorem distinct_members (own : Imprint) : own.members.Distinct :=
  List.Nodup.sublist own.names_members (by decide)

theorem lookup_of_notMem (own : Imprint) {name : String} (h : name ∉ fields) :
    own.members.lookup name = none := by
  apply Dict.lookup_of_notMem
  intro hname
  exact h (own.names_members.mem hname)

section Lookup

variable (own : Imprint)

theorem lookup_version : own.members.lookup "resourceVersion" = own.version.map .str := by
  simp [members, List.lookup_append, Json.Members.lookup_optional]

theorem lookup_uid : own.members.lookup "uid" = own.uid.map .str := by
  simp [members, List.lookup_append, Json.Members.lookup_optional]

theorem lookup_generation :
    own.members.lookup "generation" = own.generation.map Metadata.wordJson := by
  simp [members, List.lookup_append, Json.Members.lookup_optional]

theorem lookup_creationTimestamp :
    own.members.lookup "creationTimestamp" = own.creationTimestamp.map Instant.toJson := by
  simp [members, List.lookup_append, Json.Members.lookup_optional]

theorem lookup_managedFields : own.members.lookup "managedFields" =
    own.managedFields.map fun es => .arr (es.map ManagedFields.toJson) := by
  simp [members, List.lookup_append, Json.Members.lookup_optional]

end Lookup

theorem replaces_members (own : Imprint) : ∀ p ∈ own.members, Json.Members.Replaces p.2 := by
  have each {α : Type} (name : String) {f : α → Json} (h : ∀ a, Json.Members.Replaces (f a))
      (o : Option α) : ∀ p ∈ Json.optional name f o, Json.Members.Replaces p.2 := by
    intro p hp
    cases o with
    | none => cases hp
    | some a =>
      cases List.mem_singleton.mp hp
      exact h a
  have text (s : String) : Json.Members.Replaces (.str s) := ⟨Json.noConfusion, fun _ => rfl⟩
  have time (t : Instant) : Json.Members.Replaces t.toJson := ⟨Json.noConfusion, fun _ => rfl⟩
  have word (n : Int64) : Json.Members.Replaces (Metadata.wordJson n) :=
    ⟨Json.noConfusion, fun _ => rfl⟩
  have items (es : List ManagedFields) :
      Json.Members.Replaces (.arr (es.map ManagedFields.toJson)) :=
    ⟨Json.noConfusion, fun _ => rfl⟩
  simp only [members, List.forall_mem_append]
  exact ⟨⟨⟨⟨each _ time _, each _ word _⟩, each _ items _⟩, each _ text _⟩, each _ text _⟩

end Imprint

/-- **Metadata with an imprint** are read as what was read before, with the imprint. -/
theorem Metadata.ofJson?_merge {j : Json} {m : Metadata} (h : Metadata.ofJson? j = some m)
    (own : Imprint) : Metadata.ofJson? (j.merge own.toJson) = some (own.on m) := by
  obtain ⟨ms, rfl, read⟩ := exists_readFrom h
  have hd := own.distinct_members
  have hr := own.replaces_members
  have set {α : Type} {name : String} {f : Json → Option α} {g : α → Json} {o x : Option α}
      (hl : own.members.lookup name = o.map g) (hread : Json.field? f (o.map g) = some o)
      (h : Json.Members.latest? ms name f = some x) :
      (Json.mergeMembers ms own.members).latest? name f = some (o.or x) :=
    Json.Members.latest?_mergeMembers_field hd hr hl hread h
  have kept {α : Type} {name : String} {f : Json → Option α} {x : Option α}
      (hname : name ∉ Imprint.fields) (h : Json.Members.latest? ms name f = some x) :
      (Json.mergeMembers ms own.members).latest? name f = some x := by
    rw [Json.Members.latest?_mergeMembers_of_notSet hd hr (own.lookup_of_notMem hname)]
    exact h
  have htime := Json.field?_time own.inSeconds
  have hfields := Json.field?_list fun es hes e he =>
    ManagedFields.ofJson?_toJson (own.lasting es hes e he)
  have hmerge : (Json.obj ms).merge own.toJson = .obj (Json.mergeMembers ms own.members) := rfl
  rw [hmerge, ofJson?_obj_iff]
  exact
    { name := kept (by decide) read.name
      generateName := kept (by decide) read.generateName
      ns := kept (by decide) read.ns
      uid := set own.lookup_uid (Json.field?_str own.uid) read.uid
      resourceVersion :=
        set own.lookup_version (Json.field?_str own.version) read.resourceVersion
      generation := set own.lookup_generation (Json.field?_word own.generation) read.generation
      selfLink := kept (by decide) read.selfLink
      creationTimestamp := set own.lookup_creationTimestamp htime read.creationTimestamp
      deletionTimestamp := kept (by decide) read.deletionTimestamp
      deletionGracePeriodSeconds := kept (by decide) read.deletionGracePeriodSeconds
      labels := kept (by decide) read.labels
      annotations := kept (by decide) read.annotations
      managedFields := set own.lookup_managedFields hfields read.managedFields
      finalizers := kept (by decide) read.finalizers
      ownerReferences := kept (by decide) read.ownerReferences }

/-! ## 3. Documents with an imprint -/

namespace Imprint

theorem onDocument_eq (own : Imprint) (doc : Json) : own.onDocument doc =
    .obj (doc.members.set "metadata"
      (((doc.members.lookup "metadata").getD .null).merge own.toJson)) := rfl

/-- The document tells the version that was set. -/
theorem at?_version {own : Imprint} {v : String} (h : own.version = some v) (doc : Json) :
    (own.onDocument doc).at? ["metadata", "resourceVersion"] = some (.str v) := by
  have hlookup : own.members.lookup "resourceVersion" = some (.str v) := by
    rw [own.lookup_version, h, Option.map_some]
  obtain ⟨before, after, hmembers, -⟩ := List.lookup_eq_some_iff.mp hlookup
  have hmem : ("resourceVersion", Json.str v) ∈ own.members := by simp [hmembers]
  have single := Json.Members.single_mergeMembers own.distinct_members hmem
  rw [onDocument_eq]
  simp only [Json.at?, Json.member?, Json.Members.lookup_set_self, Option.bind_some, toJson,
    Json.merge, (single _).lookup]
  rfl

end Imprint

/-- **A claim with an imprint in its document** is read as the claim with that imprint. -/
theorem Claim.ofJson?_onDocument {m : Json.Members} {claim : Claim}
    (h : Claim.ofJson? (.obj m) = some claim) (own : Imprint) :
    Claim.ofJson? (own.onDocument (.obj m)) =
      some { claim with metadata := own.on claim.metadata } := by
  rw [Claim.ofJson?_obj_iff] at h
  obtain ⟨j, hj, hread⟩ := Option.bind_eq_some_iff.mp h.metadata
  rw [Imprint.onDocument_eq, Json.members, hj, Option.getD_some, Claim.ofJson?_obj_iff]
  have rest := Json.Members.remove_set_self "metadata" (j.merge own.toJson) m
  constructor
  · exact h.unrepeated_of_rest rest (Json.Members.single_set _ _ m)
  · rw [Json.Members.required?, Json.Members.lookup_set_self]
    exact Metadata.ofJson?_merge hread own
  · rw [Json.Members.required?_of_rest rest (by decide)]
    exact h.spec
  · rw [Json.Members.optional?_of_rest rest (by decide)]
    exact h.status

/-- **A Secret with an imprint in its document** is read as the Secret with that imprint. -/
theorem Secret.ofJson?_onDocument {s : Secret} (h : s.metadata.Lasting) (own : Imprint) :
    Secret.ofJson? (own.onDocument s.toJson) = some (own.onSecret s) := by
  have hmember : s.toJson.member? "metadata" = some s.metadata.toJson := by
    simp [Json.member?, toJson, List.lookup_append, Json.Members.lookup_optional, List.lookup_cons]
  rw [Imprint.onDocument_eq, Json.lookup_members, hmember, Option.getD_some]
  exact s.ofJson?_set_metadata Json.noConfusion
    (Metadata.ofJson?_merge (Metadata.ofJson?_toJson h) own)

/-- Metadata with an imprint tell whole seconds, if they did before. -/
theorem Imprint.inSeconds_on (own : Imprint) {m : Metadata} (h : m.InSeconds) :
    (own.on m).InSeconds := by
  intro t ht
  rcases List.mem_append.mp ht with ht | ht
  · rcases List.mem_append.mp ht with ht | ht
    · have ht : own.creationTimestamp.or m.creationTimestamp = some t := Option.mem_toList.mp ht
      rcases Option.or_eq_some_iff.mp ht with hc | ⟨-, hc⟩
      · exact (own.inSeconds t hc).2
      · exact h t (List.mem_append_left _ (List.mem_append_left _ (Option.mem_toList.mpr hc)))
    · exact h t (List.mem_append_left _ (List.mem_append_right _ ht))
  · obtain ⟨e, he, ht⟩ := List.mem_filterMap.mp ht
    have he : e ∈ (own.managedFields.or m.managedFields).getD [] := he
    cases hm : own.managedFields with
    | some es =>
      rw [hm] at he
      exact ((own.lasting es hm e he).time t ht).2
    | none =>
      rw [hm, Option.none_or] at he
      exact h t (List.mem_append_right _ (List.mem_filterMap.mpr ⟨e, he, ht⟩))

end SecretKeeper
