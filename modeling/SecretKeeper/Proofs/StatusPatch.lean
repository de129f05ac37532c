/-
# The patch of a status

A status is written as a merge patch of all its fields, and the patch is applied to whatever
stands there: an older status, nothing, or no object at all.  A patch determines each member that
it names (`single_mergeMembers`): null removes it, and what is no object takes its place.  A
status names all of its fields, so nothing of an older one is left (`ofJson?_merge_toJson`).

The rest of the claim is another matter: no other member of its document is touched, and so the
claim is read again as it was, with another status (`Claim.ofJson?_of_rest`).  Both together say
what the request does that a report is sent with (`Api.Store.status_replaced`).
-/
import SecretKeeper.Api.Store
import SecretKeeper.Proofs.Codec

namespace SecretKeeper

namespace Json

/-! ## 1. Members after a patch -/

namespace Members

variable {m : Members} {name other : String}

theorem countP_remove_self (name : String) (m : Members) :
    (Members.remove name m).countP (·.1 == name) = 0 := by
  simp [Members.remove]

theorem countP_remove_of_ne (h : other ≠ name) (m : Members) :
    (Members.remove name m).countP (·.1 == other) = m.countP (·.1 == other) := by
  rw [Members.remove, List.countP_filter]
  refine List.countP_congr fun p _ => ?_
  simp only [bne_iff_ne, beq_iff_eq, Bool.and_eq_true]
  exact ⟨And.left, fun hp => ⟨hp, hp ▸ h⟩⟩

theorem countP_set_self (name : String) (j : Json) (m : Members) :
    (m.set name j).countP (·.1 == name) = 1 := by
  induction m with
  | nil => simp [Members.set]
  | cons p m ih =>
    obtain ⟨n, old⟩ := p
    by_cases hn : n = name
    · simp [Members.set, hn, countP_remove_self]
    · simp [Members.set, hn, ih]

@[simp] theorem remove_remove (name : String) (m : Members) :
    (m.remove name).remove name = m.remove name := by
  simp [Members.remove, List.filter_filter]

theorem remove_set_self (name : String) (j : Json) (m : Members) :
    (m.set name j).remove name = m.remove name := by
  induction m with
  | nil => simp [Members.set, Members.remove]
  | cons p m ih =>
    obtain ⟨n, old⟩ := p
    by_cases hn : n = name
    · simp [Members.set, Members.remove, hn]
    · simpa [Members.set, Members.remove, hn] using ih

theorem countP_set_of_ne (h : other ≠ name) (j : Json) (m : Members) :
    (m.set name j).countP (·.1 == other) = m.countP (·.1 == other) := by
  induction m with
  | nil => simp [Members.set, Ne.symm h]
  | cons p m ih =>
    obtain ⟨n, old⟩ := p
    by_cases hn : n = name
    · subst hn
      simp [Members.set, countP_remove_of_ne h, Ne.symm h]
    · simp [Members.set, hn, List.countP_cons, ih]

/-- What a change makes of a member: null removes it. -/
def changed (old : Option Json) (patch : Json) : Option Json :=
  if patch.isNull then none else some ((old.getD .null).merge patch)

/-- The members after one change. -/
def change (m : Members) (name : String) (patch : Json) : Members :=
  match changed (m.lookup name) patch with
  | none => m.remove name
  | some j => m.set name j

theorem mergeMembers_cons (m : Members) (name : String) (patch : Json) (changes : Members) :
    mergeMembers m ((name, patch) :: changes) = mergeMembers (m.change name patch) changes := by
  cases patch <;> rfl

/-- There is at most one member of that name, and this is its value. -/
structure Single (m : Members) (name : String) (value : Option Json) : Prop where
  lookup : m.lookup name = value
  unrepeated : m.repeats name = false

theorem single_set (name : String) (j : Json) (m : Members) :
    (m.set name j).Single name (some j) :=
  ⟨lookup_set_self name j m, by simp [repeats, countP_set_self]⟩

theorem single_change (m : Members) (name : String) (patch : Json) :
    (m.change name patch).Single name (changed (m.lookup name) patch) := by
  unfold change
  cases changed (m.lookup name) patch with
  | none =>
    refine ⟨List.lookup_eq_none_iff.mpr fun p hp => ?_, by simp [repeats, countP_remove_self]⟩
    have hne : p.1 ≠ name := by simpa using (List.mem_filter.mp hp).2
    exact bne_iff_ne.mpr hne.symm
  | some j => exact single_set name j m

theorem change_of_ne (h : other ≠ name) (m : Members) (patch : Json) :
    (m.change name patch).lookup other = m.lookup other ∧
      (m.change name patch).repeats other = m.repeats other := by
  unfold change
  cases changed (m.lookup name) patch with
  | none => exact ⟨lookup_remove_of_ne h m, by rw [repeats, countP_remove_of_ne h, repeats]⟩
  | some j => exact ⟨lookup_set_of_ne h j m, by rw [repeats, countP_set_of_ne h, repeats]⟩

section Rest

variable {α : Type} {m' : Members} (rest : m'.remove name = m.remove name) (h : other ≠ name)

include rest h

/-- Where all but the members of one name is the same, another name finds the same. -/
theorem lookup_of_rest : m'.lookup other = m.lookup other := by
  rw [← lookup_remove_of_ne h m', rest, lookup_remove_of_ne h]

theorem repeats_of_rest : m'.repeats other = m.repeats other := by
  rw [repeats, ← countP_remove_of_ne h, rest, countP_remove_of_ne h, repeats]

theorem required?_of_rest (f : Json → Option α) : m'.required? other f = m.required? other f := by
  rw [required?, lookup_of_rest rest h, required?]

theorem optional?_of_rest (f : Json → Option α) : m'.optional? other f = m.optional? other f := by
  rw [optional?, lookup_of_rest rest h, optional?]

end Rest

/-- Changes of other members leave a member as it is. -/
theorem mergeMembers_of_notMem {changes : Members} (h : name ∉ changes.map Prod.fst)
    (m : Members) :
    (mergeMembers m changes).lookup name = m.lookup name ∧
      (mergeMembers m changes).repeats name = m.repeats name := by
  induction changes generalizing m with
  | nil => exact ⟨rfl, rfl⟩
  | cons p changes ih =>
    obtain ⟨n, patch⟩ := p
    rw [List.map_cons, List.mem_cons, not_or] at h
    obtain ⟨hlookup, hrepeats⟩ := change_of_ne h.1 m patch
    rw [mergeMembers_cons, (ih h.2 _).1, (ih h.2 _).2]
    exact ⟨hlookup, hrepeats⟩

/-- **A patch determines the members that it names**, however often they stood there. -/
theorem single_mergeMembers {changes : Members} (hd : changes.Distinct) {patch : Json}
    (h : (name, patch) ∈ changes) (m : Members) :
    (mergeMembers m changes).Single name (changed (m.lookup name) patch) := by
  induction changes generalizing m with
  | nil => cases h
  | cons p changes ih =>
    obtain ⟨n, q⟩ := p
    obtain ⟨hn, hrest⟩ := List.nodup_cons.mp hd
    rw [mergeMembers_cons]
    rcases List.mem_cons.mp h with heq | h
    · cases heq
      obtain ⟨hlookup, hrepeats⟩ := mergeMembers_of_notMem hn (m.change name patch)
      have hsingle := single_change m name patch
      exact ⟨hlookup.trans hsingle.lookup, hrepeats.trans hsingle.unrepeated⟩
    · have hne : name ≠ n := fun he => hn (he ▸ List.mem_map.mpr ⟨(name, patch), h, rfl⟩)
      rw [← (change_of_ne hne m q).1]
      exact ih hrest h _

end Members

end Json

/-! ## 2. The status -/

theorem Condition.ofJson?_toJson (c : Condition) : Condition.ofJson? c.toJson = some c := by
  obtain ⟨type, status, time, reason, message⟩ := c
  cases time <;> cases reason <;> cases message <;> rfl

namespace Status

theorem distinct_members (s : Status) : s.toJson.members.Distinct := by
  show ["conditions", "createdSecretName", "errorMessage", "lastReconcileTrigger", "lastUpdate",
    "observedGeneration", "synced"].Nodup
  decide

/-- A change to what may be null: null removes the member. -/
theorem changed_orNull {α : Type} {f : α → Json} {old : Option Json}
    (h : ∀ a, Json.Members.changed old (f a) = some (f a)) (o : Option α) :
    Json.Members.changed old (Json.orNull f o) = o.map f := by
  cases o with
  | none => rfl
  | some a => exact h a

/-- **The patch replaces the status**: whatever was there, the status of the patch is read
afterwards. -/
theorem ofJson?_merge_toJson (old : Json) (s : Status) :
    Status.ofJson? (old.merge s.toJson) = some s := by
  have hmerge : old.merge s.toJson =
      .obj (Json.mergeMembers old.members s.toJson.members) := rfl
  have single : ∀ p ∈ s.toJson.members, (Json.mergeMembers old.members s.toJson.members).Single
      p.1 (Json.Members.changed (old.members.lookup p.1) p.2) := fun _ h =>
    Json.Members.single_mergeMembers s.distinct_members h old.members
  rw [hmerge]
  generalize Json.mergeMembers old.members s.toJson.members = m at single
  generalize old.members = before at single
  simp only [toJson, Json.members, List.forall_mem_cons] at single
  obtain ⟨conditions, createdSecretName, errorMessage, trigger, lastUpdate, generation, synced,
    -⟩ := single
  have hrecord : Json.record? ["synced", "createdSecretName", "errorMessage", "lastUpdate",
      "lastReconcileTrigger", "observedGeneration", "conditions"] (.obj m) = some m := by
    simp [Json.record?, conditions.unrepeated, createdSecretName.unrepeated,
      errorMessage.unrepeated, trigger.unrepeated, lastUpdate.unrepeated, generation.unrepeated,
      synced.unrepeated]
  have hupdate := lastUpdate.lookup.trans (changed_orNull (fun _ => rfl) _)
  have hgeneration := generation.lookup.trans (changed_orNull (fun _ => rfl) _)
  have hword : Json.field? Json.int64? (s.observedGeneration.map fun n => Json.int n.toInt) =
      some s.observedGeneration := Json.field?_word _
  have hconditions : Json.list? Condition.ofJson? (.arr (s.conditions.map Condition.toJson)) =
      some s.conditions := Json.list?_arr fun c _ => c.ofJson?_toJson
  simp only [Status.ofJson?, hrecord, Json.Members.orDefault?, Json.Members.optional?_eq,
    conditions.lookup, createdSecretName.lookup, errorMessage.lookup, trigger.lookup,
    synced.lookup, hupdate, hgeneration, Option.bind_eq_bind, Option.bind_some]
  simp [Json.Members.changed, Json.isNull, Json.merge, Json.bool?, Json.str?, hword,
    hconditions]

end Status

/-- The claim is what the members tell, and they tell each field once. -/
structure Claim.ReadFrom (m : Json.Members) (claim : Claim) : Prop where
  unrepeated : ∀ name ∈ ["metadata", "spec", "status"], m.repeats name = false
  metadata : m.required? "metadata" Metadata.ofJson? = some claim.metadata
  spec : m.required? "spec" ClaimSpec.ofJson? = some claim.spec
  status : m.optional? "status" Status.ofJson? = some claim.status

theorem Claim.ofJson?_obj_iff {m : Json.Members} {claim : Claim} :
    Claim.ofJson? (.obj m) = some claim ↔ Claim.ReadFrom m claim := by
  constructor
  · intro h
    obtain ⟨members, hrecord, h⟩ := Option.bind_eq_some_iff.mp h
    obtain ⟨metadata, hmetadata, h⟩ := Option.bind_eq_some_iff.mp h
    obtain ⟨spec, hspec, h⟩ := Option.bind_eq_some_iff.mp h
    obtain ⟨status, hstatus, h⟩ := Option.bind_eq_some_iff.mp h
    cases h
    obtain ⟨unrepeated, heq⟩ := Option.ite_none_left_eq_some.mp hrecord
    cases heq
    exact ⟨by simpa using unrepeated, hmetadata, hspec, hstatus⟩
  · intro h
    have hrecord : Json.fullRecord? ["metadata", "spec", "status"] (.obj m) = some m := by
      refine if_neg ?_
      simpa using h.unrepeated
    simp [Claim.ofJson?, hrecord, h.metadata, h.spec, h.status]

/-- If one field is written once more, and all else stays, no field is repeated. -/
theorem Claim.ReadFrom.unrepeated_of_rest {m m' : Json.Members} {claim : Claim}
    (h : claim.ReadFrom m) {field : String} {value : Option Json}
    (rest : m'.remove field = m.remove field) (single : m'.Single field value) :
    ∀ name ∈ ["metadata", "spec", "status"], m'.repeats name = false := by
  intro name hname
  by_cases hself : name = field
  · rw [hself]
    exact single.unrepeated
  · rw [Json.Members.repeats_of_rest rest hself]
    exact h.unrepeated name hname

/-- **A claim is read again** from a document in which all but the status is the same, and is
otherwise the same claim. -/
theorem Claim.ofJson?_of_rest {m m' : Json.Members} {claim : Claim} {j : Json} {s : Status}
    (h : Claim.ofJson? (.obj m) = some claim)
    (rest : Json.Members.remove "status" m' = Json.Members.remove "status" m)
    (status : m'.Single "status" (some j)) (hj : j ≠ .null) (hs : Status.ofJson? j = some s) :
    Claim.ofJson? (.obj m') = some { claim with status := some s } := by
  rw [Claim.ofJson?_obj_iff] at h ⊢
  constructor
  · exact h.unrepeated_of_rest rest status
  · rw [Json.Members.required?_of_rest rest (by decide)]
    exact h.metadata
  · rw [Json.Members.required?_of_rest rest (by decide)]
    exact h.spec
  · rw [Json.Members.optional?_eq, status.lookup, Json.field?, Json.nullable?_of_ne_null hj, hs]
    rfl

/-- So it is with another status in its document. -/
theorem Claim.ofJson?_set_status {m : Json.Members} {claim : Claim} {j : Json} {s : Status}
    (h : Claim.ofJson? (.obj m) = some claim) (hj : j ≠ .null) (hs : Status.ofJson? j = some s) :
    Claim.ofJson? (.obj (m.set "status" j)) = some { claim with status := some s } :=
  Claim.ofJson?_of_rest h (Json.Members.remove_set_self "status" j m)
    (Json.Members.single_set "status" j m) hj hs

/-! ## 3. The patch that is sent -/

/-- What has become of a document: it has one status, which is read as this one, and all else of
it is as it was. -/
structure StatusReplaced (doc patched : Json) (s : Status) : Prop where
  isObject : ∃ m, patched = .obj m
  unrepeated : patched.members.repeats "status" = false
  status : (patched.member? "status").bind Status.ofJson? = some s
  rest : Json.Members.remove "status" patched.members = Json.Members.remove "status" doc.members
  /-- The claim is read with this status, even if the old one could not be read at all. -/
  claim : ∀ claim, Claim.ofJson? (.obj (Json.Members.remove "status" doc.members)) = some claim →
    Claim.ofJson? patched = some { claim with status := some s }

namespace Api.Store

variable {manager : String} {claim : Claim} {s : Status} {request : Request}

/-- The request that writes a status carries its patch. -/
theorem request_of_writeStatus (h : prepare manager (.writeStatus claim s) = .ok request) :
    request.method = .patch ∧ request.contentType = some .mergePatch ∧
      request.body = some (statusPatch s) := by
  obtain ⟨key, -, h⟩ := exists_of_bind_ok h
  cases hpatch : Request.patch .claims key (some "status") manager (statusPatch s) with
  | error fault =>
    rw [hpatch] at h
    cases h
  | ok r =>
    rw [hpatch] at h
    cases h
    exact Request.eq_of_patch hpatch

/-- The patch of a status, applied to any document. -/
theorem statusReplaced_merge (doc : Json) (s : Status) :
    StatusReplaced doc (doc.merge (statusPatch s)) s := by
  have hmerge : doc.merge (statusPatch s) = .obj (doc.members.set "status"
      (((doc.members.lookup "status").getD .null).merge s.toJson)) := rfl
  generalize hj : ((doc.members.lookup "status").getD .null).merge s.toJson = j at hmerge
  have hs : Status.ofJson? j = some s := hj ▸ Status.ofJson?_merge_toJson _ s
  have hnull : j ≠ .null := hj ▸ Json.noConfusion
  have single := Json.Members.single_set "status" j doc.members
  have rest := Json.Members.remove_set_self "status" j doc.members
  rw [hmerge]
  exact
    { isObject := ⟨_, rfl⟩
      unrepeated := single.unrepeated
      status := by rw [Json.member?, single.lookup, Option.bind_some, hs]
      rest := rest
      claim := fun c hc => Claim.ofJson?_of_rest hc
        (rest.trans (Json.Members.remove_remove "status" _).symm) single hnull hs }

/-- **A report replaces the status.**  What is sent for it is one merge patch, and whatever stands
in the document that it is applied to, at its status or elsewhere, the status that is read
afterwards is the one that was reported, and nothing else has changed. -/
theorem status_replaced (h : prepare manager (.writeStatus claim s) = .ok request) :
    request.method = .patch ∧ request.contentType = some .mergePatch ∧
      ∃ patch, request.body = some patch ∧
        ∀ doc : Json, StatusReplaced doc (doc.merge patch) s := by
  obtain ⟨hmethod, htype, hbody⟩ := request_of_writeStatus h
  exact ⟨hmethod, htype, _, hbody, fun doc => statusReplaced_merge doc s⟩

end Api.Store

/-! ## 4. A report over an older one -/

namespace Report

def claim : Claim where
  metadata := { ns := some "default", name := some "db" }
  spec := { type := "Opaque" }

/-- The report of a failure. -/
def status : Status := .afterFailure claim "no entropy" "now"

/-- A document with a status that has fields nobody knows, and others that read as nothing. -/
def document : Json :=
  .obj [("status", .obj [("phase", .str "old"), ("lastUpdate", .str "then"), ("synced", .null)]),
    ("metadata", claim.metadata.toJson), ("spec", claim.spec.toJson), ("extra", .arr [])]

end Report

/-- The report is sent, and replaces all of the older one. -/
theorem report_replaced : ∃ request patch,
    Api.Store.prepare "secret-keeper" (.writeStatus Report.claim Report.status) = .ok request ∧
      request.body = some patch ∧
      StatusReplaced Report.document (Report.document.merge patch) Report.status ∧
      Claim.ofJson? Report.document = none ∧
      Claim.ofJson? (Report.document.merge patch) =
        some { Report.claim with status := some Report.status } := by
  cases h : Api.Store.prepare "secret-keeper" (.writeStatus Report.claim Report.status) with
  | error e =>
    have hok : (Api.Store.prepare "secret-keeper"
      (.writeStatus Report.claim Report.status)).isOk = true := by decide +kernel
    rw [h] at hok
    cases hok
  | ok request =>
    obtain ⟨-, -, patch, hbody, hreplaced⟩ := Api.Store.status_replaced h
    have replaced := hreplaced Report.document
    exact ⟨request, patch, rfl, hbody, replaced, by decide +kernel,
      replaced.claim Report.claim (by decide +kernel)⟩

end SecretKeeper
