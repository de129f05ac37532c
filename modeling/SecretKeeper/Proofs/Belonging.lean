/-
# To whom a Secret belongs

A Secret is given to a claim by the one who makes it (`Claim.ownerReference`), and asked whose
it is by another (`Secret.isOwnedBy`).  The first fills in empty texts where the claim has no
UID or no name; the second goes by the UID of the claim that asks, and by its name only if it
has no UID.  `Secret.isOwnedBy_new_iff` puts the two together.

A Secret that is written again keeps all but its data, its type and its texts
(`Secret.Rewrites`).  So it belongs to the same claims as before, and still tells the version
that was read.

Both are statements about what is written, and so about the store calls that a write can come
to: the one call of `writeCall` and no other, whoever answers (`writeCall_of_reaches`).
-/
import SecretKeeper.Proofs.Dict
import SecretKeeper.Proofs.Discipline

namespace SecretKeeper

/-- The annotation of that key. -/
def Metadata.annotation? (m : Metadata) (key : String) : Option String :=
  (m.annotations.getD ∅)[key]?

namespace Secret

/-! ## 1. New Secrets -/

/-- **Whose a new Secret is.**  A claim with a UID goes by that of the claim for which the
Secret was made, and a claim without one goes by the name. -/
theorem isOwnedBy_new_iff (claim other : Claim) (data : Dict Bytes) :
    (Secret.new claim data).isOwnedBy other = true ↔
      (∀ uid, other.metadata.uid = some uid → claim.metadata.uid.getD "" = uid) ∧
      (other.metadata.uid = none →
        other.metadata.name = some (claim.metadata.name.getD "")) := by
  cases huid : other.metadata.uid <;>
    simp [isOwnedBy, Secret.new, OwnerReference.pointsTo, Claim.ownerReference, huid]

/-- A claim with a name owns what is made for it. -/
theorem isOwnedBy_new_of_name {claim : Claim} (named : claim.metadata.name.isSome = true)
    (data : Dict Bytes) : (Secret.new claim data).isOwnedBy claim = true := by
  obtain ⟨name, hname⟩ := Option.isSome_iff_exists.mp named
  refine (isOwnedBy_new_iff claim claim data).mpr ⟨fun uid huid => ?_, fun _ => ?_⟩
  · rw [huid, Option.getD_some]
  · rw [hname, Option.getD_some]

/-- What a Secret has taken over from a claim: the labels, and the annotations but for the one
of client-side apply.  If none are left, there is no map of them. -/
structure Inherits (s : Secret) (claim : Claim) : Prop where
  labels : s.metadata.labels = claim.metadata.labels
  annotations : ∀ key, s.metadata.annotation? key =
    if key = lastAppliedKey then none else claim.metadata.annotation? key
  bare : s.metadata.annotations = none ↔ ∀ key, s.metadata.annotation? key = none

/-- The inherited annotations as a map. -/
theorem getD_inheritedAnnotations (annotations : Option (Dict String)) :
    (inheritedAnnotations annotations).getD ∅ =
      (annotations.getD ∅).filter fun key _ => key != lastAppliedKey := by
  cases annotations with
  | none => rfl
  | some dict =>
    simp only [inheritedAnnotations, Option.map_some, Option.getD_some]
    cases hempty : (dict.filter fun key _ => key != lastAppliedKey).isEmpty with
    | false => rw [Option.filter_some_pos (by rw [hempty]; rfl), Option.getD_some]
    | true =>
      rw [Option.filter_some_neg (by rw [hempty]; decide), Option.getD_none,
        Std.ExtTreeMap.isEmpty_iff.mp hempty]

theorem inherits_new (claim : Claim) (data : Dict Bytes) :
    (Secret.new claim data).Inherits claim where
  labels := rfl
  annotations key := by
    show ((inheritedAnnotations claim.metadata.annotations).getD ∅)[key]? = _
    rw [getD_inheritedAnnotations, Std.ExtTreeMap.getElem?_filter']
    by_cases hkey : key = lastAppliedKey
    · simp [hkey]
    · have kept : (key != lastAppliedKey) = true := bne_iff_ne.mpr hkey
      rw [if_neg hkey, Metadata.annotation?]
      simp only [kept]
      cases (claim.metadata.annotations.getD ∅)[key]? <;> rfl
  bare := by
    constructor
    · intro hnone key
      rw [Metadata.annotation?, hnone, Option.getD_none, Std.ExtTreeMap.getElem?_empty]
    · intro hbare
      show inheritedAnnotations claim.metadata.annotations = none
      cases hsome : inheritedAnnotations claim.metadata.annotations with
      | none => rfl
      | some dict =>
        have hfull : dict.isEmpty = false := by
          simpa using (Option.filter_eq_some_iff.mp hsome).2
        have hempty : dict = ∅ := Std.ExtTreeMap.ext_getElem? fun key => by
          have h : ((inheritedAnnotations claim.metadata.annotations).getD ∅)[key]? = none :=
            hbare key
          rw [hsome, Option.getD_some] at h
          rw [h, Std.ExtTreeMap.getElem?_empty]
        rw [hempty] at hfull
        cases hfull

/-! ## 2. Secrets that are written again -/

/-- The Secret differs from an old one only in its data, its type and its texts. -/
structure Rewrites (s old : Secret) : Prop where
  rest : { s with data := old.data, type := old.type, stringData := old.stringData } = old

theorem rewrites_withData (old : Secret) (data : Dict Bytes) : (old.withData data).Rewrites old :=
  ⟨rfl⟩

theorem Rewrites.metadata {s old : Secret} (h : s.Rewrites old) : s.metadata = old.metadata :=
  (Secret.mk.inj h.rest).1

/-- Whoever owned the old Secret owns the one that is written over it, and nobody else. -/
theorem Rewrites.isOwnedBy {s old : Secret} (h : s.Rewrites old) (claim : Claim) :
    s.isOwnedBy claim = old.isOwnedBy claim := by
  rw [Secret.isOwnedBy, Secret.isOwnedBy, h.metadata]

end Secret

namespace Controller

open Program

section Writes

variable {claim : Claim} {existing : Option Secret} {demand : Demand} {key : Key}
  {log events : List (Event controllerInterface)} {call : StoreCall}

/-! ## 3. What is written -/

/-- An attempt makes no store call but the write, with data that were made for the demand. -/
theorem Attempt.eq_writeCall {result : Except CycleError Unit} {answer : call.Answer}
    (h : Attempt claim existing demand events result) (he : told call answer ∈ events) :
    ∃ data, call = writeCall claim existing data := by
  have hcall : ⟨call, answer⟩ ∈ calls events := mem_calls he
  cases h with
  | undrawn h =>
    rw [h.calls_eq_nil] at hcall
    cases hcall
  | @unwritten _ data x h =>
    rw [calls_append, h.calls_eq_nil] at hcall
    cases List.mem_singleton.mp hcall
    exact ⟨data, rfl⟩
  | @written _ data value h =>
    rw [calls_append, h.calls_eq_nil] at hcall
    cases List.mem_singleton.mp hcall
    exact ⟨data, rfl⟩

/-- **The one store call that a write can come to**, whoever answers. -/
theorem writeCall_of_reaches {resume : call.Answer → Controller (Except CycleError Unit)}
    (h : Reaches (write claim demand existing) log (.ask (.store call) resume)) :
    ∃ data, call = writeCall claim existing data := by
  obtain ⟨answer⟩ : Nonempty (controllerInterface.Answer (.store call)) := inferInstance
  obtain ⟨rest, result, hy⟩ := h.exists_yields answer
  have attempt : Attempt claim existing demand (outward (log ++ told call answer :: rest)) result :=
    write_does ⟨_, hy, rfl⟩
  have asked : told call answer ∈ outward (log ++ told call answer :: rest) := by
    rw [outward_append]
    exact List.mem_append_right _ (List.mem_cons_self ..)
  exact attempt.eq_writeCall asked

/-- A cycle that is about to write a Secret writes one that belongs to the claim it has read, if
that has a name. -/
theorem written_of_reaches {resume : call.Answer → Controller (Except CycleError Outcome)}
    (h : Reaches (cycle key) log (.ask (.store call) resume)) (hw : call.writesSecret = true) :
    ∃ (claim : Claim) (s : Secret), told (.readClaim key) (.ok (some claim)) ∈ log ∧
      (call = .createSecret s ∨ call = .replaceSecret s) ∧
      (claim.metadata.name.isSome = true → s.isOwnedBy claim = true) := by
  obtain ⟨claim, existing, demand, drawn, data, due, -, hlog, rfl⟩ := write_of_reaches h hw
  have hread : told (.readClaim key) (.ok (some claim)) ∈ outward log := by
    rw [hlog]
    simp [reads]
  refine ⟨claim, written claim existing data, List.mem_of_mem_filter hread, ?_, fun named => ?_⟩
  · cases existing with
    | none => exact .inl rfl
    | some old => exact .inr rfl
  · cases existing with
    | none => exact Secret.isOwnedBy_new_of_name named data
    | some old =>
      have hold : old.isOwnedBy claim = true := by simpa [isForeign] using due.own
      exact hold

/-- **Ownership survives every write.**

* A claim with a name owns the Secret made for it.  Another claim that has a UID owns it just if
  that is the UID of the first, where a missing one counts as empty.
* A new Secret has the labels of the claim, and all annotations of it but the one of client-side
  apply; if none are left, it has no map of them.
* Making a Secret comes to no store call but the creation of such a Secret.  Writing one again
  comes to none but a replacement, by a Secret that differs from the existing one in its data, its
  type and its texts alone: so the same claims own it, and its version, its finalizers and its
  owners are the same.
* Whenever a cycle is about to write a Secret, the claim it has read owns what is written. -/
theorem ownership_survives (claim : Claim) (data : Dict Bytes) (existing : Secret)
    (demand : Demand) :
    (claim.metadata.name.isSome = true → (Secret.new claim data).isOwnedBy claim = true) ∧
    (∀ (other : Claim) (uid : String), other.metadata.uid = some uid →
      ((Secret.new claim data).isOwnedBy other = true ↔ claim.metadata.uid.getD "" = uid)) ∧
    (Secret.new claim data).Inherits claim ∧
    (∀ log call resume, (createSecret claim demand).Reaches log (.ask (.store call) resume) →
      ∃ made, call = .createSecret (.new claim made)) ∧
    (∀ log call resume, (updateSecret existing demand).Reaches log (.ask (.store call) resume) →
      ∃ s, call = .replaceSecret s ∧ s.Rewrites existing ∧
        (∀ owner, s.isOwnedBy owner = existing.isOwnedBy owner) ∧
        s.metadata.resourceVersion = existing.metadata.resourceVersion ∧
        s.metadata.finalizers = existing.metadata.finalizers ∧
        s.metadata.ownerReferences = existing.metadata.ownerReferences) ∧
    (∀ key log call resume, (cycle key).Reaches log (.ask (.store call) resume) →
      call.writesSecret = true →
      ∃ (read : Claim) (s : Secret), told (.readClaim key) (.ok (some read)) ∈ log ∧
        (call = .createSecret s ∨ call = .replaceSecret s) ∧
        (read.metadata.name.isSome = true → s.isOwnedBy read = true)) := by
  refine ⟨fun named => Secret.isOwnedBy_new_of_name named data, ?_, Secret.inherits_new claim data,
    ?_, ?_, fun key log call resume h hw => written_of_reaches h hw⟩
  · intro other uid huid
    rw [Secret.isOwnedBy_new_iff, huid]
    simp
  · intro log call resume h
    have hwrite : Reaches (write claim demand none) log (.ask (.store call) resume) := h
    exact writeCall_of_reaches hwrite
  · intro log call resume h
    have hwrite : Reaches (write claim demand (some existing)) log (.ask (.store call) resume) := h
    obtain ⟨made, rfl⟩ := writeCall_of_reaches hwrite
    have rewrites := Secret.rewrites_withData existing made
    exact ⟨_, rfl, rewrites, rewrites.isOwnedBy, rfl, rfl, rfl⟩

end Writes

/-! ## 4. A claim without a UID -/

namespace Unmarked

/-- A claim that has a name but no UID, and only the annotation of client-side apply. -/
def claim : Claim where
  metadata :=
    { name := some "db"
      ns := some "default"
      annotations := some ((∅ : Dict String).insert Secret.lastAppliedKey "{}") }
  spec := { type := "Opaque" }

/-- A claim with this UID and another name. -/
def other (uid : String) : Claim where
  metadata := { name := some "cache", ns := some "default", uid := some uid }
  spec := { type := "Opaque" }

/-- A Secret of the claim with the UID `u1`, as it was read. -/
def existing : Secret where
  metadata :=
    { name := some "db"
      ns := some "default"
      resourceVersion := some "7"
      finalizers := some ["keep"]
      ownerReferences := some [(other "u1").ownerReference] }

end Unmarked

/-- The claim owns its Secret by its name.  A claim whose UID is empty owns it as well, one with
a UID of its own does not; the map of annotations is gone.  Writing the existing Secret again
replaces the version that was read. -/
theorem unmarked_owned :
    (Secret.new Unmarked.claim ∅).isOwnedBy Unmarked.claim = true ∧
    (Secret.new Unmarked.claim ∅).isOwnedBy (Unmarked.other "") = true ∧
    (Secret.new Unmarked.claim ∅).isOwnedBy (Unmarked.other "u1") = false ∧
    (Secret.new Unmarked.claim ∅).metadata.annotations = none ∧
    ∃ s resume, (updateSecret Unmarked.existing (.verbatim ∅)).Reaches []
        (.ask (.store (.replaceSecret s)) resume) ∧
      s.metadata.resourceVersion = some "7" ∧ s.isOwnedBy (Unmarked.other "u1") = true := by
  obtain ⟨own, others, inherits, -, again, -⟩ :=
    ownership_survives Unmarked.claim ∅ Unmarked.existing (.verbatim ∅)
  have bare : (Secret.new Unmarked.claim ∅).metadata.annotations = none := by
    refine inherits.bare.mpr fun key => ?_
    rw [inherits.annotations]
    split
    · rfl
    next hkey =>
      exact (Dict.getElem?_insert_of_ne hkey).trans Std.ExtTreeMap.getElem?_empty
  have reached : (updateSecret Unmarked.existing (.verbatim ∅)).Reaches [] _ := .here _
  obtain ⟨s, hs, -, owned, version, -⟩ := again _ _ _ reached
  cases hs
  refine ⟨own rfl, (others _ _ rfl).mpr rfl, ?_, bare, _, _, reached, version, ?_⟩
  · exact Bool.eq_false_iff.mpr fun h => absurd ((others _ _ rfl).mp h) (by decide)
  · rw [owned]
    decide

end Controller

end SecretKeeper
