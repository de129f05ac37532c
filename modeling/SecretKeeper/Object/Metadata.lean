/-
# Object metadata

What claims and Secrets have in common: their names, their version, their times, labels,
annotations, the objects that own them, and an account of who manages which of their fields.
Absent fields stay absent when written; an empty map is written as one, and times are
written to whole seconds.
-/
import SecretKeeper.Json.Record
import SecretKeeper.Time.Reading

namespace SecretKeeper

/-- A reference from an object to one that owns it. -/
structure OwnerReference where
  apiVersion : String
  kind : String
  name : String
  uid : String
  controller : Option Bool
  blockOwnerDeletion : Option Bool
deriving DecidableEq

namespace OwnerReference

/-- The reference as an object; absent flags are left out. -/
def toJson (r : OwnerReference) : Json :=
  .obj ([("apiVersion", .str r.apiVersion)] ++
    Json.optional "blockOwnerDeletion" Json.bool r.blockOwnerDeletion ++
    Json.optional "controller" Json.bool r.controller ++
    [("kind", .str r.kind), ("name", .str r.name), ("uid", .str r.uid)])

/-- Reads a reference from an open object.  Texts that are missing are empty. -/
def ofJson? (j : Json) : Option OwnerReference := do
  let .obj m := j | none
  return {
    apiVersion := (← Json.Members.latest? m "apiVersion" Json.str?).getD ""
    kind := (← Json.Members.latest? m "kind" Json.str?).getD ""
    name := (← Json.Members.latest? m "name" Json.str?).getD ""
    uid := (← Json.Members.latest? m "uid" Json.str?).getD ""
    controller := ← Json.Members.latest? m "controller" Json.bool?
    blockOwnerDeletion := ← Json.Members.latest? m "blockOwnerDeletion" Json.bool? }

end OwnerReference

/-- A time as a text. -/
def Instant.toJson (t : Instant) : Json := .str t.stamp

/-- Reads a time. -/
def Instant.ofJson? (j : Json) : Option Instant := j.str?.bind Instant.ofText?

/-- The fields that a manager has set, by one operation at one time. -/
structure ManagedFields where
  apiVersion : Option String
  /-- The form in which the fields are told. -/
  fieldsType : Option String
  /-- The fields, of which nothing is known but that they settle. -/
  fields : Option Json
  manager : Option String
  operation : Option String
  subresource : Option String
  time : Option Instant
deriving DecidableEq

namespace ManagedFields

/-- The entry as an object; what is absent is left out. -/
def toJson (e : ManagedFields) : Json :=
  .obj (Json.optional "apiVersion" Json.str e.apiVersion ++
    Json.optional "fieldsType" Json.str e.fieldsType ++
    Json.optional "fieldsV1" id e.fields ++
    Json.optional "manager" Json.str e.manager ++
    Json.optional "operation" Json.str e.operation ++
    Json.optional "subresource" Json.str e.subresource ++
    Json.optional "time" Instant.toJson e.time)

/-- Reads an entry from an open object.  Null is the same as missing. -/
def ofJson? (j : Json) : Option ManagedFields := do
  let .obj m := j | none
  return {
    apiVersion := ← Json.Members.latest? m "apiVersion" Json.str?
    fieldsType := ← Json.Members.latest? m "fieldsType" Json.str?
    fields := ← Json.Members.latest? m "fieldsV1" Json.settle?
    manager := ← Json.Members.latest? m "manager" Json.str?
    operation := ← Json.Members.latest? m "operation" Json.str?
    subresource := ← Json.Members.latest? m "subresource" Json.str?
    time := ← Json.Members.latest? m "time" Instant.ofJson? }

end ManagedFields

/-- The metadata of an object. -/
structure Metadata where
  name : Option String := none
  generateName : Option String := none
  ns : Option String := none
  uid : Option String := none
  resourceVersion : Option String := none
  generation : Option Int64 := none
  selfLink : Option String := none
  creationTimestamp : Option Instant := none
  deletionTimestamp : Option Instant := none
  deletionGracePeriodSeconds : Option Int64 := none
  labels : Option (Dict String) := none
  annotations : Option (Dict String) := none
  managedFields : Option (List ManagedFields) := none
  finalizers : Option (List String) := none
  ownerReferences : Option (List OwnerReference) := none
deriving DecidableEq

namespace Metadata

/-- The metadata without any field. -/
def empty : Metadata := {}

/-- The key of the object; none unless it has both a namespace and a name. -/
def key? (m : Metadata) : Option Key := do
  let ns ← m.ns
  let name ← m.name
  return ⟨ns, name⟩

theorem name_of_key? {m : Metadata} {key : Key} (h : m.key? = some key) :
    m.name = some key.name := by
  obtain ⟨ns, -, h⟩ := Option.bind_eq_some_iff.mp h
  obtain ⟨name, hname, h⟩ := Option.bind_eq_some_iff.mp h
  cases h
  exact hname

/-- The place of the object in a store, where a missing name or namespace is empty. -/
def place (m : Metadata) : Key := ⟨m.ns.getD "", m.name.getD ""⟩

/-- An integer of 64 bits. -/
def wordJson (n : Int64) : Json := Json.int n.toInt

/-- The metadata as an object; absent fields are left out. -/
def toJson (m : Metadata) : Json :=
  .obj (Json.optional "annotations" (Json.ofDict Json.str) m.annotations ++
    Json.optional "creationTimestamp" Instant.toJson m.creationTimestamp ++
    Json.optional "deletionGracePeriodSeconds" wordJson m.deletionGracePeriodSeconds ++
    Json.optional "deletionTimestamp" Instant.toJson m.deletionTimestamp ++
    Json.optional "finalizers" Json.strings m.finalizers ++
    Json.optional "generateName" Json.str m.generateName ++
    Json.optional "generation" wordJson m.generation ++
    Json.optional "labels" (Json.ofDict Json.str) m.labels ++
    Json.optional "managedFields" (fun es => Json.arr (es.map ManagedFields.toJson))
      m.managedFields ++
    Json.optional "name" Json.str m.name ++
    Json.optional "namespace" Json.str m.ns ++
    Json.optional "ownerReferences" (fun rs => Json.arr (rs.map OwnerReference.toJson))
      m.ownerReferences ++
    Json.optional "resourceVersion" Json.str m.resourceVersion ++
    Json.optional "selfLink" Json.str m.selfLink ++
    Json.optional "uid" Json.str m.uid)

/-- Reads metadata from an open object.  Null is the same as missing. -/
def ofJson? (j : Json) : Option Metadata := do
  let .obj m := j | none
  return {
    name := ← Json.Members.latest? m "name" Json.str?
    generateName := ← Json.Members.latest? m "generateName" Json.str?
    ns := ← Json.Members.latest? m "namespace" Json.str?
    uid := ← Json.Members.latest? m "uid" Json.str?
    resourceVersion := ← Json.Members.latest? m "resourceVersion" Json.str?
    generation := ← Json.Members.latest? m "generation" Json.int64?
    selfLink := ← Json.Members.latest? m "selfLink" Json.str?
    creationTimestamp := ← Json.Members.latest? m "creationTimestamp" Instant.ofJson?
    deletionTimestamp := ← Json.Members.latest? m "deletionTimestamp" Instant.ofJson?
    deletionGracePeriodSeconds :=
      ← Json.Members.latest? m "deletionGracePeriodSeconds" Json.int64?
    labels := ← Json.Members.latest? m "labels" (Json.dict? Json.str?)
    annotations := ← Json.Members.latest? m "annotations" (Json.dict? Json.str?)
    managedFields := ← Json.Members.latest? m "managedFields" (Json.list? ManagedFields.ofJson?)
    finalizers := ← Json.Members.latest? m "finalizers" (Json.list? Json.str?)
    ownerReferences :=
      ← Json.Members.latest? m "ownerReferences" (Json.list? OwnerReference.ofJson?) }

end Metadata

end SecretKeeper
