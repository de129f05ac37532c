/-
# Where requests go

A server finds out what a request is about from the path of its target, which it takes apart at
its slashes (`place?`).  The paths are put together from a namespace and a name, so two things
have to fit: the text of a path must survive as a target, and its segments must be the ones that
it was made of.  Both hold of names that are segments themselves (`IsSegment`); a slash in a name
would lead to another object.

For such a key, and a field manager that is not too long, every request is built (`get_eq` and
the other three), and its path leads to the key (`place?_objectPath` and the other two).
-/
import Mathlib.Data.List.TakeWhile
import SecretKeeper.Api.Store

namespace SecretKeeper.Api

/-! ## 1. Paths -/

/-- What a path leads to: the objects of a namespace, one of them, or a part of it. -/
structure Place where
  resource : Resource
  ns : String
  name : Option String := none
  part : Option String := none
deriving DecidableEq

/-- The segments of a path. -/
def segments (path : String) : List String := (path.toList.splitOn '/').map String.ofList

namespace Resource

/-- The segments in front of a namespace. -/
def front (r : Resource) : List String := segments r.root ++ ["namespaces"]

/-- What the segments from the namespace on lead to. -/
def below (r : Resource) : List String → Option Place
  | [ns, plural] => if plural = r.plural then some ⟨r, ns, none, none⟩ else none
  | [ns, plural, name] => if plural = r.plural then some ⟨r, ns, some name, none⟩ else none
  | [ns, plural, name, part] =>
    if plural = r.plural then some ⟨r, ns, some name, some part⟩ else none
  | _ => none

/-- What a path leads to, if it leads to objects of the resource. -/
def place? (r : Resource) (path : String) : Option Place :=
  if r.front <+: segments path then r.below ((segments path).drop r.front.length) else none

end Resource

/-- What a path leads to. -/
def place? (path : String) : Option Place :=
  (Resource.claims.place? path).or (Resource.secrets.place? path)

/-- One segment more. -/
theorem segments_append (path : String) {s : String} (h : '/' ∉ s.toList) :
    segments (path ++ "/" ++ s) = segments path ++ [s] := by
  have hchars : (path ++ "/" ++ s).toList = path.toList ++ '/' :: s.toList := by simp
  rw [segments, hchars, List.splitOn_append_cons_self, List.splitOn_eq_singleton h,
    List.map_append, ← segments, List.map_singleton, String.ofList_toList]

namespace Resource

variable {r : Resource} {key : Key} {ns : String}

/-- The path of one object. -/
def objectPath (r : Resource) (key : Key) : String := r.path key.ns ++ "/" ++ key.name

theorem segments_path (hr : '/' ∉ r.plural.toList) (h : '/' ∉ ns.toList) :
    segments (r.path ns) = r.front ++ [ns, r.plural] := by
  have hpath : r.path ns = r.root ++ "/" ++ "namespaces" ++ "/" ++ ns ++ "/" ++ r.plural := by
    simp [path, String.append_assoc]
  rw [hpath, segments_append _ hr, segments_append _ h, segments_append _ (by decide), front]
  simp

theorem place?_of_segments {path : String} {rest : List String}
    (h : segments path = r.front ++ rest) : r.place? path = r.below rest := by
  rw [place?, h, if_pos (List.prefix_append _ _), List.drop_left]

/-- The server's two kinds of objects. -/
inductive Served : Resource → Prop
  | claims : Served .claims
  | secrets : Served .secrets

theorem place?_of_served (hr : Served r) {path : String} {rest : List String} {p : Place}
    (h : segments path = r.front ++ rest) (hp : r.below rest = some p) :
    Api.place? path = some p := by
  cases hr with
  | claims => rw [Api.place?, place?_of_segments h, hp, Option.some_or]
  | secrets =>
    have hclaims : Resource.claims.place? path = none := by
      refine if_neg fun hprefix => ?_
      have hclaims : Resource.claims.front =
          ["", "apis", "secrets.secret-claim.io", "v1alpha1", "namespaces"] := by decide
      have hsecrets : Resource.secrets.front = ["", "api", "v1", "namespaces"] := by decide
      rw [h, hclaims, hsecrets] at hprefix
      simp at hprefix
    rw [Api.place?, hclaims, Option.none_or, place?_of_segments h, hp]

end Resource


/-! ## 2. Targets -/

namespace Uri

theorem ne_of_inPath {c : Char} (h : inPath c = true) : c ≠ '#' ∧ c ≠ '?' := by
  constructor <;>
  · rintro rfl
    revert h
    decide

theorem ne_of_inQuery {c : Char} (h : inQuery c = true) : c ≠ '#' := by
  rintro rfl
  revert h
  decide

theorem inPath_slash : ∀ c ∈ "/".toList, inPath c = true := List.all_eq_true.mp (by decide)

/-- A path alone is a target. -/
theorem target?_path {path : String} (h : ∀ c ∈ path.toList, inPath c = true) :
    target? path = some ⟨path, none⟩ := by
  have hfragment : path.toList.takeWhile (· != '#') = path.toList :=
    List.takeWhile_eq_self_iff.mpr fun c hc => bne_iff_ne.mpr (ne_of_inPath (h c hc)).1
  have hpath : path.toList.takeWhile (· != '?') = path.toList :=
    List.takeWhile_eq_self_iff.mpr fun c hc => bne_iff_ne.mpr (ne_of_inPath (h c hc)).2
  have hquery : path.toList.dropWhile (· != '?') = [] :=
    List.dropWhile_eq_nil_iff.mpr fun c hc => bne_iff_ne.mpr (ne_of_inPath (h c hc)).2
  have hall : path.toList.all inPath = true := List.all_eq_true.mpr h
  simp only [target?, hfragment, hpath, hquery, hall, Bool.not_true, Bool.false_eq_true, if_false,
    String.ofList_toList]

/-- A path and a query are a target. -/
theorem target?_query {path query : String} (h : ∀ c ∈ path.toList, inPath c = true)
    (hq : ∀ c ∈ query.toList, inQuery c = true) :
    target? (path ++ "?" ++ query) = some ⟨path, some query⟩ := by
  have hchars : (path ++ "?" ++ query).toList = path.toList ++ '?' :: query.toList := by simp
  have hfragment : (path.toList ++ '?' :: query.toList).takeWhile (· != '#') =
      path.toList ++ '?' :: query.toList := by
    refine List.takeWhile_eq_self_iff.mpr fun c hc => bne_iff_ne.mpr ?_
    rcases List.mem_append.mp hc with hc | hc
    · exact (ne_of_inPath (h c hc)).1
    · rcases List.mem_cons.mp hc with rfl | hc
      · decide
      · exact ne_of_inQuery (hq c hc)
  have hpath : (path.toList ++ '?' :: query.toList).takeWhile (· != '?') = path.toList := by
    rw [List.takeWhile_append_of_pos fun c hc => bne_iff_ne.mpr (ne_of_inPath (h c hc)).2]
    simp
  have hrest : (path.toList ++ '?' :: query.toList).dropWhile (· != '?') = '?' :: query.toList := by
    rw [List.dropWhile_append_of_pos fun c hc => bne_iff_ne.mpr (ne_of_inPath (h c hc)).2]
    simp
  have hall : path.toList.all inPath = true := List.all_eq_true.mpr h
  have hallQuery : query.toList.all inQuery = true := List.all_eq_true.mpr hq
  simp only [target?, hchars, hfragment, hpath, hrest, hall, hallQuery, Bool.not_true,
    Bool.false_eq_true, if_false, if_true, String.ofList_toList]

/-- What is written as a form may stand in a query. -/
theorem inQuery_formByte (b : UInt8) : ∀ c ∈ formByte b, inQuery c = true := by
  have every : ∀ n < 256, (formByte (UInt8.ofNat n)).all inQuery = true := by decide +kernel
  have h := every b.toNat b.toNat_lt
  rw [UInt8.ofNat_toNat] at h
  exact List.all_eq_true.mp h

theorem inQuery_formText (s : String) : ∀ c ∈ (formText s).toList, inQuery c = true := by
  intro c hc
  rw [formText, String.toList_ofList] at hc
  obtain ⟨b, -, hb⟩ := List.mem_flatMap.mp hc
  exact inQuery_formByte b c hb

end Uri


/-! ## 3. The requests of a key -/

/-- A text that is one segment of a path. -/
structure IsSegment (s : String) : Prop where
  nonempty : s ≠ ""
  inPath : ∀ c ∈ s.toList, Uri.inPath c = true
  unbroken : '/' ∉ s.toList

/-- The namespace and the name of the key are segments of a path, and the longest target that
is made of them is not too long. -/
structure Addressable (manager : String) (key : Key) : Prop where
  ns : IsSegment key.ns
  name : IsSegment key.name
  fits : (Resource.claims.objectPath key ++ "/" ++ "status" ++ "?&" ++
    Request.managerQuery manager).utf8ByteSize ≤ Uri.maxBytes

section Places

variable {r : Resource} {manager : String} {key : Key}

theorem plural_unbroken (hr : r.Served) : '/' ∉ r.plural.toList := by
  cases hr <;> decide

theorem place?_path (hr : r.Served) (a : Addressable manager key) :
    place? (r.path key.ns) = some ⟨r, key.ns, none, none⟩ := by
  refine Resource.place?_of_served hr
    (Resource.segments_path (plural_unbroken hr) a.ns.unbroken) ?_
  simp [Resource.below]

/-- Whatever else a namespace and a name may be, without slashes they lead to one object. -/
theorem place?_objectPath_of_unbroken (hr : r.Served) (hns : '/' ∉ key.ns.toList)
    (hname : '/' ∉ key.name.toList) :
    place? (r.objectPath key) = some ⟨r, key.ns, some key.name, none⟩ := by
  have h : segments (r.objectPath key) = r.front ++ [key.ns, r.plural, key.name] := by
    rw [Resource.objectPath, segments_append _ hname,
      Resource.segments_path (plural_unbroken hr) hns, List.append_assoc]
    rfl
  refine Resource.place?_of_served hr h ?_
  simp [Resource.below]

theorem place?_objectPath (hr : r.Served) (a : Addressable manager key) :
    place? (r.objectPath key) = some ⟨r, key.ns, some key.name, none⟩ :=
  place?_objectPath_of_unbroken hr a.ns.unbroken a.name.unbroken

theorem place?_status (hr : r.Served) (a : Addressable manager key) :
    place? (r.objectPath key ++ "/" ++ "status") =
      some ⟨r, key.ns, some key.name, some "status"⟩ := by
  have h : segments (r.objectPath key ++ "/" ++ "status") =
      r.front ++ [key.ns, r.plural, key.name, "status"] := by
    rw [segments_append _ (by decide), Resource.objectPath, segments_append _ a.name.unbroken,
      Resource.segments_path (plural_unbroken hr) a.ns.unbroken, List.append_assoc,
      List.append_assoc]
    rfl
  refine Resource.place?_of_served hr h ?_
  simp [Resource.below]

theorem inPath_path_of_inPath (hr : r.Served) {ns : String}
    (hns : ∀ c ∈ ns.toList, Uri.inPath c = true) :
    ∀ c ∈ (r.path ns).toList, Uri.inPath c = true := by
  have hroot : ∀ c ∈ r.root.toList, Uri.inPath c = true :=
    List.all_eq_true.mp (by cases hr <;> decide)
  have hplural : ∀ c ∈ r.plural.toList, Uri.inPath c = true :=
    List.all_eq_true.mp (by cases hr <;> decide)
  have hmiddle : ∀ c ∈ "/namespaces/".toList, Uri.inPath c = true :=
    List.all_eq_true.mp (by decide)
  simp only [Resource.path, String.toList_append, List.forall_mem_append]
  exact ⟨⟨⟨⟨hroot, hmiddle⟩, hns⟩, Uri.inPath_slash⟩, hplural⟩

theorem inPath_objectPath_of_inPath (hr : r.Served) (hns : ∀ c ∈ key.ns.toList, Uri.inPath c = true)
    (hname : ∀ c ∈ key.name.toList, Uri.inPath c = true) :
    ∀ c ∈ (r.objectPath key).toList, Uri.inPath c = true := by
  simp only [Resource.objectPath, String.toList_append, List.forall_mem_append]
  exact ⟨⟨inPath_path_of_inPath hr hns, Uri.inPath_slash⟩, hname⟩

theorem inPath_path (hr : r.Served) (a : Addressable manager key) :
    ∀ c ∈ (r.path key.ns).toList, Uri.inPath c = true := inPath_path_of_inPath hr a.ns.inPath

theorem inPath_objectPath (hr : r.Served) (a : Addressable manager key) :
    ∀ c ∈ (r.objectPath key).toList, Uri.inPath c = true :=
  inPath_objectPath_of_inPath hr a.ns.inPath a.name.inPath

/-- The path of an object leaves room for the query. -/
theorem objectPath_fits (hr : r.Served) (a : Addressable manager key) :
    (r.objectPath key).utf8ByteSize + (Request.managerQuery manager).utf8ByteSize + 9 ≤
      Uri.maxBytes := by
  have hroot : r.root.utf8ByteSize ≤ Resource.claims.root.utf8ByteSize := by cases hr <;> decide
  have hplural : r.plural.utf8ByteSize ≤ Resource.claims.plural.utf8ByteSize := by
    cases hr <;> decide
  have hstatus : "status".utf8ByteSize = 6 ∧ "?&".utf8ByteSize = 2 ∧ "/".utf8ByteSize = 1 := by
    decide
  have h := a.fits
  simp only [Resource.objectPath, Resource.path, String.utf8ByteSize_append] at h ⊢
  omega

end Places

namespace Request

variable {r : Resource} {manager : String} {key : Key}

theorem targetOf_path {path : String} (h : ∀ c ∈ path.toList, Uri.inPath c = true)
    (fits : path.utf8ByteSize ≤ Uri.maxBytes) : targetOf path = .ok ⟨path, none⟩ := by
  rw [targetOf, if_neg (Nat.not_lt.mpr fits), Uri.target?_path h]

theorem targetOf_query {path : String} (h : ∀ c ∈ path.toList, Uri.inPath c = true)
    (fits : path.utf8ByteSize + (managerQuery manager).utf8ByteSize + 2 ≤ Uri.maxBytes) :
    targetOf (path ++ "?&" ++ managerQuery manager) =
      .ok ⟨path, some ("&" ++ managerQuery manager)⟩ := by
  have htext : path ++ "?&" ++ managerQuery manager =
      path ++ "?" ++ ("&" ++ managerQuery manager) := by
    have hsigns : "?&" = "?" ++ "&" := by decide
    rw [hsigns, ← String.append_assoc, ← String.append_assoc]
  have hquery : ∀ c ∈ ("&" ++ managerQuery manager).toList, Uri.inQuery c = true := by
    have hand : ∀ c ∈ "&".toList, Uri.inQuery c = true :=
      List.all_eq_true.mp (by decide)
    have hfield : ∀ c ∈ "fieldManager=".toList, Uri.inQuery c = true :=
      List.all_eq_true.mp (by decide)
    rw [managerQuery]
    simp only [String.toList_append, List.forall_mem_append]
    exact ⟨hand, hfield, Uri.inQuery_formText manager⟩
  have hsize : (path ++ "?&" ++ managerQuery manager).utf8ByteSize ≤ Uri.maxBytes := by
    have hsign : "?&".utf8ByteSize = 2 := by decide
    simp only [String.utf8ByteSize_append, hsign]
    omega
  rw [targetOf, if_neg (Nat.not_lt.mpr hsize), htext, Uri.target?_query h hquery]

theorem checkName_eq (a : Addressable manager key) : checkName key.name = .ok () := by
  have h : key.name.isEmpty = false := by simpa using a.name.nonempty
  rw [checkName, h]
  rfl

theorem checkManager_eq (h : manager.utf8ByteSize ≤ maxManagerBytes) (fault : RequestFault) :
    checkManager manager fault = .ok () := if_neg (Nat.not_lt.mpr h)

/-- The request for an object. -/
def finding (r : Resource) (key : Key) : Request where
  method := .get
  target := ⟨r.objectPath key, none⟩

/-- The request that brings a new object to a namespace. -/
def creating (r : Resource) (ns manager : String) (body : Json) : Request where
  method := .post
  target := ⟨r.path ns, some ("&" ++ managerQuery manager)⟩
  contentType := some .json
  body := some body

/-- The request that replaces an object. -/
def replacing (r : Resource) (key : Key) (manager : String) (body : Json) : Request where
  method := .put
  target := ⟨r.objectPath key, some ("&" ++ managerQuery manager)⟩
  contentType := some .json
  body := some body

/-- The request that patches the status of an object. -/
def patchingStatus (r : Resource) (key : Key) (manager : String) (patch : Json) : Request where
  method := .patch
  target := ⟨r.objectPath key ++ "/" ++ "status", some ("&" ++ managerQuery manager)⟩
  contentType := some .mergePatch
  body := some patch

theorem get_eq (hr : r.Served) (a : Addressable manager key) :
    get r key = .ok (finding r key) := by
  have htarget : targetOf (r.objectPath key) = .ok ⟨r.objectPath key, none⟩ :=
    targetOf_path (inPath_objectPath hr a) (by have := objectPath_fits hr a; omega)
  rw [get, checkName_eq a, ← Resource.objectPath, htarget]
  rfl

theorem create_eq (hr : r.Served) (a : Addressable manager key)
    (hm : manager.utf8ByteSize ≤ maxManagerBytes) (body : Json) :
    create r key.ns manager body = .ok (creating r key.ns manager body) := by
  have hfits := objectPath_fits hr a
  have htarget : targetOf (r.path key.ns ++ "?&" ++ managerQuery manager) = _ :=
    targetOf_query (inPath_path hr a) (by
      simp only [Resource.objectPath, String.utf8ByteSize_append] at hfits
      omega)
  rw [create, checkManager_eq hm, htarget]
  rfl

theorem replace_eq (hr : r.Served) (a : Addressable manager key) (body : Json) :
    replace r key manager body = .ok (replacing r key manager body) := by
  have hfits := objectPath_fits hr a
  have htarget : targetOf (r.objectPath key ++ "?&" ++ managerQuery manager) = _ :=
    targetOf_query (inPath_objectPath hr a) (by omega)
  rw [replace, checkName_eq a, ← Resource.objectPath, htarget]
  rfl

theorem patch_eq (hr : r.Served) (a : Addressable manager key)
    (hm : manager.utf8ByteSize ≤ maxManagerBytes) (body : Json) :
    patch r key (some "status") manager body = .ok (patchingStatus r key manager body) := by
  have hfits := objectPath_fits hr a
  have hstatus : "status".utf8ByteSize = 6 ∧ "/".utf8ByteSize = 1 := by decide
  have hpath : ∀ c ∈ (r.objectPath key ++ "/" ++ "status").toList, Uri.inPath c = true := by
    have hpart : ∀ c ∈ "status".toList, Uri.inPath c = true :=
      List.all_eq_true.mp (by decide)
    simp only [String.toList_append, List.forall_mem_append]
    exact ⟨⟨inPath_objectPath hr a, Uri.inPath_slash⟩, hpart⟩
  have htarget : targetOf (r.objectPath key ++ "/" ++ "status" ++ "?&" ++
      managerQuery manager) = _ :=
    targetOf_query hpath (by
      simp only [String.utf8ByteSize_append]
      omega)
  rw [patch, checkName_eq a, checkManager_eq hm, ← Resource.objectPath]
  simp only [htarget]
  rfl

end Request

end SecretKeeper.Api
