/-
# Which specs are accepted

A spec is refused for one reason, and accepted if there is none: its type is unknown, or it asks
for generated values and has no policy, or their length is out of range.  The length is a number of
64 bits with a sign, so a negative one is too short.

The keys of an accepted policy are those of the written one, each once, in the order in which they
first occur (`Policy.FirstsOf`).  No other list is like that (`FirstsOf.unique`), so the accepted
policy is described here without a word about how it is made, and a policy that is written with
these keys means the same.
-/
import SecretKeeper.Validation
import Mathlib.Data.List.Sort

namespace SecretKeeper

/-! ## 1. Keys by first occurrence -/

namespace Policy

/-- The list has the items of the written one, each once, in the order of their first
occurrences. -/
structure FirstsOf (keys written : List String) : Prop where
  nodup : keys.Nodup
  mem_iff : ∀ key, key ∈ keys ↔ key ∈ written
  sublist : keys.Sublist written
  ordered : keys.Pairwise fun a b => written.idxOf a < written.idxOf b

variable {keys other written : List String}

theorem distinct_sublist (written : List String) : (distinct written).Sublist written := by
  induction written with
  | nil => exact .slnil
  | cons k rest ih => exact (List.filter_sublist.trans ih).cons_cons k

/-- The first occurrences come in the order of the list. -/
theorem distinct_ordered (written : List String) :
    (distinct written).Pairwise fun a b => written.idxOf a < written.idxOf b := by
  induction written with
  | nil => exact .nil
  | cons k rest ih =>
    have later : ∀ {a}, a ∈ (distinct rest).filter (· != k) →
        (k :: rest).idxOf a = rest.idxOf a + 1 := by
      intro a ha
      have hne : k ≠ a := fun h => by simp [h] at ha
      exact List.idxOf_cons_ne rest hne
    refine List.pairwise_cons.mpr ⟨fun b hb => ?_, ?_⟩
    · rw [List.idxOf_cons_self, later hb]
      omega
    · refine (ih.filter _).imp_of_mem fun ha hb hlt => ?_
      rw [later ha, later hb]
      omega

/-- Removing repetitions leaves the first occurrences. -/
theorem distinct_firstsOf (written : List String) : FirstsOf (distinct written) written where
  nodup := nodup_distinct written
  mem_iff _ := mem_distinct
  sublist := distinct_sublist written
  ordered := distinct_ordered written

/-- **There is one list of first occurrences.** -/
theorem FirstsOf.unique (h : FirstsOf keys written) (h' : FirstsOf other written) :
    keys = other := by
  have hperm : keys.Perm other :=
    (List.perm_ext_iff_of_nodup h.nodup h'.nodup).mpr fun key =>
      (h.mem_iff key).trans (h'.mem_iff key).symm
  refine hperm.eq_of_pairwise (fun a b _ _ hab hba => ?_) h.ordered h'.ordered
  omega

theorem firstsOf_iff : FirstsOf keys written ↔ keys = distinct written :=
  ⟨fun h => h.unique (distinct_firstsOf written), fun h => h ▸ distinct_firstsOf written⟩

/-- Where nothing is repeated, nothing is removed. -/
theorem distinct_of_nodup (h : keys.Nodup) : distinct keys = keys := by
  induction keys with
  | nil => rfl
  | cons k rest ih =>
    obtain ⟨hk, hrest⟩ := List.nodup_cons.mp h
    have hkept : rest.filter (· != k) = rest :=
      List.filter_eq_self.mpr fun a ha => bne_iff_ne.mpr fun hak => hk (hak ▸ ha)
    rw [distinct, ih hrest, hkept]

/-! ## 2. Policies -/

variable {g : GenerationSpec} {p : Policy} {e : ValidationError}

/-- The length is too small, or too great, or in range. -/
theorem ofSpec_cases (g : GenerationSpec) :
    (g.length.toInt < 8 ∧ ofSpec g = .error (.tooShort g.length 8)) ∨
      (4096 < g.length.toInt ∧ ofSpec g = .error (.tooLong g.length 4096)) ∨
      (8 ≤ g.length.toInt ∧ g.length.toInt ≤ 4096 ∧
        ofSpec g = .ok ⟨distinct g.dataKeys, g.length.toInt.toNat, .ofName g.encoding,
          g.reconcileTrigger⟩) := by
  by_cases hshort : g.length.toInt < 8
  · exact .inl ⟨hshort, if_pos hshort⟩
  · by_cases hlong : 4096 < g.length.toInt
    · exact .inr (.inl ⟨hlong, (if_neg hshort).trans (if_pos hlong)⟩)
    · exact .inr (.inr ⟨by omega, by omega, (if_neg hshort).trans (if_neg hlong)⟩)

/-- **What a written policy means**, if its length is in range. -/
theorem ofSpec_eq_ok_iff : ofSpec g = .ok p ↔
    8 ≤ g.length.toInt ∧ g.length.toInt ≤ 4096 ∧ FirstsOf p.dataKeys g.dataKeys ∧
      (p.length : Int) = g.length.toInt ∧ p.encoding = .ofName g.encoding ∧
      p.reconcileTrigger = g.reconcileTrigger := by
  obtain ⟨dataKeys, length, encoding, reconcileTrigger⟩ := p
  rcases ofSpec_cases g with ⟨hshort, h⟩ | ⟨hlong, h⟩ | ⟨hmin, hmax, h⟩
  · simp only [h, reduceCtorEq, false_iff]
    omega
  · simp only [h, reduceCtorEq, false_iff]
    omega
  · rw [h, Except.ok.injEq, Policy.mk.injEq, firstsOf_iff]
    constructor
    · rintro ⟨rfl, rfl, rfl, rfl⟩
      exact ⟨hmin, hmax, rfl, Int.toNat_of_nonneg (by omega), rfl, rfl⟩
    · rintro ⟨-, -, hkeys, hlength, hencoding, htrigger⟩
      have hlength : (length : Int) = g.length.toInt := hlength
      exact ⟨hkeys.symm, by omega, hencoding.symm, htrigger.symm⟩

/-- There is a policy just for a length in range. -/
theorem exists_ofSpec_iff :
    (∃ p, ofSpec g = .ok p) ↔ 8 ≤ g.length.toInt ∧ g.length.toInt ≤ 4096 := by
  rcases ofSpec_cases g with ⟨hshort, h⟩ | ⟨hlong, h⟩ | ⟨hmin, hmax, h⟩
  · simp only [h, reduceCtorEq, exists_false, false_iff]
    omega
  · simp only [h, reduceCtorEq, exists_false, false_iff]
    omega
  · simp [h, hmin, hmax]

/-- The length is what a policy is refused for. -/
theorem ofSpec_eq_error_iff : ofSpec g = .error e ↔
    (g.length.toInt < 8 ∧ e = .tooShort g.length 8) ∨
      (4096 < g.length.toInt ∧ e = .tooLong g.length 4096) := by
  rcases ofSpec_cases g with ⟨hshort, h⟩ | ⟨hlong, h⟩ | ⟨hmin, hmax, h⟩
  · have hlong : ¬ 4096 < g.length.toInt := by omega
    simp only [h, Except.error.injEq, hshort, hlong, true_and, false_and, or_false, eq_comm]
  · have hshort : ¬ g.length.toInt < 8 := by omega
    simp only [h, Except.error.injEq, hshort, hlong, true_and, false_and, false_or, eq_comm]
  · simp only [h, reduceCtorEq, false_iff]
    omega

/-- A policy that is written with the keys that it means, means the same. -/
theorem ofSpec_rewritten (h : ofSpec g = .ok p) :
    ofSpec { g with dataKeys := p.dataKeys } = .ok p := by
  obtain ⟨hmin, hmax, hkeys, hlength, hencoding, htrigger⟩ := ofSpec_eq_ok_iff.mp h
  have hself : FirstsOf p.dataKeys p.dataKeys :=
    firstsOf_iff.mpr (distinct_of_nodup hkeys.nodup).symm
  exact ofSpec_eq_ok_iff.mpr ⟨hmin, hmax, hself, hlength, hencoding, htrigger⟩

end Policy

/-! ## 3. Specs -/

namespace ClaimSpec

variable {s : ClaimSpec} {g : GenerationSpec} {p : Policy}

/-- An unknown type, a missing policy, or a policy that decides; or the data of the spec itself. -/
theorem validate_cases (s : ClaimSpec) :
    (s.type = "Opaque" ∧ s.validate = .ok (.verbatim s.data)) ∨
      (s.type ≠ "Opaque" ∧ s.type ≠ "AutoGenerated" ∧
        s.validate = .error (.unknownType s.type)) ∨
      (s.type = "AutoGenerated" ∧ s.generation = none ∧ s.validate = .error .missingPolicy) ∨
      (s.type = "AutoGenerated" ∧ ∃ g, s.generation = some g ∧
        s.validate = (Policy.ofSpec g).map .generated) := by
  unfold validate
  by_cases hverbatim : s.type = "Opaque"
  · exact .inl ⟨hverbatim, if_pos hverbatim⟩
  · by_cases hgenerated : s.type = "AutoGenerated"
    · rw [if_neg hverbatim, if_pos hgenerated]
      cases hg : s.generation with
      | none => exact .inr (.inr (.inl ⟨hgenerated, rfl, rfl⟩))
      | some g => exact .inr (.inr (.inr ⟨hgenerated, g, rfl, rfl⟩))
    · rw [if_neg hverbatim, if_neg hgenerated]
      exact .inr (.inl ⟨hverbatim, hgenerated, rfl⟩)

theorem validate_eq_verbatim_iff {data : Dict String} :
    s.validate = .ok (.verbatim data) ↔ s.type = "Opaque" ∧ data = s.data := by
  rcases validate_cases s with ⟨ht, h⟩ | ⟨ht, -, h⟩ | ⟨ht, -, h⟩ | ⟨ht, g, -, h⟩
  · simp [h, ht, eq_comm]
  · simp [h, ht]
  · simp [h, ht]
  · cases hp : Policy.ofSpec g <;> simp [h, hp, ht, Except.map]

theorem validate_eq_generated_iff : s.validate = .ok (.generated p) ↔
    s.type = "AutoGenerated" ∧ ∃ g, s.generation = some g ∧ Policy.ofSpec g = .ok p := by
  rcases validate_cases s with ⟨ht, h⟩ | ⟨-, ht, h⟩ | ⟨-, hg, h⟩ | ⟨ht, g, hg, h⟩
  · simp [h, ht]
  · simp [h, ht]
  · simp [h, hg]
  · cases hp : Policy.ofSpec g <;> simp [h, hp, ht, hg, Except.map]

/-- **What makes a spec acceptable.** -/
theorem exists_validate_iff : (∃ demand, s.validate = .ok demand) ↔
    s.type = "Opaque" ∨ s.type = "AutoGenerated" ∧
      ∃ g, s.generation = some g ∧ 8 ≤ g.length.toInt ∧ g.length.toInt ≤ 4096 := by
  simp only [← Policy.exists_ofSpec_iff]
  constructor
  · rintro ⟨data | p, h⟩
    · exact .inl (validate_eq_verbatim_iff.mp h).1
    · obtain ⟨ht, g, hg, hp⟩ := validate_eq_generated_iff.mp h
      exact .inr ⟨ht, g, hg, p, hp⟩
  · rintro (ht | ⟨ht, g, hg, p, hp⟩)
    · exact ⟨_, validate_eq_verbatim_iff.mpr ⟨ht, rfl⟩⟩
    · exact ⟨_, validate_eq_generated_iff.mpr ⟨ht, g, hg, hp⟩⟩

/-- **Why a spec is refused.** -/
theorem validate_eq_error_iff {e : ValidationError} : s.validate = .error e ↔
    (s.type ≠ "Opaque" ∧ s.type ≠ "AutoGenerated" ∧ e = .unknownType s.type) ∨
      (s.type = "AutoGenerated" ∧ s.generation = none ∧ e = .missingPolicy) ∨
      (s.type = "AutoGenerated" ∧ ∃ g, s.generation = some g ∧ Policy.ofSpec g = .error e) := by
  rcases validate_cases s with ⟨ht, h⟩ | ⟨ht, ht', h⟩ | ⟨ht, hg, h⟩ | ⟨ht, g, hg, h⟩
  · simp [h, ht]
  · simp [h, ht, ht', eq_comm]
  · simp [h, ht, hg, eq_comm]
  · cases hp : Policy.ofSpec g <;> simp [h, hp, ht, hg, Except.map]

/-- **Validation is exact.**

* Data are copied just for an `Opaque` claim, whatever its policy, and they are those of the spec.
* Values are generated just for an `AutoGenerated` claim with a policy whose length is from 8 to
  4096: for the first occurrences of its keys, with its length, class and trigger.
* Any other spec is refused for the one reason that applies.
* A spec with the accepted keys in place of the written ones is accepted with the same policy. -/
theorem validate_exact (s : ClaimSpec) :
    (∀ data, s.validate = .ok (.verbatim data) ↔ s.type = "Opaque" ∧ data = s.data) ∧
    (∀ p, s.validate = .ok (.generated p) ↔ s.type = "AutoGenerated" ∧
      ∃ g, s.generation = some g ∧ 8 ≤ g.length.toInt ∧ g.length.toInt ≤ 4096 ∧
        Policy.FirstsOf p.dataKeys g.dataKeys ∧ (p.length : Int) = g.length.toInt ∧
        p.encoding = .ofName g.encoding ∧ p.reconcileTrigger = g.reconcileTrigger) ∧
    ((∃ demand, s.validate = .ok demand) ↔ s.type = "Opaque" ∨ s.type = "AutoGenerated" ∧
      ∃ g, s.generation = some g ∧ 8 ≤ g.length.toInt ∧ g.length.toInt ≤ 4096) ∧
    (∀ name, s.validate = .error (.unknownType name) ↔
      s.type ≠ "Opaque" ∧ s.type ≠ "AutoGenerated" ∧ name = s.type) ∧
    (s.validate = .error .missingPolicy ↔ s.type = "AutoGenerated" ∧ s.generation = none) ∧
    (∀ length least, s.validate = .error (.tooShort length least) ↔ s.type = "AutoGenerated" ∧
      ∃ g, s.generation = some g ∧ g.length.toInt < 8 ∧ length = g.length ∧ least = 8) ∧
    (∀ length most, s.validate = .error (.tooLong length most) ↔ s.type = "AutoGenerated" ∧
      ∃ g, s.generation = some g ∧ 4096 < g.length.toInt ∧ length = g.length ∧ most = 4096) ∧
    ∀ p g, s.validate = .ok (.generated p) → s.generation = some g →
      { s with generation := some { g with dataKeys := p.dataKeys } }.validate =
        .ok (.generated p) := by
  refine ⟨fun _ => validate_eq_verbatim_iff, fun p => ?_, exists_validate_iff, fun name => ?_, ?_,
    fun length least => ?_, fun length most => ?_, fun p g h hg => ?_⟩
  · simp only [validate_eq_generated_iff, Policy.ofSpec_eq_ok_iff]
  · simp [validate_eq_error_iff, Policy.ofSpec_eq_error_iff]
  · simp [validate_eq_error_iff, Policy.ofSpec_eq_error_iff]
  · simp [validate_eq_error_iff, Policy.ofSpec_eq_error_iff]
  · simp [validate_eq_error_iff, Policy.ofSpec_eq_error_iff]
  · obtain ⟨ht, g', hg', hp⟩ := validate_eq_generated_iff.mp h
    obtain rfl : g = g' := Option.some.inj (hg.symm.trans hg')
    exact validate_eq_generated_iff.mpr ⟨ht, _, rfl, Policy.ofSpec_rewritten hp⟩

/-! ## 4. Keys that are repeated -/

/-- A policy for two keys, one of which is named twice. -/
def twice : GenerationSpec where
  dataKeys := ["b", "a", "b"]
  length := 8
  reconcileTrigger := "t1"

/-- The spec with the policy. -/
def repeating : ClaimSpec where
  type := "AutoGenerated"
  generation := some twice

/-- What the spec demands. -/
def repeatingPolicy : Policy := ⟨["b", "a"], 8, .ofName "", "t1"⟩

/-- The second naming is dropped, and the spec without it is accepted with the same policy. -/
theorem repeating_accepted :
    repeating.validate = .ok (.generated repeatingPolicy) ∧
    { repeating with generation := some { twice with dataKeys := ["b", "a"] } }.validate =
      .ok (.generated repeatingPolicy) := by
  have h : repeating.validate = .ok (.generated repeatingPolicy) := by decide +kernel
  obtain ⟨-, -, -, -, -, -, -, rewritten⟩ := validate_exact repeating
  exact ⟨h, rewritten repeatingPolicy twice h rfl⟩

end ClaimSpec

end SecretKeeper
