/-
# Validation

Turns a spec into what it demands.  A demand for generated values always has a usable
length and lists every key once, so nothing that follows looks at those again.  A refused
spec stays refused until somebody edits the claim.
-/
import SecretKeeper.Object.Claim
import SecretKeeper.Value.Encoding

namespace SecretKeeper

/-- A validated generation policy. -/
structure Policy where
  /-- The keys to generate, in order of first occurrence, each once. -/
  dataKeys : List String
  length : Nat
  encoding : Encoding
  reconcileTrigger : String
deriving DecidableEq

/-- What a valid claim asks for. -/
inductive Demand where
  /-- A Secret with just these values. -/
  | verbatim (data : Dict String)
  /-- A Secret with a generated value for every key of the policy. -/
  | generated (policy : Policy)
deriving DecidableEq

namespace Demand

/-- The name of the type of claim that makes the demand. -/
def typeName : Demand → String
  | .verbatim _ => "Opaque"
  | .generated _ => "AutoGenerated"

/-- The trigger to record once the demand is met; none for a verbatim demand. -/
def reconcileTrigger : Demand → Option String
  | .verbatim _ => none
  | .generated p => some p.reconcileTrigger

end Demand

/-- Why a spec is refused. -/
inductive ValidationError where
  | unknownType (name : String)
  | missingPolicy
  | tooShort (length : Int64) (least : Nat)
  | tooLong (length : Int64) (most : Nat)
deriving DecidableEq

/-- What is written about a refused spec. -/
def ValidationError.message : ValidationError → String
  | .unknownType name => "unknown claim type: " ++ name
  | .missingPolicy => "generation spec is missing for AutoGenerated claim"
  | .tooShort length least =>
    "secrets should be at least " ++ toString least ++ " symbols, got length " ++
      toString length.toInt
  | .tooLong length most =>
    "secrets should be at most " ++ toString most ++ " symbols, got length " ++
      toString length.toInt

namespace Policy

/-- The least length of a generated value. -/
def minLength : Nat := 8

/-- The greatest length of a generated value. -/
def maxLength : Nat := 4096

/-- The list without repetitions: of equal items the first stays. -/
def distinct : List String → List String
  | [] => []
  | k :: rest => k :: (distinct rest).filter (· != k)

/-- The policy that a written one means, if its length is in range. -/
def ofSpec (g : GenerationSpec) : Except ValidationError Policy :=
  if g.length.toInt < minLength then .error (.tooShort g.length minLength)
  else if maxLength < g.length.toInt then .error (.tooLong g.length maxLength)
  else .ok {
    dataKeys := distinct g.dataKeys
    length := g.length.toInt.toNat
    encoding := .ofName g.encoding
    reconcileTrigger := g.reconcileTrigger }

end Policy

/-- What the spec demands.  The names of the two types are exact, and a generation policy
on an `Opaque` claim is not looked at. -/
def ClaimSpec.validate (s : ClaimSpec) : Except ValidationError Demand :=
  if s.type = "Opaque" then .ok (.verbatim s.data)
  else if s.type = "AutoGenerated" then
    match s.generation with
    | none => .error .missingPolicy
    | some g => (Policy.ofSpec g).map .generated
  else .error (.unknownType s.type)

/-! ## What was validated -/

namespace Policy

@[simp] theorem mem_distinct {key : String} {keys : List String} :
    key ∈ distinct keys ↔ key ∈ keys := by
  induction keys with
  | nil => rfl
  | cons k rest ih =>
    by_cases h : key = k
    · simp [distinct, h]
    · simp [distinct, h, ih]

theorem nodup_distinct (keys : List String) : (distinct keys).Nodup := by
  induction keys with
  | nil => exact List.nodup_nil
  | cons k rest ih => exact List.nodup_cons.mpr ⟨by simp, ih.filter _⟩

/-- Leaving items out before repetitions are removed, or after it, comes to the same. -/
theorem distinct_filter (p : String → Bool) (keys : List String) :
    distinct (keys.filter p) = (distinct keys).filter p := by
  induction keys with
  | nil => rfl
  | cons k rest ih =>
    cases hk : p k with
    | true => simp [distinct, hk, ih, List.filter_filter, Bool.and_comm]
    | false =>
      have hne : ∀ x, (p x && x != k) = p x := by
        intro x
        by_cases hx : x = k
        · simp [hx, hk]
        · simp [hx]
      simp [distinct, hk, ih, List.filter_filter, hne]

/-- The standard library removes repetitions in the same way. -/
theorem distinct_eq_eraseDups (keys : List String) : distinct keys = keys.eraseDups := by
  match keys with
  | [] => rfl
  | k :: rest =>
    have hshorter := List.length_filter_le (· != k) rest
    have hrest := distinct_eq_eraseDups (rest.filter (· != k))
    rw [distinct, ← distinct_filter, hrest, List.eraseDups_cons]
    rfl
termination_by keys.length
decreasing_by simp only [List.length_cons]; omega

/-- A usable policy keeps the keys, the length, the class and the trigger of the written
one. -/
theorem ofSpec_ok {g : GenerationSpec} {p : Policy} (h : ofSpec g = .ok p) :
    p.dataKeys = distinct g.dataKeys ∧ (p.length : Int) = g.length.toInt ∧
      p.encoding = .ofName g.encoding ∧ p.reconcileTrigger = g.reconcileTrigger := by
  unfold ofSpec at h
  split at h
  next => cases h
  next hmin =>
    split at h
    next => cases h
    next =>
      obtain rfl := Except.ok.inj h
      have hlength : 0 ≤ g.length.toInt := by simp only [minLength] at hmin; omega
      exact ⟨rfl, Int.toNat_of_nonneg hlength, rfl, rfl⟩

/-- The length of a usable policy is in range. -/
theorem ofSpec_range {g : GenerationSpec} {p : Policy} (h : ofSpec g = .ok p) :
    minLength ≤ p.length ∧ p.length ≤ maxLength := by
  have hlength := (ofSpec_ok h).2.1
  unfold ofSpec at h
  split at h
  next => cases h
  next =>
    split at h
    next => cases h
    next => omega

end Policy

/-- A valid spec is of one of the two types: it demands its own data, or what its policy
means. -/
theorem ClaimSpec.validate_ok {s : ClaimSpec} {demand : Demand} (h : s.validate = .ok demand) :
    (s.type = "Opaque" ∧ demand = .verbatim s.data) ∨
      (s.type = "AutoGenerated" ∧ ∃ g p, s.generation = some g ∧ Policy.ofSpec g = .ok p ∧
        demand = .generated p) := by
  unfold validate at h
  split at h
  next ht => exact .inl ⟨ht, (Except.ok.inj h).symm⟩
  next =>
    split at h
    next ht =>
      split at h
      next => cases h
      next g hg =>
        cases hp : Policy.ofSpec g with
        | error e => simp [hp, Except.map] at h
        | ok p =>
          rw [hp] at h
          exact .inr ⟨ht, g, p, hg, hp, (Except.ok.inj h).symm⟩
    next => cases h

end SecretKeeper
