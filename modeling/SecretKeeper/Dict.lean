/-
# Dictionaries and keys

Labels, annotations, Secret data and the stores themselves are finite maps.  They are kept
in the extensional tree map of the standard library, so two maps with the same entries are
the same value, and their entries are always listed in the order of their keys.  For
strings that order compares code points, which is the order of the UTF-8 bytes.

A `Key` names an object by namespace and name; keys are compared in that order.
-/
import Std.Data.ExtTreeMap

namespace SecretKeeper

/-- A finite map from strings, listed in the order of the keys' code points. -/
abbrev Dict (α : Type) := Std.ExtTreeMap String α

/-- The namespace and name of a claim, and of the Secret it produces. -/
structure Key where
  ns : String
  name : String
deriving DecidableEq

namespace Key

/-- Keys are ordered by namespace, then by name. -/
instance : Ord Key := ⟨compareLex (compareOn Key.ns) (compareOn Key.name)⟩

instance : Std.TransOrd Key :=
  inferInstanceAs (Std.TransCmp (compareLex (compareOn Key.ns) (compareOn Key.name)))

instance : Std.LawfulEqOrd Key where
  compare_self {a} := by
    have h1 : compare a.ns a.ns = .eq := Std.ReflOrd.compare_self
    have h2 : compare a.name a.name = .eq := Std.ReflOrd.compare_self
    show (compare a.ns a.ns).then (compare a.name a.name) = .eq
    rw [h1, h2]; rfl
  eq_of_compare {a b} h := by
    have h' : (compare a.ns b.ns).then (compare a.name b.name) = .eq := h
    rw [Ordering.then_eq_eq] at h'
    obtain ⟨h1, h2⟩ := h'
    cases a
    cases b
    simp_all

/-- A key is written as namespace, slash, name. -/
def text (k : Key) : String := k.ns ++ "/" ++ k.name

/-- The keys in increasing order; equal keys keep their places. -/
def sorted (keys : List Key) : List Key :=
  keys.mergeSort fun a b => (compare a b).isLE

end Key

/-- A finite map from keys. -/
abbrev Keyed (α : Type) := Std.ExtTreeMap Key α

end SecretKeeper
