/-
# Finite maps

What is found in a map of keys after one entry was written or removed.  The library's own
statements speak of comparisons; these speak of equal keys.

And when two maps are the same: if one has every entry of the other, and is not larger.
-/
import SecretKeeper.Dict
import Mathlib.Data.List.Perm.Subperm

namespace SecretKeeper

namespace Dict

variable {α : Type}

/-- A map that has all entries of another one, and no more of them, is that map. -/
theorem eq_of_getElem? {m n : Dict α} (hsize : n.size = m.size)
    (h : ∀ (key : String) (a : α), m[key]? = some a → n[key]? = some a) : n = m := by
  have hsub : m.keys ⊆ n.keys := by
    intro key hkey
    rw [Std.ExtTreeMap.mem_keys, Std.ExtTreeMap.mem_iff_isSome_getElem?] at hkey ⊢
    obtain ⟨a, ha⟩ := Option.isSome_iff_exists.mp hkey
    rw [h key a ha]
    rfl
  -- distinct keys, as many on both sides: none is left over
  have hperm : m.keys.Perm n.keys := by
    refine (List.subperm_of_subset Std.ExtTreeMap.nodup_keys hsub).perm_of_length_le ?_
    rw [Std.ExtTreeMap.length_keys, Std.ExtTreeMap.length_keys]
    exact Nat.le_of_eq hsize
  refine Std.ExtTreeMap.ext_getElem? fun key => ?_
  cases hm : m[key]? with
  | some a => exact h key a hm
  | none =>
    have hkey : key ∉ n.keys := by
      rw [← hperm.mem_iff, Std.ExtTreeMap.mem_keys, Std.ExtTreeMap.mem_iff_isSome_getElem?, hm]
      exact Bool.false_ne_true
    rw [Std.ExtTreeMap.mem_keys, Std.ExtTreeMap.mem_iff_isSome_getElem?] at hkey
    simpa using hkey

theorem ofList_toList (d : Dict α) : (Std.ExtTreeMap.ofList d.toList : Dict α) = d := by
  refine Std.ExtTreeMap.ext_getElem? fun key => ?_
  cases h : d[key]? with
  | some a =>
    exact Std.ExtTreeMap.getElem?_ofList_of_mem Std.ReflOrd.compare_self
      Std.ExtTreeMap.distinct_keys_toList (Std.ExtTreeMap.mem_toList_iff_getElem?_eq_some.mpr h)
  | none =>
    refine Std.ExtTreeMap.getElem?_ofList_of_contains_eq_false ?_
    rw [List.contains_eq_mem, decide_eq_false_iff_not, List.mem_map]
    rintro ⟨⟨k, a⟩, hmem, rfl⟩
    rw [Std.ExtTreeMap.mem_toList_iff_getElem?_eq_some] at hmem
    rw [h] at hmem
    cases hmem

/-- Of several entries for a key, the last one counts. -/
theorem getElem?_ofList (l : List (String × α)) (key : String) :
    (Std.ExtTreeMap.ofList l : Dict α)[key]? =
      ((l.filter (·.1 == key)).getLast?).map Prod.snd := by
  rw [Std.ExtTreeMap.ofList_eq_insertMany_empty, Std.ExtTreeMap.getElem?_insertMany_list,
    Std.ExtTreeMap.getElem?_empty, Option.or_none, List.findSomeRev?_eq_findSome?_reverse,
    ← List.head?_reverse, ← List.filter_reverse]
  induction l.reverse with
  | nil => rfl
  | cons p rest ih =>
    obtain ⟨k, a⟩ := p
    rw [List.findSome?_cons, List.filter_cons]
    by_cases hk : k = key
    · simp [hk]
    · have hne : ¬ compare k key = .eq := fun he => hk (Std.LawfulEqOrd.eq_of_compare he)
      simp only [if_neg hne, ih, beq_iff_eq, if_neg hk]

/-- The entries of a map that is made of a list are entries of the list. -/
theorem mem_of_mem_ofList {l : List (String × α)} {p : String × α}
    (h : p ∈ (Std.ExtTreeMap.ofList l : Dict α).toList) : p ∈ l := by
  obtain ⟨key, a⟩ := p
  rw [Std.ExtTreeMap.mem_toList_iff_getElem?_eq_some, getElem?_ofList] at h
  obtain ⟨⟨k, b⟩, hlast, rfl⟩ := Option.map_eq_some_iff.mp h
  obtain ⟨hmem, hk⟩ := List.mem_filter.mp (List.mem_of_getLast? hlast)
  rw [← beq_iff_eq.mp hk]
  exact hmem

/-- A map of entries whose values were changed. -/
theorem ofList_map {β : Type} (f : α → β) (l : List (String × α)) :
    (Std.ExtTreeMap.ofList (l.map fun p => (p.1, f p.2)) : Dict β) =
      (Std.ExtTreeMap.ofList l : Dict α).map fun _ => f := by
  refine Std.ExtTreeMap.ext_getElem? fun key => ?_
  rw [Std.ExtTreeMap.getElem?_map, getElem?_ofList, getElem?_ofList, List.filter_map,
    List.getLast?_map, Option.map_map, Option.map_map]
  rfl

/-- What is looked up in a list is one of its entries. -/
theorem mem_of_lookup {l : List (String × α)} {key : String} {a : α}
    (h : l.lookup key = some a) : (key, a) ∈ l := by
  obtain ⟨front, back, rfl, -⟩ := List.lookup_eq_some_iff.mp h
  exact List.mem_append_right _ List.mem_cons_self

/-- Nothing is found under a key that no entry has. -/
theorem lookup_of_notMem {l : List (String × α)} {key : String} (h : key ∉ l.map Prod.fst) :
    l.lookup key = none := by
  rw [List.lookup_eq_none_iff]
  intro p hp
  rw [bne_iff_ne]
  intro he
  exact h (he ▸ List.mem_map_of_mem hp)

/-- Where no key stands twice, every entry is found. -/
theorem lookup_of_mem {l : List (String × α)} {key : String} {a : α}
    (hd : (l.map Prod.fst).Nodup) (h : (key, a) ∈ l) : l.lookup key = some a := by
  induction l with
  | nil => cases h
  | cons p l ih =>
    obtain ⟨k, b⟩ := p
    obtain ⟨hk, hl⟩ := List.nodup_cons.mp hd
    rcases List.mem_cons.mp h with heq | h
    · cases heq
      exact List.lookup_cons_self
    · have hne : (key == k) = false := beq_false_of_ne fun he =>
        hk (he ▸ List.mem_map.mpr ⟨(key, a), h, rfl⟩)
      rw [List.lookup_cons, hne]
      exact ih hl h

variable {m : Dict α} {key other : String} {a : α}

theorem getElem?_insert_of_ne (h : other ≠ key) : (m.insert key a)[other]? = m[other]? := by
  have : ¬ compare key other = .eq := fun he => h (Std.LawfulEqOrd.eq_of_compare he).symm
  rw [Std.ExtTreeMap.getElem?_insert, if_neg this]

theorem getElem?_erase_of_ne (h : other ≠ key) : (m.erase key)[other]? = m[other]? := by
  have : ¬ compare key other = .eq := fun he => h (Std.LawfulEqOrd.eq_of_compare he).symm
  rw [Std.ExtTreeMap.getElem?_erase, if_neg this]

end Dict

namespace Keyed

variable {α : Type} {m : Keyed α} {key other : Key} {a b : α}

theorem getElem?_insert_of_ne (h : other ≠ key) : (m.insert key a)[other]? = m[other]? := by
  have : ¬ compare key other = .eq := fun he => h (Std.LawfulEqOrd.eq_of_compare he).symm
  rw [Std.ExtTreeMap.getElem?_insert, if_neg this]

/-- What is found after an entry was written is that entry, or was there before. -/
theorem getElem?_insert_cases (h : (m.insert key a)[other]? = some b) :
    (other = key ∧ b = a) ∨ (other ≠ key ∧ m[other]? = some b) := by
  by_cases he : other = key
  · subst he
    rw [Std.ExtTreeMap.getElem?_insert_self] at h
    exact .inl ⟨rfl, (Option.some.inj h).symm⟩
  · rw [getElem?_insert_of_ne he] at h
    exact .inr ⟨he, h⟩

/-- Nothing is wrong with the entries where there are none. -/
theorem forall_empty {P : Key → α → Prop} :
    ∀ (k : Key) (a : α), (∅ : Keyed α)[k]? = some a → P k a := by
  intro k a h
  rw [Std.ExtTreeMap.getElem?_empty] at h
  cases h

/-- All entries are right after one that is right was written. -/
theorem forall_insert {P : Key → α → Prop} (h : ∀ (k : Key) (b : α), m[k]? = some b → P k b)
    (ha : P key a) : ∀ (k : Key) (b : α), (m.insert key a)[k]? = some b → P k b := by
  intro k b hb
  rcases getElem?_insert_cases hb with ⟨rfl, rfl⟩ | ⟨-, hb⟩
  · exact ha
  · exact h k b hb

/-- What is found after an entry was removed was there before. -/
theorem getElem?_of_erase (h : (m.erase key)[other]? = some b) : m[other]? = some b := by
  rw [Std.ExtTreeMap.getElem?_erase] at h
  split at h
  · cases h
  · exact h

section Views

variable {β : Type} {view : α → β} {m' : Keyed α}

/-- With one more entry each, maps that look the same still do. -/
theorem map_getElem?_insert (h : ∀ k : Key, m[k]?.map view = m'[k]?.map view)
    (hab : view a = view b) (k : Key) :
    (m.insert key a)[k]?.map view = (m'.insert key b)[k]?.map view := by
  simp only [Std.ExtTreeMap.getElem?_insert]
  split
  · exact congrArg some hab
  · exact h k

/-- With one entry less, maps that look the same still do. -/
theorem map_getElem?_erase (h : ∀ k : Key, m[k]?.map view = m'[k]?.map view) (k : Key) :
    (m.erase key)[k]?.map view = (m'.erase key)[k]?.map view := by
  simp only [Std.ExtTreeMap.getElem?_erase]
  split
  · rfl
  · exact h k

/-- Maps that look the same have the same keys. -/
theorem contains_of_map (h : ∀ k : Key, m[k]?.map view = m'[k]?.map view) (k : Key) :
    m.contains k = m'.contains k := by
  have hk := congrArg Option.isSome (h k)
  rw [Option.isSome_map, Option.isSome_map] at hk
  rw [← Std.ExtTreeMap.isSome_getElem?_eq_contains, hk,
    Std.ExtTreeMap.isSome_getElem?_eq_contains]

end Views

end Keyed

end SecretKeeper
