/-
# What is written is read again

A Secret is handed to the server as JSON, and comes back in a document that has got other
metadata in between.  Nothing of it may be lost on the way: base64 stands for its bytes, a list or
a map for its entries, a time for itself as long as it is a whole second.  An object is read by
the latest member of a name, so it matters that no name stands twice (`Members.Distinct`), and
that setting a member keeps it that way.

The metadata carry along what others have written there, times and accounts of managed fields,
and not all of that would survive (`Metadata.Lasting`).  What was read does: a time that was read
is valid, and an account that was settled settles as itself.  So a Secret that was read can be
written again (`Secret.lasting_of_ofJson?`), and is then read as it was written
(`Metadata.ofJson?_toJson`, `Secret.ofJson?_set_metadata`).
-/
import SecretKeeper.Object.Secret
import SecretKeeper.Proofs.Calendar
import SecretKeeper.Proofs.Dict
import SecretKeeper.Proofs.Patch

namespace SecretKeeper

/-! ## 1. Base64 -/

namespace Text.Base64

/-- A digit stands for its value, and is not the padding. -/
theorem digit_reads {n : Nat} (h : n < 64) :
    value? (digit n) = some n ∧ (digit n == '=') = false := by
  have all : ∀ n < 64, value? (digit n) = some n ∧ (digit n == '=') = false := by decide
  exact all n h

/-- **Bytes read as themselves.** -/
theorem decodeChars?_encodeChars (bs : Bytes) : decodeChars? (encodeChars bs) = some bs := by
  have whole : ∀ {b : UInt8} {n : Nat}, n = b.toNat → UInt8.ofNat n = b := by
    rintro b n rfl
    exact UInt8.ofNat_toNat
  induction bs using encodeChars.induct with
  | case1 => rfl
  | case2 a =>
    have ha := a.toNat_lt
    obtain ⟨hfirst, -⟩ := digit_reads (by omega : a.toNat / 4 < 64)
    obtain ⟨hsecond, -⟩ := digit_reads (by omega : a.toNat % 4 * 16 < 64)
    have hvalue : UInt8.ofNat (a.toNat / 4 * 4 + a.toNat % 4 * 16 / 16) = a := whole (by omega)
    simp only [encodeChars, decodeChars?, group?, hfirst, hsecond, hvalue, Option.bind_eq_bind,
      Option.bind_some, List.isEmpty_nil, beq_self_eq_true, Nat.mul_mod_left, Bool.and_self,
      if_true]
    rfl
  | case3 a b =>
    have ha := a.toNat_lt
    have hb := b.toNat_lt
    obtain ⟨hfirst, -⟩ := digit_reads (by omega : a.toNat / 4 < 64)
    obtain ⟨hsecond, -⟩ := digit_reads (by omega : a.toNat % 4 * 16 + b.toNat / 16 < 64)
    obtain ⟨hthird, hpad⟩ := digit_reads (by omega : b.toNat % 16 * 4 < 64)
    have ha' : UInt8.ofNat (a.toNat / 4 * 4 + (a.toNat % 4 * 16 + b.toNat / 16) / 16) = a :=
      whole (by omega)
    have hb' : UInt8.ofNat ((a.toNat % 4 * 16 + b.toNat / 16) % 16 * 16 +
        b.toNat % 16 * 4 / 4) = b := whole (by omega)
    simp only [encodeChars, decodeChars?, group?, hfirst, hsecond, hthird, hpad, ha', hb',
      Option.bind_eq_bind, Option.bind_some, List.isEmpty_nil, beq_self_eq_true,
      Nat.mul_mod_left, Bool.and_self, if_true]
    rfl
  | case4 a b c rest ih =>
    have ha := a.toNat_lt
    have hb := b.toNat_lt
    have hc := c.toNat_lt
    obtain ⟨hfirst, -⟩ := digit_reads (by omega : a.toNat / 4 < 64)
    obtain ⟨hsecond, -⟩ := digit_reads (by omega : a.toNat % 4 * 16 + b.toNat / 16 < 64)
    obtain ⟨hthird, hpad⟩ := digit_reads (by omega : b.toNat % 16 * 4 + c.toNat / 64 < 64)
    obtain ⟨hfourth, hpad'⟩ := digit_reads (by omega : c.toNat % 64 < 64)
    have ha' : UInt8.ofNat (a.toNat / 4 * 4 + (a.toNat % 4 * 16 + b.toNat / 16) / 16) = a :=
      whole (by omega)
    have hb' : UInt8.ofNat ((a.toNat % 4 * 16 + b.toNat / 16) % 16 * 16 +
        (b.toNat % 16 * 4 + c.toNat / 64) / 4) = b := whole (by omega)
    have hc' : UInt8.ofNat ((b.toNat % 16 * 4 + c.toNat / 64) % 4 * 64 + c.toNat % 64) = c :=
      whole (by omega)
    simp only [encodeChars, decodeChars?, group?, hfirst, hsecond, hthird, hfourth, hpad, hpad',
      ha', hb', hc', ih, Option.bind_eq_bind, Option.bind_some]
    rfl

theorem decode?_encode (bs : Bytes) : decode? (encode bs) = some bs := by
  rw [decode?, encode, String.toList_ofList, decodeChars?_encodeChars]

end Text.Base64

namespace Json

/-! ## 2. Lists and maps -/

section Lists

variable {α : Type} {f : Json → Option α} {g : α → Json}

theorem mapM_map {β γ : Type} {f : β → Option γ} {g : γ → β} {xs : List γ}
    (h : ∀ x ∈ xs, f (g x) = some x) : (xs.map g).mapM f = some xs := by
  induction xs with
  | nil => rfl
  | cons x xs ih =>
    obtain ⟨hx, hxs⟩ := List.forall_mem_cons.mp h
    simp [List.mapM_cons, hx, ih hxs]

theorem list?_arr {xs : List α} (h : ∀ x ∈ xs, f (g x) = some x) :
    list? f (.arr (xs.map g)) = some xs := mapM_map h

theorem list?_strings (xs : List String) : list? str? (strings xs) = some xs :=
  list?_arr fun _ _ => rfl

theorem dict?_ofDict (h : ∀ a, f (g a) = some a) (d : Dict α) : dict? f (ofDict g d) = some d := by
  simp only [dict?, ofDict]
  rw [mapM_map fun p _ => ?entry, Option.bind_eq_bind, Option.bind_some, Dict.ofList_toList]
  · rfl
  case entry => simp [h p.2]

theorem int64?_wordJson (n : Int64) : int64? (Metadata.wordJson n) = some n := by
  have hlow := n.le_toInt
  have hhigh := n.toInt_lt
  have hbounds : -Int.pow 2 63 ≤ n.toInt ∧ n.toInt < Int.pow 2 63 := ⟨hlow, hhigh⟩
  simp only [int64?, Metadata.wordJson, int, int?, Option.bind_eq_bind, Option.bind_some,
    if_pos hbounds, Int64.ofInt_toInt]

end Lists

/-! ## 3. Settled values -/

theorem settleMembers?_of_forall {m : Members} (h : ∀ p ∈ m, p.2.settle? = some p.2) :
    settleMembers? m = some m := by
  induction m with
  | nil => rfl
  | cons p m ih =>
    obtain ⟨hp, hm⟩ := List.forall_mem_cons.mp h
    simp [settleMembers?, hp, ih hm]

mutual

/-- **A settled value settles as itself.** -/
theorem settle?_settled : (j : Json) → {k : Json} → j.settle? = some k → k.settle? = some k
  | .null, _, h | .bool _, _, h | .num _, _, h | .str _, _, h => by cases h; rfl
  | .broken, _, h => by cases h
  | .arr items, k, h => by
    obtain ⟨settled, hs, rfl⟩ := Option.map_eq_some_iff.mp h
    simp only [settle?, settleItems?_settled items hs, Option.map_some]
  | .obj members, k, h => by
    obtain ⟨settled, hs, hk⟩ := Option.bind_eq_some_iff.mp h
    cases hk
    have each : ∀ p ∈ (Std.ExtTreeMap.ofList settled : Dict Json).toList, p.2.settle? = some p.2 :=
      fun p hp => settleMembers?_settled members hs p (Dict.mem_of_mem_ofList hp)
    simp [ofDict, settle?, settleMembers?_of_forall each, Dict.ofList_toList]

theorem settleItems?_settled : (items : List Json) → {settled : List Json} →
    settleItems? items = some settled → settleItems? settled = some settled
  | [], _, h => by cases h; rfl
  | j :: rest, _, h => by
    obtain ⟨k, hk, h⟩ := Option.bind_eq_some_iff.mp h
    obtain ⟨settled, hs, h⟩ := Option.bind_eq_some_iff.mp h
    cases h
    simp [settleItems?, settle?_settled j hk, settleItems?_settled rest hs]

theorem settleMembers?_settled : (members : List (String × Json)) →
    {settled : List (String × Json)} → settleMembers? members = some settled →
      ∀ p ∈ settled, p.2.settle? = some p.2
  | [], _, h => by cases h; exact List.forall_mem_nil _
  | (name, j) :: rest, _, h => by
    obtain ⟨k, hk, h⟩ := Option.bind_eq_some_iff.mp h
    obtain ⟨settled, hs, h⟩ := Option.bind_eq_some_iff.mp h
    cases h
    exact List.forall_mem_cons.mpr ⟨settle?_settled j hk, settleMembers?_settled rest hs⟩

end

/-- What was read in a list was read from one of its items. -/
theorem exists_of_mem_mapM {β γ : Type} {f : β → Option γ} {xs : List β} {ys : List γ} {y : γ}
    (h : xs.mapM f = some ys) (hy : y ∈ ys) : ∃ x ∈ xs, f x = some y := by
  induction xs generalizing ys with
  | nil =>
    cases h
    cases hy
  | cons x xs ih =>
    rw [List.mapM_cons] at h
    obtain ⟨z, hz, h⟩ := Option.bind_eq_some_iff.mp h
    obtain ⟨zs, hzs, h⟩ := Option.bind_eq_some_iff.mp h
    cases h
    rcases List.mem_cons.mp hy with rfl | hy
    · exact ⟨x, List.mem_cons_self, hz⟩
    · obtain ⟨w, hw, hread⟩ := ih hzs hy
      exact ⟨w, List.mem_cons_of_mem _ hw, hread⟩

theorem nullable?_of_ne_null {α : Type} {j : Json} (h : j ≠ .null) (f : Json → Option α) :
    nullable? f j = (f j).map some := by
  cases j with
  | null => exact absurd rfl h
  | _ => rfl

theorem of_nullable? {α : Type} {f : Json → Option α} {j : Json} {a : α}
    (h : nullable? f j = some (some a)) : j ≠ .null ∧ f j = some a := by
  by_cases hnull : j = .null
  · subst hnull
    cases h
  · rw [nullable?_of_ne_null hnull, Option.map_eq_some_iff] at h
    obtain ⟨b, hb, heq⟩ := h
    exact ⟨hnull, Option.some.inj heq ▸ hb⟩

/-! ## 4. Members -/

namespace Members

/-- No name stands twice. -/
def Distinct (m : Members) : Prop := (m.map Prod.fst).Nodup

variable {α : Type} {m : Members}

theorem Distinct.unrepeated (h : m.Distinct) (name : String) : m.repeats name = false := by
  have hcount : m.countP (·.1 == name) = (m.map Prod.fst).count name := by
    rw [List.count, List.countP_map]
    rfl
  have hle : (m.map Prod.fst).count name ≤ 1 := List.nodup_iff_count.mp h name
  simp only [repeats, hcount, decide_eq_false_iff_not, Nat.not_lt]
  exact hle

/-- Where no name stands twice, the only member of a name is the latest. -/
theorem latest?_eq_optional? (h : m.Distinct) (name : String) (f : Json → Option α) :
    m.latest? name f = m.optional? name f := by
  induction m with
  | nil => rfl
  | cons p m ih =>
    obtain ⟨n, j⟩ := p
    obtain ⟨hn, hm⟩ := List.nodup_cons.mp h
    by_cases hname : n = name
    · subst hname
      have hrest : m.filter (·.1 == n) = [] := by
        refine List.filter_eq_nil_iff.mpr fun q hq hqn => ?_
        exact hn (List.mem_map.mpr ⟨q, hq, beq_iff_eq.mp hqn⟩)
      cases hj : nullable? f j with
      | none => simp [latest?, optional?, hrest, hj]
      | some a => simp [latest?, optional?, hrest, hj]
    · have hlookup : List.lookup name ((n, j) :: m) = m.lookup name := by
        have hne : (name == n) = false := beq_false_of_ne (Ne.symm hname)
        simp only [List.lookup_cons, hne]
      rw [optional?, hlookup, ← optional?, ← ih hm]
      simp [latest?, hname]

theorem Distinct.lookup_of_mem {name : String} {j : Json} (h : m.Distinct) (hj : (name, j) ∈ m) :
    m.lookup name = some j := Dict.lookup_of_mem h hj

/-- A latest member that is not null was read from one that is not. -/
theorem exists_of_latest? {name : String} {f : Json → Option α} {a : α}
    (h : m.latest? name f = some (some a)) : ∃ j, j ≠ .null ∧ f j = some a := by
  obtain ⟨values, hvalues, hlast⟩ := Option.bind_eq_some_iff.mp h
  have hmem : some a ∈ values :=
    List.mem_of_getLast? (Option.join_eq_some_iff.mp (Option.some.inj hlast))
  obtain ⟨⟨n, j⟩, -, hj⟩ := exists_of_mem_mapM hvalues hmem
  exact ⟨j, of_nullable? hj⟩

theorem hasText?_of_lookup {name text : String} (h : m.Distinct)
    (hl : m.lookup name = some (.str text)) : m.hasText? name text = some () := by
  refine if_pos (List.all_eq_true.mpr fun (n, j) hj => ?_)
  by_cases hn : n = name
  · subst hn
    rw [h.lookup_of_mem hj, Option.some.injEq] at hl
    simp [hl, str?]
  · simp [hn]

theorem mem_names_set {name n : String} {j : Json} (h : n ∈ (m.set name j).map Prod.fst) :
    n = name ∨ n ∈ m.map Prod.fst := by
  induction m with
  | nil => simpa [Members.set] using h
  | cons p m ih =>
    obtain ⟨n', old⟩ := p
    by_cases hname : n' = name
    · simp only [Members.set, hname, beq_self_eq_true, if_true, List.map_cons, List.mem_cons] at h
      refine h.imp_right fun h => ?_
      obtain ⟨q, hq, rfl⟩ := List.mem_map.mp h
      exact List.mem_cons_of_mem _ (List.mem_map.mpr ⟨q, List.mem_of_mem_filter hq, rfl⟩)
    · have hbeq : (n' == name) = false := beq_false_of_ne hname
      simp only [Members.set, hbeq, Bool.false_eq_true, if_false, List.map_cons,
        List.mem_cons] at h ⊢
      rcases h with h | h
      · exact .inr (.inl h)
      · exact (ih h).imp_right .inr

theorem Distinct.set (h : m.Distinct) (name : String) (j : Json) : (m.set name j).Distinct := by
  induction m with
  | nil => simp [Members.set, Distinct]
  | cons p m ih =>
    obtain ⟨n, old⟩ := p
    obtain ⟨hn, hm⟩ := List.nodup_cons.mp h
    by_cases hname : n = name
    · subst hname
      have hrest : ((Members.remove n m).map Prod.fst).Sublist (m.map Prod.fst) :=
        List.filter_sublist.map Prod.fst
      simp only [Members.set, beq_self_eq_true, if_true, Distinct, List.map_cons, List.nodup_cons]
      exact ⟨fun hmem => hn (hrest.mem hmem), hm.sublist hrest⟩
    · have hbeq : (n == name) = false := beq_false_of_ne hname
      simp only [Members.set, hbeq, Bool.false_eq_true, if_false, Distinct, List.map_cons,
        List.nodup_cons]
      exact ⟨fun hmem => (mem_names_set hmem).elim hname hn, ih hm⟩

theorem lookup_optional (name other : String) (f : α → Json) (o : Option α) :
    (Json.optional name f o).lookup other = if other = name then o.map f else none := by
  cases o with
  | none => simp [Json.optional]
  | some a =>
    by_cases h : other = name
    · simp [Json.optional, h]
    · have hne : (other == name) = false := beq_false_of_ne h
      simp only [Json.optional, List.lookup_cons, hne, List.lookup_nil, if_neg h]

theorem lookup_set (name other : String) (j : Json) (m : Members) :
    (m.set name j).lookup other = if other = name then some j else m.lookup other := by
  by_cases h : other = name
  · rw [if_pos h, h, lookup_set_self]
  · rw [if_neg h, lookup_set_of_ne h]

/-- The names of members that may be left out. -/
theorem names_optional (name : String) (f : α → Json) (o : Option α) :
    ((Json.optional name f o).map Prod.fst).Sublist [name] := by
  cases o with
  | none => exact List.nil_sublist _
  | some a => exact .refl _

end Members

/-- Only null settles as null. -/
theorem ne_null_of_settle? {j k : Json} (h : j.settle? = some k) (hj : j ≠ .null) :
    k ≠ .null := by
  rintro rfl
  cases j with
  | null => exact hj rfl
  | arr items =>
    obtain ⟨_, -, h⟩ := Option.map_eq_some_iff.mp h
    cases h
  | obj members =>
    obtain ⟨_, -, h⟩ := Option.bind_eq_some_iff.mp h
    cases h
  | _ => cases h

/-! ## 5. Fields that are written and read again -/

section Fields

variable {α : Type}

/-- Reads what may be missing or null. -/
def field? (f : Json → Option α) : Option Json → Option (Option α)
  | some j => nullable? f j
  | none => some none

theorem Members.optional?_eq (m : Members) (name : String) (f : Json → Option α) :
    m.optional? name f = field? f (m.lookup name) := rfl

/-- A field that may be missing reads as what was written, if its value does. -/
theorem field?_map {f : Json → Option α} {g : α → Json} {o : Option α}
    (h : ∀ a, o = some a → nullable? f (g a) = some (some a)) :
    field? f (o.map g) = some o := by
  cases o with
  | none => rfl
  | some a => exact h a rfl

@[simp] theorem field?_str (o : Option String) :
    field? str? (o.map .str) = some o := field?_map fun _ _ => rfl

@[simp] theorem field?_some_str (s : String) : field? str? (some (.str s)) = some (some s) := rfl

@[simp] theorem field?_bool (o : Option Bool) :
    field? bool? (o.map .bool) = some o := field?_map fun _ _ => rfl

@[simp] theorem field?_word (o : Option Int64) :
    field? int64? (o.map Metadata.wordJson) = some o :=
  field?_map fun n _ => by
    have h := int64?_wordJson n
    simp only [Metadata.wordJson, int] at h ⊢
    simp [nullable?, h]

@[simp] theorem field?_strings (o : Option (List String)) :
    field? (list? str?) (o.map strings) = some o :=
  field?_map fun xs _ => congrArg (Option.map some) (list?_strings xs)

theorem field?_list {f : Json → Option α} {g : α → Json} {o : Option (List α)}
    (h : ∀ xs, o = some xs → ∀ x ∈ xs, f (g x) = some x) :
    field? (list? f) (o.map fun xs => .arr (xs.map g)) = some o :=
  field?_map fun xs hxs => congrArg (Option.map some) (list?_arr (h xs hxs))

theorem field?_dict {f : Json → Option α} {g : α → Json} (h : ∀ a, f (g a) = some a)
    (o : Option (Dict α)) :
    field? (dict? f) (o.map (ofDict g)) = some o :=
  field?_map fun d _ => congrArg (Option.map some) (dict?_ofDict h d)

@[simp] theorem field?_labels (o : Option (Dict String)) :
    field? (dict? str?) (o.map (ofDict .str)) = some o :=
  field?_dict (f := str?) (g := .str) (fun _ => rfl) o

end Fields

end Json

/-! ## 6. Metadata -/

namespace OwnerReference

theorem distinct_members (r : OwnerReference) : r.toJson.members.Distinct := by
  have hnames : (r.toJson.members.map Prod.fst).Sublist (["apiVersion"] ++
      ["blockOwnerDeletion"] ++ ["controller"] ++ ["kind", "name", "uid"]) := by
    simp only [toJson, Json.members, List.map_append]
    repeat' apply List.Sublist.append
    all_goals first | exact Json.Members.names_optional _ _ _ | exact .refl _
  exact List.Nodup.sublist hnames (by decide)

theorem ofJson?_toJson (r : OwnerReference) : ofJson? r.toJson = some r := by
  have hobj : r.toJson = .obj r.toJson.members := rfl
  rw [hobj, ofJson?]
  simp only [Json.Members.latest?_eq_optional? r.distinct_members, Json.Members.optional?_eq]
  simp [toJson, Json.members, List.lookup_append, Json.Members.lookup_optional, List.lookup_cons]

end OwnerReference

theorem Instant.ofJson?_toJson {t : Instant} (valid : t.isValid = true)
    (whole : t.nanos % 1000000000 = 0) : Instant.ofJson? t.toJson = some t := by
  obtain ⟨secs, nanos⟩ := t
  have hnanos : nanos / 1000000000 * 1000000000 = nanos :=
    Nat.div_mul_cancel (Nat.dvd_of_mod_eq_zero whole)
  simp only [Instant.ofJson?, Instant.toJson, Json.str?, Option.bind_some,
    Instant.ofText?_stamp valid, hnanos]

theorem Json.field?_time {o : Option Instant}
    (h : ∀ t, o = some t → t.isValid = true ∧ t.nanos % 1000000000 = 0) :
    Json.field? Instant.ofJson? (o.map Instant.toJson) = some o :=
  Json.field?_map fun t ht => by
    obtain ⟨valid, whole⟩ := h t ht
    rw [Json.nullable?_of_ne_null (by simp [Instant.toJson]), Instant.ofJson?_toJson valid whole]
    rfl

theorem Instant.isValid_of_ofText? {s : String} {t : Instant} (h : Instant.ofText? s = some t) :
    t.isValid = true := by
  obtain ⟨⟨_, _⟩, -, h⟩ := Option.bind_eq_some_iff.mp h
  obtain ⟨⟨_, _⟩, -, h⟩ := Option.bind_eq_some_iff.mp h
  obtain ⟨⟨_, _⟩, -, h⟩ := Option.bind_eq_some_iff.mp h
  obtain ⟨⟨_, _⟩, -, h⟩ := Option.bind_eq_some_iff.mp h
  obtain ⟨⟨_, _⟩, -, h⟩ := Option.bind_eq_some_iff.mp h
  obtain ⟨⟨_, _⟩, -, h⟩ := Option.bind_eq_some_iff.mp h
  obtain ⟨⟨_, _⟩, -, h⟩ := Option.bind_eq_some_iff.mp h
  obtain ⟨⟨_, _⟩, -, h⟩ := Option.bind_eq_some_iff.mp h
  obtain ⟨-, h⟩ := Option.ite_none_left_eq_some.mp h
  obtain ⟨u, -, h⟩ := Option.bind_eq_some_iff.mp h
  obtain ⟨hvalid, ht⟩ := Option.ite_none_right_eq_some.mp h
  cases ht
  exact hvalid

theorem Instant.isValid_of_ofJson? {j : Json} {t : Instant} (h : Instant.ofJson? j = some t) :
    t.isValid = true := by
  obtain ⟨s, -, hs⟩ := Option.bind_eq_some_iff.mp h
  exact Instant.isValid_of_ofText? hs

namespace ManagedFields

/-- The entry lasts: nothing of it is lost when it is written. -/
structure Lasting (e : ManagedFields) : Prop where
  time : ∀ t, e.time = some t → t.isValid = true ∧ t.nanos % 1000000000 = 0
  fields : ∀ j, e.fields = some j → j.settle? = some j ∧ j ≠ .null

/-- An entry that was read lasts, if its time is a whole second. -/
theorem lasting_of_ofJson? {j : Json} {e : ManagedFields} (h : ofJson? j = some e)
    (whole : ∀ t, e.time = some t → t.nanos % 1000000000 = 0) : e.Lasting := by
  obtain ⟨ms, rfl⟩ : ∃ ms, j = .obj ms := by
    cases j with
    | obj ms => exact ⟨ms, rfl⟩
    | _ => cases h
  obtain ⟨apiVersion, -, h⟩ := Option.bind_eq_some_iff.mp h
  obtain ⟨fieldsType, -, h⟩ := Option.bind_eq_some_iff.mp h
  obtain ⟨fields, hfields, h⟩ := Option.bind_eq_some_iff.mp h
  obtain ⟨manager, -, h⟩ := Option.bind_eq_some_iff.mp h
  obtain ⟨operation, -, h⟩ := Option.bind_eq_some_iff.mp h
  obtain ⟨subresource, -, h⟩ := Option.bind_eq_some_iff.mp h
  obtain ⟨time, htime, h⟩ := Option.bind_eq_some_iff.mp h
  cases h
  refine ⟨fun t ht => ?_, fun j hj => ?_⟩
  · obtain rfl : time = some t := ht
    obtain ⟨k, -, hk⟩ := Json.Members.exists_of_latest? htime
    exact ⟨Instant.isValid_of_ofJson? hk, whole t rfl⟩
  · obtain rfl : fields = some j := hj
    obtain ⟨k, hnull, hk⟩ := Json.Members.exists_of_latest? hfields
    exact ⟨Json.settle?_settled k hk, Json.ne_null_of_settle? hk hnull⟩

theorem distinct_members (e : ManagedFields) : e.toJson.members.Distinct := by
  have hnames : (e.toJson.members.map Prod.fst).Sublist (["apiVersion"] ++ ["fieldsType"] ++
      ["fieldsV1"] ++ ["manager"] ++ ["operation"] ++ ["subresource"] ++ ["time"]) := by
    simp only [toJson, Json.members, List.map_append]
    repeat' apply List.Sublist.append
    all_goals exact Json.Members.names_optional _ _ _
  exact List.Nodup.sublist hnames (by decide)

theorem ofJson?_toJson {e : ManagedFields} (h : e.Lasting) : ofJson? e.toJson = some e := by
  have htime := Json.field?_time h.time
  have hfields : Json.field? Json.settle? e.fields = some e.fields := by
    cases hf : e.fields with
    | none => rfl
    | some j =>
      obtain ⟨settled, hnull⟩ := h.fields j hf
      rw [Json.field?, Json.nullable?_of_ne_null hnull, settled]
      rfl
  have hobj : e.toJson = .obj e.toJson.members := rfl
  rw [hobj, ofJson?]
  simp only [Json.Members.latest?_eq_optional? e.distinct_members, Json.Members.optional?_eq]
  simp only [toJson, Json.members, List.lookup_append, Json.Members.lookup_optional]
  simp [htime, hfields]

end ManagedFields

namespace Metadata

/-- The times that the metadata tell. -/
def times (m : Metadata) : List Instant :=
  m.creationTimestamp.toList ++ m.deletionTimestamp.toList ++
    (m.managedFields.getD []).filterMap (·.time)

/-- The accounts of fields that the metadata give. -/
def accounts (m : Metadata) : List Json := (m.managedFields.getD []).filterMap (·.fields)

/-- The times are whole seconds. -/
def InSeconds (m : Metadata) : Prop := ∀ t ∈ m.times, t.nanos % 1000000000 = 0

/-- The metadata last: nothing of them is lost when they are written. -/
structure Lasting (m : Metadata) : Prop where
  times : ∀ t ∈ m.times, t.isValid = true ∧ t.nanos % 1000000000 = 0
  accounts : ∀ j ∈ m.accounts, j.settle? = some j ∧ j ≠ .null

theorem Lasting.managed {m : Metadata} (h : m.Lasting) {es : List ManagedFields}
    (hes : m.managedFields = some es) {e : ManagedFields} (he : e ∈ es) : e.Lasting where
  time t ht := by
    refine h.times t (List.mem_append_right _ (List.mem_filterMap.mpr ⟨e, ?_, ht⟩))
    rw [hes]
    exact he
  fields j hj := by
    refine h.accounts j (List.mem_filterMap.mpr ⟨e, ?_, hj⟩)
    rw [hes]
    exact he

theorem distinct_members (m : Metadata) : m.toJson.members.Distinct := by
  have hnames : (m.toJson.members.map Prod.fst).Sublist (["annotations"] ++
      ["creationTimestamp"] ++ ["deletionGracePeriodSeconds"] ++ ["deletionTimestamp"] ++
      ["finalizers"] ++ ["generateName"] ++ ["generation"] ++ ["labels"] ++ ["managedFields"] ++
      ["name"] ++ ["namespace"] ++ ["ownerReferences"] ++ ["resourceVersion"] ++ ["selfLink"] ++
      ["uid"]) := by
    simp only [toJson, Json.members, List.map_append]
    repeat' apply List.Sublist.append
    all_goals exact Json.Members.names_optional _ _ _
  exact List.Nodup.sublist hnames (by decide)

/-- The metadata are what the members tell, field by field. -/
structure ReadFrom (ms : Json.Members) (m : Metadata) : Prop where
  name : ms.latest? "name" Json.str? = some m.name
  generateName : ms.latest? "generateName" Json.str? = some m.generateName
  ns : ms.latest? "namespace" Json.str? = some m.ns
  uid : ms.latest? "uid" Json.str? = some m.uid
  resourceVersion : ms.latest? "resourceVersion" Json.str? = some m.resourceVersion
  generation : ms.latest? "generation" Json.int64? = some m.generation
  selfLink : ms.latest? "selfLink" Json.str? = some m.selfLink
  creationTimestamp : ms.latest? "creationTimestamp" Instant.ofJson? = some m.creationTimestamp
  deletionTimestamp : ms.latest? "deletionTimestamp" Instant.ofJson? = some m.deletionTimestamp
  deletionGracePeriodSeconds :
    ms.latest? "deletionGracePeriodSeconds" Json.int64? = some m.deletionGracePeriodSeconds
  labels : ms.latest? "labels" (Json.dict? Json.str?) = some m.labels
  annotations : ms.latest? "annotations" (Json.dict? Json.str?) = some m.annotations
  managedFields :
    ms.latest? "managedFields" (Json.list? ManagedFields.ofJson?) = some m.managedFields
  finalizers : ms.latest? "finalizers" (Json.list? Json.str?) = some m.finalizers
  ownerReferences :
    ms.latest? "ownerReferences" (Json.list? OwnerReference.ofJson?) = some m.ownerReferences

theorem ofJson?_obj_iff {ms : Json.Members} {m : Metadata} :
    ofJson? (.obj ms) = some m ↔ m.ReadFrom ms := by
  constructor
  · intro h
    obtain ⟨name, hname, h⟩ := Option.bind_eq_some_iff.mp h
    obtain ⟨generateName, hgenerateName, h⟩ := Option.bind_eq_some_iff.mp h
    obtain ⟨ns, hns, h⟩ := Option.bind_eq_some_iff.mp h
    obtain ⟨uid, huid, h⟩ := Option.bind_eq_some_iff.mp h
    obtain ⟨version, hversion, h⟩ := Option.bind_eq_some_iff.mp h
    obtain ⟨generation, hgeneration, h⟩ := Option.bind_eq_some_iff.mp h
    obtain ⟨selfLink, hselfLink, h⟩ := Option.bind_eq_some_iff.mp h
    obtain ⟨created, hcreated, h⟩ := Option.bind_eq_some_iff.mp h
    obtain ⟨deleted, hdeleted, h⟩ := Option.bind_eq_some_iff.mp h
    obtain ⟨gracePeriod, hgracePeriod, h⟩ := Option.bind_eq_some_iff.mp h
    obtain ⟨labels, hlabels, h⟩ := Option.bind_eq_some_iff.mp h
    obtain ⟨annotations, hannotations, h⟩ := Option.bind_eq_some_iff.mp h
    obtain ⟨managed, hmanaged, h⟩ := Option.bind_eq_some_iff.mp h
    obtain ⟨finalizers, hfinalizers, h⟩ := Option.bind_eq_some_iff.mp h
    obtain ⟨owners, howners, h⟩ := Option.bind_eq_some_iff.mp h
    cases h
    exact ⟨hname, hgenerateName, hns, huid, hversion, hgeneration, hselfLink, hcreated, hdeleted,
      hgracePeriod, hlabels, hannotations, hmanaged, hfinalizers, howners⟩
  · intro h
    simp only [ofJson?, h.name, h.generateName, h.ns, h.uid, h.resourceVersion, h.generation,
      h.selfLink, h.creationTimestamp, h.deletionTimestamp, h.deletionGracePeriodSeconds, h.labels,
      h.annotations, h.managedFields, h.finalizers, h.ownerReferences, Option.bind_eq_bind,
      Option.bind_some]
    rfl

/-- Metadata are read from objects alone. -/
theorem exists_readFrom {j : Json} {m : Metadata} (h : ofJson? j = some m) :
    ∃ ms, j = .obj ms ∧ m.ReadFrom ms := by
  cases j with
  | obj ms => exact ⟨ms, rfl, ofJson?_obj_iff.mp h⟩
  | _ => cases h

/-- **Metadata that last are read again** as they were written. -/
theorem ofJson?_toJson {m : Metadata} (h : m.Lasting) : ofJson? m.toJson = some m := by
  have hcreated : Json.field? Instant.ofJson? (m.creationTimestamp.map Instant.toJson) =
      some m.creationTimestamp := Json.field?_time fun t ht => h.times t (by simp [times, ht])
  have hdeleted : Json.field? Instant.ofJson? (m.deletionTimestamp.map Instant.toJson) =
      some m.deletionTimestamp := Json.field?_time fun t ht => h.times t (by simp [times, ht])
  have hmanaged := Json.field?_list fun es hes e he =>
    ManagedFields.ofJson?_toJson (h.managed hes he)
  have howners : Json.field? (Json.list? OwnerReference.ofJson?) (m.ownerReferences.map fun rs =>
      .arr (rs.map OwnerReference.toJson)) = some m.ownerReferences :=
    Json.field?_list fun _ _ r _ => r.ofJson?_toJson
  have hobj : m.toJson = .obj m.toJson.members := rfl
  rw [hobj, ofJson?]
  simp only [Json.Members.latest?_eq_optional? m.distinct_members, Json.Members.optional?_eq]
  simp only [toJson, Json.members, List.lookup_append, Json.Members.lookup_optional]
  simp [hcreated, hdeleted, hmanaged, howners]

/-- **Metadata that were read last**, if their times are whole seconds. -/
theorem lasting_of_ofJson? {j : Json} {m : Metadata} (h : ofJson? j = some m)
    (whole : m.InSeconds) : m.Lasting := by
  obtain ⟨ms, rfl, read⟩ := exists_readFrom h
  -- the times and the accounts of a manager are those of an entry that was read
  have entry : ∀ e ∈ m.managedFields.getD [], (∀ t, e.time = some t → t.nanos % 1000000000 = 0) →
      e.Lasting := by
    intro e he
    cases hmanaged : m.managedFields with
    | none =>
      rw [hmanaged] at he
      cases he
    | some es =>
      rw [hmanaged] at he
      obtain ⟨k, -, hk⟩ := Json.Members.exists_of_latest? (hmanaged ▸ read.managedFields)
      obtain ⟨items, rfl⟩ : ∃ items, k = .arr items := by
        cases k with
        | arr items => exact ⟨items, rfl⟩
        | _ => cases hk
      obtain ⟨item, -, hitem⟩ := Json.exists_of_mem_mapM hk he
      exact ManagedFields.lasting_of_ofJson? hitem
  have managed_whole : ∀ e ∈ m.managedFields.getD [], ∀ t, e.time = some t →
      t.nanos % 1000000000 = 0 := by
    intro e he t ht
    exact whole t (List.mem_append_right _ (List.mem_filterMap.mpr ⟨e, he, ht⟩))
  refine ⟨fun t ht => ⟨?_, whole t ht⟩, fun j hj => ?_⟩
  · rcases List.mem_append.mp ht with ht | ht
    · rcases List.mem_append.mp ht with ht | ht
      · have hcreated : m.creationTimestamp = some t := Option.mem_toList.mp ht
        obtain ⟨k, -, hk⟩ := Json.Members.exists_of_latest? (hcreated ▸ read.creationTimestamp)
        exact Instant.isValid_of_ofJson? hk
      · have hdeleted : m.deletionTimestamp = some t := Option.mem_toList.mp ht
        obtain ⟨k, -, hk⟩ := Json.Members.exists_of_latest? (hdeleted ▸ read.deletionTimestamp)
        exact Instant.isValid_of_ofJson? hk
    · obtain ⟨e, he, ht⟩ := List.mem_filterMap.mp ht
      exact ((entry e he (managed_whole e he)).time t ht).1
  · obtain ⟨e, he, hj⟩ := List.mem_filterMap.mp hj
    exact (entry e he (managed_whole e he)).fields j hj

end Metadata

namespace Secret

theorem distinct_members (s : Secret) : s.toJson.members.Distinct := by
  have hnames : (s.toJson.members.map Prod.fst).Sublist (["apiVersion"] ++ ["data"] ++
      ["immutable"] ++ ["kind", "metadata"] ++ ["stringData"] ++ ["type"]) := by
    simp only [toJson, Json.members, List.map_append]
    repeat' apply List.Sublist.append
    all_goals first | exact Json.Members.names_optional _ _ _ | exact .refl _
  exact List.Nodup.sublist hnames (by decide)

theorem entry?_encode (bs : Bytes) : entry? (.str (Text.Base64.encode bs)) = some bs :=
  Text.Base64.decode?_encode bs

/-- **A Secret is read again** as it was written, with the metadata that were set in between. -/
theorem ofJson?_set_metadata (s : Secret) {j : Json} {m : Metadata}
    (hj : j ≠ .null) (hm : Metadata.ofJson? j = some m) :
    ofJson? (.obj (s.toJson.members.set "metadata" j)) = some { s with metadata := m } := by
  have hdata : Json.field? (Json.dict? entry?) (s.data.map (Json.ofDict fun bs =>
      .str (Text.Base64.encode bs))) = some s.data := Json.field?_dict entry?_encode s.data
  have hmetadata : Json.field? Metadata.ofJson? (some j) = some (some m) := by
    rw [Json.field?, Json.nullable?_of_ne_null hj, hm]
    rfl
  have hd := s.distinct_members.set "metadata" j
  have hversion : Json.Members.hasText? (s.toJson.members.set "metadata" j) "apiVersion"
      apiVersion = some () := by
    refine Json.Members.hasText?_of_lookup hd ?_
    rw [Json.Members.lookup_set]
    rfl
  have hkind : Json.Members.hasText? (s.toJson.members.set "metadata" j) "kind" kind =
      some () := by
    refine Json.Members.hasText?_of_lookup hd ?_
    rw [Json.Members.lookup_set]
    simp [toJson, Json.members, List.lookup_append, Json.Members.lookup_optional, List.lookup_cons]
  rw [ofJson?]
  simp only [hversion, hkind, Json.Members.latest?_eq_optional? hd, Json.Members.optional?_eq,
    Json.Members.lookup_set]
  simp only [toJson, Json.members, List.lookup_append, Json.Members.lookup_optional]
  simp [hmetadata, hdata, List.lookup_cons]

/-- A Secret that was read lasts, if its times are whole seconds. -/
theorem lasting_of_ofJson? {j : Json} {s : Secret} (h : ofJson? j = some s)
    (whole : s.metadata.InSeconds) : s.metadata.Lasting := by
  obtain ⟨ms, rfl⟩ : ∃ ms, j = .obj ms := by
    cases j with
    | obj ms => exact ⟨ms, rfl⟩
    | _ => cases h
  obtain ⟨_, -, h⟩ := Option.bind_eq_some_iff.mp h
  obtain ⟨_, -, h⟩ := Option.bind_eq_some_iff.mp h
  obtain ⟨metadata, hmetadata, h⟩ := Option.bind_eq_some_iff.mp h
  obtain ⟨data, -, h⟩ := Option.bind_eq_some_iff.mp h
  obtain ⟨type, -, h⟩ := Option.bind_eq_some_iff.mp h
  obtain ⟨isImmutable, -, h⟩ := Option.bind_eq_some_iff.mp h
  obtain ⟨stringData, -, h⟩ := Option.bind_eq_some_iff.mp h
  cases h
  cases metadata with
  | none => exact ⟨fun _ ht => (nomatch ht), fun _ hj => (nomatch hj)⟩
  | some m =>
    obtain ⟨k, -, hk⟩ := Json.Members.exists_of_latest? hmetadata
    exact Metadata.lasting_of_ofJson? hk whole

end Secret

end SecretKeeper
