/-
# What a claim is made into

Verbatim values are copied, byte for byte, and nothing is drawn.  A policy lists every key once, in
the order of first occurrence, and one value is generated for each: the value of a key is what the
generator makes of the entropy that the keys before it have left.  The first request for random
bytes that fails ends it; there are then no data, and no values are counted.

`materialize_yields_iff` says what the program can ask and be told, whoever answers.  A script
answers the draws in turn (`Supplies`), and the two together leave just the cases of
`Contents`.

The comparison that decides whether a Secret is written again is exact: it finds no drift just if
the stored data are those that would be made.
-/
import SecretKeeper.Proofs.Convergence
import SecretKeeper.Proofs.Stream

namespace SecretKeeper

/-! ## 1. The bytes of a value -/

/-- An ASCII text has one byte for each character, its code. -/
theorem Bytes.utf8_ofList {cs : List Char} (ascii : ∀ c ∈ cs, c.toNat < 128) :
    utf8 (String.ofList cs) = cs.map fun c => UInt8.ofNat c.toNat := by
  rw [utf8, String.toByteArray_ofList]
  induction cs with
  | nil => rfl
  | cons c cs ih =>
    have hc : c.toNat ≤ 127 := Nat.le_of_lt_succ (ascii c List.mem_cons_self)
    have hcode : String.utf8EncodeChar c = [UInt8.ofNat c.toNat] := by
      simp [String.utf8EncodeChar, hc]
    rw [List.utf8Encode_cons, List.utf8Encode_singleton, hcode, List.map_cons,
      ← ih fun x hx => ascii x (List.mem_cons_of_mem _ hx)]
    simp

/-- The bytes of the characters of the class. -/
def Encoding.codes (e : Encoding) : Bytes := e.charset.map fun c => UInt8.ofNat c.toNat

theorem Encoding.ascii_charset (e : Encoding) : ∀ c ∈ e.charset, c.toNat < 128 := by
  have hall : e.charset.all (·.toNat < 128) = true := by cases e <;> decide
  simpa using hall

/-- A value has as many bytes as characters, and they are bytes of its class. -/
theorem Generator.Fits.bytes {e : Encoding} {length : Nat} {value : String}
    (h : Fits e length value) :
    (Bytes.utf8 value).length = length ∧ ∀ b ∈ Bytes.utf8 value, b ∈ e.codes := by
  have hutf8 : Bytes.utf8 value = value.toList.map fun c => UInt8.ofNat c.toNat := by
    rw [← Bytes.utf8_ofList fun c hc => e.ascii_charset c (h.chars c hc), String.ofList_toList]
  rw [hutf8, List.length_map, String.length_toList]
  refine ⟨h.length_eq, fun b hb => ?_⟩
  obtain ⟨c, hc, rfl⟩ := List.mem_map.mp hb
  exact List.mem_map.mpr ⟨c, h.chars c hc, rfl⟩

/-! ## 2. One value after the other -/

namespace ByteScript

/-- From one place of the script on, the generator answers so and comes to another place. -/
def Makes (s : ByteScript) (e : Encoding) (length : Nat) (p : Place)
    (answer : Except EntropyFailure String) (p' : Place) : Prop :=
  ∃ fuel, Generator.gather (s.fill (Generator.chunkSize length)) e length fuel [] p =
    some (answer, p')

/-- None of the requests between the two places failed. -/
structure Unfailed (s : ByteScript) (p p' : Place) : Prop where
  le : p.requests.length ≤ p'.requests.length
  failure : ∀ k, p.requests.length ≤ k → k < p'.requests.length → s.failure? k = none

/-- Of the requests between the two places only the last one failed, and it did so like this. -/
def FailedLast (s : ByteScript) (p : Place) (failure : EntropyFailure) (p' : Place) : Prop :=
  ∃ k, p'.requests.length = k + 1 ∧ p.requests.length ≤ k ∧ s.failure? k = some failure ∧
    ∀ j, p.requests.length ≤ j → j < k → s.failure? j = none

variable {s : ByteScript} {e : Encoding} {length : Nat} {p p' p'' : Place}

theorem Unfailed.refl (s : ByteScript) (p : Place) : s.Unfailed p p :=
  ⟨Nat.le_refl _, fun _ h h' => absurd h' (Nat.not_lt_of_le h)⟩

theorem Unfailed.trans (h : s.Unfailed p p') (h' : s.Unfailed p' p'') : s.Unfailed p p'' where
  le := Nat.le_trans h.le h'.le
  failure k hk hk' := by
    by_cases hlt : k < p'.requests.length
    · exact h.failure k hk hlt
    · exact h'.failure k (Nat.le_of_not_lt hlt) hk'

theorem FailedLast.after {failure : EntropyFailure} (h : s.Unfailed p p')
    (h' : s.FailedLast p' failure p'') : s.FailedLast p failure p'' := by
  obtain ⟨k, hlast, hle, hfails, hbefore⟩ := h'
  refine ⟨k, hlast, Nat.le_trans h.le hle, hfails, fun j hj hjk => ?_⟩
  by_cases hlt : j < p'.requests.length
  · exact h.failure j hj hlt
  · exact hbefore j (Nat.le_of_not_lt hlt) hjk

/-- A value comes of requests that do not fail, and a failure of the first one that does. -/
theorem gather_requests {answer : Except EntropyFailure String} {count fuel : Nat}
    {value : List Char}
    (h : Generator.gather (s.fill count) e length fuel value p = some (answer, p')) :
    match answer with
    | .ok _ => s.Unfailed p p'
    | .error failure => s.FailedLast p failure p' := by
  induction fuel generalizing value p with
  | zero =>
    by_cases hfull : length ≤ value.length
    · rw [Generator.gather_of_full hfull] at h
      cases h
      exact .refl s _
    · rw [Generator.gather_of_spent hfull] at h
      cases h
  | succ fuel ih =>
    by_cases hfull : length ≤ value.length
    · rw [Generator.gather_of_full hfull] at h
      cases h
      exact .refl s _
    · cases hnext : s.failure? p.requests.length with
      | some failure =>
        rw [Generator.gather_of_error hfull (fill_of_failure hnext count)] at h
        cases h
        exact ⟨p.requests.length, rfl, Nat.le_refl _, hnext,
          fun j hj hj' => absurd hj' (Nat.not_lt_of_le hj)⟩
      | none =>
        rw [Generator.gather_of_ok hfull (fill_of_goes hnext count)] at h
        have hfirst : s.Unfailed p ⟨p.given + count, count :: p.requests⟩ := by
          refine ⟨Nat.le_succ _, fun k hk hk' => ?_⟩
          rw [List.length_cons] at hk'
          rw [Nat.le_antisymm (Nat.le_of_lt_succ hk') hk, hnext]
        have hrest := ih h
        cases answer with
        | ok text => exact hfirst.trans hrest
        | error failure => exact .after hfirst hrest

theorem Makes.fits {value : String} (h : s.Makes e length p (.ok value) p') :
    Generator.Fits e length value := by
  obtain ⟨fuel, h⟩ := h
  exact Generator.gather_fits fuel h (Nat.zero_le length) (List.forall_mem_nil _)

theorem Makes.unfailed {value : String} (h : s.Makes e length p (.ok value) p') :
    s.Unfailed p p' := by
  obtain ⟨fuel, h⟩ := h
  exact gather_requests h

theorem Makes.failedLast {failure : EntropyFailure} (h : s.Makes e length p (.error failure) p') :
    s.FailedLast p failure p' := by
  obtain ⟨fuel, h⟩ := h
  exact gather_requests h

/-- Values that are made one after the other, each of what the ones before it have left. -/
inductive Series (s : ByteScript) (e : Encoding) (length : Nat) : Place → List String → Place → Prop
  | nil (p : Place) : Series s e length p [] p
  | cons {p p' p'' : Place} {value : String} {values : List String}
      (made : s.Makes e length p (.ok value) p') (rest : Series s e length p' values p'') :
      Series s e length p (value :: values) p''

theorem Series.concat {values : List String} {value : String} (h : s.Series e length p values p')
    (made : s.Makes e length p' (.ok value) p'') : s.Series e length p (values ++ [value]) p'' := by
  induction h with
  | nil p => exact .cons made (.nil _)
  | cons first _ ih => exact .cons first (ih made)

theorem Series.fits {values : List String} (h : s.Series e length p values p') :
    ∀ value ∈ values, Generator.Fits e length value := by
  induction h with
  | nil p => exact List.forall_mem_nil _
  | cons made _ ih => exact List.forall_mem_cons.mpr ⟨made.fits, ih⟩

theorem Series.unfailed {values : List String} (h : s.Series e length p values p') :
    s.Unfailed p p' := by
  induction h with
  | nil p => exact .refl s p
  | cons made _ ih => exact made.unfailed.trans ih

/-- Where every generation that is come to ends, there are `n` values, or a failure before that. -/
theorem Series.exists_end {n : Nat}
    (ends : ∀ values p', s.Series e length p values p' → values.length < n →
      ∃ answer p'', s.Makes e length p' answer p'') :
    (∃ values p', values.length = n ∧ s.Series e length p values p') ∨
      ∃ values p' failure p'', values.length < n ∧ s.Series e length p values p' ∧
        s.Makes e length p' (.error failure) p'' := by
  induction n with
  | zero => exact .inl ⟨[], p, rfl, .nil p⟩
  | succ n ih =>
    rcases ih fun values p' series hlt => ends values p' series (Nat.lt_succ_of_lt hlt) with
      ⟨values, p', rfl, series⟩ | ⟨values, p', failure, p'', hlt, series, made⟩
    · obtain ⟨answer, p'', made⟩ := ends values p' series (Nat.lt_succ_self _)
      cases answer with
      | error failure => exact .inr ⟨values, p', failure, p'', Nat.lt_succ_self _, series, made⟩
      | ok value => exact .inl ⟨values ++ [value], p'', by simp, series.concat made⟩
    · exact .inr ⟨values, p', failure, p'', Nat.lt_succ_of_lt hlt, series, made⟩

end ByteScript

/-! ## 3. A program that draws from a script -/

namespace Controller

open Program Simulation

variable {s : ByteScript} {start left : ByteScript.Place} {log : List (Event controllerInterface)}

/-- The draws of the transcript are answered by the generator, out of the script. -/
inductive Supplies (s : ByteScript) :
    ByteScript.Place → List (Event controllerInterface) → ByteScript.Place → Prop
  | nil (start : ByteScript.Place) : Supplies s start [] start
  | draw {e : Encoding} {length : Nat} {answer : Except EntropyFailure String}
      {start between left : ByteScript.Place} {log : List (Event controllerInterface)}
      (made : s.Makes e length start answer between) (rest : Supplies s between log left) :
      Supplies s start (⟨.draw e length, answer⟩ :: log) left
  | aside {event : Event controllerInterface} {start left : ByteScript.Place}
      {log : List (Event controllerInterface)} (h : isDraw event = false)
      (rest : Supplies s start log left) : Supplies s start (event :: log) left

variable {p : Policy}

theorem supplies_aside_iff {event : Event controllerInterface} (h : isDraw event = false) :
    Supplies s start (event :: log) left ↔ Supplies s start log left := by
  constructor
  · rintro (_ | _ | ⟨-, rest⟩)
    · cases h
    · exact rest
  · exact .aside h

theorem supplies_nil_iff : Supplies s start [] left ↔ left = start := by
  constructor
  · rintro ⟨⟩
    rfl
  · rintro rfl
    exact .nil _

theorem supplies_draw_iff {answer : Except EntropyFailure String} :
    Supplies s start (drew p answer :: log) left ↔
      ∃ between, s.Makes p.encoding p.length start answer between ∧
        Supplies s between log left := by
  constructor
  · rintro (_ | ⟨made, rest⟩ | ⟨h, -⟩)
    · exact ⟨_, made, rest⟩
    · cases h
  · rintro ⟨between, made, rest⟩
    exact .draw made rest

/-- The values that were drawn under a policy are made one after the other. -/
theorem supplies_draws_iff {values : List String} :
    Supplies s start (draws p values ++ log) left ↔
      ∃ between, s.Series p.encoding p.length start values between ∧
        Supplies s between log left := by
  induction values generalizing start with
  | nil =>
    constructor
    · exact fun h => ⟨start, .nil start, h⟩
    · rintro ⟨_, ⟨⟩, h⟩
      exact h
  | cons value values ih =>
    constructor
    · intro h
      obtain ⟨next, made, h⟩ := supplies_draw_iff.mp h
      obtain ⟨between, series, h⟩ := ih.mp h
      exact ⟨between, .cons made series, h⟩
    · rintro ⟨between, series, h⟩
      cases series with
      | cons made series => exact supplies_draw_iff.mpr ⟨_, made, ih.mpr ⟨between, series, h⟩⟩

/-! ## 4. What materialization asks for -/

theorem yields_draw_iff {answer : Except EntropyFailure String} :
    (draw p.encoding p.length).Yields log answer ↔ log = [drew p answer] := yields_request_iff

theorem yields_count_iff {c : Counter} {n : Nat} {u : Unit} :
    (count c n).Yields log u ↔ log = [⟨.count c n, u⟩] := yields_request_iff

/-- Values are drawn for the keys in order, up to the first failure. -/
theorem drawAll_yields_iff {keys : List String} {data : Dict Bytes}
    {r : Except EntropyFailure (Dict Bytes)} :
    (drawAll p keys data).Yields log r ↔
      (∃ values, values.length = keys.length ∧ log = draws p values ∧
        r = .ok (fill keys values data)) ∨
      ∃ values failure, values.length < keys.length ∧
        log = draws p values ++ [drew p (.error failure)] ∧ r = .error failure := by
  induction keys generalizing data log with
  | nil =>
    simp [drawAll, fill, draws]
  | cons key keys ih =>
    simp only [drawAll, yields_bind_iff, yields_draw_iff]
    constructor
    · rintro ⟨_, rest, answer, rfl, rfl, h⟩
      cases answer with
      | error failure =>
        obtain ⟨rfl, rfl⟩ := yields_done_iff.mp h
        exact .inr ⟨[], failure, by simp, rfl, rfl⟩
      | ok value =>
        rcases ih.mp h with ⟨values, hl, rfl, rfl⟩ | ⟨values, failure, hl, rfl, rfl⟩
        · exact .inl ⟨value :: values, by simp [hl], rfl, rfl⟩
        · exact .inr ⟨value :: values, failure, by simp [hl], rfl, rfl⟩
    · rintro (⟨_ | ⟨value, values⟩, hl, rfl, rfl⟩ | ⟨_ | ⟨value, values⟩, failure, hl, rfl, rfl⟩)
      · cases hl
      · exact ⟨[drew p (.ok value)], draws p values, .ok value, rfl, rfl,
          ih.mpr (.inl ⟨values, Nat.succ.inj hl, rfl, rfl⟩)⟩
      · exact ⟨[drew p (.error failure)], [], .error failure, rfl, rfl, .done _⟩
      · exact ⟨[drew p (.ok value)], draws p values ++ [drew p (.error failure)], .ok value, rfl,
          rfl, ih.mpr (.inr ⟨values, failure, Nat.lt_of_succ_lt_succ hl, rfl, rfl⟩)⟩

/-- So many values are counted as generated. -/
abbrev valuesCounted (n : Nat) : Event controllerInterface := ⟨.count .valuesGenerated n, ()⟩

/-- **What materialization can ask and be told under a policy.**  The values are counted when all
of them are there. -/
theorem materialize_yields_iff {r : Except CycleError (Dict Bytes)} :
    (materialize (.generated p)).Yields log r ↔
      (∃ values, values.length = p.dataKeys.length ∧
        log = draws p values ++ [valuesCounted (fill p.dataKeys values ∅).size] ∧
        r = .ok (fill p.dataKeys values ∅)) ∨
      ∃ values failure, values.length < p.dataKeys.length ∧
        log = draws p values ++ [drew p (.error failure)] ∧ r = .error (.generation failure) := by
  simp only [materialize, yields_bind_iff, drawAll_yields_iff]
  constructor
  · rintro ⟨_, rest, _, rfl, ⟨values, hl, rfl, rfl⟩ | ⟨values, failure, hl, rfl, rfl⟩, h⟩
    · simp only [yields_bind_iff, yields_count_iff, pure_eq, yields_done_iff] at h
      obtain ⟨_, _, _, rfl, rfl, rfl, rfl⟩ := h
      exact .inl ⟨values, hl, rfl, rfl⟩
    · obtain ⟨rfl, rfl⟩ := yields_done_iff.mp h
      exact .inr ⟨values, failure, hl, by rw [List.append_nil], rfl⟩
  · rintro (⟨values, hl, rfl, rfl⟩ | ⟨values, failure, hl, rfl, rfl⟩)
    · exact ⟨draws p values, [valuesCounted (fill p.dataKeys values ∅).size], .ok _, rfl,
        .inl ⟨values, hl, rfl, rfl⟩,
        yields_bind_iff.mpr ⟨_, [], (), rfl, yields_count_iff.mpr rfl, .done _⟩⟩
    · exact ⟨_, [], .error failure, (List.append_nil _).symm, .inr ⟨values, failure, hl, rfl, rfl⟩,
        .done _⟩

/-- Verbatim values ask for nothing. -/
theorem materialize_verbatim_iff {data : Dict String} {r : Except CycleError (Dict Bytes)} :
    (materialize (.verbatim data)).Yields log r ↔ log = [] ∧ r = .ok (verbatimBytes data) :=
  yields_done_iff

/-! ## 5. What a spec is made into -/

/-- What is under a key that is not listed stays there. -/
theorem getElem?_fill_of_notMem {keys values : List String} {data : Dict Bytes} {key : String}
    (h : key ∉ keys) : (fill keys values data)[key]? = data[key]? := by
  induction keys generalizing values data with
  | nil => rfl
  | cons k keys ih =>
    rw [List.mem_cons, not_or] at h
    obtain ⟨hne, hrest⟩ := h
    cases values with
    | nil => rfl
    | cons v values => rw [fill, ih hrest, Dict.getElem?_insert_of_ne hne]

/-- The value of the `i`-th key is the `i`-th value, if no key is listed twice. -/
theorem getElem?_fill_of_nodup {keys values : List String} {data : Dict Bytes} {i : Nat}
    {key value : String} (nodup : keys.Nodup) (hk : keys[i]? = some key)
    (hv : values[i]? = some value) : (fill keys values data)[key]? = some (Bytes.utf8 value) := by
  induction keys generalizing values data i with
  | nil => cases hk
  | cons k keys ih =>
    obtain ⟨hfresh, nodup⟩ := List.nodup_cons.mp nodup
    cases values with
    | nil => cases hv
    | cons v values =>
      cases i with
      | zero =>
        cases hk
        cases hv
        rw [fill, getElem?_fill_of_notMem hfresh, Std.ExtTreeMap.getElem?_insert_self]
      | succ i => exact ih nodup hk hv

/-- All that a policy asks for, made out of a script between two places of it. -/
structure Generated (s : ByteScript) (g : GenerationSpec) (start : ByteScript.Place)
    (values : List String) (data : Dict Bytes) (left : ByteScript.Place) : Prop where
  one_each : values.length = g.dataKeys.eraseDups.length
  series : s.Series (.ofName g.encoding) g.length.toInt.toNat start values left
  keys : ∀ key : String, key ∈ data ↔ key ∈ g.dataKeys
  value : ∀ (i : Nat) (key value : String), g.dataKeys.eraseDups[i]? = some key →
    values[i]? = some value → data[key]? = some (Bytes.utf8 value)
  bytes : ∀ value ∈ values, ((Bytes.utf8 value).length : Int) = g.length.toInt ∧
    ∀ b ∈ Bytes.utf8 value, b ∈ (Encoding.ofName g.encoding).codes
  range : (Policy.minLength : Int) ≤ g.length.toInt ∧ g.length.toInt ≤ Policy.maxLength
  size : data.size = values.length
  unfailed : s.Unfailed start left

/-- What a spec is made into out of a script, with what was asked on the way: its own values, all
that its policy asks for, or nothing, because a request for random bytes failed. -/
inductive Contents (s : ByteScript) (spec : ClaimSpec) (start : ByteScript.Place) :
    List (Event controllerInterface) → Except CycleError (Dict Bytes) → ByteScript.Place → Prop
  | verbatim {data : Dict Bytes} (ht : spec.type = "Opaque")
      (copied : ∀ key : String, data[key]? = spec.data[key]?.map Bytes.utf8) :
      Contents s spec start [] (.ok data) start
  | generated {g : GenerationSpec} {p : Policy} {values : List String} {data : Dict Bytes}
      {left : ByteScript.Place} (ht : spec.type = "AutoGenerated")
      (hg : spec.generation = some g) (hp : Policy.ofSpec g = .ok p)
      (made : Generated s g start values data left) :
      Contents s spec start (draws p values ++ [valuesCounted values.length]) (.ok data) left
  | failed {g : GenerationSpec} {p : Policy} {values : List String} {failure : EntropyFailure}
      {between left : ByteScript.Place} (ht : spec.type = "AutoGenerated")
      (hg : spec.generation = some g) (hp : Policy.ofSpec g = .ok p)
      (short : values.length < g.dataKeys.eraseDups.length)
      (series : s.Series (.ofName g.encoding) g.length.toInt.toNat start values between)
      (made : s.Makes (.ofName g.encoding) g.length.toInt.toNat between (.error failure) left)
      (cause : s.FailedLast start failure left) :
      Contents s spec start (draws p values ++ [drew p (.error failure)])
        (.error (.generation failure)) left

/-- Materialization can run so, with its draws answered out of the script. -/
structure Materializing (s : ByteScript) (demand : Demand) (start : ByteScript.Place)
    (log : List (Event controllerInterface)) (r : Except CycleError (Dict Bytes))
    (left : ByteScript.Place) : Prop where
  yields : (materialize demand).Yields log r
  supplies : Supplies s start log left

/-- Every generation that the demand comes to ends. -/
def Ends (s : ByteScript) (start : ByteScript.Place) : Demand → Prop
  | .verbatim _ => True
  | .generated p => ∀ values between, s.Series p.encoding p.length start values between →
      values.length < p.dataKeys.length →
      ∃ answer left, s.Makes p.encoding p.length between answer left

/-- Out of a source that stops answering at some point, every generation ends. -/
theorem ends_script (source : Entropy) (start : ByteScript.Place) (demand : Demand) :
    Ends source.script start demand := by
  cases demand with
  | verbatim data => trivial
  | generated p =>
    intro values between _ _
    obtain ⟨answer, left, hmade, -⟩ := source.generate_left p.encoding p.length between
    exact ⟨answer, left, _, hmade⟩

/-- The data that a series of values fills are all that the policy asks for. -/
theorem Generated.of_series {g : GenerationSpec} {values : List String}
    (hp : Policy.ofSpec g = .ok p) (hl : values.length = p.dataKeys.length)
    (series : s.Series p.encoding p.length start values left) :
    Generated s g start values (fill p.dataKeys values ∅) left := by
  obtain ⟨hkeys, hlength, hencoding, -⟩ := Policy.ofSpec_ok hp
  have hnat : g.length.toInt.toNat = p.length := by rw [← hlength, Int.toNat_natCast]
  have hmem : ∀ key : String, key ∈ fill p.dataKeys values ∅ ↔ key ∈ g.dataKeys := by
    intro key
    rw [mem_fill hl, hkeys, Policy.mem_distinct]
    exact or_iff_left Std.ExtTreeMap.not_mem_empty
  have hperm : (fill p.dataKeys values ∅).keys.Perm (Policy.distinct g.dataKeys) := by
    rw [List.perm_ext_iff_of_nodup Std.ExtTreeMap.nodup_keys (Policy.nodup_distinct _)]
    intro key
    rw [Std.ExtTreeMap.mem_keys, hmem, Policy.mem_distinct]
  exact {
    one_each := by rw [hl, hkeys, Policy.distinct_eq_eraseDups]
    series := by rw [← hencoding, hnat]; exact series
    keys := hmem
    value := fun i key value hk hv => by
      rw [← Policy.distinct_eq_eraseDups] at hk
      rw [hkeys]
      exact getElem?_fill_of_nodup (Policy.nodup_distinct _) hk hv
    bytes := fun value hv => by
      obtain ⟨hbytes, hcodes⟩ := (series.fits value hv).bytes
      rw [hbytes, ← hencoding]
      exact ⟨hlength, hcodes⟩
    range := by
      obtain ⟨hleast, hmost⟩ := Policy.ofSpec_range hp
      omega
    size := by rw [← Std.ExtTreeMap.length_keys, hperm.length_eq, ← hkeys, hl]
    unfailed := series.unfailed }

/-- Whatever materialization of a valid spec comes to, it is one of the cases. -/
theorem Materializing.contents {spec : ClaimSpec} {demand : Demand}
    {r : Except CycleError (Dict Bytes)} (valid : spec.validate = .ok demand)
    (h : Materializing s demand start log r left) : Contents s spec start log r left := by
  obtain ⟨yields, supplies⟩ := h
  rcases ClaimSpec.validate_ok valid with ⟨ht, rfl⟩ | ⟨ht, g, p, hg, hp, rfl⟩
  · obtain ⟨rfl, rfl⟩ := materialize_verbatim_iff.mp yields
    obtain rfl := supplies_nil_iff.mp supplies
    refine .verbatim ht fun key => ?_
    rw [verbatimBytes, Std.ExtTreeMap.getElem?_map]
  · rcases materialize_yields_iff.mp yields with ⟨values, hl, rfl, rfl⟩ |
      ⟨values, failure, hl, rfl, rfl⟩
    · obtain ⟨between, series, rest⟩ := supplies_draws_iff.mp supplies
      rw [supplies_aside_iff rfl, supplies_nil_iff] at rest
      subst rest
      have made := Generated.of_series hp hl series
      rw [made.size]
      exact .generated ht hg hp made
    · obtain ⟨between, series, rest⟩ := supplies_draws_iff.mp supplies
      obtain ⟨last, made, rest⟩ := supplies_draw_iff.mp rest
      obtain rfl := supplies_nil_iff.mp rest
      have cause := ByteScript.FailedLast.after series.unfailed made.failedLast
      obtain ⟨hkeys, hlength, hencoding, -⟩ := Policy.ofSpec_ok hp
      have hnat : g.length.toInt.toNat = p.length := by rw [← hlength, Int.toNat_natCast]
      rw [hkeys, Policy.distinct_eq_eraseDups] at hl
      rw [← hnat, hencoding] at series made
      exact .failed ht hg hp hl series made cause

/-- Where every generation ends, so does materialization. -/
theorem exists_materializing {demand : Demand} (ends : Ends s start demand) :
    ∃ log r left, Materializing s demand start log r left := by
  cases demand with
  | verbatim data => exact ⟨[], _, start, .done _, .nil start⟩
  | generated p =>
    rcases ByteScript.Series.exists_end ends with
      ⟨values, left, hl, series⟩ | ⟨values, between, failure, left, hl, series, made⟩
    · refine ⟨_, _, left, materialize_yields_iff.mpr (.inl ⟨values, hl, rfl, rfl⟩), ?_⟩
      exact supplies_draws_iff.mpr ⟨left, series, .aside rfl (.nil left)⟩
    · refine ⟨_, _, left, materialize_yields_iff.mpr (.inr ⟨values, failure, hl, rfl, rfl⟩), ?_⟩
      exact supplies_draws_iff.mpr ⟨between, series, supplies_draw_iff.mpr ⟨left, made, .nil left⟩⟩

/-- **What a valid spec is made into.**  Out of any script, and from any place of it on, its
materialization comes to data or to a failure if all of its generations end; and whatever it comes
to is what the spec asks for, or the failure of the one request that failed. -/
theorem materialize_contents {spec : ClaimSpec} {demand : Demand}
    (valid : spec.validate = .ok demand) (s : ByteScript) (start : ByteScript.Place)
    (ends : Ends s start demand) :
    (∃ log r left, Materializing s demand start log r left) ∧
      ∀ log r left, Materializing s demand start log r left → Contents s spec start log r left :=
  ⟨exists_materializing ends, fun _ _ _ h => h.contents valid⟩

namespace Repeated

/-- A spec that lists one of its two keys twice. -/
def spec : ClaimSpec where
  type := "AutoGenerated"
  generation := some { dataKeys := ["b", "a", "b"], length := 8, encoding := "digits" }

/-- The policy of the spec. -/
def policy : Policy where
  dataKeys := ["b", "a"]
  length := 8
  encoding := .digits
  reconcileTrigger := ""

/-- A source of sixteen zeros, then sixteen ones, that answers so many requests. -/
def source (answers : Nat) : Entropy where
  stream := .cycle [] (List.replicate 16 0 ++ List.replicate 16 1)
  answers := answers
  message := "down"

/-- Where there are two answers, either key has its own value. -/
theorem materializing : Materializing (source 2).script (.generated policy) {}
    (draws policy ["00000000", "11111111"] ++ [valuesCounted 2])
    (.ok (fill policy.dataKeys ["00000000", "11111111"] ∅)) ⟨32, [16, 16]⟩ where
  yields := materialize_yields_iff.mpr (.inl ⟨["00000000", "11111111"], rfl, rfl, rfl⟩)
  supplies := by
    have first : (source 2).script.Makes .digits 8 {} (.ok "00000000") ⟨16, [16]⟩ := ⟨1, by decide⟩
    have second : (source 2).script.Makes .digits 8 ⟨16, [16]⟩ (.ok "11111111") ⟨32, [16, 16]⟩ :=
      ⟨1, by decide⟩
    exact .draw first (.draw second (.aside rfl (.nil _)))

/-- Where there is only one, there is none for the second key, and no data. -/
theorem failing : Materializing (source 1).script (.generated policy) {}
    (draws policy ["00000000"] ++ [drew policy (.error ⟨"down"⟩)])
    (.error (.generation ⟨"down"⟩)) ⟨16, [16, 16]⟩ where
  yields := materialize_yields_iff.mpr (.inr ⟨["00000000"], _, by decide, rfl, rfl⟩)
  supplies := by
    have first : (source 1).script.Makes .digits 8 {} (.ok "00000000") ⟨16, [16]⟩ := ⟨1, by decide⟩
    have second : (source 1).script.Makes .digits 8 ⟨16, [16]⟩ (.error ⟨"down"⟩) ⟨16, [16, 16]⟩ :=
      ⟨1, by decide⟩
    exact .draw first (.draw second (.nil _))

end Repeated

/-- A spec with a key listed twice has two values; and none where the source fails at the second. -/
theorem repeated_key_contents :
    Repeated.spec.validate = .ok (.generated Repeated.policy) ∧
    (∀ answers, Ends (Repeated.source answers).script {} (.generated Repeated.policy)) ∧
    (∃ (log : List (Event controllerInterface)) (data : Dict Bytes) (left : ByteScript.Place),
      Materializing (Repeated.source 2).script (.generated Repeated.policy) {} log (.ok data) left ∧
      Contents (Repeated.source 2).script Repeated.spec {} log (.ok data) left ∧
      data["b"]? = some (Bytes.utf8 "00000000") ∧ data["a"]? = some (Bytes.utf8 "11111111")) ∧
    ∃ (log : List (Event controllerInterface)) (left : ByteScript.Place),
      Materializing (Repeated.source 1).script (.generated Repeated.policy) {} log
        (.error (.generation ⟨"down"⟩)) left ∧
      Contents (Repeated.source 1).script Repeated.spec {} log
        (.error (.generation ⟨"down"⟩)) left := by
  have valid : Repeated.spec.validate = .ok (.generated Repeated.policy) := by decide +kernel
  have ends : ∀ answers,
      Ends (Repeated.source answers).script {} (.generated Repeated.policy) :=
    fun answers => ends_script (Repeated.source answers) {} _
  have nodup : Repeated.policy.dataKeys.Nodup := by decide
  obtain ⟨-, answered⟩ := materialize_contents valid _ _ (ends 2)
  obtain ⟨-, failed⟩ := materialize_contents valid _ _ (ends 1)
  refine ⟨valid, ends,
    ⟨_, _, _, Repeated.materializing, answered _ _ _ Repeated.materializing, ?_, ?_⟩,
    _, _, Repeated.failing, failed _ _ _ Repeated.failing⟩
  · exact getElem?_fill_of_nodup nodup (i := 0) rfl rfl
  · exact getElem?_fill_of_nodup nodup (i := 1) rfl rfl

/-! ## 6. Nothing to do -/

/-- **The comparison agrees with materialization.**  There is no drift just if the stored data are,
key for key, what the claim for these values is made into. -/
theorem needsUpdate_eq_false_iff_made (wanted : Dict String) (stored : Option (Dict Bytes)) :
    ∃ data : Dict Bytes,
      (∀ generation, ClaimSpec.validate ⟨"Opaque", wanted, generation⟩ = .ok (.verbatim wanted)) ∧
      (∀ log r, (materialize (.verbatim wanted)).Yields log r ↔ log = [] ∧ r = .ok data) ∧
      (∀ lastTrigger, Drift.detect (.verbatim wanted) stored lastTrigger =
        Drift.needsUpdate wanted (stored.getD ∅)) ∧
      (Drift.needsUpdate wanted (stored.getD ∅) = false ↔
        ∀ key : String, (stored.getD ∅)[key]? = data[key]?) := by
  refine ⟨verbatimBytes wanted, fun generation => if_pos rfl,
    fun log r => materialize_verbatim_iff, fun lastTrigger => rfl, ?_⟩
  rw [Drift.needsUpdate_eq_false_iff]
  constructor
  · intro h key
    rw [h]
  · exact fun h => Std.ExtTreeMap.ext_getElem? fun key => h key

end Controller

end SecretKeeper
