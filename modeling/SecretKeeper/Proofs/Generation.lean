/-
# What generated data are

A value that comes out of the generator has exactly the wanted length, and only characters of
its class, wherever the random bytes came from and however many of them were thrown away
(`Generator.gather_fits`).

A policy lists every key once, and a value is drawn for each of them before anything is
written.  So the data made for a spec are all that it asks for and nothing else, key by key
(`Materialized.filled`).
-/
import SecretKeeper.Proofs.Course

namespace SecretKeeper

/-! ## 1. One value -/

namespace Generator

/-- The text is a value of this length over the characters of the class. -/
structure Fits (e : Encoding) (length : Nat) (value : String) : Prop where
  length_eq : value.length = length
  chars : ∀ c ∈ value.toList, c ∈ e.charset

/-- It is decided on the characters of the text, one after the other. -/
instance (e : Encoding) (length : Nat) (value : String) : Decidable (Fits e length value) :=
  decidable_of_iff (value.length = length ∧ value.toList.all (e.charset.contains ·) = true)
    ⟨fun h => ⟨h.1, by simpa using h.2⟩, fun h => ⟨h.length_eq, by simpa using h.chars⟩⟩

theorem mem_charset_of_char? {e : Encoding} {b : UInt8} {c : Char} (h : e.char? b = some c) :
    c ∈ e.charset := by
  unfold Encoding.char? at h
  split at h
  · exact List.mem_of_getElem? h
  · cases h

variable {e : Encoding} {length : Nat} {value : List Char}

/-- A chunk adds characters of the class. -/
theorem mem_charset_absorb (h : ∀ c ∈ value, c ∈ e.charset) (chunk : Bytes) :
    ∀ c ∈ absorb e length value chunk, c ∈ e.charset := by
  intro c hc
  rcases List.mem_append.mp hc with hc | hc
  · exact h c hc
  · obtain ⟨b, -, hb⟩ := List.mem_filterMap.mp (List.mem_of_mem_take hc)
    exact mem_charset_of_char? hb

/-- A chunk never adds too many. -/
theorem length_absorb_le (h : value.length ≤ length) (chunk : Bytes) :
    (absorb e length value chunk).length ≤ length := by
  rw [absorb, List.length_append, List.length_take]
  omega

theorem fits_ofList (hl : value.length ≤ length) (hfull : length ≤ value.length)
    (hc : ∀ c ∈ value, c ∈ e.charset) : Fits e length (String.ofList value) where
  length_eq := by
    rw [String.length_ofList]
    omega
  chars := by
    rw [String.toList_ofList]
    exact hc

/-- **A value that comes out of the generator fits.** -/
theorem gather_fits {σ : Type} {fill : σ → Except EntropyFailure Bytes × σ} {text : String}
    (fuel : Nat) {s s' : σ} (h : gather fill e length fuel value s = some (.ok text, s'))
    (hl : value.length ≤ length) (hc : ∀ c ∈ value, c ∈ e.charset) : Fits e length text := by
  -- the induction is on the number of chunks that may still be asked for
  induction fuel generalizing value s with
  | zero =>
    unfold gather at h
    split at h
    next hfull =>
      cases h
      exact fits_ofList hl hfull hc
    next => cases h
  | succ fuel ih =>
    unfold gather at h
    split at h
    next hfull =>
      cases h
      exact fits_ofList hl hfull hc
    next =>
      simp only at h
      split at h
      next => cases h
      next chunk s _ => exact ih h (length_absorb_le hl chunk) (mem_charset_absorb hc chunk)

/-- Some source of random bytes, which may fail at any time, makes the generator answer so. -/
def Gives (e : Encoding) (length : Nat) (answer : Except EntropyFailure String) : Prop :=
  ∃ (σ : Type) (fill : σ → Except EntropyFailure Bytes × σ) (fuel : Nat) (s s' : σ),
    gather fill e length fuel [] s = some (answer, s')

theorem Gives.fits {text : String} (h : Gives e length (.ok text)) : Fits e length text := by
  obtain ⟨_, _, fuel, _, _, h⟩ := h
  exact gather_fits fuel h (Nat.zero_le length) (List.forall_mem_nil _)

end Generator

/-- What is answered from a script of random bytes is given by the generator. -/
theorem Entropy.generate_gives (enc : Encoding) (length : Nat) (e : Entropy) :
    Generator.Gives enc length (e.generate enc length).1 :=
  ⟨Entropy, fillChunk length, e.answers + 1, e, (e.generate enc length).2,
    (Option.some_get _).symm⟩

/-! ## 2. All values of a policy -/

namespace Controller

theorem mem_fill {keys values : List String} {data : Dict Bytes} {key : String}
    (h : values.length = keys.length) : key ∈ fill keys values data ↔ key ∈ keys ∨ key ∈ data := by
  induction keys generalizing values data with
  | nil => simp [fill]
  | cons k keys ih =>
    cases values with
    | nil => cases h
    | cons value values =>
      have hl : values.length = keys.length := Nat.succ.inj h
      rw [fill, ih hl, Std.ExtTreeMap.mem_insert, Std.LawfulEqOrd.compare_eq_iff_eq, List.mem_cons]
      constructor
      · rintro (hk | rfl | hd)
        · exact .inl (.inr hk)
        · exact .inl (.inl rfl)
        · exact .inr hd
      · rintro ((rfl | hk) | hd)
        · exact .inr (.inl rfl)
        · exact .inl hk
        · exact .inr (.inr hd)

/-- Under every key is one of the values, if it was not there before. -/
theorem getElem?_fill {keys values : List String} {data : Dict Bytes} {key : String}
    {bytes : Bytes} (h : (fill keys values data)[key]? = some bytes) :
    (∃ value ∈ values, bytes = Bytes.utf8 value) ∨ data[key]? = some bytes := by
  induction keys generalizing values data with
  | nil => exact .inr h
  | cons k keys ih =>
    cases values with
    | nil => exact .inr h
    | cons value values =>
      rcases ih h with ⟨v, hv, rfl⟩ | hd
      · exact .inl ⟨v, List.mem_cons_of_mem _ hv, rfl⟩
      · rw [Std.ExtTreeMap.getElem?_insert] at hd
        split at hd
        next => exact .inl ⟨value, List.mem_cons_self, (Option.some.inj hd).symm⟩
        next => exact .inr hd

end Controller

/-! ## 3. All that a spec asks for -/

/-- The data of verbatim values: their UTF-8 bytes. -/
def verbatimBytes (data : Dict String) : Dict Bytes := data.map fun _ value => Bytes.utf8 value

/-- The data are all that the spec asks for, and nothing else: the bytes of its own values, or
just the keys of its policy, each with a value of the wanted length over the wanted class. -/
inductive ClaimSpec.Filled (s : ClaimSpec) : Dict Bytes → Prop
  | verbatim (ht : s.type = "Opaque") : Filled s (verbatimBytes s.data)
  | generated {g : GenerationSpec} {data : Dict Bytes} (ht : s.type = "AutoGenerated")
      (hg : s.generation = some g) (keys : ∀ key : String, key ∈ data ↔ key ∈ g.dataKeys)
      (values : ∀ (key : String) (bytes : Bytes), data[key]? = some bytes →
        ∃ (length : Nat) (value : String), (length : Int) = g.length.toInt ∧
          Generator.Fits (.ofName g.encoding) length value ∧ bytes = Bytes.utf8 value) :
      Filled s data

/-- **Data that were made for a demand are all that the spec asks for**, if the drawn values
fit. -/
theorem Controller.Materialized.filled {s : ClaimSpec} {demand : Demand}
    {drawn : List (Event controllerInterface)} {data : Dict Bytes}
    (h : Materialized demand drawn data) (valid : s.validate = .ok demand)
    (fits : ∀ (e : Encoding) (length : Nat) (value : String),
      (⟨.draw e length, .ok value⟩ : Event controllerInterface) ∈ drawn →
        Generator.Fits e length value) : s.Filled data := by
  rcases ClaimSpec.validate_ok valid with ⟨ht, rfl⟩ | ⟨ht, g, p, hg, hp, rfl⟩
  · cases h
    exact .verbatim ht
  · obtain ⟨hkeys, hlength, hencoding, -⟩ := Policy.ofSpec_ok hp
    cases h with
    | generated p values hl =>
      refine .generated ht hg (fun key => ?_) fun key bytes hb => ?_
      · rw [mem_fill hl, hkeys, Policy.mem_distinct]
        exact or_iff_left Std.ExtTreeMap.not_mem_empty
      · rcases getElem?_fill hb with ⟨value, hv, rfl⟩ | hb
        · have hdrawn : drew p (.ok value) ∈ draws p values := List.mem_map.mpr ⟨value, hv, rfl⟩
          refine ⟨p.length, value, hlength, ?_, rfl⟩
          rw [← hencoding]
          exact fits p.encoding p.length value hdrawn
        · rw [Std.ExtTreeMap.getElem?_empty] at hb
          cases hb

end SecretKeeper
