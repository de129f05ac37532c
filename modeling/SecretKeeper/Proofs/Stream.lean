/-
# The stream behind a value

The loop that fills a value asks for chunks, throws bytes away, stops in the middle of a chunk and
ends with the first request that fails.  None of this shows in what it comes to.  Of the bytes that
are on offer only those below the limit count; the value is made of the first of them, as many as
it has characters, each read as the character at its remainder.

A `ByteScript` is all that a source can do: an endless stream of bytes, and which requests fail.
After `m` requests the loop holds the value of the accepted bytes among the first `m` chunks
(`gather_step`), so it stops after the least `m` that is enough, or at a failure before that, and
goes on forever only if there is neither (`ByteScript.sampled`).

The scripts of `Entropy` are among these (`Entropy.generate_left`).  A text cannot have any length,
however: values up to the longest text are made of the stream (`Generator.FromStream`); a longer
one is not made, and nothing is asked for.
-/
import Mathlib.Data.Nat.Find
import Mathlib.Order.Bounds.Basic
import SecretKeeper.Value.Generator

namespace SecretKeeper

/-! ## 1. Accepted bytes -/

namespace Encoding

variable (e : Encoding)

theorem size_pos : 0 < e.size := by
  cases e
  · rw [size_digits]; omega
  · rw [size_alphanumeric]; omega
  · rw [size_symbols]; omega

/-- The limit is the greatest multiple of the size of the class that fits into a byte's values. -/
theorem limit_isGreatest : IsGreatest {k : Nat | e.size ∣ k ∧ k ≤ 256} e.limit := by
  constructor
  · exact ⟨Nat.dvd_sub_mod 256, Nat.sub_le 256 _⟩
  · rintro k ⟨⟨q, rfl⟩, hk⟩
    have hq : q ≤ 256 / e.size := (Nat.le_div_iff_mul_le e.size_pos).mpr (by rwa [Nat.mul_comm])
    have := Nat.mul_le_mul_left e.size hq
    have := Nat.div_add_mod 256 e.size
    unfold limit
    omega

/-- The byte is below the limit. -/
def accepts (b : UInt8) : Bool := decide (b.toNat < e.limit)

/-- The character at the place that the byte's remainder names. -/
def charAt (b : UInt8) : Char := e.charset.get ⟨b.toNat % e.size, Nat.mod_lt _ e.size_pos⟩

theorem char?_eq (b : UInt8) : e.char? b = if e.accepts b then some (e.charAt b) else none := by
  have hplace : e.charset[b.toNat % e.size]? = some (e.charAt b) :=
    List.getElem?_eq_getElem (Nat.mod_lt _ e.size_pos)
  simp [char?, accepts, hplace]

/-- The characters of some bytes are those of the accepted ones. -/
theorem filterMap_char? (bs : Bytes) :
    bs.filterMap e.char? = (bs.filter e.accepts).map e.charAt := by
  induction bs with
  | nil => rfl
  | cons b bs ih =>
    cases h : e.accepts b with
    | false =>
      have hnone : e.char? b = none := by rw [char?_eq, h, if_neg Bool.false_ne_true]
      rw [List.filterMap_cons_none hnone, List.filter_cons_of_neg (by rw [h]; decide), ih]
    | true =>
      have hsome : e.char? b = some (e.charAt b) := by rw [char?_eq, h, if_pos rfl]
      rw [List.filterMap_cons_some hsome, List.filter_cons_of_pos h, List.map_cons, ih]

end Encoding

/-! ## 2. Scripts -/

/-- All that a source of random bytes can do: the bytes that it has to give, one after the other,
and the requests that fail, counted from the first one. -/
structure ByteScript where
  bytes : Nat → UInt8
  failure? : Nat → Option EntropyFailure

namespace ByteScript

/-- How far a script has been used. -/
structure Place where
  /-- The number of bytes given. -/
  given : Nat := 0
  /-- The sizes of all requests so far, the last one first. -/
  requests : List Nat := []
deriving DecidableEq

variable (s : ByteScript)

/-- The `count` bytes from a place in the stream on. -/
def chunk (start count : Nat) : Bytes := (List.range count).map fun i => s.bytes (start + i)

/-- A request for `count` bytes.  One that fails gives none. -/
def fill (count : Nat) (p : Place) : Except EntropyFailure Bytes × Place :=
  match s.failure? p.requests.length with
  | some failure => (.error failure, { p with requests := count :: p.requests })
  | none => (.ok (s.chunk p.given count), ⟨p.given + count, count :: p.requests⟩)

section Fill

variable {s} {p : Place}

theorem fill_of_failure {failure : EntropyFailure} (h : s.failure? p.requests.length = some failure)
    (count : Nat) :
    s.fill count p = (.error failure, { p with requests := count :: p.requests }) := by
  simp only [fill, h]

theorem fill_of_goes (h : s.failure? p.requests.length = none) (count : Nat) :
    s.fill count p =
      (.ok (s.chunk p.given count), ⟨p.given + count, count :: p.requests⟩) := by
  simp only [fill, h]

end Fill

theorem chunk_add (start m n : Nat) :
    s.chunk start (m + n) = s.chunk start m ++ s.chunk (start + m) n := by
  simp [chunk, List.range_add, Nat.add_assoc, Function.comp_def]

/-! ## 3. What a value is made of -/

section Value

variable (e : Encoding) (length : Nat)

/-- The accepted bytes among those of the first `m` chunks. -/
def accepted (m : Nat) : Bytes := (s.chunk 0 (m * Generator.chunkSize length)).filter e.accepts

/-- The first `m` chunks have enough accepted bytes. -/
def Enough (m : Nat) : Prop := length ≤ (s.accepted e length m).length

/-- The characters of the first accepted bytes, at most `length` of them. -/
def chars (m : Nat) : List Char := ((s.accepted e length m).take length).map e.charAt

/-- The place after `m` chunks. -/
def placeAfter (length m : Nat) : Place :=
  ⟨m * Generator.chunkSize length, List.replicate m (Generator.chunkSize length)⟩

@[simp] theorem length_requests_placeAfter (length m : Nat) :
    (placeAfter length m).requests.length = m := List.length_replicate

theorem placeAfter_succ (length m : Nat) :
    placeAfter length (m + 1) = ⟨(placeAfter length m).given + Generator.chunkSize length,
      Generator.chunkSize length :: (placeAfter length m).requests⟩ := by
  rw [placeAfter, Nat.succ_mul, List.replicate_succ]
  rfl

/-- What the generator comes to with at most `fuel` requests, if it is done by then. -/
def generate (fuel : Nat) : Option (Except EntropyFailure String × Place) :=
  Generator.gather (s.fill (Generator.chunkSize length)) e length fuel [] {}

variable {s e length}

theorem accepted_succ (m : Nat) :
    s.accepted e length (m + 1) = s.accepted e length m ++
      (s.chunk (m * Generator.chunkSize length) (Generator.chunkSize length)).filter e.accepts := by
  rw [accepted, Nat.succ_mul, chunk_add, List.filter_append, Nat.zero_add]
  rfl

theorem accepted_prefix_of_le {m n : Nat} (h : m ≤ n) :
    s.accepted e length m <+: s.accepted e length n := by
  induction h with
  | refl => exact List.prefix_rfl
  | step h ih =>
    rw [accepted_succ]
    exact ih.trans (List.prefix_append _ _)

theorem Enough.mono {m n : Nat} (h : s.Enough e length m) (hmn : m ≤ n) : s.Enough e length n :=
  Nat.le_trans h (accepted_prefix_of_le hmn).length_le

/-- Further chunks add nothing to a value that is full. -/
theorem chars_eq_of_enough {m n : Nat} (h : s.Enough e length m) (hmn : m ≤ n) :
    s.chars e length n = s.chars e length m := by
  obtain ⟨rest, hrest⟩ : s.accepted e length m <+: s.accepted e length n :=
    accepted_prefix_of_le hmn
  rw [chars, ← hrest, List.take_append_of_le_length h]
  rfl

theorem length_chars_ge_iff (m : Nat) :
    length ≤ (s.chars e length m).length ↔ s.Enough e length m := by
  simp [chars, Enough]

/-- One more chunk joins what the chunks before have left of the value. -/
theorem absorb_chars (m : Nat) :
    Generator.absorb e length (s.chars e length m)
        (s.chunk (m * Generator.chunkSize length) (Generator.chunkSize length)) =
      s.chars e length (m + 1) := by
  have hleft : length - min length (s.accepted e length m).length =
      length - (s.accepted e length m).length := by omega
  rw [Generator.absorb, Encoding.filterMap_char?, ← List.map_take, chars, List.length_map,
    List.length_take, hleft, chars, accepted_succ, List.take_append, List.map_append]

end Value

/-! ## 4. The loop -/

section Loop

variable {s : ByteScript} {e : Encoding} {length : Nat}

/-- **One step of the loop.**  While the chunks are not enough and the next request does not fail,
the loop comes from what the first `m` chunks have to give to what the first `m + 1` have. -/
theorem gather_step {m : Nat} (short : ¬ s.Enough e length m) (goes : s.failure? m = none)
    (fuel : Nat) :
    Generator.gather (s.fill (Generator.chunkSize length)) e length (fuel + 1)
        (s.chars e length m) (placeAfter length m) =
      Generator.gather (s.fill (Generator.chunkSize length)) e length fuel
        (s.chars e length (m + 1)) (placeAfter length (m + 1)) := by
  have hfill : s.fill (Generator.chunkSize length) (placeAfter length m) =
      (.ok (s.chunk (m * Generator.chunkSize length) (Generator.chunkSize length)),
        placeAfter length (m + 1)) := by
    rw [fill_of_goes (by simpa using goes), placeAfter_succ]
    rfl
  rw [Generator.gather_of_ok (mt (length_chars_ge_iff m).mp short) hfill, absorb_chars]

/-- As many steps as there are chunks that are not enough. -/
theorem generate_add {n : Nat}
    (h : ∀ m < n, ¬ s.Enough e length m ∧ s.failure? m = none) (fuel : Nat) :
    s.generate e length (fuel + n) =
      Generator.gather (s.fill (Generator.chunkSize length)) e length fuel
        (s.chars e length n) (placeAfter length n) := by
  induction n generalizing fuel with
  | zero =>
    have hchars : s.chars e length 0 = [] := by simp [chars, accepted, chunk]
    have hplace : placeAfter length 0 = {} := by simp [placeAfter]
    rw [hchars, hplace]
    rfl
  | succ n ih =>
    obtain ⟨short, goes⟩ := h n (Nat.lt_succ_self n)
    rw [← gather_step short goes, ← ih (fun m hm => h m (Nat.lt_succ_of_lt hm))]
    congr 1
    omega

/-- What the generator makes of a script.  It asks for chunks of one size, as many as the least
number that is enough, and gives the first accepted bytes; a request that fails before that ends it
at once; and otherwise it never ends. -/
structure Sampled (s : ByteScript) (e : Encoding) (length : Nat) : Prop where
  made : ∀ m, IsLeast {m | s.Enough e length m} m → (∀ k < m, s.failure? k = none) →
    ∀ fuel, m ≤ fuel → s.generate e length fuel =
      some (.ok (String.ofList (s.chars e length m)), placeAfter length m)
  failed : ∀ k failure, ¬ s.Enough e length k → (∀ j < k, s.failure? j = none) →
    s.failure? k = some failure → ∀ fuel, k < fuel → s.generate e length fuel =
      some (.error failure, { placeAfter length k with
        requests := List.replicate (k + 1) (Generator.chunkSize length) })
  endless : (∀ fuel, s.generate e length fuel = none) ↔
    (∀ k, s.failure? k = none) ∧ ∀ m, ¬ s.Enough e length m

theorem generate_of_isLeast {m : Nat} (least : IsLeast {m | s.Enough e length m} m)
    (goes : ∀ k < m, s.failure? k = none) {fuel : Nat} (h : m ≤ fuel) :
    s.generate e length fuel =
      some (.ok (String.ofList (s.chars e length m)), placeAfter length m) := by
  obtain ⟨spare, rfl⟩ := Nat.exists_eq_add_of_le' h
  have short : ∀ k < m, ¬ s.Enough e length k := fun k hk henough =>
    Nat.not_le_of_lt hk (least.2 henough)
  rw [generate_add (fun k hk => ⟨short k hk, goes k hk⟩),
    Generator.gather_of_full ((length_chars_ge_iff m).mpr least.1)]

theorem generate_of_failure {k : Nat} {failure : EntropyFailure} (short : ¬ s.Enough e length k)
    (goes : ∀ j < k, s.failure? j = none) (fails : s.failure? k = some failure) {fuel : Nat}
    (h : k < fuel) :
    s.generate e length fuel = some (.error failure, { placeAfter length k with
      requests := List.replicate (k + 1) (Generator.chunkSize length) }) := by
  obtain ⟨spare, rfl⟩ : ∃ spare, fuel = spare + 1 + k := ⟨fuel - k - 1, by omega⟩
  have hfill : s.fill (Generator.chunkSize length) (placeAfter length k) =
      (.error failure, { placeAfter length k with
        requests := List.replicate (k + 1) (Generator.chunkSize length) }) := by
    rw [fill_of_failure (by simpa using fails), List.replicate_succ]
    rfl
  rw [generate_add (fun j hj => ⟨fun henough => short (henough.mono (Nat.le_of_lt hj)), goes j hj⟩),
    Generator.gather_of_error (mt (length_chars_ge_iff k).mp short) hfill]

/-- The loop ends at the first chunk that is enough or the first request that fails. -/
theorem exists_generate (h : ∃ k, s.Enough e length k ∨ s.failure? k ≠ none) :
    ∃ fuel, s.generate e length fuel ≠ none := by
  classical
  have hstop := Nat.find_spec h
  have hfirst : ∀ j < Nat.find h, ¬ (s.Enough e length j ∨ s.failure? j ≠ none) :=
    fun j hj => Nat.find_min h hj
  have goes : ∀ j < Nat.find h, s.failure? j = none := fun j hj =>
    not_not.mp fun hfails => hfirst j hj (.inr hfails)
  by_cases henough : s.Enough e length (Nat.find h)
  · have least : IsLeast {m | s.Enough e length m} (Nat.find h) :=
      ⟨henough, fun j hj => Nat.le_of_not_lt fun hlt => hfirst j hlt (.inl hj)⟩
    refine ⟨Nat.find h, ?_⟩
    rw [generate_of_isLeast least goes le_rfl]
    exact Option.some_ne_none _
  · obtain ⟨failure, fails⟩ := Option.ne_none_iff_exists'.mp (hstop.resolve_left henough)
    refine ⟨Nat.find h + 1, ?_⟩
    rw [generate_of_failure henough goes fails (Nat.lt_succ_self _)]
    exact Option.some_ne_none _

/-- Where nothing is ever enough and no request fails, no number of requests is enough. -/
theorem generate_eq_none (goes : ∀ k, s.failure? k = none) (short : ∀ m, ¬ s.Enough e length m)
    (fuel : Nat) : s.generate e length fuel = none := by
  have hrun : s.generate e length (0 + fuel) = _ := generate_add (fun m _ => ⟨short m, goes m⟩) 0
  have hspent : ¬ length ≤ (s.chars e length fuel).length :=
    mt (length_chars_ge_iff fuel).mp (short fuel)
  rw [Nat.zero_add, Generator.gather_of_spent hspent] at hrun
  exact hrun

/-- **What comes of a script.** -/
theorem sampled (s : ByteScript) (e : Encoding) (length : Nat) : s.Sampled e length where
  made m least goes fuel h := generate_of_isLeast least goes h
  failed k failure short goes fails fuel h := generate_of_failure short goes fails h
  endless := by
    constructor
    · intro never
      have hstop : ∀ k, ¬ (s.Enough e length k ∨ s.failure? k ≠ none) := fun k hk =>
        (exists_generate ⟨k, hk⟩).elim fun fuel hends => hends (never fuel)
      exact ⟨fun k => not_not.mp fun hfails => hstop k (.inr hfails),
        fun m henough => hstop m (.inl henough)⟩
    · rintro ⟨goes, short⟩
      exact generate_eq_none goes short

end Loop

end ByteScript

/-! ## 5. The scripts of a source -/

namespace ByteStream

/-- The byte at a place of the stream. -/
def byte : ByteStream → Nat → UInt8
  | s, 0 => s.next.1
  | s, n + 1 => byte s.next.2 n

theorem take_fst (s : ByteStream) (n : Nat) : (s.take n).1 = (List.range n).map s.byte := by
  induction n generalizing s with
  | zero => rfl
  | succ n ih =>
    rw [List.range_succ_eq_map, List.map_cons, List.map_map]
    exact congrArg (s.next.1 :: ·) (ih s.next.2)

theorem byte_take (s : ByteStream) (n i : Nat) : (s.take n).2.byte i = s.byte (n + i) := by
  induction n generalizing s with
  | zero => rw [Nat.zero_add]; rfl
  | succ n ih =>
    rw [Nat.succ_add]
    exact ih s.next.2

theorem take_take (s : ByteStream) (m n : Nat) :
    ((s.take m).2.take n).2 = (s.take (m + n)).2 := by
  induction m generalizing s with
  | zero => rw [Nat.zero_add]; rfl
  | succ m ih =>
    rw [Nat.succ_add]
    exact ih s.next.2

end ByteStream

/-- A source that is the image of another one makes the loop come to the image of its result. -/
theorem Generator.gather_map {σ τ : Type} {fill : σ → Except EntropyFailure Bytes × σ}
    {fill' : τ → Except EntropyFailure Bytes × τ} (image : τ → σ)
    (h : ∀ t, fill (image t) = ((fill' t).1, image (fill' t).2)) (e : Encoding) (length fuel : Nat)
    (value : List Char) (t : τ) :
    gather fill e length fuel value (image t) =
      (gather fill' e length fuel value t).map fun r => (r.1, image r.2) := by
  induction fuel generalizing value t with
  | zero =>
    by_cases hfull : length ≤ value.length
    · rw [gather_of_full hfull, gather_of_full hfull, Option.map_some]
    · rw [gather_of_spent hfull, gather_of_spent hfull, Option.map_none]
  | succ fuel ih =>
    by_cases hfull : length ≤ value.length
    · rw [gather_of_full hfull, gather_of_full hfull, Option.map_some]
    · have hfill := h t
      generalize hreply : fill' t = reply at hfill
      obtain ⟨answer, next⟩ := reply
      cases answer with
      | error failure =>
        rw [gather_of_error hfull hfill, gather_of_error hfull hreply, Option.map_some]
      | ok chunk => rw [gather_of_ok hfull hfill, gather_of_ok hfull hreply, ih]

namespace Entropy

open ByteScript

variable (source : Entropy)

/-- All that the source can do. -/
def script : ByteScript where
  bytes := source.stream.byte
  failure? k := if k < source.answers then none else some ⟨source.message⟩

/-- What is left of the source at a place of its script. -/
def left (p : Place) : Entropy where
  stream := (source.stream.take p.given).2
  answers := source.answers - p.requests.length
  message := source.message
  requests := p.requests ++ source.requests

@[simp] theorem left_start : source.left {} = source := rfl

theorem fill_left (count : Nat) (p : Place) :
    (source.left p).fill count =
      ((source.script.fill count p).1, source.left (source.script.fill count p).2) := by
  by_cases h : p.requests.length < source.answers
  · obtain ⟨answers, hanswers⟩ : ∃ answers, source.answers - p.requests.length = answers + 1 :=
      ⟨source.answers - p.requests.length - 1, by omega⟩
    have hleft : source.answers - (p.requests.length + 1) = answers := by omega
    simp [fill, left, script, ByteScript.fill, h, hanswers, hleft, chunk, ByteStream.take_fst,
      ByteStream.byte_take, ByteStream.take_take]
  · have hanswers : source.answers - p.requests.length = 0 := by omega
    have hleft : source.answers - (p.requests.length + 1) = 0 := by omega
    simp [fill, left, script, ByteScript.fill, h, hanswers, hleft]

/-- **A source does what its script says**, from any place of it on. -/
theorem generate_left (enc : Encoding) (length : Nat) (p : Place) :
    ∃ answer p', Generator.gather (source.script.fill (Generator.chunkSize length)) enc length
        ((source.left p).answers + 1) [] p = some (answer, p') ∧
      (source.left p).generate enc length = (answer, source.left p') := by
  have hmap : Generator.gather (fillChunk length) enc length ((source.left p).answers + 1) []
      (source.left p) = _ :=
    Generator.gather_map source.left (source.fill_left (Generator.chunkSize length)) enc length _
      [] p
  have hget : some ((source.left p).generate enc length) =
      Generator.gather (fillChunk length) enc length ((source.left p).answers + 1) []
        (source.left p) := Option.some_get _
  cases hrun : Generator.gather (source.script.fill (Generator.chunkSize length)) enc length
      ((source.left p).answers + 1) [] p with
  | none =>
    rw [hmap, hrun] at hget
    cases hget
  | some r =>
    rw [hmap, hrun] at hget
    exact ⟨r.1, r.2, rfl, Option.some.inj hget⟩

/-- The same from the beginning, unless no text can have that length. -/
theorem generate?_of_le {length : Nat} (h : length ≤ Generator.maxLength) (enc : Encoding) :
    ∃ answer p, source.script.generate enc length (source.answers + 1) = some (answer, p) ∧
      source.generate? enc length = some (answer, source.left p) := by
  obtain ⟨answer, p, hscript, hmade⟩ := source.generate_left enc length {}
  rw [left_start] at hscript hmade
  exact ⟨answer, p, hscript, by rw [generate?, if_pos h, hmade]⟩

end Entropy

/-! ## 6. What is asked for and what is made -/

namespace Generator

/-- Values of this length over this class are made of the accepted bytes of a stream: of whatever
a source has in store, and so of the scripts of `Entropy`. -/
structure FromStream (enc : Encoding) (length : Nat) : Prop where
  limit : IsGreatest {k : Nat | enc.size ∣ k ∧ k ≤ 256} enc.limit
  scripts : ∀ s : ByteScript, s.Sampled enc length
  sources : ∀ source : Entropy, ∃ answer p,
    source.script.generate enc length (source.answers + 1) = some (answer, p) ∧
      source.generate? enc length = some (answer, source.left p)

/-- **Values are made of the stream, if a text can have their length**; a greater length is refused
before anything is asked for. -/
theorem fromStream_iff_le_maxLength (enc : Encoding) (length : Nat) :
    FromStream enc length ↔ length ≤ maxLength := by
  constructor
  · intro h
    obtain ⟨answer, p, -, hmade⟩ :=
      h.sources { stream := .cycle [] [], answers := 0, message := "" }
    by_contra hlong
    rw [Entropy.generate?, if_neg hlong] at hmade
    cases hmade
  · intro hlength
    exact ⟨enc.limit_isGreatest, fun s => s.sampled enc length,
      fun source => source.generate?_of_le hlength enc⟩

/-- A source that answers no request. -/
def spent : Entropy := { stream := .cycle [0] [0], answers := 0, message := "down" }

/-- The least length that no text can have, 2 to the 63: going by the stream, the first request
would be for 256 bytes and would fail, but none is made. -/
theorem overlong_not_fromStream :
    spent.script.generate .digits 9223372036854775808 1 = some (.error ⟨"down"⟩, ⟨0, [256]⟩) ∧
      spent.generate? .digits 9223372036854775808 = none ∧
      ¬ FromStream .digits 9223372036854775808 := by
  refine ⟨by decide, by decide, ?_⟩
  rw [fromStream_iff_le_maxLength]
  decide

end Generator

end SecretKeeper
