/-
# Generated values

A value is filled from random bytes by rejection: a byte below the encoding's limit gives
the character of its remainder, all others are thrown away, so every character is equally
likely.  Bytes are asked for in chunks of one size, and what is left of the last chunk is
dropped.

`gather` is the loop over any source, bounded by a number of requests.  For an `Entropy`
the number of requests that are answered bounds the loop, so `Entropy.generate` always ends:
`gather_isSome` is the reason.
-/
import SecretKeeper.Value.Encoding
import SecretKeeper.Value.Entropy

namespace SecretKeeper

namespace Generator

/-- The bytes asked for at once: the length of the value, but at least 16 and at most 256. -/
def chunkSize (length : Nat) : Nat := max 16 (min length 256)

/-- The most characters that a text can have. -/
def maxLength : Nat := Nat.pow 2 63 - 1

/-- The value after one more chunk: the accepted characters join it until it is full. -/
def absorb (e : Encoding) (length : Nat) (value : List Char) (chunk : Bytes) : List Char :=
  value ++ (chunk.filterMap e.char?).take (length - value.length)

/-- Asks `fill` for chunks until the value is full, at most `fuel` times; none if that was
not enough.  A failing request ends the loop with its error. -/
def gather {σ : Type} (fill : σ → Except EntropyFailure Bytes × σ) (e : Encoding)
    (length : Nat) : (fuel : Nat) → (value : List Char) → σ →
    Option (Except EntropyFailure String × σ)
  | fuel, value, s =>
    if length ≤ value.length then some (.ok (String.ofList value), s)
    else
      match fuel with
      | 0 => none
      | fuel + 1 =>
        match fill s with
        | (.error failure, s) => some (.error failure, s)
        | (.ok chunk, s) => gather fill e length fuel (absorb e length value chunk) s

section Steps

variable {σ : Type} {fill : σ → Except EntropyFailure Bytes × σ} {e : Encoding}
  {length fuel : Nat} {value : List Char} {s s' : σ}

/-- A full value is given at once. -/
theorem gather_of_full (h : length ≤ value.length) :
    gather fill e length fuel value s = some (.ok (String.ofList value), s) := by
  unfold gather
  rw [if_pos h]

theorem gather_of_spent (h : ¬ length ≤ value.length) :
    gather fill e length 0 value s = none := by
  rw [gather, if_neg h]

theorem gather_of_error {failure : EntropyFailure} (h : ¬ length ≤ value.length)
    (hf : fill s = (.error failure, s')) :
    gather fill e length (fuel + 1) value s = some (.error failure, s') := by
  rw [gather, if_neg h]
  simp only [hf]

theorem gather_of_ok {chunk : Bytes} (h : ¬ length ≤ value.length)
    (hf : fill s = (.ok chunk, s')) :
    gather fill e length (fuel + 1) value s =
      gather fill e length fuel (absorb e length value chunk) s' := by
  rw [gather, if_neg h]
  simp only [hf]

end Steps

end Generator

namespace Entropy

/-- One request for a chunk of the size that values of this length ask for. -/
def fillChunk (length : Nat) (e : Entropy) : Except EntropyFailure Bytes × Entropy :=
  e.fill (Generator.chunkSize length)

/-- More requests than the source answers are always enough. -/
theorem gather_isSome (enc : Encoding) (length : Nat) (fuel : Nat) :
    ∀ (value : List Char) (e : Entropy), e.answers < fuel →
      (Generator.gather (fillChunk length) enc length fuel value e).isSome = true := by
  induction fuel with
  | zero => intro _ _ h; omega
  | succ fuel ih =>
    intro value e h
    unfold Generator.gather
    by_cases hl : length ≤ value.length
    · simp [hl]
    · simp only [hl, if_false]
      generalize hf : fillChunk length e = r
      obtain ⟨answer, next⟩ := r
      cases answer with
      | error _ => rfl
      | ok chunk =>
        have hok : (e.fill (Generator.chunkSize length)).1 = .ok chunk := by
          rw [fillChunk] at hf; rw [hf]
        have hnext := answers_fill_of_ok hok
        rw [fillChunk] at hf
        rw [hf] at hnext
        exact ih _ _ (by simp at hnext; omega)

/-- A value of `length` characters of the encoding, and the source after it. -/
def generate (enc : Encoding) (length : Nat) (e : Entropy) :
    Except EntropyFailure String × Entropy :=
  (Generator.gather (fillChunk length) enc length (e.answers + 1) [] e).get
    (gather_isSome enc length _ [] e (by omega))

/-- The same, unless no text can have that length; the source is then not asked. -/
def generate? (enc : Encoding) (length : Nat) (e : Entropy) :
    Option (Except EntropyFailure String × Entropy) :=
  if length ≤ Generator.maxLength then some (e.generate enc length) else none

end Entropy

end SecretKeeper
