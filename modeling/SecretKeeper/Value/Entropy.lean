/-
# Entropy

Where random bytes come from.  A script yields an endless stream of bytes, but answers only
a given number of requests; all later ones fail with its message.  It keeps account of the
size of every request, the failing ones included.
-/
import SecretKeeper.Text.Bytes

namespace SecretKeeper

/-- The source of random bytes failed. -/
structure EntropyFailure where
  reason : String
deriving DecidableEq

/-- What is written about the failure. -/
def EntropyFailure.message (e : EntropyFailure) : String :=
  "secure random source failed: " ++ e.reason

/-- An endless stream of bytes. -/
inductive ByteStream where
  /-- The bytes `all` over and over; `rest` is what is left of the current round. -/
  | cycle (all rest : Bytes)
  /-- The top bytes of a linear congruential sequence modulo 2 to the 64. -/
  | congruential (state : UInt64)

namespace ByteStream

/-- The next byte, and the stream after it. -/
def next : ByteStream → UInt8 × ByteStream
  | .cycle all (b :: rest) => (b, .cycle all rest)
  | .cycle (b :: rest) [] => (b, .cycle (b :: rest) rest)
  | .cycle [] [] => (0, .cycle [] [])
  | .congruential x =>
    let x := x * 6364136223846793005 + 1442695040888963407
    ((x >>> 56).toUInt8, .congruential x)

/-- The next `n` bytes, and the stream after them. -/
def take : (n : Nat) → ByteStream → Bytes × ByteStream
  | 0, s => ([], s)
  | n + 1, s =>
    let (b, s) := s.next
    let (bs, s) := take n s
    (b :: bs, s)

end ByteStream

/-- A source of random bytes that may fail. -/
structure Entropy where
  stream : ByteStream
  /-- The number of requests that are still answered. -/
  answers : Nat
  /-- The message of the failure after that. -/
  message : String
  /-- The sizes of all requests so far, the last one first. -/
  requests : List Nat := []

namespace Entropy

/-- Asks for `n` bytes. -/
def fill (n : Nat) (e : Entropy) : Except EntropyFailure Bytes × Entropy :=
  match e.answers with
  | 0 => (.error ⟨e.message⟩, { e with requests := n :: e.requests })
  | answers + 1 =>
    let (bs, stream) := e.stream.take n
    (.ok bs, { e with stream := stream, answers := answers, requests := n :: e.requests })

/-- The source with a clean account. -/
def restarted (e : Entropy) : Entropy := { e with requests := [] }

/-- The sizes of all requests so far, in order. -/
def fills (e : Entropy) : List Nat := e.requests.reverse

theorem answers_fill_of_ok {n : Nat} {e : Entropy} {bs : Bytes}
    (h : (e.fill n).1 = .ok bs) : (e.fill n).2.answers + 1 = e.answers := by
  unfold fill at h ⊢
  split at h
  · simp at h
  · simp_all

end Entropy

end SecretKeeper
