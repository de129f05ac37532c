/-
# Backoff

How long to wait before a failed claim is tried again.  The delays of one claim follow the
Fibonacci numbers, in minutes, from the least delay up to a cap.  All arithmetic stops at
the greatest number of 64 bits.

The table holds an entry for each claim that failed since its last success.  A table that
was left locked by a failure is of no more use: it then has no entries, and every delay is
the same.
-/
import SecretKeeper.Dict

namespace SecretKeeper

/-! ## 1. One sequence of delays -/

/-- The greatest number of 64 bits. -/
def wordMax : Nat := Nat.pow 2 64 - 1

/-- The greatest number of 32 bits, where the count of errors stops. -/
def countMax : Nat := Nat.pow 2 32 - 1

/-- The next two delays of a sequence, in minutes, and its cap. -/
structure Backoff where
  previous : Nat
  current : Nat
  most : Nat
deriving DecidableEq

namespace Backoff

/-- A sequence that starts at `least` minutes, but not below one, and stays at `most`; a
cap below the start is raised to it. -/
def start (least most : Nat) : Backoff :=
  { previous := 0, current := max least 1, most := max most (max least 1) }

/-- The delay that is due, in seconds. -/
def seconds (b : Backoff) : Nat := min (b.current * 60) wordMax

/-- The sequence after one delay. -/
def next (b : Backoff) : Backoff :=
  { b with previous := b.current, current := min (min (b.previous + b.current) wordMax) b.most }

/-- The first `n` delays, in seconds. -/
def delays : (n : Nat) → Backoff → List Nat
  | 0, _ => []
  | n + 1, b => b.seconds :: delays n b.next

end Backoff

/-! ## 2. The table -/

/-- The failures of one claim since its last success. -/
structure BackoffEntry where
  backoff : Backoff
  errorCount : Nat := 0
deriving DecidableEq

namespace BackoffEntry

/-- One more failure. -/
def failed (e : BackoffEntry) : BackoffEntry :=
  { e with errorCount := min (e.errorCount + 1) countMax }

/-- Counts a failure and gives the delay that is due. -/
def advance (e : BackoffEntry) : Nat × BackoffEntry :=
  let e := e.failed
  (e.backoff.seconds, { e with backoff := e.backoff.next })

/-- The error counts and delays of the next `n` failures. -/
def history : (n : Nat) → BackoffEntry → List (Nat × Nat)
  | 0, _ => []
  | n + 1, e =>
    let (delay, e) := e.advance
    (e.errorCount, delay) :: history n e

end BackoffEntry

/-- The entries of all claims that carry a backoff. -/
inductive BackoffTable where
  | usable (entries : Dict BackoffEntry)
  /-- The table was left locked. -/
  | poisoned
deriving DecidableEq

namespace BackoffTable

/-- No claim carries a backoff. -/
def empty : BackoffTable := .usable ∅

/-- The delay where the table is of no use, in seconds. -/
def fallback : Nat := 60

/-- Advances the entry of `key`: the delay in seconds, the number of failures in a row, and
the table after it. -/
def advance (least most : Nat) (key : String) : BackoffTable → (Nat × Nat) × BackoffTable
  | .poisoned => ((fallback, 0), .poisoned)
  | .usable entries =>
    let (delay, entry) := (entries[key]?.getD ⟨.start least most, 0⟩).advance
    ((delay, entry.errorCount), .usable (entries.insert key entry))

/-- Drops the entry of `key`. -/
def forget (key : String) : BackoffTable → BackoffTable
  | .poisoned => .poisoned
  | .usable entries => .usable (entries.erase key)

/-- The number of claims that carry a backoff. -/
def size : BackoffTable → Nat
  | .poisoned => 0
  | .usable entries => entries.size

end BackoffTable

end SecretKeeper
