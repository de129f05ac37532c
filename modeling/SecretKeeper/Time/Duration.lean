/-
# Lengths of time

A duration is a number of nanoseconds.  It is written in the largest of the units second,
millisecond, microsecond and nanosecond of which it has at least one, with as many decimal
places as it needs: `30s`, `1.5s`, `250ms`, `0ns`.
-/
import SecretKeeper.Text.Columns

namespace SecretKeeper

/-- A length of time. -/
structure Duration where
  nanos : Nat
deriving DecidableEq

namespace Duration

/-- A whole number of seconds. -/
def ofSeconds (n : Nat) : Duration := ⟨n * 1000000000⟩

/-- A whole number of milliseconds. -/
def ofMillis (n : Nat) : Duration := ⟨n * 1000000⟩

/-- The whole seconds of the duration. -/
def seconds (d : Duration) : Nat := d.nanos / 1000000000

/-- The whole milliseconds of the duration. -/
def millis (d : Duration) : Nat := d.nanos / 1000000

/-- `n` units of ten to the `places` nanoseconds each, with the places that it needs. -/
def inUnit (n places : Nat) (name : String) : String :=
  let fraction := Text.fraction places (n % Nat.pow 10 places)
  let whole := toString (n / Nat.pow 10 places)
  if fraction.isEmpty || places == 0 then whole ++ name
  else whole ++ "." ++ fraction ++ name

/-- The duration in the largest unit of which it has at least one. -/
def text (d : Duration) : String :=
  if d.nanos ≥ 1000000000 then inUnit d.nanos 9 "s"
  else if d.nanos ≥ 1000000 then inUnit d.nanos 6 "ms"
  else if d.nanos ≥ 1000 then inUnit d.nanos 3 "µs"
  else inUnit d.nanos 0 "ns"

end Duration

end SecretKeeper
