/-
# Instants

An instant is a number of seconds since 1970 with nanoseconds beside it; a leap second is
the last second of a minute with a nanosecond count of a thousand million or more.  The
calendar is the Gregorian one, continued over all years, and dates run from the first day
of year -262143 to the last of year 262142.

`Instant.stamp` is the RFC 3339 text to whole seconds.  Years of four digits are written
plainly, all others with a sign.
-/
import SecretKeeper.Text.Columns

namespace SecretKeeper

/-- A day of the Gregorian calendar. -/
structure Date where
  year : Int
  month : Nat
  day : Nat
deriving DecidableEq

namespace Date

/-- The date `n` days after 1970-01-01.  Years are counted from March, so that the leap
day is the last of its year, in eras of 400 years, which are all equally long. -/
def ofDay (n : Int) : Date :=
  let shifted := n + 719468
  let era := shifted / 146097
  let dayOfEra := (shifted % 146097).toNat
  let yearOfEra :=
    (dayOfEra - dayOfEra / 1460 + dayOfEra / 36524 - dayOfEra / 146096) / 365
  let dayOfYear := dayOfEra - (365 * yearOfEra + yearOfEra / 4 - yearOfEra / 100)
  let shiftedMonth := (5 * dayOfYear + 2) / 153
  let month := if shiftedMonth < 10 then shiftedMonth + 3 else shiftedMonth - 9
  { year := yearOfEra + era * 400 + (if month ≤ 2 then 1 else 0)
    month := month
    day := dayOfYear - (153 * shiftedMonth + 2) / 5 + 1 }

/-- Years from 0 to 9999 have four digits; all others have a sign and at least four. -/
def yearText (y : Int) : String :=
  if 0 ≤ y ∧ y ≤ 9999 then Text.zeroPadded 4 y.toNat
  else (if y < 0 then "-" else "+") ++ Text.zeroPadded 4 y.natAbs

/-- Year, month and day, joined by hyphens. -/
def text (d : Date) : String :=
  yearText d.year ++ "-" ++ Text.zeroPadded 2 d.month ++ "-" ++ Text.zeroPadded 2 d.day

end Date

/-- A point in time. -/
structure Instant where
  secs : Int
  nanos : Nat := 0
deriving DecidableEq

namespace Instant

/-- The day of the instant, counted from 1970-01-01. -/
def dayNumber (t : Instant) : Int := t.secs / 86400

/-- The second of the day. -/
def secondOfDay (t : Instant) : Nat := (t.secs % 86400).toNat

/-- The date of the instant. -/
def date (t : Instant) : Date := Date.ofDay t.dayNumber

/-- The first and the last second that have a date. -/
def bounds : Int × Int := (-8334601228800, 8210266876799)

/-- The instant has a date, and more than a second's worth of nanoseconds only in the last
second of a minute. -/
def isValid (t : Instant) : Bool :=
  bounds.1 ≤ t.secs && t.secs ≤ bounds.2 && t.nanos < 2000000000 &&
    (t.nanos < 1000000000 || t.secs % 60 == 59)

/-- The instant of these seconds and nanoseconds, if there is one. -/
def ofParts? (secs : Int) (nanos : Nat) : Option Instant :=
  let t : Instant := ⟨secs, nanos⟩
  if t.isValid then some t else none

/-- Hours, minutes and seconds of the day; a leap second is the sixtieth. -/
def clock (t : Instant) : String :=
  let s := t.secondOfDay
  let second := s % 60 + t.nanos / 1000000000
  Text.zeroPadded 2 (s / 3600) ++ ":" ++ Text.zeroPadded 2 (s / 60 % 60) ++ ":" ++
    Text.zeroPadded 2 second

/-- The instant to whole seconds in universal time. -/
def stamp (t : Instant) : String := t.date.text ++ "T" ++ t.clock ++ "Z"

/-- The instant `n` seconds later, if it has a date. -/
def later? (t : Instant) (n : Nat) : Option Instant := ofParts? (t.secs + n) t.nanos

end Instant

end SecretKeeper
