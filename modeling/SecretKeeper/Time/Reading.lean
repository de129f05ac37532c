/-
# Reading instants

An instant is written as a date, a time of day and an offset from universal time, such as
`2024-05-06T07:08:09.5+02:00`.  The form is that of RFC 3339 with some freedom: blanks may
stand in front of every part, numbers may be short, a blank may replace the T, years may
have a sign and then any length, and universal time may be named.
-/
import SecretKeeper.Text.Blank
import SecretKeeper.Time.Instant

namespace SecretKeeper

/-- The number of the day of a date, counted from 1970-01-01.  It undoes `Date.ofDay`, and
of what is no date it makes the number of some other day. -/
def Date.dayNumber (d : Date) : Int :=
  let year := if d.month ≤ 2 then d.year - 1 else d.year
  let era := year / 400
  let yearOfEra := year - era * 400
  let dayOfYear : Int := (153 * ((d.month + 9) % 12) + 2) / 5 + d.day - 1
  era * 146097 + yearOfEra * 365 + yearOfEra / 4 - yearOfEra / 100 + dayOfYear - 719468

/-- The date is in the calendar. -/
def Date.isReal (d : Date) : Bool := Date.ofDay d.dayNumber == d

namespace Instant.Reading

/-! ## 1. Parts -/

/-- The characters without the blanks in front. -/
def unblank (cs : List Char) : List Char := cs.dropWhile Text.isBlank

/-- A number of at least one and at most `most` digits, and the rest. -/
def digits? (most : Nat) (cs : List Char) : Option (Nat × List Char) :=
  let digits := (cs.take most).takeWhile Char.isDigit
  if digits.isEmpty then none
  else some (digits.foldl (fun n c => n * 10 + (c.toNat - 48)) 0, cs.drop digits.length)

/-- A number of one or two digits after blanks. -/
def pair? (cs : List Char) : Option (Nat × List Char) := digits? 2 (unblank cs)

/-- A year: four digits at most, or a sign and any number of digits. -/
def year? (cs : List Char) : Option (Int × List Char) :=
  match unblank cs with
  | '-' :: rest => (digits? rest.length rest).map fun (n, rest) => (-n, rest)
  | '+' :: rest => (digits? rest.length rest).map fun (n, rest) => (n, rest)
  | rest => (digits? 4 rest).map fun (n, rest) => (n, rest)

/-- The rest after a sign that may follow blanks. -/
def after? (sign : Char) (cs : List Char) : Option (List Char) :=
  match unblank cs with
  | c :: rest => if c == sign then some rest else none
  | [] => none

/-- The rest after what stands between date and time. -/
def betweenParts? : List Char → Option (List Char)
  | c :: rest => if c == 'T' || c == 't' || c == ' ' then some rest else none
  | [] => none

/-- The nanoseconds of a fraction, if there is one; digits after the ninth do not count. -/
def nanos? : List Char → Option (Nat × List Char)
  | '.' :: cs => do
    let (n, rest) ← digits? 9 cs
    let places := cs.length - rest.length
    return (n * Nat.pow 10 (9 - places), rest.dropWhile Char.isDigit)
  | cs => some (0, cs)

/-- Exactly two digits, as a number. -/
def twoDigits? : List Char → Option (Nat × List Char)
  | c :: d :: rest =>
    if c.isDigit && d.isDigit then digits? 2 (c :: d :: rest) else none
  | _ => none

/-- The seconds by which a written time is ahead, from hours and minutes. -/
def ahead? (cs : List Char) : Option (Nat × List Char) := do
  let (hours, rest) ← twoDigits? cs
  let (minutes, rest) ← twoDigits? (rest.dropWhile fun c => c == ':' || Text.isBlank c)
  if minutes < 60 && hours < 24 then some (hours * 3600 + minutes * 60, rest) else none

/-- The offset in seconds. -/
def offset? : List Char → Option (Int × List Char)
  | '+' :: rest => (ahead? rest).map fun (n, rest) => (n, rest)
  | '-' :: rest => (ahead? rest).map fun (n, rest) => (-n, rest)
  | '−' :: rest => (ahead? rest).map fun (n, rest) => (-n, rest)
  | c :: rest =>
    if c == 'Z' || c == 'z' then some (0, rest)
    else if ((c :: rest).take 3).map Char.toUpper == ['U', 'T', 'C'] then some (0, rest.drop 2)
    else none
  | [] => none

/-! ## 2. Instants -/

/-- The instant of a date and a time of day as they are written, if both exist.  The
sixtieth second is a leap second. -/
def place? (date : Date) (hour minute second nanos : Nat) : Option Instant :=
  if date.isReal && hour < 24 && minute < 60 && second ≤ 60 then
    let leap := second == 60
    ofParts? (date.dayNumber * 86400 + (hour * 3600 + minute * 60 + min second 59 : Nat))
      (if leap then nanos + 1000000000 else nanos)
  else none

/-- The instant that the characters are written as. -/
def instant? (cs : List Char) : Option Instant := do
  let (year, cs) ← year? cs
  let (month, cs) ← (after? '-' cs).bind pair?
  let (day, cs) ← (after? '-' cs).bind pair?
  let (hour, cs) ← (betweenParts? cs).bind pair?
  let (minute, cs) ← (after? ':' cs).bind pair?
  let (second, cs) ← (after? ':' cs).bind pair?
  let (nanos, cs) ← nanos? cs
  let (offset, cs) ← offset? (unblank cs)
  if !(unblank cs).isEmpty then none
  let t ← place? ⟨year, month, day⟩ hour minute second nanos
  ofParts? (t.secs - offset) t.nanos

end Instant.Reading

/-- The instant that a text is written as. -/
def Instant.ofText? (s : String) : Option Instant := Reading.instant? s.toList

end SecretKeeper
