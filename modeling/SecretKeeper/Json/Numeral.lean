/-
# Numerals

How numbers are written: a sign, digits without a zero in front, decimal places and a power
of ten.

The value of a numeral is an integer where it has neither places nor a power and fits into
64 bits.  Any other numeral is a double, for which its digits count as far as they fit into
64 bits: of the others those before the point raise the power, and those behind it do not
matter.
-/
import SecretKeeper.Number

namespace SecretKeeper

/-- A written number. -/
structure Numeral where
  negative : Bool
  whole : List Nat
  /-- The digits behind the point, if there is one. -/
  places : Option (List Nat)
  power : Option Int
deriving DecidableEq

namespace Numeral

/-! ## 1. Form -/

/-- The value of a digit. -/
def digit (c : Char) : Nat := c.toNat - 48

/-- The digits in front, and the rest. -/
def splitDigits (cs : List Char) : List Nat × List Char :=
  ((cs.takeWhile Char.isDigit).map digit, cs.dropWhile Char.isDigit)

/-- The digits behind a point, if there is one, and the rest. -/
def places? : List Char → Option (Option (List Nat) × List Char)
  | '.' :: cs =>
    let (digits, rest) := splitDigits cs
    if digits.isEmpty then none else some (some digits, rest)
  | cs => some (none, cs)

/-- The value of a list of digits. -/
def valueOf (digits : List Nat) : Nat := digits.foldl (fun n d => n * 10 + d) 0

/-- The power of ten that the characters are, if they are one or none. -/
def power? : List Char → Option (Option Int)
  | [] => some none
  | c :: cs =>
    if c == 'e' || c == 'E' then
      let (negative, cs) := match cs with
        | '-' :: rest => (true, rest)
        | '+' :: rest => (false, rest)
        | rest => (false, rest)
      let (digits, rest) := splitDigits cs
      if digits.isEmpty || !rest.isEmpty then none
      else
        let n : Int := valueOf digits
        some (some (if negative then -n else n))
    else none

/-- The numeral of characters without a sign. -/
def ofUnsigned? (negative : Bool) (cs : List Char) : Option Numeral := do
  let (whole, rest) := splitDigits cs
  if whole.isEmpty || (whole.length > 1 && whole.head? == some 0) then none
  let (places, rest) ← places? rest
  let power ← power? rest
  return { negative := negative, whole := whole, places := places, power := power }

/-- The numeral that the characters are. -/
def ofChars? : List Char → Option Numeral
  | '-' :: cs => ofUnsigned? true cs
  | cs => ofUnsigned? false cs

/-! ## 2. Value -/

/-- The number that `n` becomes by the digits behind it, as far as it stays below `2 ^ 64`,
and the digits that are left. -/
def absorb : (n : Nat) → (digits : List Nat) → Nat × List Nat
  | n, [] => (n, [])
  | n, d :: rest => if n * 10 + d < Nat.pow 2 64 then absorb (n * 10 + d) rest else (n, d :: rest)

/-- The integer, where the numeral is one.  Minus zero is none. -/
def int? (x : Numeral) : Option Int :=
  let n := valueOf x.whole
  if x.places.isSome || x.power.isSome then none
  else if x.negative then if 0 < n ∧ n ≤ Nat.pow 2 63 then some (-n) else none
  else if n < Nat.pow 2 64 then some n else none

/-- The magnitude of the double nearest to what counts of the numeral. -/
def magnitude? (x : Numeral) : Option Magnitude :=
  let (n, above) := absorb 0 x.whole
  let places := x.places.getD []
  let (n, dropped) := absorb n places
  let shift : Int := above.length - (places.length - dropped.length : Nat)
  Magnitude.ofDecimal? n (shift + x.power.getD 0)

/-- The number, unless it lies beyond all doubles. -/
def value? (x : Numeral) : Option Number :=
  match x.int? with
  | some n => some (.int n)
  | none => x.magnitude?.map (.real x.negative)

end Numeral

end SecretKeeper
