/-
# Shortest decimals

The decimal with the fewest digits that still rounds to a given magnitude, and of those the
nearest one.  It is found by exact arithmetic: the numbers that round to a magnitude form an
interval, and on the grid of `n` leading digits only the two neighbours of the magnitude
have to be tried.
-/
import SecretKeeper.Number.Magnitude

namespace SecretKeeper

/-- The number `digits * 10 ^ exponent`. -/
structure Decimal where
  digits : Nat
  exponent : Int
deriving DecidableEq

namespace Magnitude

/-- Compares `a * 10 ^ i` with `n * 2 ^ j`. -/
def compareScaled (a : Nat) (i : Int) (n : Nat) (j : Int) : Ordering :=
  compare (a * Nat.pow 10 i.toNat * Nat.pow 2 (-j).toNat)
    (n * Nat.pow 2 j.toNat * Nat.pow 10 (-i).toNat)

/-- The next smaller magnitude is only half as far away as the next greater one. -/
def narrowBelow (x : Magnitude) : Bool :=
  x.mantissa == Nat.pow 2 52 && leastExponent < x.exponent

/-- The decimal rounds to the magnitude.  The ends of the interval round to an even
mantissa. -/
def roundsFrom (x : Magnitude) (d : Decimal) : Bool :=
  let low := 4 * x.mantissa - (if x.narrowBelow then 1 else 2)
  let high := 4 * x.mantissa + 2
  let endsIn := x.mantissa % 2 == 0
  let below := compareScaled d.digits d.exponent low (x.exponent - 2)
  let above := compareScaled d.digits d.exponent high (x.exponent - 2)
  (below == .gt || (endsIn && below == .eq)) && (above == .lt || (endsIn && above == .eq))

/-- The least `k` such that the magnitude is below `10 ^ k`, if it is not zero: the binary
order gives it up to one. -/
def decimalOrder (x : Magnitude) : Int :=
  let guess := (((x.mantissa.log2 : Int) + x.exponent) * 30103) / 100000
  let above := fun (k : Int) => compareScaled 1 k x.mantissa x.exponent == .gt
  if above guess then guess else if above (guess + 1) then guess + 1 else guess + 2

/-- The greatest point of the grid `10 ^ g` that does not exceed the magnitude. -/
def gridFloor (x : Magnitude) (g : Int) : Nat :=
  x.mantissa * Nat.pow 2 x.exponent.toNat * Nat.pow 10 (-g).toNat /
    (Nat.pow 2 (-x.exponent).toNat * Nat.pow 10 g.toNat)

/-- Of two neighbours on a grid that both round to the magnitude the nearer one; in a tie
the even one. -/
def nearer (x : Magnitude) (c : Nat) (g : Int) : Decimal :=
  match compareScaled (2 * c + 1) g (2 * x.mantissa) x.exponent with
  | .gt => ⟨c, g⟩
  | .lt => ⟨c + 1, g⟩
  | .eq => if c % 2 == 0 then ⟨c, g⟩ else ⟨c + 1, g⟩

/-- A decimal of `n` digits that rounds to the magnitude, if there is one. -/
def withDigits? (x : Magnitude) (n : Nat) : Option Decimal :=
  let g := x.decimalOrder - n
  let c := x.gridFloor g
  match x.roundsFrom ⟨c, g⟩, x.roundsFrom ⟨c + 1, g⟩ with
  | true, true => some (x.nearer c g)
  | true, false => some ⟨c, g⟩
  | false, true => some ⟨c + 1, g⟩
  | false, false => none

/-- All digits of the magnitude. -/
def exactDecimal (x : Magnitude) : Decimal :=
  if 0 ≤ x.exponent then ⟨x.mantissa * Nat.pow 2 x.exponent.toNat, 0⟩
  else ⟨x.mantissa * Nat.pow 5 x.exponent.natAbs, x.exponent⟩

/-- The most digits that a double can need. -/
def mostDigits : Nat := 17

end Magnitude

/-- Zeros at the end of the digits go into the exponent, at most `steps` of them. -/
def Decimal.strip : (steps : Nat) → Decimal → Decimal
  | 0, d => d
  | steps + 1, d => if d.digits % 10 == 0 then strip steps ⟨d.digits / 10, d.exponent + 1⟩ else d

/-- The shortest decimal that rounds to the magnitude. -/
def Magnitude.shortest (x : Magnitude) : Decimal :=
  if x.isZero then ⟨0, 0⟩
  else
    let found := (List.range mostDigits).findSome? fun n => x.withDigits? (n + 1)
    (found.getD x.exactDecimal).strip mostDigits

end SecretKeeper
