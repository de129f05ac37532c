/-
# Magnitudes of doubles

The finite values of a double without their sign: `mantissa * 2 ^ exponent`, where the
mantissa has at most 53 bits and the exponent is at least -1074.

Every operation is the exact one, rounded once: `round?` gives the value nearest to a
quotient of natural numbers, of two equally near ones that with the even mantissa, and
nothing where that would lie beyond the greatest finite value.
-/

namespace SecretKeeper

/-- The magnitude of a finite double.  A value has one form: the mantissa has all 53 bits,
unless the exponent is the least. -/
structure Magnitude where
  mantissa : Nat
  exponent : Int
deriving DecidableEq

namespace Magnitude

/-! ## 1. Rounding -/

/-- The least exponent. -/
def leastExponent : Int := -1074

/-- The greatest exponent. -/
def greatestExponent : Int := 971

/-- Nothing. -/
def zero : Magnitude := ⟨0, leastExponent⟩

/-- The magnitude is nothing. -/
def isZero (x : Magnitude) : Bool := x.mantissa == 0

/-- The quotient rounded to the nearest natural number, a tie to the even one. -/
def nearest (num den : Nat) : Nat :=
  let q := num / den
  let r := num % den
  if 2 * r > den || (2 * r == den && q % 2 == 1) then q + 1 else q

/-- The greatest power of two that does not exceed `num / den`, if that is not zero. -/
def binaryOrder (num den : Nat) : Int :=
  let guess : Int := (num.log2 : Int) - den.log2
  if num * Nat.pow 2 (-guess).toNat < den * Nat.pow 2 guess.toNat then guess - 1 else guess

/-- The magnitude nearest to `num / den`, if there is one. -/
def round? (num den : Nat) : Option Magnitude :=
  if num == 0 then some zero
  else
    let e := max (binaryOrder num den - 52) leastExponent
    let m := nearest (num * Nat.pow 2 (-e).toNat) (den * Nat.pow 2 e.toNat)
    let x : Magnitude := if m < Nat.pow 2 53 then ⟨m, e⟩ else ⟨Nat.pow 2 52, e + 1⟩
    if x.exponent ≤ greatestExponent then some x else none

/-- The magnitude nearest to `num * 2 ^ e / den`. -/
def scaled? (num den : Nat) (e : Int) : Option Magnitude :=
  round? (num * Nat.pow 2 e.toNat) (den * Nat.pow 2 (-e).toNat)

/-- The magnitude nearest to a natural number. -/
def ofNat? (n : Nat) : Option Magnitude := round? n 1

/-! ## 2. Decimal scaling -/

/-- The product. -/
def times? (x y : Magnitude) : Option Magnitude :=
  scaled? (x.mantissa * y.mantissa) 1 (x.exponent + y.exponent)

/-- The quotient. -/
def over? (x y : Magnitude) : Option Magnitude :=
  scaled? x.mantissa y.mantissa (x.exponent - y.exponent)

/-- The greatest exponent of a power of ten. -/
def tableSize : Nat := 308

/-- A power of ten. -/
def tenTo? (n : Nat) : Option Magnitude := round? (Nat.pow 10 n) 1

/-- The magnitude divided `k` times by the greatest power of ten. -/
def lowered? : (k : Nat) → Magnitude → Option Magnitude
  | 0, x => some x
  | k + 1, x => do
    if x.isZero then some x
    else
      let x ← x.over? (← tenTo? tableSize)
      lowered? k x

/-- The magnitude of `n * 10 ^ e`.  Significand and power are rounded first, and then their
product or quotient; a power below the table is taken in several steps, each of them
rounded. -/
def ofDecimal? (n : Nat) (e : Int) : Option Magnitude := do
  let x ← ofNat? n
  if x.isZero then some x
  else if 0 ≤ e then
    if e.toNat ≤ tableSize then x.times? (← tenTo? e.toNat) else none
  else
    let steps := (e.natAbs - 1) / tableSize
    let x ← lowered? steps x
    x.over? (← tenTo? (e.natAbs - steps * tableSize))

/-! ## 3. Machine doubles -/

/-- The bits of the double without a sign. -/
def bits (x : Magnitude) : UInt64 :=
  if x.mantissa < Nat.pow 2 52 then UInt64.ofNat x.mantissa
  else UInt64.ofNat ((x.exponent + 1075).toNat * Nat.pow 2 52 + (x.mantissa - Nat.pow 2 52))

/-- The double with that magnitude. -/
def toFloat (x : Magnitude) : Float := Float.ofBits x.bits

end Magnitude

end SecretKeeper
