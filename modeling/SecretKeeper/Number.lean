/-
# Numbers

A number is an integer of at most 64 bits or a finite double.  The two are told apart even
where they are equal, because a field that holds an integer refuses `8.0`.
-/
import SecretKeeper.Number.Shortest

namespace SecretKeeper

/-- A number. -/
inductive Number where
  | int (n : Int)
  | real (negative : Bool) (magnitude : Magnitude)
deriving DecidableEq

namespace Number

/-- A whole number as a double. -/
def wholeReal (n : Nat) : Number := .real false ((Magnitude.ofNat? n).getD .zero)

/-- The double nearest to the number. -/
def toFloat : Number → Float
  | .int n =>
    let x := ((Magnitude.ofNat? n.natAbs).getD .zero).toFloat
    if n < 0 then -x else x
  | .real negative x => if negative then -x.toFloat else x.toFloat

/-! ## Texts -/

/-- The digits of a decimal with the point after the first `whole` of them, and a zero where
a side is empty. -/
def positional (digits : List Char) (whole : Int) : List Char :=
  if whole ≤ 0 then ['0', '.'] ++ List.replicate whole.natAbs '0' ++ digits
  else
    let n := whole.toNat
    if digits.length ≤ n then digits ++ List.replicate (n - digits.length) '0' ++ ['.', '0']
    else digits.take n ++ ['.'] ++ digits.drop n

/-- One digit before the point, and the power of ten. -/
def scientific (digits : List Char) (power : Int) : List Char :=
  let fraction := digits.drop 1
  digits.take 1 ++ (if fraction.isEmpty then [] else '.' :: fraction) ++
    ['e', if power < 0 then '-' else '+'] ++ (toString power.natAbs).toList

/-- A decimal is written with its point in place if that lies from four zeros behind the
point to sixteen digits before it. -/
def decimalText (d : Decimal) : String :=
  let digits := (toString d.digits).toList
  let whole := digits.length + d.exponent
  String.ofList <|
    if d.digits == 0 then ['0', '.', '0']
    else if -5 < whole && whole ≤ 16 then positional digits whole
    else scientific digits (whole - 1)

/-- The text of a number: a double has the fewest digits that read back, and always a point
or an exponent. -/
def text : Number → String
  | .int n => toString n
  | .real negative x => (if negative then "-" else "") ++ decimalText x.shortest

end Number

end SecretKeeper
