/-
# Columns and digits

Padding text to a width.  Widths count code points, so a combining accent takes a place of
its own; a text that is already as wide is left alone.
-/

namespace SecretKeeper.Text

/-- The text followed by as many blanks as it takes to fill `width`. -/
def padRight (width : Nat) (s : String) : String :=
  s ++ String.ofList (List.replicate (width - s.length) ' ')

/-- The decimal digits of a number, with zeros in front up to `width`. -/
def zeroPadded (width n : Nat) : String :=
  let digits := toString n
  String.ofList (List.replicate (width - digits.length) '0') ++ digits

/-- The decimal places of `n` over ten to the `places`, without the zeros at the end. -/
def fraction (places n : Nat) : String :=
  String.ofList (((zeroPadded places n).toList.reverse.dropWhile (· == '0')).reverse)

/-- A number below 2 to the `bits`, read as decimal digits with an optional plus sign in
front.  Signs alone, blanks, separators and digits of other scripts are refused. -/
def natBelow? (bits : Nat) (s : String) : Option Nat :=
  let digits := match s.toList with
    | '+' :: rest => rest
    | cs => cs
  if digits.isEmpty || digits.any (fun c => !c.isDigit) then none
  else
    let n := digits.foldl (fun n c => n * 10 + (c.toNat - 48)) 0
    if n < Nat.pow 2 bits then some n else none

end SecretKeeper.Text
