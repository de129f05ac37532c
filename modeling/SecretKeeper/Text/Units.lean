/-
# Code units

A text may be written down in code points and in the halves of pairs: a code point above
U+FFFF is then a high half followed by a low one.  A half without its other half is no
character.
-/

namespace SecretKeeper.Text.Units

/-- The first half of a pair. -/
def isHigh (n : Nat) : Bool := 0xD800 ≤ n && n ≤ 0xDBFF

/-- The second half of a pair. -/
def isLow (n : Nat) : Bool := 0xDC00 ≤ n && n ≤ 0xDFFF

/-- The code point of a pair. -/
def joined (high low : Nat) : Nat := 0x10000 + (high - 0xD800) * 0x400 + (low - 0xDC00)

/-- The characters of the units, which are given last first, in front of `done`. -/
def charsBefore? : (units : List Nat) → (done : List Char) → Option (List Char)
  | [], done => some done
  | [n], done => if isHigh n || isLow n then none else some (Char.ofNat n :: done)
  | n :: m :: rest, done =>
    if isLow n && isHigh m then charsBefore? rest (Char.ofNat (joined m n) :: done)
    else if isHigh n || isLow n then none
    else charsBefore? (m :: rest) (Char.ofNat n :: done)

/-- The text of units that are given last first, unless a half stands alone. -/
def text? (units : List Nat) : Option String :=
  (charsBefore? units []).map String.ofList

end SecretKeeper.Text.Units
