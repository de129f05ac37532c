/-
# Base64

The standard alphabet with padding.  Reading is strict: the length is a multiple of four,
padding stands only at the end and in the shortest amount, and the bits that a padded group
leaves over are zero, so each sequence of bytes has exactly one written form.
-/
import SecretKeeper.Text.Bytes

namespace SecretKeeper.Text.Base64

/-- The character of a value below sixty-four. -/
def digit (n : Nat) : Char :=
  if n < 26 then Char.ofNat (65 + n)
  else if n < 52 then Char.ofNat (71 + n)
  else if n < 62 then Char.ofNat (n - 4)
  else if n = 62 then '+'
  else '/'

/-- The value of a character of the alphabet. -/
def value? (c : Char) : Option Nat :=
  let n := c.toNat
  if 65 ≤ n && n ≤ 90 then some (n - 65)
  else if 97 ≤ n && n ≤ 122 then some (n - 71)
  else if 48 ≤ n && n ≤ 57 then some (n + 4)
  else if c == '+' then some 62
  else if c == '/' then some 63
  else none

/-- Four characters for three bytes; the last group may be shorter and is padded. -/
def encodeChars : Bytes → List Char
  | [] => []
  | [a] => [digit (a.toNat / 4), digit (a.toNat % 4 * 16), '=', '=']
  | [a, b] =>
    [digit (a.toNat / 4), digit (a.toNat % 4 * 16 + b.toNat / 16),
      digit (b.toNat % 16 * 4), '=']
  | a :: b :: c :: rest =>
    digit (a.toNat / 4) :: digit (a.toNat % 4 * 16 + b.toNat / 16) ::
      digit (b.toNat % 16 * 4 + c.toNat / 64) :: digit (c.toNat % 64) :: encodeChars rest

/-- The base64 form of the bytes. -/
def encode (bs : Bytes) : String := String.ofList (encodeChars bs)

/-- One group of four characters, which must be the last if it is padded. -/
def group? (w x y z : Char) (last : Bool) : Option Bytes := do
  let a ← value? w
  let b ← value? x
  if y == '=' then
    if z == '=' && last && b % 16 == 0 then
      return [UInt8.ofNat (a * 4 + b / 16)]
    else none
  else
    let c ← value? y
    if z == '=' then
      if last && c % 4 == 0 then
        return [UInt8.ofNat (a * 4 + b / 16), UInt8.ofNat (b % 16 * 16 + c / 4)]
      else none
    else
      let d ← value? z
      return [UInt8.ofNat (a * 4 + b / 16), UInt8.ofNat (b % 16 * 16 + c / 4),
        UInt8.ofNat (c % 4 * 64 + d)]

/-- The bytes of a written form, group by group. -/
def decodeChars? : List Char → Option Bytes
  | [] => some []
  | w :: x :: y :: z :: rest => do
    let bs ← group? w x y z rest.isEmpty
    let more ← decodeChars? rest
    return bs ++ more
  | _ => none

/-- The bytes whose base64 form the text is. -/
def decode? (s : String) : Option Bytes := decodeChars? s.toList

end SecretKeeper.Text.Base64
