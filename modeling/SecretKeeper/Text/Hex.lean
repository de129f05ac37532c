/-
# Hexadecimal

Bytes as pairs of hexadecimal digits, most significant first, and numbers in base sixteen.
-/
import SecretKeeper.Text.Bytes

namespace SecretKeeper.Text.Hex

/-- The small digit of a value below sixteen. -/
def digit (n : Nat) : Char :=
  if n < 10 then Char.ofNat (48 + n) else Char.ofNat (87 + n)

/-- The value of a digit of either case. -/
def value? (c : Char) : Option Nat :=
  let n := c.toNat
  if 48 ≤ n && n ≤ 57 then some (n - 48)
  else if 97 ≤ n && n ≤ 102 then some (n - 87)
  else if 65 ≤ n && n ≤ 70 then some (n - 55)
  else none

/-- Two digits for each byte. -/
def encodeChars : Bytes → List Char
  | [] => []
  | b :: rest => digit (b.toNat / 16) :: digit (b.toNat % 16) :: encodeChars rest

/-- The bytes written in small digits. -/
def encode (bs : Bytes) : String := String.ofList (encodeChars bs)

/-- The bytes of an even number of digits. -/
def decodeChars? : List Char → Option Bytes
  | [] => some []
  | [_] => none
  | high :: low :: rest => do
    let h ← value? high
    let l ← value? low
    let bs ← decodeChars? rest
    return UInt8.ofNat (h * 16 + l) :: bs

/-- The bytes that a text of hexadecimal digits stands for. -/
def decode? (s : String) : Option Bytes := decodeChars? s.toList

/-- The number that hexadecimal digits stand for; there is at least one. -/
def number? (digits : List Char) : Option Nat :=
  if digits.isEmpty then none
  else digits.foldlM (fun n c => (value? c).map (n * 16 + ·)) 0

/-- The last `width` digits of a number, with zeros in front where it has fewer. -/
def padded : (width : Nat) → Nat → List Char
  | 0, _ => []
  | width + 1, n => padded width (n / 16) ++ [digit (n % 16)]

end SecretKeeper.Text.Hex
