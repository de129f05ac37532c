/-
# Quoted text

A text between double quotes with everything escaped that would not be seen: quote and
backslash by a backslash, the usual controls by a letter, and the other characters that are
not shown by their number in braces.
-/
import SecretKeeper.Text.Hex
import SecretKeeper.Text.Invisible

namespace SecretKeeper.Text.Quoted

/-- The hexadecimal digits of a number, without zeros in front. -/
def shortHex (n : Nat) : List Char :=
  match (Hex.padded 6 n).dropWhile (· == '0') with
  | [] => ['0']
  | digits => digits

/-- The escape of a character by its number. -/
def byNumber (c : Char) : List Char :=
  ['\\', 'u', '\x7b'] ++ shortHex c.toNat ++ ['\x7d']

/-- How a character is written between the quotes. -/
def escape (c : Char) : List Char :=
  if c == '"' then ['\\', '"']
  else if c == '\\' then ['\\', '\\']
  else if c == '\n' then ['\\', 'n']
  else if c == '\r' then ['\\', 'r']
  else if c == '\t' then ['\\', 't']
  else if c.toNat == 0 then ['\\', '0']
  else if c.toNat < 0x20 then byNumber c
  else if c.toNat < 0x7F then [c]
  else if isInvisible c then byNumber c
  else [c]

/-- The text between double quotes, escaped. -/
def encode (s : String) : String :=
  String.ofList (['"'] ++ s.toList.flatMap escape ++ ['"'])

end SecretKeeper.Text.Quoted
