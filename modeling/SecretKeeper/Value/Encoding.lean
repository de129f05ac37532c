/-
# Encodings

The character class of a generated value.  Users name it freely: blanks around the name and
the case of its letters do not matter, and a name that means nothing means `alphanumeric`.
-/
import SecretKeeper.Text.Blank

namespace SecretKeeper

/-- A class of characters that a generated value is made of. -/
inductive Encoding where
  | digits
  | alphanumeric
  | symbols
deriving DecidableEq

namespace Encoding

/-- The class that is meant where none is named. -/
def default : Encoding := .alphanumeric

/-- The name of the class. -/
def text : Encoding → String
  | .digits => "digits"
  | .alphanumeric => "alphanumeric"
  | .symbols => "symbols"

/-- The class of a name. -/
def ofName (name : String) : Encoding :=
  match Text.lowerAscii (Text.trim name) with
  | "digits" => .digits
  | "symbols" => .symbols
  | _ => .default

/-- The ten digits. -/
def digitChars : List Char := "0123456789".toList

/-- The small and the capital letters. -/
def letterChars : List Char := "abcdefghijklmnopqrstuvwxyzABCDEFGHIJKLMNOPQRSTUVWXYZ".toList

/-- The signs that `symbols` adds. -/
def signChars : List Char := "!@#$%^&*()-_=+[]\x7b\x7d|;:,.<>?/".toList

/-- The characters of the class, in a fixed order. -/
def charset : Encoding → List Char
  | .digits => digitChars
  | .alphanumeric => digitChars ++ letterChars
  | .symbols => digitChars ++ letterChars ++ signChars

/-- The number of characters in the class. -/
def size (e : Encoding) : Nat := e.charset.length

theorem size_digits : size .digits = 10 := by decide

theorem size_alphanumeric : size .alphanumeric = 62 := by decide

theorem size_symbols : size .symbols = 89 := by decide

/-- A charset never repeats a character. -/
theorem nodup_charset (e : Encoding) : e.charset.Nodup := by
  cases e <;> decide +kernel

/-- The end of the accepted bytes: the greatest multiple of the charset's size that fits
into the values of a byte.  Below it, every character is met equally often. -/
def limit (e : Encoding) : Nat := 256 - 256 % e.size

/-- The character that a byte stands for; none for a byte beyond the limit. -/
def char? (e : Encoding) (b : UInt8) : Option Char :=
  if b.toNat < e.limit then e.charset[b.toNat % e.size]? else none

end Encoding

end SecretKeeper
