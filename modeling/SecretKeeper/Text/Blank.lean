/-
# Blank characters

The characters of the Unicode property White_Space, and trimming by it.  The separators
U+001C to U+001F and the zero-width characters U+200B and U+FEFF are not in the property.
-/

namespace SecretKeeper.Text

/-- The character has the Unicode property White_Space. -/
def isBlank (c : Char) : Bool :=
  let n := c.toNat
  (9 ≤ n && n ≤ 13) || n == 0x20 || n == 0x85 || n == 0xA0 || n == 0x1680 ||
    (0x2000 ≤ n && n ≤ 0x200A) || n == 0x2028 || n == 0x2029 || n == 0x202F ||
    n == 0x205F || n == 0x3000

/-- The text without the blanks at either end. -/
def trim (s : String) : String :=
  String.ofList ((s.toList.dropWhile isBlank).reverse.dropWhile isBlank).reverse

/-- The text with its ASCII capitals made small; all other characters stay. -/
def lowerAscii (s : String) : String := s.map Char.toLower

end SecretKeeper.Text
