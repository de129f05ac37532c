/-
# Targets

The target of a request is a path and a query.  Which characters may stand in it as they
are is decided by its bytes; a fragment is cut off, and what lies above ASCII is let through.

The pairs of a query are written as forms are: letters, digits and four signs stay, a blank
becomes a plus sign, and every other byte is written by its number.
-/
import SecretKeeper.Text.Hex

namespace SecretKeeper.Api

/-- The path and the query of a request, as they are sent. -/
structure Target where
  path : String
  query : Option String
deriving DecidableEq

namespace Uri

/-! ## 1. What may stand in a target -/

/-- The byte of an ASCII character lies in one of the ranges. -/
def inRanges (ranges : List (Nat × Nat)) (c : Char) : Bool :=
  ranges.any fun (first, last) => first ≤ c.toNat && c.toNat ≤ last

/-- A character that may stand in a path: besides the unreserved ones also quotes and
braces, but no blank, angle bracket, back quote or control. -/
def inPath (c : Char) : Bool :=
  inRanges [(0x21, 0x22), (0x24, 0x3B), (0x3D, 0x3D), (0x40, 0x5F), (0x61, 0x7E)] c ||
    0x80 ≤ c.toNat

/-- A character that may stand in a query. -/
def inQuery (c : Char) : Bool :=
  inRanges [(0x21, 0x21), (0x24, 0x3B), (0x3D, 0x3D), (0x3F, 0x7E)] c || 0x80 ≤ c.toNat

/-- The most bytes that a target may have. -/
def maxBytes : Nat := 65534

/-- The target that the characters are, up to a fragment. -/
def target? (s : String) : Option Target :=
  let cs := s.toList.takeWhile (· != '#')
  let path := cs.takeWhile (· != '?')
  let rest := cs.dropWhile (· != '?')
  if !path.all inPath then none
  else
    match rest with
    | [] => some ⟨String.ofList path, none⟩
    | _ :: query =>
      if query.all inQuery then some ⟨String.ofList path, some (String.ofList query)⟩
      else none

/-! ## 2. Forms -/

/-- The byte stays as it is in a form. -/
def isPlain (b : UInt8) : Bool :=
  let n := b.toNat
  (48 ≤ n && n ≤ 57) || (65 ≤ n && n ≤ 90) || (97 ≤ n && n ≤ 122) ||
    n == 42 || n == 45 || n == 46 || n == 95

/-- How a byte is written in a form. -/
def formByte (b : UInt8) : List Char :=
  if isPlain b then [Char.ofNat b.toNat]
  else if b == 0x20 then ['+']
  else '%' :: (Text.Hex.padded 2 b.toNat).map Char.toUpper

/-- A text as it is written in a form. -/
def formText (s : String) : String := String.ofList ((Bytes.utf8 s).flatMap formByte)

/-- The bytes of a text with its numbered bytes resolved; a percent sign without two digits
after it stays. -/
def resolve : Bytes → Bytes
  | [] => []
  | 37 :: high :: low :: rest =>
    match Text.Hex.value? (Char.ofNat high.toNat), Text.Hex.value? (Char.ofNat low.toNat) with
    | some h, some l => UInt8.ofNat (h * 16 + l) :: resolve rest
    | _, _ => 37 :: resolve (high :: low :: rest)
  | b :: rest => b :: resolve rest

/-- The text that is written so in a form. -/
def readForm (cs : List Char) : String :=
  let bytes := (Bytes.utf8 (String.ofList cs)).map fun b => if b == 43 then 0x20 else b
  Bytes.lossyText (resolve bytes)

/-- The pairs of a query; a piece without an equals sign has an empty value, and empty
pieces do not count. -/
def pairs (query : String) : List (String × String) :=
  ((query.toList.splitOn '&').filter (!·.isEmpty)).map fun piece =>
    (readForm (piece.takeWhile (· != '=')), readForm ((piece.dropWhile (· != '=')).drop 1))

/-- The order of pairs: by name, then by value. -/
def pairLE (a b : String × String) : Bool :=
  a.1 < b.1 || (a.1 == b.1 && (a.2 < b.2 || a.2 == b.2))

end Uri

/-- The pairs of the target's query, in order. -/
def Target.sortedPairs (t : Target) : List (String × String) :=
  (Uri.pairs (t.query.getD "")).mergeSort Uri.pairLE

end SecretKeeper.Api
