/-
# Bytes and text

`Bytes` is a list of bytes.  A text has one UTF-8 form, `utf8`; reading bytes as text either
insists on that form (`text?`) or puts U+FFFD in place of every maximal ill-formed piece
(`lossyText`), which is how the parts of a query are shown.
-/

namespace SecretKeeper

/-- A sequence of bytes. -/
abbrev Bytes := List UInt8

namespace Bytes

/-- The UTF-8 form of a text. -/
def utf8 (s : String) : Bytes := s.toByteArray.data.toList

/-- The text whose UTF-8 form the bytes are, if they are well formed. -/
def text? (bs : Bytes) : Option String := String.fromUTF8? ⟨bs.toArray⟩

/-! ## Reading bytes that may be ill formed -/

/-- U+FFFD, which stands for what cannot be read. -/
def replacement : Char := Char.ofNat 0xFFFD

/-- The byte continues a sequence: it is of the form `10xxxxxx`. -/
def isContinuation (b : UInt8) : Bool := 0x80 ≤ b && b ≤ 0xBF

/-- The six bits that a continuation byte carries. -/
def payload (b : UInt8) : Nat := b.toNat % 64

/-- The second bytes allowed after the first byte of a three- or four-byte sequence: they
exclude overlong forms, surrogates and what lies above U+10FFFF. -/
def allowsSecond (lead b : UInt8) : Bool :=
  if lead == 0xE0 then 0xA0 ≤ b && b ≤ 0xBF
  else if lead == 0xED then 0x80 ≤ b && b ≤ 0x9F
  else if lead == 0xF0 then 0x90 ≤ b && b ≤ 0xBF
  else if lead == 0xF4 then 0x80 ≤ b && b ≤ 0x8F
  else isContinuation b

/-- The character that starts with the byte `lead`, and how many of the following bytes it
takes.  A sequence that breaks off is one replacement for the bytes that fit. -/
def scalar (lead : UInt8) (rest : Bytes) : Char × Nat :=
  if lead < 0x80 then (Char.ofNat lead.toNat, 0)
  else if 0xC2 ≤ lead && lead ≤ 0xDF then
    match rest with
    | b1 :: _ =>
      if isContinuation b1 then (Char.ofNat ((lead.toNat % 32) * 64 + payload b1), 1)
      else (replacement, 0)
    | [] => (replacement, 0)
  else if 0xE0 ≤ lead && lead ≤ 0xEF then
    match rest with
    | b1 :: more =>
      if allowsSecond lead b1 then
        match more with
        | b2 :: _ =>
          if isContinuation b2 then
            (Char.ofNat ((lead.toNat % 16) * 4096 + payload b1 * 64 + payload b2), 2)
          else (replacement, 1)
        | [] => (replacement, 1)
      else (replacement, 0)
    | [] => (replacement, 0)
  else if 0xF0 ≤ lead && lead ≤ 0xF4 then
    match rest with
    | b1 :: more =>
      if allowsSecond lead b1 then
        match more with
        | b2 :: more =>
          if isContinuation b2 then
            match more with
            | b3 :: _ =>
              if isContinuation b3 then
                (Char.ofNat ((lead.toNat % 8) * 262144 + payload b1 * 4096 +
                  payload b2 * 64 + payload b3), 3)
              else (replacement, 2)
            | [] => (replacement, 2)
          else (replacement, 1)
        | [] => (replacement, 1)
      else (replacement, 0)
    | [] => (replacement, 0)
  else (replacement, 0)

/-- The characters of the bytes, with U+FFFD for each maximal piece that is ill formed. -/
def lossyChars : Bytes → List Char
  | [] => []
  | lead :: rest =>
    (scalar lead rest).1 :: lossyChars (rest.drop (scalar lead rest).2)
termination_by bs => bs.length
decreasing_by rw [List.length_drop, List.length_cons]; omega

/-- The text of the bytes, with U+FFFD for each maximal piece that is ill formed. -/
def lossyText (bs : Bytes) : String := String.ofList (lossyChars bs)

end Bytes

end SecretKeeper
