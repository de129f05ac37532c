/-
# Addresses

What a request asks for is written in one of four ways: as a path with a query, as a full
address, in which a scheme and an authority stand in front of the path, as an authority
alone, or as an asterisk.  `Target.ofAddress?` reads all of them.

Who is asked does not matter for the target, so an authority has to be well-formed and is
then dropped.  It consists of a host, a user in front of it, and a port behind it; a host
with colons of its own stands in brackets.
-/
import SecretKeeper.Api.Uri

namespace SecretKeeper.Api

namespace Address

/-! ## 1. Authorities -/

/-- The signs without a meaning of their own that may stand in an authority. -/
def plainSigns : List Char := "!$&'()*+,-.;=_~".toList

/-- What matters of an authority that is being read.  The end of a user and the end of a
bracketed host clear the colons and the percent signs before them. -/
structure Progress where
  colons : Nat := 0
  percent : Bool := false
  opened : Bool := false
  closed : Bool := false
deriving DecidableEq

/-- The most colons that are read before they are cleared. -/
def maxColons : Nat := 8

/-- One more character, if it may stand there. -/
def Progress.step (p : Progress) (c : Char) : Option Progress :=
  if c == ':' then
    if p.colons < maxColons then some { p with colons := p.colons + 1 } else none
  else if c == '@' then some { p with colons := 0, percent := false }
  else if c == '%' then some { p with percent := true }
  else if c == '[' then if p.percent || p.opened then none else some { p with opened := true }
  else if c == ']' then
    if p.opened && !p.closed then
      some { p with closed := true, colons := 0, percent := false }
    else none
  else if c.isAlphanum || plainSigns.contains c then some p
  else none

/-- The authority may end here: its bracket is closed, at most one colon leads to a port,
and the host has no percent sign. -/
def Progress.mayEnd (p : Progress) : Bool :=
  p.opened == p.closed && p.colons ≤ 1 && !p.percent

/-- The characters are an authority.  It is not empty, and something follows the user. -/
def isAuthority (cs : List Char) : Bool :=
  !cs.isEmpty && cs.getLast? != some '@' &&
    ((cs.foldlM Progress.step {}).map Progress.mayEnd).getD false

/-! ## 2. Schemes -/

/-- The most characters that a scheme may have. -/
def maxScheme : Nat := 64

/-- A character that may stand in a scheme. -/
def inScheme (c : Char) : Bool := c.isAlphanum || c == '+' || c == '-' || c == '.' || c == '~'

/-- What follows the scheme, its colon and two slashes, if the address starts with them. -/
def afterScheme? (cs : List Char) : Option (List Char) :=
  match cs.dropWhile inScheme with
  | ':' :: '/' :: '/' :: rest =>
    if (cs.takeWhile inScheme).length ≤ maxScheme then some rest else none
  | _ => none

/-- The character ends an authority. -/
def endsAuthority (c : Char) : Bool := c == '/' || c == '?' || c == '#'

end Address

open Address in
/-- The target of an address.  An authority alone has an empty path, and a full address has
at least a slash. -/
def Target.ofAddress? (s : String) : Option Target :=
  let cs := s.toList
  if Uri.maxBytes < s.utf8ByteSize then none
  else if s == "*" then some ⟨"*", none⟩
  else if cs.head? == some '/' then Uri.target? s
  else
    match afterScheme? cs with
    | some rest =>
      if isAuthority (rest.takeWhile (!endsAuthority ·)) then
        (Uri.target? (String.ofList (rest.dropWhile (!endsAuthority ·)))).map fun t =>
          { t with path := if t.path.isEmpty then "/" else t.path }
      else none
    | none => if isAuthority cs then some ⟨"", none⟩ else none

end SecretKeeper.Api
