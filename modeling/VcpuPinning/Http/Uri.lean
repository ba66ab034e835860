import VcpuPinning.Http.Path

/-!
# Full addresses

The address of a request in full: after the scheme comes the authority, which names the other side,
and then a path and a query, each of which may be left out. A fragment is not kept. Not every text
that can be connected to is an authority: a colon goes before the port, and other colons, as those of
a long number, stand in brackets.
-/

namespace VcpuPinning.Http

/-- Why a text is no full address. -/
inductive UriError where
  | tooLong
  /-- It has a character that has no place in it. -/
  | character
  /-- Its authority has colons, brackets, percent signs or at signs that do not belong together. -/
  | authority
  /-- It has no authority. -/
  | format
  deriving DecidableEq, Repr

/-- The message of a refused address. -/
def UriError.message : UriError → String
  | .tooLong => "uri too long"
  | .character => "invalid uri character"
  | .authority => "invalid authority"
  | .format => "invalid format"

/-- A full address. -/
structure Uri where
  authority : String
  path : String
  query : Option String
  deriving DecidableEq, Repr

namespace Uri

/-- What every full address starts with. -/
def scheme : String :=
  "http://"

/-- The most octets that a full address may have. -/
def maxSize : Nat := 65534

/-! ## Authorities -/

/-- A character that does not end the authority. -/
def isInside (c : Char) : Bool :=
  c ≠ '/' && c ≠ '?' && c ≠ '#'

/-- A character that may stand anywhere in an authority. -/
def isAuthorityChar (c : Char) : Bool :=
  let n := c.toNat
  n = 0x21 || n = 0x24 || (0x26 ≤ n && n ≤ 0x3B) || n = 0x3D || (0x40 ≤ n && n ≤ 0x5B) ||
    n = 0x5D || n = 0x5F || (0x61 ≤ n && n ≤ 0x7A) || n = 0x7E

/-- What was seen of an authority, from left to right. -/
structure Seen where
  /-- The colons since the last at sign or closing bracket. -/
  colons : Nat := 0
  opened : Bool := false
  closed : Bool := false
  /-- There was a percent sign since the last at sign or closing bracket. -/
  percent : Bool := false
  deriving DecidableEq, Repr

/-- The most colons that may follow each other up to an at sign or a closing bracket. -/
def maxColons : Nat := 8

/-- One character more. What stands before an at sign or in brackets may have colons and percent
signs. -/
def Seen.next (s : Seen) : Char → Except UriError Seen
  | ':' => if maxColons ≤ s.colons then .error .authority else .ok { s with colons := s.colons + 1 }
  | '[' => if s.percent || s.opened then .error .authority else .ok { s with opened := true }
  | ']' =>
    if !s.opened || s.closed then .error .authority
    else .ok { s with colons := 0, closed := true, percent := false }
  | '@' => .ok { s with colons := 0, percent := false }
  | '%' => .ok { s with percent := true }
  | c => if isAuthorityChar c then .ok s else .error .character

/-- Why a text is no authority, if it is none. -/
def authorityError? (cs : List Char) : Option UriError :=
  match cs.foldlM Seen.next {} with
  | .error e => some e
  | .ok s =>
    if s.opened != s.closed || 1 < s.colons || s.percent || cs.getLast? = some '@' then
      some .authority
    else if cs.isEmpty then some .format
    else none

/-! ## Paths and queries -/

/-- A character of a path. -/
def isPathChar (c : Char) : Bool :=
  let n := c.toNat
  n = 0x21 || n = 0x22 || (0x24 ≤ n && n ≤ 0x3B) || n = 0x3D || (0x40 ≤ n && n ≤ 0x5F) || 0x61 ≤ n

/-- A character of a query. -/
def isQueryChar (c : Char) : Bool :=
  let n := c.toNat
  n = 0x21 || (0x24 ≤ n && n ≤ 0x3B) || n = 0x3D || 0x3F ≤ n

/-- The query that a text starts with, up to the fragment. -/
def query? : List Char → Option (List Char)
  | '?' :: cs => some (cs.takeWhile (· ≠ '#'))
  | _ => none

/-! ## Reading and writing -/

/-- The full address with an authority, a path and a query, which are written without the scheme. -/
def read (place : String) : Except UriError Uri :=
  let authority := place.toList.takeWhile isInside
  let tail := place.toList.dropWhile isInside
  let path := Path.beforeQuery tail
  let query := query? (tail.drop path.length)
  if maxSize < (scheme ++ place).utf8ByteSize then .error .tooLong
  else
    match authorityError? authority with
    | some e => .error e
    | none =>
      if path.all isPathChar && query.all (·.all isQueryChar) then
        .ok ⟨String.ofList authority, String.ofList path, query.map String.ofList⟩
      else .error .character

/-- The address as it is sent. -/
def text (u : Uri) : String :=
  scheme ++ u.authority ++ (if u.path.isEmpty then "/" else u.path) ++
    (u.query.map ("?" ++ ·)).getD ""

end Uri

end VcpuPinning.Http
