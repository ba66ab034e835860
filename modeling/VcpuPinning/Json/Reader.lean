import VcpuPinning.Json

/-!
# Reading JSON

`Json.parse?` reads a whole text as one document, with blanks around its parts. Numbers and
strings are kept as spelled, so the reader settles the grammar only: no leading zeros, no trailing
commas, no bare control characters, and only the escapes of the format.
-/

namespace VcpuPinning.Json

/-- The blanks of the format. -/
def isBlank (c : Char) : Bool :=
  c == ' ' || c == '\n' || c == '\r' || c == '\t'

/-- The text after its leading blanks. -/
def skip (cs : List Char) : List Char :=
  cs.dropWhile isBlank

/-- The spelling of a string up to its closing quote, and the rest. -/
def readString : List Char → Option (List Char × List Char)
  | [] => none
  | '"' :: cs => some ([], cs)
  | '\\' :: 'u' :: a :: b :: c :: d :: cs =>
    if (hexQuad? a b c d).isSome then
      (readString cs).map fun (s, r) => ('\\' :: 'u' :: a :: b :: c :: d :: s, r)
    else none
  | '\\' :: c :: cs =>
    if (shortEscape? c).isSome then (readString cs).map fun (s, r) => ('\\' :: c :: s, r)
    else none
  | c :: cs =>
    if c.toNat < 0x20 then none else (readString cs).map fun (s, r) => (c :: s, r)

/-- One or more digits, and the rest. -/
def readDigits (cs : List Char) : Option (List Char × List Char) :=
  match cs.span Char.isDigit with
  | ([], _) => none
  | (ds, r) => some (ds, r)

/-- The digits before the point: a zero alone, or digits that start with another. -/
def readWhole : List Char → Option (List Char × List Char)
  | '0' :: cs =>
    match cs with
    | c :: _ => if c.isDigit then none else some (['0'], cs)
    | [] => some (['0'], [])
  | cs => readDigits cs

/-- The point and the digits after it, if there is a point. -/
def readFraction : List Char → Option (List Char × List Char)
  | '.' :: cs => (readDigits cs).map fun (ds, r) => ('.' :: ds, r)
  | cs => some ([], cs)

/-- The exponent, if there is one. -/
def readExponent : List Char → Option (List Char × List Char)
  | c :: cs =>
    if c = 'e' ∨ c = 'E' then
      match cs with
      | '+' :: cs => (readDigits cs).map fun (ds, r) => (c :: '+' :: ds, r)
      | '-' :: cs => (readDigits cs).map fun (ds, r) => (c :: '-' :: ds, r)
      | cs => (readDigits cs).map fun (ds, r) => (c :: ds, r)
    else some ([], c :: cs)
  | [] => some ([], [])

/-- The spelling of a number without a sign, and the rest. -/
def readUnsigned (cs : List Char) : Option (List Char × List Char) := do
  let (whole, r) ← readWhole cs
  let (fraction, r) ← readFraction r
  let (exponent, r) ← readExponent r
  return (whole ++ fraction ++ exponent, r)

/-- The spelling of a number, and the rest. -/
def readNumber : List Char → Option (List Char × List Char)
  | '-' :: cs => (readUnsigned cs).map fun (s, r) => ('-' :: s, r)
  | cs => readUnsigned cs

mutual

/-- A document at the start of a text, and the rest. -/
def readValue : Nat → List Char → Option (Json × List Char)
  | 0, _ => none
  | fuel + 1, cs =>
    match skip cs with
    | 'n' :: 'u' :: 'l' :: 'l' :: r => some (.null, r)
    | 't' :: 'r' :: 'u' :: 'e' :: r => some (.bool true, r)
    | 'f' :: 'a' :: 'l' :: 's' :: 'e' :: r => some (.bool false, r)
    | '"' :: r => (readString r).map fun (s, r) => (.string s, r)
    | '[' :: r =>
      match skip r with
      | ']' :: r => some (.array [], r)
      | r => (readItems fuel r).map fun (js, r) => (.array js, r)
    | '\x7b' :: r =>
      match skip r with
      | '\x7d' :: r => some (.object [], r)
      | r => (readMembers fuel r).map fun (ms, r) => (.object ms, r)
    | r => (readNumber r).map fun (s, r) => (.number s, r)

/-- One or more items and the closing bracket. -/
def readItems : Nat → List Char → Option (List Json × List Char)
  | 0, _ => none
  | fuel + 1, cs =>
    match readValue fuel cs with
    | none => none
    | some (j, r) =>
      match skip r with
      | ',' :: r => (readItems fuel r).map fun (js, r) => (j :: js, r)
      | ']' :: r => some ([j], r)
      | _ => none

/-- One or more members and the closing brace. -/
def readMembers : Nat → List Char → Option (List (List Char × Json) × List Char)
  | 0, _ => none
  | fuel + 1, cs =>
    match skip cs with
    | '"' :: r =>
      match readString r with
      | none => none
      | some (k, r) =>
        match skip r with
        | ':' :: r =>
          match readValue fuel r with
          | none => none
          | some (j, r) =>
            match skip r with
            | ',' :: r => (readMembers fuel r).map fun (ms, r) => ((k, j) :: ms, r)
            | '\x7d' :: r => some ([(k, j)], r)
            | _ => none
        | _ => none
    | _ => none

end

/-- The document that a whole text denotes. A value takes at most two steps for each of its
characters. -/
def parse? (s : String) : Option Json :=
  let cs := s.toList
  match readValue (2 * cs.length + 2) cs with
  | some (j, r) => if (skip r).isEmpty then some j else none
  | none => none

end VcpuPinning.Json
