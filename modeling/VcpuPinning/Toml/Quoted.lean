import VcpuPinning.Json

/-!
# Strings of TOML

Strings stand between double quotes, where a backslash starts an escape, or between single quotes,
where it does not. Between three quotes of either kind a string may go over several lines. Each
reader starts after the opening quotes and ends after the closing ones.
-/

namespace VcpuPinning.Toml.Quoted

/-- A character that may stand in a line. -/
def isInline (c : Char) : Bool :=
  c == '\t' || (0x20 ≤ c.toNat && c.toNat ≠ 0x7F)

/-- The character with a number, unless the number is of no character. -/
def char? (n : Nat) : Option Char :=
  if n.isValidChar then some (Char.ofNat n) else none

/-- The character of an escape, and the rest. -/
def escape? : List Char → Option (Char × List Char)
  | 'b' :: r => some ('\x08', r)
  | 't' :: r => some ('\t', r)
  | 'n' :: r => some ('\n', r)
  | 'f' :: r => some ('\x0c', r)
  | 'r' :: r => some ('\r', r)
  | '"' :: r => some ('"', r)
  | '\\' :: r => some ('\\', r)
  | 'u' :: a :: b :: c :: d :: r =>
    ((Json.hexQuad? a b c d).bind char?).map fun e => (e, r)
  | 'U' :: a :: b :: c :: d :: a' :: b' :: c' :: d' :: r => do
    let high ← Json.hexQuad? a b c d
    let low ← Json.hexQuad? a' b' c' d'
    return (← char? (high * 0x10000 + low), r)
  | _ => none

/-- One character more. -/
def prepend (c : Char) : List Char × List Char → List Char × List Char
  | (s, r) => (c :: s, r)

/-- A string of one line with escapes. -/
def basic : Nat → List Char → Option (List Char × List Char)
  | 0, _ => none
  | _ + 1, [] => none
  | _ + 1, '"' :: r => some ([], r)
  | fuel + 1, '\\' :: r => (escape? r).bind fun (c, r) => (basic fuel r).map (prepend c)
  | fuel + 1, c :: r => if isInline c then (basic fuel r).map (prepend c) else none

/-- A string of one line without escapes. -/
def literal : List Char → Option (List Char × List Char)
  | [] => none
  | c :: r =>
    if c = '\'' then some ([], r)
    else if isInline c then (literal r).map (prepend c) else none

/-- A text without the line end it starts with. -/
def skipNewline : List Char → List Char
  | '\n' :: r => r
  | '\r' :: '\n' :: r => r
  | r => r

/-- A backslash, and blanks up to the end of the line, take all blanks and line ends after them
away. -/
def continuation? (cs : List Char) : Option (List Char) :=
  let isLine := match cs.dropWhile fun c => c == ' ' || c == '\t' with
    | '\n' :: _ => true
    | '\r' :: '\n' :: _ => true
    | _ => false
  if isLine then some (dropBlank cs) else none
where
  /-- The text after blanks and line ends. -/
  dropBlank : List Char → List Char
    | '\r' :: '\n' :: r => dropBlank r
    | c :: r => if c = ' ' ∨ c = '\t' ∨ c = '\n' then dropBlank r else c :: r
    | [] => []

/-- A string of several lines; with escapes if its quotes are double. Up to two quotes may stand
before the closing ones, and every line end becomes a line feed. -/
def lines (quote : Char) : Nat → List Char → Option (List Char × List Char)
  | 0, _ => none
  | _ + 1, [] => none
  | fuel + 1, c :: r =>
    if c = quote then
      match r.span (· == quote) with
      | (q, rest) =>
        if q.length = 0 then (lines quote fuel r).map (prepend c)
        else if q.length = 1 then
          (lines quote fuel rest).map fun p => prepend c (prepend c p)
        else if q.length ≤ 4 then some (List.replicate (q.length - 2) quote, rest)
        else none
    else if c = '\\' ∧ quote = '"' then
      match continuation? r with
      | some rest => lines quote fuel rest
      | none => (escape? r).bind fun (e, r) => (lines quote fuel r).map (prepend e)
    else if c = '\n' then (lines quote fuel r).map (prepend c)
    else if c = '\r' then
      match r with
      | '\n' :: rest => (lines quote fuel rest).map (prepend '\n')
      | _ => none
    else if isInline c then (lines quote fuel r).map (prepend c)
    else none

/-- A string of one line or of several, and the rest. -/
def read? (cs : List Char) : Option (List Char × List Char) :=
  match cs with
  | '"' :: '"' :: '"' :: r => lines '"' (r.length + 1) (skipNewline r)
  | '\'' :: '\'' :: '\'' :: r => lines '\'' (r.length + 1) (skipNewline r)
  | '"' :: r => basic (r.length + 1) r
  | '\'' :: r => literal r
  | _ => none

/-- A string of one line, and the rest. -/
def readLine? : List Char → Option (List Char × List Char)
  | '"' :: r => basic (r.length + 1) r
  | '\'' :: r => literal r
  | _ => none

end VcpuPinning.Toml.Quoted
