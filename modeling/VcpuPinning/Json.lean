import VcpuPinning.Text.Numeral

/-!
# JSON documents

A document keeps its strings and numbers as they are spelled; `unescape` and the readers of
`VcpuPinning.Json.Record` decide what a spelling means. `escape` spells a text, and `unescape`
undoes it. `render` writes a document without blanks.
-/

namespace VcpuPinning

/-- A JSON document. -/
inductive Json where
  | null
  | bool (value : Bool)
  /-- A number, as it is spelled. -/
  | number (spelling : List Char)
  /-- A string, as it is spelled between its quotes. -/
  | string (spelling : List Char)
  | array (items : List Json)
  /-- An object, each name as it is spelled between its quotes. -/
  | object (members : List (List Char × Json))
  deriving Inhabited

namespace Json

/-! ## The spelling of strings -/

/-- The value of a hexadecimal digit. -/
def hexDigit? (c : Char) : Option Nat :=
  let n := c.toNat
  if 0x30 ≤ n ∧ n ≤ 0x39 then some (n - 0x30)
  else if 0x61 ≤ n ∧ n ≤ 0x66 then some (n - 0x57)
  else if 0x41 ≤ n ∧ n ≤ 0x46 then some (n - 0x37)
  else none

/-- The number that four hexadecimal digits denote. -/
def hexQuad? (a b c d : Char) : Option Nat := do
  return (((← hexDigit? a) * 16 + (← hexDigit? b)) * 16 + (← hexDigit? c)) * 16 + (← hexDigit? d)

/-- The character of an escape with one letter. -/
def shortEscape? (c : Char) : Option Char :=
  if c = '"' then some '"'
  else if c = '\\' then some '\\'
  else if c = '/' then some '/'
  else if c = 'b' then some '\x08'
  else if c = 'f' then some '\x0c'
  else if c = 'n' then some '\n'
  else if c = 'r' then some '\r'
  else if c = 't' then some '\t'
  else none

/-- The first of a pair of units that make up one character. -/
def isLeading (n : Nat) : Bool :=
  0xD800 ≤ n && n ≤ 0xDBFF

/-- The second of a pair of units that make up one character. -/
def isTrailing (n : Nat) : Bool :=
  0xDC00 ≤ n && n ≤ 0xDFFF

/-- The text that a spelling denotes. A unit of a pair that stands alone denotes nothing. -/
def unescape : List Char → Option (List Char)
  | [] => some []
  | '\\' :: 'u' :: a :: b :: c :: d :: '\\' :: 'u' :: a' :: b' :: c' :: d' :: cs =>
    match hexQuad? a b c d, hexQuad? a' b' c' d' with
    | some n, some m =>
      if isLeading n then
        if isTrailing m then
          (unescape cs).map (Char.ofNat (0x10000 + (n - 0xD800) * 0x400 + (m - 0xDC00)) :: ·)
        else none
      else if isTrailing n then none
      else (unescape ('\\' :: 'u' :: a' :: b' :: c' :: d' :: cs)).map (Char.ofNat n :: ·)
    | _, _ => none
  | '\\' :: 'u' :: a :: b :: c :: d :: cs =>
    match hexQuad? a b c d with
    | some n =>
      if isLeading n || isTrailing n then none else (unescape cs).map (Char.ofNat n :: ·)
    | none => none
  | '\\' :: c :: cs =>
    match shortEscape? c with
    | some e => (unescape cs).map (e :: ·)
    | none => none
  | c :: cs => (unescape cs).map (c :: ·)

/-- A hexadecimal digit. -/
def hexChar (n : Nat) : Char :=
  if n < 10 then Char.ofNat (0x30 + n) else Char.ofNat (0x57 + n)

/-- The spelling of a character. -/
def escapeChar (c : Char) : List Char :=
  if c = '"' then ['\\', '"']
  else if c = '\\' then ['\\', '\\']
  else if c = '\x08' then ['\\', 'b']
  else if c = '\x0c' then ['\\', 'f']
  else if c = '\n' then ['\\', 'n']
  else if c = '\r' then ['\\', 'r']
  else if c = '\t' then ['\\', 't']
  else if c.toNat < 0x20 then
    ['\\', 'u', '0', '0', hexChar (c.toNat / 16), hexChar (c.toNat % 16)]
  else [c]

/-- The spelling of a text. -/
def escape (cs : List Char) : List Char :=
  cs.flatMap escapeChar

/-! ## Writing -/

/-- A string with the given text. -/
def text (s : String) : Json :=
  .string (escape s.toList)

/-- A natural number. -/
def nat (n : Nat) : Json :=
  .number (Text.Numeral.text n)

/-- A spelled string in quotes. -/
def quote (spelling : List Char) : List Char :=
  '"' :: (spelling ++ ['"'])

mutual

/-- A document without blanks. -/
def render : Json → List Char
  | .null => "null".toList
  | .bool true => "true".toList
  | .bool false => "false".toList
  | .number spelling => spelling
  | .string spelling => quote spelling
  | .array [] => ['[', ']']
  | .array (j :: js) => '[' :: (render j ++ renderItems js)
  | .object [] => ['\x7b', '\x7d']
  | .object ((k, j) :: ms) => '\x7b' :: (quote k ++ ':' :: (render j ++ renderMembers ms))

/-- The items after the first, and the closing bracket. -/
def renderItems : List Json → List Char
  | [] => [']']
  | j :: js => ',' :: (render j ++ renderItems js)

/-- The members after the first, and the closing brace. -/
def renderMembers : List (List Char × Json) → List Char
  | [] => ['\x7d']
  | (k, j) :: ms => ',' :: (quote k ++ ':' :: (render j ++ renderMembers ms))

end

/-- The written form of a document. -/
def toText (j : Json) : String :=
  String.ofList (render j)

mutual

/-- How deep arrays and objects are nested. -/
def depth : Json → Nat
  | .array js => depthItems js + 1
  | .object ms => depthMembers ms + 1
  | _ => 0

/-- The depth of the deepest item. -/
def depthItems : List Json → Nat
  | [] => 0
  | j :: js => max (depth j) (depthItems js)

/-- The depth of the deepest member. -/
def depthMembers : List (List Char × Json) → Nat
  | [] => 0
  | (_, j) :: ms => max (depth j) (depthMembers ms)

end

end Json

end VcpuPinning
