import VcpuPinning.Toml.Quoted
import VcpuPinning.Toml.Table
import VcpuPinning.Toml.Word

/-!
# Reading TOML

`Toml.parse?` reads a text as the JSON document that it amounts to. Integers become numbers in
decimal digits, other numbers keep their spelling, and points in time become objects of one
member.
-/

namespace VcpuPinning.Toml

/-! ## Blanks, comments and line ends -/

/-- The text after blanks. -/
def skipBlank (cs : List Char) : List Char :=
  cs.dropWhile fun c => c == ' ' || c == '\t'

/-- The text after a comment, if one stands first. -/
def skipComment : List Char → List Char
  | '#' :: r => r.dropWhile Quoted.isInline
  | r => r

/-- The text after a line end. -/
def newline? : List Char → Option (List Char)
  | '\n' :: r => some r
  | '\r' :: '\n' :: r => some r
  | _ => none

/-- The text after the rest of a line that holds nothing more but a comment. -/
def lineEnd? (cs : List Char) : Option (List Char) :=
  match skipComment (skipBlank cs) with
  | [] => some []
  | r => newline? r

/-- The text after blanks, comments and line ends. -/
def skipLines : Nat → List Char → List Char
  | 0, cs => cs
  | fuel + 1, cs =>
    match newline? (skipComment (skipBlank cs)) with
    | some r => skipLines fuel r
    | none => skipBlank cs

/-- The text after blanks, comments and line ends within an array. -/
def skipFiller (cs : List Char) : List Char :=
  skipLines (cs.length + 1) cs

/-! ## Keys -/

/-- How deep collections may be nested, and how many parts a key may have. -/
def maxDepth : Nat := 79

/-- A character of a bare key. -/
def isBare (c : Char) : Bool :=
  c.isAlphanum || c == '_' || c == '-'

/-- A key of one part, and the rest. -/
def readPart? (cs : List Char) : Option (String × List Char) :=
  match Quoted.readLine? cs with
  | some (s, r) => some (String.ofList s, r)
  | none =>
    match cs.span isBare with
    | ([], _) => none
    | (s, r) => some (String.ofList s, r)

/-- The parts of a dotted key, with blanks around each, and the rest. -/
def readKey : Nat → List Char → Option (List String × List Char)
  | 0, _ => none
  | parts + 1, cs =>
    match readPart? (skipBlank cs) with
    | none => none
    | some (part, r) =>
      match skipBlank r with
      | '.' :: r => (readKey parts r).map fun (path, r) => (part :: path, r)
      | r => some ([part], r)

/-- A dotted key as a path and a last part, and the rest. -/
def readKey? (cs : List Char) : Option (List String × String × List Char) := do
  let (parts, r) ← readKey maxDepth cs
  return (parts.dropLast, ← parts.getLast?, r)

/-! ## Values -/

/-- A character of a word. -/
def isWordChar (c : Char) : Bool :=
  c.isAlphanum || c == '_' || c == '-' || c == '+' || c == '.' || c == ':'

/-- The word at the start of a text, and the rest. A day and a time of day may be separated by a
space. -/
def spanWord (cs : List Char) : List Char × List Char :=
  let (word, r) := cs.span isWordChar
  match r with
  | ' ' :: c :: _ =>
    if Word.isDate word && c.isDigit then
      let (time, r) := r.tail.span isWordChar
      (word ++ ' ' :: time, r)
    else (word, r)
  | _ => (word, r)

/-- The name under which a point in time is given. -/
def momentName : String :=
  "$__toml_private_datetime"

/-- The document of a word. -/
def wordToJson (word : List Char) : Option Json :=
  if word = "true".toList then some (.bool true)
  else if word = "false".toList then some (.bool false)
  else if Word.isMoment word then
    some (Json.obj [(momentName, Json.text (String.ofList word))])
  else
    match Word.integer word with
    | some n => some (.number (toString n).toList)
    | none => if Word.isFloat word then some (.number word) else none

mutual

/-- A value at the start of a text, and the rest. -/
def readValue : Nat → Nat → List Char → Option (Json × List Char)
  | 0, _, _ => none
  | fuel + 1, depth, cs =>
    match cs with
    | '[' :: r =>
      if depth = 0 then none
      else (readItems fuel (depth - 1) r).map fun (js, r) => (.array js, r)
    | '\x7b' :: r =>
      if depth = 0 then none
      else
        match skipBlank r with
        | '\x7d' :: r => some (.object [], r)
        | r => (readMembers fuel (depth - 1) {} r).map fun (t, r) => (t.toJson, r)
    | '"' :: _ => (Quoted.read? cs).map fun (s, r) => (Json.text (String.ofList s), r)
    | '\'' :: _ => (Quoted.read? cs).map fun (s, r) => (Json.text (String.ofList s), r)
    | _ =>
      match spanWord cs with
      | (word, r) => (wordToJson word).map fun j => (j, r)

/-- The items of an array and the closing bracket. A comma may follow the last item. -/
def readItems : Nat → Nat → List Char → Option (List Json × List Char)
  | 0, _, _ => none
  | fuel + 1, depth, cs =>
    match skipFiller cs with
    | ']' :: r => some ([], r)
    | r =>
      match readValue fuel depth r with
      | none => none
      | some (j, r) =>
        match skipFiller r with
        | ',' :: r => (readItems fuel depth r).map fun (js, r) => (j :: js, r)
        | ']' :: r => some ([j], r)
        | _ => none

/-- The members of a table in one line, and the closing brace. -/
def readMembers : Nat → Nat → Table → List Char → Option (Table × List Char)
  | 0, _, _, _ => none
  | fuel + 1, depth, t, cs =>
    match readKey? cs with
    | some (path, key, '=' :: r) =>
      match readValue fuel depth (skipBlank r) with
      | none => none
      | some (j, r) =>
        match t.define path key j with
        | none => none
        | some t =>
          match skipBlank r with
          | ',' :: r => readMembers fuel depth t r
          | '\x7d' :: r => some (t, r)
          | _ => none
    | _ => none

end

/-! ## Documents -/

/-- A header, and the rest of the text after its line. -/
def readHeader (d : Draft) (cs : List Char) : Option (Draft × List Char) :=
  match cs with
  | '[' :: '[' :: r => do
    let (path, r) ← readKey maxDepth r
    match r with
    | ']' :: ']' :: r => return (← d.startItem path, ← lineEnd? r)
    | _ => none
  | '[' :: r => do
    let (path, r) ← readKey maxDepth r
    match r with
    | ']' :: r => return (← d.startTable path, ← lineEnd? r)
    | _ => none
  | _ => none

/-- A definition, and the rest of the text after its line. -/
def readDefinition (d : Draft) (cs : List Char) : Option (Draft × List Char) := do
  let (path, key, r) ← readKey? cs
  match r with
  | '=' :: r =>
    let r := skipBlank r
    let (j, r) ← readValue (2 * r.length + 2) maxDepth r
    return (← d.define path key j, ← lineEnd? r)
  | _ => none

/-- The document that is read line by line. -/
def readLines : Nat → Draft → List Char → Option Json
  | 0, _, _ => none
  | fuel + 1, d, cs =>
    match skipBlank cs with
    | [] => d.close.map Table.toJson
    | r =>
      match lineEnd? r with
      | some r => readLines fuel d r
      | none => do
        let (d, r) ← match r with
          | '[' :: _ => readHeader d r
          | _ => readDefinition d r
        readLines fuel d r

/-- The document that a text amounts to. A byte order mark may stand first. -/
def parse? (s : String) : Option Json :=
  let cs := match s.toList with
    | '\uFEFF' :: cs => cs
    | cs => cs
  readLines (cs.length + 1) {} cs

/-- How settings are read from TOML: an empty collection is the value without content, and the
array of a record may be longer than the record. -/
def dialect : Json.Dialect where
  isUnit
    | .array [] => true
    | .object [] => true
    | _ => false
  surplus := true

end VcpuPinning.Toml
