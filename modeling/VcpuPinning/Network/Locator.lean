import VcpuPinning.Json
import VcpuPinning.Text.Lines
import VcpuPinning.Text.Numeral

/-!
# Locators

How a machine is named in an address: by a number of 32 bits, by a number of 128 bits, or by a name
that has to be looked up. A short number has up to four parts, each decimal, octal or hexadecimal,
the last of which fills what the others leave. A long number has eight words in hexadecimal
digits; two colons stand for one or more words that are zero, and the last two words may be
written as a short number of four decimal parts. The link that a long number is meant for may
follow it.
-/

namespace VcpuPinning

/-- How a machine is named. -/
inductive Locator where
  /-- By a number of 32 bits. -/
  | short
  /-- By a number of 128 bits, in words of 16, and the link that it is meant for, from 1 on. -/
  | long (words : List Nat) (link : Nat)
  | named (name : String)
  /-- Not at all: the text can be no name. -/
  | nothing
  deriving DecidableEq, Repr

namespace Locator

/-- The number that digits of a base denote. -/
def inBase? (base : Nat) (ds : List Char) : Option Nat :=
  (ds.mapM Json.hexDigit?).bind fun ns =>
    if ns.all (· < base) then some (ns.foldl (fun n d => n * base + d) 0) else none

/-! ## Short numbers -/

/-- A part of a short number: hexadecimal after `0x`, octal after `0`, and decimal else. -/
def part? (cs : List Char) : Option Nat :=
  match cs with
  | [] => none
  | ['0', 'x'] => none
  | ['0', 'X'] => none
  | '0' :: 'x' :: ds => inBase? 16 ds
  | '0' :: 'X' :: ds => inBase? 16 ds
  | '0' :: ds => inBase? 8 ds
  | ds => inBase? 10 ds

/-- A number of 32 bits. -/
def isShort (cs : List Char) : Bool :=
  match (Text.pieces '.' cs).mapM part? with
  | some values =>
    values.length ≤ 4 && values.dropLast.all (· < 256) &&
      values.getLast?.any (· < 1 <<< (8 * (5 - values.length)))
  | none => false

/-! ## Long numbers -/

/-- A word of a long number: up to four hexadecimal digits. -/
def word? (cs : List Char) : Option Nat :=
  if cs.isEmpty || 4 < cs.length then none else inBase? 16 cs

/-- A decimal part below 256 without leading zeros. -/
def byte? (cs : List Char) : Option Nat :=
  ((Text.Numeral.digits cs).filter fun n => Text.Numeral.text n == cs).filter (· < 256)

/-- The two words that four decimal parts denote. -/
def quad? (cs : List Char) : Option (List Nat) :=
  match (Text.pieces '.' cs).mapM byte? with
  | some [a, b, c, d] => some [a * 256 + b, c * 256 + d]
  | _ => none

/-- The words between colons, the last two perhaps written as four decimal parts. -/
def words? : List (List Char) → Option (List Nat)
  | [] => some []
  | [p] => (word? p).map ([·]) <|> quad? p
  | p :: ps => do return (← word? p) :: (← words? ps)

/-- The words of a text, which may be empty. -/
def side? (cs : List Char) : Option (List Nat) :=
  if cs.isEmpty then some [] else words? (Text.pieces ':' cs)

/-- What stands before and after the first two colons in a row. -/
def cutGap : List Char → Option (List Char × List Char)
  | [] => none
  | ':' :: ':' :: cs => some ([], cs)
  | c :: cs => (cutGap cs).map fun (a, b) => (c :: a, b)

/-- The words of a number of 128 bits. -/
def long? (cs : List Char) : Option (List Nat) :=
  match cutGap cs with
  | none => (words? (Text.pieces ':' cs)).filter (·.length == 8)
  | some (front, back) => do
    let ws ← side? front
    let vs ← side? back
    if front.contains '.' || 8 ≤ ws.length + vs.length then none
    else some (ws ++ List.replicate (8 - ws.length - vs.length) 0 ++ vs)

/-- The number of a link that is written in digits. -/
def link? (cs : List Char) : Option Nat :=
  (Text.Numeral.digits cs).filter (· ≤ Text.Numeral.max32)

/-- A number of 128 bits that is meant for a link, if a percent sign follows it. -/
def linked? (cs : List Char) : Option (List Nat × Nat) :=
  match Text.cut (· == '%') cs with
  | none => (long? cs).map (·, 0)
  | some (front, back) => do return (← long? front, ← link? back)

/-! ## Links -/

/-- The number is for many machines. -/
def isMany (words : List Nat) : Bool :=
  0xFF00 ≤ words.headD 0

/-- The number is for one machine of a link. -/
def isWithinLink (words : List Nat) : Bool :=
  words.headD 0 / 0x40 == 0xFE80 / 0x40

/-- The number is for many machines of a link. -/
def isManyWithinLink (words : List Nat) : Bool :=
  isMany words && words.headD 0 % 0x10 == 2

/-- The link of a machine to itself has a name. -/
def namedLink? (cs : List Char) : Option (List Nat × Nat) :=
  match Text.cut (· == '%') cs with
  | some (front, ['l', 'o']) =>
    ((long? front).filter fun ws => isWithinLink ws || isManyWithinLink ws).map (·, 1)
  | _ => none

/-! ## Names -/

/-- The longest part of a name, in octets. -/
def maxLabel : Nat := 63

/-- The longest name, in octets, where an octet goes before each part and one after the last. -/
def maxName : Nat := 255

/-- The parts of a name. A dot may end it. -/
def labels (cs : List Char) : List (List Char) :=
  let ps := Text.pieces '.' cs
  if ps.getLast? = some [] then ps.dropLast else ps

/-- The octets of a part of a name. -/
def labelSize (cs : List Char) : Nat :=
  (String.ofList cs).utf8ByteSize

/-- The text can be looked up as a name. A star is none, and a percent sign does not go with a
long number. -/
def isName (cs : List Char) : Bool :=
  let sizes := if cs == ['.'] then [] else (labels cs).map labelSize
  cs != ['*'] && ((Text.cut (· == '%') cs).bind fun (front, _) => long? front).isNone &&
    sizes.all (fun n => 0 < n && n ≤ maxLabel) &&
      sizes.foldl (fun total n => total + n + 1) 1 ≤ maxName

/-! ## Reading -/

/-- What stands between brackets. -/
def bracketed? : List Char → Option (List Char)
  | '[' :: cs => if cs.getLast? = some ']' then some cs.dropLast else none
  | _ => none

/-- The machine that a text names. Brackets are read as such only on request. A text that ends
early is kept as a name. -/
def read (brackets : Bool) (cs : List Char) : Locator :=
  let inner := if brackets then (bracketed? cs).bind linked? else none
  match inner <|> namedLink? cs <|> linked? cs with
  | some (ws, link) => .long ws link
  | none =>
    if isShort cs then .short
    else if cs.contains '\x00' || isName cs then .named (String.ofList cs)
    else .nothing

end Locator

end VcpuPinning
