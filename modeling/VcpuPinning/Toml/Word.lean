import VcpuPinning.Text.Lines
import VcpuPinning.Text.Numeral

/-!
# Words of TOML

A value that is neither a string nor a collection is written as one word: a truth value, a number
or a point in time. Integers have 64 bits, digits may be grouped by underscores, and there are no
leading zeros.
-/

namespace VcpuPinning.Toml.Word

/-! ## Numbers -/

/-- Digits in groups that are separated by single underscores, without the underscores. -/
def grouped (isDigit : Char → Bool) (cs : List Char) : Option (List Char) :=
  let groups := Text.pieces '_' cs
  if groups.all fun g => !g.isEmpty && g.all isDigit then some groups.flatten else none

/-- A text without its sign, and whether the sign is a minus. -/
def unsigned : List Char → Bool × List Char
  | '+' :: cs => (false, cs)
  | '-' :: cs => (true, cs)
  | cs => (false, cs)

/-- The digits of a whole decimal number without leading zeros. -/
def whole (cs : List Char) : Option (List Char) :=
  (grouped Char.isDigit cs).filter fun ds => ds.length == 1 || ds.head? != some '0'

/-- The value of a digit in bases up to 16. -/
def digitValue (c : Char) : Nat :=
  if c.isDigit then c.toNat - 0x30
  else if 'a' ≤ c && c ≤ 'f' then c.toNat - 0x57
  else if 'A' ≤ c && c ≤ 'F' then c.toNat - 0x37
  else 16

/-- A number in some base. -/
def inBase (base : Nat) (cs : List Char) : Option Int :=
  (grouped (digitValue · < base) cs).map fun ds =>
    (ds.foldl (fun n c => n * base + digitValue c) 0 : Nat)

/-- An integer of any size. -/
def anyInteger : List Char → Option Int
  | '0' :: 'x' :: cs => inBase 16 cs
  | '0' :: 'o' :: cs => inBase 8 cs
  | '0' :: 'b' :: cs => inBase 2 cs
  | cs =>
    let (negative, body) := unsigned cs
    (whole body).bind fun ds =>
      (Text.Numeral.digits ds).map fun n => if negative then -(n : Int) else n

/-- An integer of 64 bits. -/
def integer (cs : List Char) : Option Int :=
  (anyInteger cs).filter fun n => Int64.minValue.toInt ≤ n ∧ n ≤ Int64.maxValue.toInt

/-- The exponent of a number, if it is written. -/
def exponent (cs : List Char) : Option Int :=
  let (negative, body) := unsigned cs
  ((grouped Char.isDigit body).bind Text.Numeral.digits).map fun n =>
    if negative then -(n : Int) else n

/-- The digits of a mantissa, and how many of them stand after the point. A number without a point
has none there. -/
def mantissa (cs : List Char) : Option (List Char × Nat) :=
  match Text.cut (· == '.') cs with
  | none => (whole cs).map fun ds => (ds, 0)
  | some (front, back) => do
    let ds ← whole front
    let fs ← grouped Char.isDigit back
    return (ds ++ fs, fs.length)

/-- `n · 10 ^ e` is too large for a number of 64 bits with a binary exponent: it would be rounded
to `2 ^ 1024`. -/
def isTooLarge (n : Nat) (e : Int) : Bool :=
  let limit := 1 <<< 1024 - 1 <<< 970
  if n = 0 then false
  else if 400 < e then true
  else if 0 ≤ e then limit ≤ n * Nat.pow 10 e.toNat
  else if (Text.Numeral.text n).length ≤ e.natAbs then false
  else limit * Nat.pow 10 e.natAbs ≤ n

/-- A number with a fraction or an exponent, or one that stands for infinity or for no number. -/
def isFloat (cs : List Char) : Bool :=
  let (negative, body) := unsigned cs
  if body == "inf".toList || body == "nan".toList then true
  else
    let parts := match Text.cut (fun c => c == 'e' || c == 'E') body with
      | none => if body.contains '.' then (mantissa body).map fun m => (m, 0) else none
      | some (front, back) => (mantissa front).bind fun m => (exponent back).map fun e => (m, e)
    match parts with
    | none => false
    | some ((ds, places), e) =>
      negative || !isTooLarge ((Text.Numeral.digits ds).getD 0) (e - places)

/-! ## Points in time -/

/-- The number that a fixed count of digits denotes. -/
def fixed (count : Nat) (cs : List Char) : Option Nat :=
  if cs.length = count then Text.Numeral.digits cs else none

/-- The number of days of a month. -/
def daysIn (year month : Nat) : Nat :=
  if month = 2 then
    if year % 4 = 0 ∧ (year % 100 ≠ 0 ∨ year % 400 = 0) then 29 else 28
  else if month ∈ [4, 6, 9, 11] then 30
  else 31

/-- A day: year, month and day, separated by hyphens. -/
def isDate (cs : List Char) : Bool :=
  match Text.pieces '-' cs with
  | [y, m, d] =>
    match fixed 4 y, fixed 2 m, fixed 2 d with
    | some y, some m, some d => 1 ≤ m && m ≤ 12 && 1 ≤ d && d ≤ daysIn y m
    | _, _, _ => false
  | _ => false

/-- Hours and minutes, separated by a colon. -/
def isHourMinute (h m : List Char) : Bool :=
  match fixed 2 h, fixed 2 m with
  | some h, some m => h ≤ 23 && m ≤ 59
  | _, _ => false

/-- A time of day; seconds may have a fraction. -/
def isTime (cs : List Char) : Bool :=
  match Text.pieces ':' cs with
  | [h, m, s] =>
    let (seconds, fraction) := match Text.cut (· == '.') s with
      | none => (s, some 0)
      | some (seconds, fraction) => (seconds, Text.Numeral.digits fraction)
    isHourMinute h m && fraction.isSome && ((fixed 2 seconds).any (· ≤ 60))
  | _ => false

/-- The distance to universal time. -/
def isOffset : List Char → Bool
  | ['Z'] => true
  | ['z'] => true
  | '+' :: cs => isDistance cs
  | '-' :: cs => isDistance cs
  | _ => false
where
  /-- Hours and minutes. -/
  isDistance (cs : List Char) : Bool :=
    match Text.pieces ':' cs with
    | [h, m] => isHourMinute h m
    | _ => false

/-- A time of day with or without an offset. -/
def isTimeWithOffset (cs : List Char) : Bool :=
  let time := cs.takeWhile fun c => c.isDigit || c == ':' || c == '.'
  let offset := cs.drop time.length
  isTime time && (offset.isEmpty || isOffset offset)

/-- A point in time: a day, a time of day, or both. -/
def isMoment (cs : List Char) : Bool :=
  isDate cs || isTime cs ||
    (isDate (cs.take 10) && ((cs.drop 10).head?.any fun c => c == 'T' || c == 't' || c == ' ') &&
      isTimeWithOffset (cs.drop 11))

end VcpuPinning.Toml.Word
