import VcpuPinning.Text.Blank
import VcpuPinning.Text.Lines
import VcpuPinning.Text.Numeral

/-!
# Durations

Durations are counted in nanoseconds. `read?` takes `500ms`, `5s`, `2m` or a bare number of
seconds; `text` writes a duration in its largest unit of seconds, milliseconds, microseconds or
nanoseconds, as a decimal fraction without trailing zeros.
-/

namespace VcpuPinning

/-- A length of time. -/
structure Duration where
  /-- The number of nanoseconds. -/
  nanos : Nat
  deriving DecidableEq, Repr

namespace Duration

/-- `n` milliseconds. -/
def ofMillis (n : Nat) : Duration :=
  ⟨n * 1000000⟩

/-- `n` seconds. -/
def ofSeconds (n : Nat) : Duration :=
  ⟨n * 1000000000⟩

/-- The whole seconds of a duration. -/
def seconds (d : Duration) : Nat :=
  d.nanos / 1000000000

/-- The nanoseconds beyond the whole seconds. -/
def subsecond (d : Duration) : Nat :=
  d.nanos % 1000000000

/-- The duration that a text denotes, between blanks. Numbers have at most 64 bits, and so has the
number of seconds that a number of minutes amounts to. -/
def read? (s : String) : Option Duration :=
  let number := Text.Numeral.unsigned Text.Numeral.max64
  let cs := Text.trim s.toList
  match Text.dropTail ['s'] cs with
  | some body =>
    match Text.dropTail ['m'] body with
    | some body => (number body).map ofMillis
    | none => (number body).map ofSeconds
  | none =>
    match Text.dropTail ['m'] cs with
    | some body => ((number body).filter (· * 60 ≤ Text.Numeral.max64)).map (ofSeconds <| · * 60)
    | none => (number cs).map ofSeconds

/-- `n / 10 ^ places` as a decimal fraction without trailing zeros. -/
def decimal (n places : Nat) : List Char :=
  let whole := Text.Numeral.text (n / Nat.pow 10 places)
  let part := n % Nat.pow 10 places
  if part = 0 then whole
  else
    let ds := Text.Numeral.text part
    let padded := List.replicate (places - ds.length) '0' ++ ds
    whole ++ '.' :: (padded.reverse.dropWhile (· == '0')).reverse

/-- A duration for a message, such as `1.5s`, `40ms` or `0ns`. -/
def text (d : Duration) : String :=
  let (places, unit) :=
    if 1000000000 ≤ d.nanos then (9, "s")
    else if 1000000 ≤ d.nanos then (6, "ms")
    else if 1000 ≤ d.nanos then (3, "µs")
    else (0, "ns")
  String.ofList (decimal d.nanos places) ++ unit

end Duration

end VcpuPinning
