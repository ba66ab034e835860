import VcpuPinning.Json
import VcpuPinning.Text.Lines
import VcpuPinning.Text.Utf8

/-!
# Paths

The path of a request and its segments. A segment may spell octets by a percent sign and two
hexadecimal digits; `decodeSegment?` gives the text that a segment denotes, if the octets are text.
-/

namespace VcpuPinning.Http.Path

/-- What stands before a query or a fragment. -/
def beforeQuery (cs : List Char) : List Char :=
  cs.takeWhile fun c => c ≠ '?' && c ≠ '#'

/-- A character of the scheme of a full address. -/
def isSchemeChar (c : Char) : Bool :=
  c.isAlphanum || c == '+' || c == '-' || c == '.'

/-- The path of a target. A target is a path, or a full address: a scheme, a host after two
slashes, and a path, which may be left out. Other targets have no path. -/
def ofTarget (target : String) : List Char :=
  match target.toList with
  | '/' :: cs => beforeQuery ('/' :: cs)
  | cs =>
    match cs.dropWhile isSchemeChar with
    | ':' :: '/' :: '/' :: r =>
      match beforeQuery (r.dropWhile fun c => c ≠ '/' && c ≠ '?' && c ≠ '#') with
      | [] => ['/']
      | path => path
    | _ => []

/-- The octets of a text. -/
def octets (cs : List Char) : List UInt8 :=
  (String.ofList cs).toUTF8.toList

/-- The octets that a segment denotes. A percent sign that starts no escape stands for itself. -/
def unescape : List Char → List UInt8
  | '%' :: a :: b :: cs =>
    match Json.hexDigit? a, Json.hexDigit? b with
    | some n, some m => .ofNat (n * 16 + m) :: unescape cs
    | _, _ => octets ['%'] ++ unescape (a :: b :: cs)
  | c :: cs => octets [c] ++ unescape cs
  | [] => []

/-- The text that a segment denotes. -/
def decodeSegment? (cs : List Char) : Option String :=
  Text.Utf8.decode? (unescape cs)

/-- The segment of a path below another path, if there is exactly one and it is not empty. -/
def segmentBelow? (base : String) (path : List Char) : Option (List Char) :=
  match Text.dropFront (base.toList ++ ['/']) path with
  | some segment => if segment.isEmpty || segment.contains '/' then none else some segment
  | none => none

end VcpuPinning.Http.Path
