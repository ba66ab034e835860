import VcpuPinning.Json.Record

/-!
# Callers

A `Caller` tells who asks for something, and for which project. It is made once for a request and
goes with every call that the request leads to. Each request has an identifier that ends in a
random UUID.
-/

namespace VcpuPinning

namespace Uuid

/-- `n` hexadecimal digits of a number, the lowest ones. -/
def hexDigits : Nat → Nat → List Char
  | 0, _ => []
  | n + 1, k => hexDigits n (k / 16) ++ [Json.hexChar (k % 16)]

/-- The UUID made of 122 random bits: version 4, and the common variant. -/
def random (bits : Nat) : String :=
  let a := bits % 1 <<< 48
  let b := bits >>> 48 % 1 <<< 12
  let c := bits >>> 60 % 1 <<< 14
  let d := bits >>> 74 % 1 <<< 48
  String.ofList (hexDigits 8 (a >>> 16) ++ '-' :: (hexDigits 4 a ++ '-' :: ('4' :: hexDigits 3 b ++
    '-' :: (hexDigits 4 (0x8000 + c) ++ '-' :: hexDigits 12 d))))

theorem length_hexDigits (n k : Nat) : (hexDigits n k).length = n := by
  induction n generalizing k with
  | zero => rfl
  | succ n ih => simp [hexDigits, ih]

/-- A UUID has 36 characters. -/
theorem length_random (bits : Nat) : (random bits).toList.length = 36 := by
  simp [random, length_hexDigits]

end Uuid

/-- Who asks, and for which project. -/
structure Caller where
  /-- The identifier of the request. -/
  requestId : String
  projectId : Option String
  userId : Option String
  isAdmin : Bool
  deriving DecidableEq, Repr

namespace Caller

/-- The names of the fields, in order. -/
def fieldNames : List String :=
  ["request_id", "project_id", "user_id", "is_admin"]

/-- The caller of what a part of the service starts by itself. -/
def service (origin : String) (bits : Nat) : Caller where
  requestId := origin ++ "-" ++ Uuid.random bits
  projectId := none
  userId := none
  isAdmin := true

/-- The caller of a request by a user of a project. -/
def forUser (project user : String) (bits : Nat) : Caller where
  requestId := "req-" ++ Uuid.random bits
  projectId := some project
  userId := some user
  isAdmin := false

/-- A caller in a document. -/
def toJson (c : Caller) : Json :=
  Json.record fieldNames
    [some (Json.text c.requestId), some (Json.ofOption Json.text c.projectId),
      some (Json.ofOption Json.text c.userId), some (Json.bool c.isAdmin)]

/-- The caller that a document denotes. -/
def ofJson? (j : Json) : Option Caller := do
  let s ← Json.toSlots? fieldNames j
  return {
    requestId := ← s.required 0 Json.toString?
    projectId := ← s.nullable 1 Json.toString?
    userId := ← s.nullable 2 Json.toString?
    isAdmin := ← s.defaulted 3 Json.toBool? false }

end Caller

end VcpuPinning
