import VcpuPinning.Json.Reader
import VcpuPinning.SortedMap

/-!
# Values in JSON documents

What a document denotes as a value of a type. A record may be given as an object, whose unknown
members count for nothing and whose known members occur at most once, or as an array of its fields
in order. `Slots.required`, `Slots.optional` and `Slots.defaulted` are the three ways in which a
field may be left out; `record` writes the fields of a record that are there.
-/

namespace VcpuPinning.Json

variable {α β γ : Type}

/-- The values of all parts, if each of them has one. -/
def all? (f : α → Option β) : List α → Option (List β)
  | [] => some []
  | a :: as =>
    match f a, all? f as with
    | some b, some bs => some (b :: bs)
    | _, _ => none

theorem all?_map {f : α → Option β} {g : γ → α} {h : γ → β} {cs : List γ}
    (hf : ∀ c ∈ cs, f (g c) = some (h c)) : all? f (cs.map g) = some (cs.map h) := by
  induction cs with
  | nil => rfl
  | cons c cs ih =>
    simp [all?, hf c (by simp), ih fun d hd => hf d (by simp [hd])]

/-! ## Simple values -/

/-- A text. -/
def toString? : Json → Option String
  | .string spelling => (unescape spelling).map String.ofList
  | _ => none

/-- A truth value. -/
def toBool? : Json → Option Bool
  | .bool b => some b
  | _ => none

/-- A natural number up to `limit`, spelled without point, exponent or sign. -/
def toNat? (limit : Nat) : Json → Option Nat
  | .number spelling => (Text.Numeral.digits spelling).filter (· ≤ limit)
  | _ => none

/-- A number of 32 bits. -/
def toUInt32? (j : Json) : Option UInt32 :=
  (j.toNat? Text.Numeral.max32).map .ofNat

/-- A number of 64 bits. -/
def toUInt64? (j : Json) : Option UInt64 :=
  (j.toNat? Text.Numeral.max64).map .ofNat

/-- The items of an array. -/
def toList? (item : Json → Option α) : Json → Option (List α)
  | .array js => all? item js
  | _ => none

/-- A value or null. -/
def toOption? (value : Json → Option α) : Json → Option (Option α)
  | .null => some none
  | j => (value j).map some

/-- A name of an object that stands for a number: its digits as they are spelled, without leading
zeros. -/
def keyNumber? (spelling : List Char) : Option UInt32 :=
  if spelling.length ≠ 1 ∧ spelling.head? = some '0' then none
  else ((Text.Numeral.digits spelling).filter (· ≤ Text.Numeral.max32)).map .ofNat

/-- A name of an object as a text. -/
def keyText? (spelling : List Char) : Option String :=
  (unescape spelling).map String.ofList

/-- A member of an object, its name and its value read. -/
def member? (key : List Char → Option β) (value : Json → Option α) (m : List Char × Json) :
    Option (β × α) :=
  match key m.1, value m.2 with
  | some k, some a => some (k, a)
  | _, _ => none

/-- An object as a map from numbers; of members with one number the last one counts. -/
def toNumberMap? (value : Json → Option α) : Json → Option (SortedMap UInt32 α)
  | .object ms =>
    (all? (member? keyNumber? value) ms).map SortedMap.ofList
  | _ => none

/-- An object as a map from texts; of members with one name the last one counts. -/
def toTextMap? (value : Json → Option α) : Json → Option (SortedMap String α)
  | .object ms =>
    (all? (member? keyText? value) ms).map SortedMap.ofList
  | _ => none

/-- What the formats that are read as documents leave open. -/
structure Dialect where
  /-- Whether a document stands for a value without content. -/
  isUnit : Json → Bool
  /-- Whether the array of a record may have more items than the record has fields. -/
  surplus : Bool

/-- The dialect of JSON itself: null is the value without content, and arrays have no surplus. -/
def Dialect.strict : Dialect where
  isUnit
    | .null => true
    | _ => false
  surplus := false

/-- One of the values of a type, by its name. The name may also be the only one of an object whose
value is without content. -/
def toTagIn? (dialect : Dialect) (tag : String → Option α) : Json → Option α
  | .string spelling => (keyText? spelling).bind tag
  | .object [(k, j)] => if dialect.isUnit j then (keyText? k).bind tag else none
  | _ => none

/-- One of the values of a type, by its name in a JSON document. -/
def toTag? (tag : String → Option α) : Json → Option α :=
  toTagIn? .strict tag

/-- An object with one member, by the name of the member. -/
def toVariant? (variant : String → Json → Option α) : Json → Option α
  | .object [(k, j)] => (keyText? k).bind (variant · j)
  | _ => none

/-! ## Records -/

/-- The fields of a record in order, as far as they are given. -/
structure Slots where
  /-- The fields were given as an array. -/
  inOrder : Bool
  /-- The value of each field, if it is given. -/
  values : List (Option Json)

/-- The value of the one member with a name, if there is any. Two of them are refused. -/
def slot? (ms : List (String × Json)) (name : String) : Option (Option Json) :=
  match ms.filter (·.1 = name) with
  | [] => some none
  | [m] => some (some m.2)
  | _ => none

/-- The fields of a record with the given names. -/
def toSlotsIn? (dialect : Dialect) (names : List String) : Json → Option Slots
  | .object ms => do
    let ms ← all? (member? keyText? some) ms
    return ⟨false, ← all? (slot? ms) names⟩
  | .array js =>
    if js.length ≤ names.length || dialect.surplus then
      some ⟨true, js.map some ++ List.replicate (names.length - js.length) none⟩
    else none
  | _ => none

/-- The fields of a record in a JSON document. -/
def toSlots? (names : List String) : Json → Option Slots :=
  toSlotsIn? .strict names

namespace Slots

/-- The value of field `i`, if it is given. -/
def get (s : Slots) (i : Nat) : Option Json :=
  (s.values[i]?).join

/-- A field that has to be given. -/
def required (s : Slots) (i : Nat) (value : Json → Option α) : Option α :=
  (s.get i).bind value

/-- A field that may be null, or be left out of an object. -/
def optional (s : Slots) (i : Nat) (value : Json → Option α) : Option (Option α) :=
  match s.get i with
  | some j => j.toOption? value
  | none => if s.inOrder then none else some none

/-- A field that has a value when it is left out. -/
def defaulted (s : Slots) (i : Nat) (value : Json → Option α) (default : α) : Option α :=
  match s.get i with
  | some j => value j
  | none => some default

/-- A field that may be null or left out. -/
def nullable (s : Slots) (i : Nat) (value : Json → Option α) : Option (Option α) :=
  s.defaulted i (toOption? value) none

end Slots

/-! ## Writing values -/

/-- A value, or null without one. -/
def ofOption (value : α → Json) : Option α → Json
  | none => .null
  | some a => value a

/-- An array. -/
def ofList (item : α → Json) (as : List α) : Json :=
  .array (as.map item)

/-- An object with numbers as names. -/
def ofNumberMap (value : α → Json) (m : SortedMap UInt32 α) : Json :=
  .object (m.entries.map fun (k, a) => (Text.Numeral.text k.toNat, value a))

/-- An object with texts as names. -/
def ofTextMap (value : α → Json) (m : SortedMap String α) : Json :=
  .object (m.entries.map fun (k, a) => (escape k.toList, value a))

/-- An object with the given members. -/
def obj (ms : List (String × Json)) : Json :=
  .object (ms.map fun (k, j) => (escape k.toList, j))

/-- The object of a record: the fields that are there, under their names. -/
def record (names : List String) (values : List (Option Json)) : Json :=
  obj ((names.zip values).filterMap fun (name, value) => value.map fun j => (name, j))

end VcpuPinning.Json
