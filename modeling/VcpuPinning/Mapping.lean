import VcpuPinning.Json.Record

/-!
# CPU mappings

A `Mapping` is the CPU specification wanted for one instance, with the outcome of the last cycle
that tried to apply it. It starts as pending; a settled mapping has succeeded or failed and never
becomes pending again (`Status.canBecome`). A `Draft` holds what is given for a new mapping.
-/

namespace VcpuPinning

/-- How far a mapping has come. -/
inductive Mapping.Status where
  | pending
  | succeed
  | failed
  deriving DecidableEq, Repr

namespace Mapping.Status

/-- Every status. -/
def all : List Status :=
  [.pending, .succeed, .failed]

/-- The word for a status. -/
def word : Status → String
  | .pending => "PENDING"
  | .succeed => "SUCCEED"
  | .failed => "FAILED"

/-- The status with a word. -/
def ofWord? (w : String) : Option Status :=
  all.find? (·.word = w)

/-- The status that a document denotes. -/
def ofJson? : Json → Option Status :=
  Json.toTag? ofWord?

/-- An apply cycle has ended. -/
def isTerminal : Status → Bool
  | .pending => false
  | _ => true

/-- Whether one status may follow another: an ended cycle may follow any, and the pending state
only itself. -/
def canBecome (status next : Status) : Bool :=
  next.isTerminal || status == .pending

/-- The status after a cycle that applied the mapping, or did not. -/
def ofApplied (applied : Bool) : Status :=
  if applied then .succeed else .failed

@[simp] theorem ofWord?_word (s : Status) : ofWord? s.word = some s := by
  cases s <;> decide

@[simp] theorem isTerminal_ofApplied (applied : Bool) : (ofApplied applied).isTerminal := by
  cases applied <;> rfl

@[simp] theorem canBecome_ofApplied (s : Status) (applied : Bool) :
    s.canBecome (ofApplied applied) := by
  simp [canBecome]

end Mapping.Status

/-- The CPU specification wanted for an instance. -/
structure Mapping where
  /-- The number of the mapping. -/
  id : UInt64
  /-- The instance, which is also the key of the mapping. -/
  instanceUuid : String
  /-- The project that asked for it. -/
  projectId : Option String
  /-- The user who asked for it. -/
  userId : Option String
  /-- The host the instance was last seen on. -/
  host : Option String
  /-- The CPU specification, compiled on the host when it is applied. -/
  spec : String
  /-- The outcome of the last cycle. -/
  status : Mapping.Status
  /-- Why the last cycle failed. -/
  statusReason : Option String
  /-- When the mapping was created. -/
  createdAt : UInt64
  /-- When the mapping was last written. -/
  updatedAt : UInt64
  deriving DecidableEq

namespace Mapping

/-- The names of the fields, in order. -/
def fieldNames : List String :=
  ["id", "instance_uuid", "project_id", "user_id", "host", "cpu_mappings", "status",
    "status_reason", "created_at", "updated_at"]

/-- The mapping on another host. -/
def withHost (m : Mapping) (host : String) : Mapping :=
  { m with host := some host }

/-- The mapping after a cycle. A reason is kept for a failure only. -/
def settled (m : Mapping) (applied : Bool) (reason : Option String) : Mapping :=
  { m with
    status := .ofApplied applied
    statusReason := if applied then none else reason }

/-- A mapping in a document. -/
def toJson (m : Mapping) : Json :=
  Json.record fieldNames
    [some (Json.nat m.id.toNat), some (Json.text m.instanceUuid),
      some (Json.ofOption Json.text m.projectId), some (Json.ofOption Json.text m.userId),
      some (Json.ofOption Json.text m.host), some (Json.text m.spec),
      some (Json.text m.status.word), some (Json.ofOption Json.text m.statusReason),
      some (Json.nat m.createdAt.toNat), some (Json.nat m.updatedAt.toNat)]

/-- The mapping that a document denotes. -/
def ofJson? (j : Json) : Option Mapping := do
  let s ← Json.toSlots? fieldNames j
  return {
    id := ← s.required 0 Json.toUInt64?
    instanceUuid := ← s.required 1 Json.toString?
    projectId := ← s.optional 2 Json.toString?
    userId := ← s.optional 3 Json.toString?
    host := ← s.optional 4 Json.toString?
    spec := ← s.required 5 Json.toString?
    status := ← s.required 6 Status.ofJson?
    statusReason := ← s.nullable 7 Json.toString?
    createdAt := ← s.required 8 Json.toUInt64?
    updatedAt := ← s.required 9 Json.toUInt64? }

end Mapping

/-- What is given for a new mapping. -/
structure Draft where
  instanceUuid : String
  projectId : Option String
  userId : Option String
  host : Option String
  spec : String
  deriving DecidableEq

namespace Draft

/-- The names of the fields, in order. -/
def fieldNames : List String :=
  ["instance_uuid", "project_id", "user_id", "host", "cpu_mappings"]

/-- A draft in a document. -/
def toJson (d : Draft) : Json :=
  Json.record fieldNames
    [some (Json.text d.instanceUuid), some (Json.ofOption Json.text d.projectId),
      some (Json.ofOption Json.text d.userId), some (Json.ofOption Json.text d.host),
      some (Json.text d.spec)]

/-- The draft that a document denotes. -/
def ofJson? (j : Json) : Option Draft := do
  let s ← Json.toSlots? fieldNames j
  return {
    instanceUuid := ← s.required 0 Json.toString?
    projectId := ← s.optional 1 Json.toString?
    userId := ← s.optional 2 Json.toString?
    host := ← s.optional 3 Json.toString?
    spec := ← s.required 4 Json.toString? }

/-- The pending mapping made from a draft. -/
def toMapping (d : Draft) (id now : UInt64) : Mapping where
  id := id
  instanceUuid := d.instanceUuid
  projectId := d.projectId
  userId := d.userId
  host := d.host
  spec := d.spec
  status := .pending
  statusReason := none
  createdAt := now
  updatedAt := now

end Draft

end VcpuPinning
