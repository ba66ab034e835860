import VcpuPinning.CpuSpec
import VcpuPinning.Json.Record

/-!
# Notices

A `Notice` tells an agent about an event in the life of an instance. `triage` picks the notices
that the agent of a host acts on, and says why it ignores the others.
-/

namespace VcpuPinning.Agent

/-- An event in the life of an instance. -/
structure Notice where
  eventType : String
  /-- Who published the event. -/
  publisherId : Option String
  instanceUuid : String
  /-- The host the instance is on. -/
  host : Option String
  metadata : SortedMap String String
  deriving DecidableEq

namespace Notice

/-- The names of the fields, in order. -/
def fieldNames : List String :=
  ["event_type", "publisher_id", "instance_uuid", "host", "metadata"]

/-- A notice as a document. -/
def toJson (n : Notice) : Json :=
  Json.record fieldNames
    [some (Json.text n.eventType), some (Json.ofOption Json.text n.publisherId),
      some (Json.text n.instanceUuid), some (Json.ofOption Json.text n.host),
      some (Json.ofTextMap Json.text n.metadata)]

/-- The notice that a document denotes. -/
def ofJson? (j : Json) : Option Notice := do
  let s ← Json.toSlots? fieldNames j
  return {
    eventType := ← s.required 0 Json.toString?
    publisherId := ← s.nullable 1 Json.toString?
    instanceUuid := ← s.required 2 Json.toString?
    host := ← s.nullable 3 Json.toString?
    metadata := ← s.defaulted 4 (Json.toTextMap? Json.toString?) .empty }

end Notice

/-- Why a notice is ignored. -/
inductive IgnoreReason where
  /-- The event is of another type. -/
  | unsupportedEvent (eventType : String)
  /-- The instance is on another host. -/
  | otherHost (host : Option String)
  /-- The metadata do not hold the trigger key. -/
  | noTrigger
  /-- The value under the trigger key is no specification. -/
  | invalidTrigger (e : SpecError)
  deriving DecidableEq, Repr

/-- The event of an instance that was created. -/
def instanceCreated : String :=
  "instance.create.end"

/-- The event of an instance whose metadata changed. -/
def metadataUpdated : String :=
  "instance.instance_metadata_update"

/-- The specification under the trigger key of a notice to act on, or why it is ignored. The type
of the event is compared without regard to the case of ASCII letters. -/
def triage (hostName triggerKey : String) (n : Notice) : Except IgnoreReason String :=
  let event := n.eventType.map Char.toLower
  if event ≠ instanceCreated ∧ event ≠ metadataUpdated then
    .error (.unsupportedEvent n.eventType)
  else if n.host ≠ some hostName then .error (.otherHost n.host)
  else
    match n.metadata.get? triggerKey with
    | none => .error .noTrigger
    | some spec =>
      match CpuSpec.validate spec with
      | .error e => .error (.invalidTrigger e)
      | .ok _ => .ok spec

end VcpuPinning.Agent
