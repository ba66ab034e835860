import VcpuPinning.Caller
import VcpuPinning.Host
import VcpuPinning.Instance
import VcpuPinning.Mapping
import VcpuPinning.Rpc.Fault

/-!
# Calls and replies

The payloads of the calls between agents and the conductor and of their replies, and the envelopes
around them: a `Call` carries the protocol version and the caller, a reply carries an answer or a
fault.
-/

namespace VcpuPinning.Rpc

/-- The version of the protocol. -/
def apiVersion : String :=
  "1.0"

/-- The name of the header that carries the token. -/
def tokenHeader : String :=
  "x-pinwheel-token"

/-! ## Routes -/

/-- What can be called. -/
inductive Route where
  | createMapping
  | reconcileInstance
  | reconcileHost
  | reconcileInstances
  | reapplyMapping
  | applyMapping
  deriving DecidableEq, Repr

/-- The path of a route. -/
def Route.path : Route → String
  | .createMapping => "/rpc/v1/create_instance_cpu_mapping"
  | .reconcileInstance => "/rpc/v1/reconcile_instance"
  | .reconcileHost => "/rpc/v1/reconcile_host"
  | .reconcileInstances => "/rpc/v1/reconcile_instances"
  | .reapplyMapping => "/rpc/v1/reapply_instance_cpu_mapping"
  | .applyMapping => "/rpc/v1/apply_instance_cpu_mapping"

/-! ## Payloads -/

/-- Ask for a mapping. -/
structure CreateMapping where
  instanceUuid : String
  spec : String
  /-- The instance is not placed yet; its mapping waits. -/
  waitUntilActive : Bool := false
  /-- The host on which the asker knows the instance to be. -/
  host : Option String := none
  deriving DecidableEq, Repr

/-- Apply the mapping of an instance on a host after an event. -/
structure ReconcileInstance where
  instanceUuid : String
  host : String
  deriving DecidableEq, Repr

/-- Report a host. -/
structure ReconcileHost where
  host : Host
  deriving DecidableEq

/-- Report the instances of a host. -/
structure ReconcileInstances where
  hostName : String
  instances : List Instance
  deriving DecidableEq

/-- Apply a mapping once more. -/
structure ReapplyMapping where
  instanceUuid : String
  deriving DecidableEq, Repr

/-- Apply a mapping on the host that is called. -/
structure ApplyMapping where
  mapping : Mapping
  deriving DecidableEq

/-- The mapping after a reconciliation, if there is one. -/
structure ReconciledInstance where
  mapping : Option Mapping
  deriving DecidableEq

/-- What a host report changed. -/
structure ReconciledHost where
  created : Bool
  changedFields : List String
  deriving DecidableEq, Repr

/-- What an instance report changed. -/
structure Summary where
  created : UInt64 := 0
  updated : UInt64 := 0
  unchanged : UInt64 := 0
  failed : UInt64 := 0
  deriving DecidableEq, Repr

/-- What became of each virtual CPU. -/
structure Applied where
  /-- All of them were pinned. -/
  applied : Bool
  /-- Whether each of them was pinned. -/
  vcpuResults : List Bool
  deriving DecidableEq, Repr

namespace CreateMapping

/-- The names of the fields, in order. -/
def fieldNames : List String :=
  ["instance_uuid", "cpu_mappings", "wait_until_active", "host"]

/-- The payload as a document. -/
def toJson (p : CreateMapping) : Json :=
  Json.record fieldNames
    [some (Json.text p.instanceUuid), some (Json.text p.spec), some (Json.bool p.waitUntilActive),
      some (Json.ofOption Json.text p.host)]

/-- The payload that a document denotes. -/
def ofJson? (j : Json) : Option CreateMapping := do
  let s ← Json.toSlots? fieldNames j
  return {
    instanceUuid := ← s.required 0 Json.toString?
    spec := ← s.required 1 Json.toString?
    waitUntilActive := ← s.defaulted 2 Json.toBool? false
    host := ← s.nullable 3 Json.toString? }

end CreateMapping

namespace ReconcileInstance

/-- The names of the fields, in order. -/
def fieldNames : List String :=
  ["instance_uuid", "host"]

/-- The payload as a document. -/
def toJson (p : ReconcileInstance) : Json :=
  Json.record fieldNames [some (Json.text p.instanceUuid), some (Json.text p.host)]

/-- The payload that a document denotes. -/
def ofJson? (j : Json) : Option ReconcileInstance := do
  let s ← Json.toSlots? fieldNames j
  return {
    instanceUuid := ← s.required 0 Json.toString?
    host := ← s.required 1 Json.toString? }

end ReconcileInstance

namespace ReconcileHost

/-- The payload as a document. -/
def toJson (p : ReconcileHost) : Json :=
  Json.record ["host"] [some p.host.toJson]

/-- The payload that a document denotes. -/
def ofJson? (j : Json) : Option ReconcileHost := do
  let s ← Json.toSlots? ["host"] j
  return { host := ← s.required 0 Host.ofJson? }

end ReconcileHost

namespace ReconcileInstances

/-- The names of the fields, in order. -/
def fieldNames : List String :=
  ["host_name", "instances"]

/-- The payload as a document. -/
def toJson (p : ReconcileInstances) : Json :=
  Json.record fieldNames
    [some (Json.text p.hostName), some (Json.ofList Instance.toJson p.instances)]

/-- The payload that a document denotes. -/
def ofJson? (j : Json) : Option ReconcileInstances := do
  let s ← Json.toSlots? fieldNames j
  return {
    hostName := ← s.required 0 Json.toString?
    instances := ← s.required 1 (Json.toList? Instance.ofJson?) }

end ReconcileInstances

namespace ReapplyMapping

/-- The payload as a document. -/
def toJson (p : ReapplyMapping) : Json :=
  Json.record ["instance_uuid"] [some (Json.text p.instanceUuid)]

/-- The payload that a document denotes. -/
def ofJson? (j : Json) : Option ReapplyMapping := do
  let s ← Json.toSlots? ["instance_uuid"] j
  return { instanceUuid := ← s.required 0 Json.toString? }

end ReapplyMapping

namespace ApplyMapping

/-- The payload as a document. -/
def toJson (p : ApplyMapping) : Json :=
  Json.record ["mapping"] [some p.mapping.toJson]

/-- The payload that a document denotes. -/
def ofJson? (j : Json) : Option ApplyMapping := do
  let s ← Json.toSlots? ["mapping"] j
  return { mapping := ← s.required 0 Mapping.ofJson? }

end ApplyMapping

namespace ReconciledInstance

/-- The payload as a document. -/
def toJson (p : ReconciledInstance) : Json :=
  Json.record ["mapping"] [some (Json.ofOption Mapping.toJson p.mapping)]

/-- The payload that a document denotes. -/
def ofJson? (j : Json) : Option ReconciledInstance := do
  let s ← Json.toSlots? ["mapping"] j
  return { mapping := ← s.optional 0 Mapping.ofJson? }

end ReconciledInstance

namespace ReconciledHost

/-- The names of the fields, in order. -/
def fieldNames : List String :=
  ["created", "changed_fields"]

/-- The payload as a document. -/
def toJson (p : ReconciledHost) : Json :=
  Json.record fieldNames
    [some (Json.bool p.created), some (Json.ofList Json.text p.changedFields)]

/-- The payload that a document denotes. -/
def ofJson? (j : Json) : Option ReconciledHost := do
  let s ← Json.toSlots? fieldNames j
  return {
    created := ← s.required 0 Json.toBool?
    changedFields := ← s.required 1 (Json.toList? Json.toString?) }

end ReconciledHost

namespace Summary

/-- The names of the fields, in order. -/
def fieldNames : List String :=
  ["created", "updated", "unchanged", "failed"]

/-- The payload as a document. -/
def toJson (p : Summary) : Json :=
  Json.record fieldNames
    [some (Json.nat p.created.toNat), some (Json.nat p.updated.toNat),
      some (Json.nat p.unchanged.toNat), some (Json.nat p.failed.toNat)]

/-- The payload that a document denotes. -/
def ofJson? (j : Json) : Option Summary := do
  let s ← Json.toSlots? fieldNames j
  return {
    created := ← s.required 0 Json.toUInt64?
    updated := ← s.required 1 Json.toUInt64?
    unchanged := ← s.required 2 Json.toUInt64?
    failed := ← s.required 3 Json.toUInt64? }

end Summary

namespace Applied

/-- The names of the fields, in order. -/
def fieldNames : List String :=
  ["applied", "vcpu_results"]

/-- The payload as a document. -/
def toJson (p : Applied) : Json :=
  Json.record fieldNames
    [some (Json.bool p.applied), some (Json.ofList Json.bool p.vcpuResults)]

/-- The payload that a document denotes. -/
def ofJson? (j : Json) : Option Applied := do
  let s ← Json.toSlots? fieldNames j
  return {
    applied := ← s.required 0 Json.toBool?
    vcpuResults := ← s.required 1 (Json.toList? Json.toBool?) }

end Applied

/-! ## Envelopes -/

variable {α : Type}

/-- A call: who calls, with which version of the protocol, and what for. -/
structure Call (α : Type) where
  version : String
  caller : Caller
  payload : α
  deriving DecidableEq

namespace Call

/-- The names of the fields, in order. -/
def fieldNames : List String :=
  ["version", "context", "payload"]

/-- A call with the current version. -/
def current (caller : Caller) (payload : α) : Call α :=
  ⟨apiVersion, caller, payload⟩

/-- A call as a document. -/
def toJson (payload : α → Json) (c : Call α) : Json :=
  Json.record fieldNames
    [some (Json.text c.version), some c.caller.toJson, some (payload c.payload)]

/-- The call that a document denotes. -/
def ofJson? (payload : Json → Option α) (j : Json) : Option (Call α) := do
  let s ← Json.toSlots? fieldNames j
  return {
    version := ← s.required 0 Json.toString?
    caller := ← s.required 1 Caller.ofJson?
    payload := ← s.required 2 payload }

end Call

/-- A reply as a document: an answer under `ok`, or a fault under `error`. -/
def replyToJson (answer : α → Json) : Except Fault α → Json
  | .ok a => Json.obj [("ok", answer a)]
  | .error f => Json.obj [("error", f.toJson)]

/-- The reply that a document denotes. -/
def replyOfJson? (answer : Json → Option α) : Json → Option (Except Fault α) :=
  Json.toVariant? fun name j =>
    if name = "ok" then (answer j).map .ok
    else if name = "error" then (Fault.ofJson? j).map .error
    else none

end VcpuPinning.Rpc
