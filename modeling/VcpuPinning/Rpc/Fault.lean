import VcpuPinning.CpuSpec
import VcpuPinning.Json.Record

/-!
# Faults

A `Fault` is an error that crosses the wire: its kind, a message, and the refused specification if
that is what it is about. The kind settles the status of the HTTP response.
-/

namespace VcpuPinning

/-- What kind of error crosses the wire. -/
inductive Fault.Kind where
  | invalidCpuSpecification
  | mappingNotFound
  | hostNotFound
  | instanceNotFound
  | instanceNotActive
  | mappingAlreadyExists
  | hypervisorCallFailed
  | rpcTimeout
  | unauthorizedRequest
  | versionMismatch
  | badRequest
  | internal
  deriving DecidableEq, Repr

namespace Fault.Kind

/-- Every kind. -/
def all : List Kind :=
  [.invalidCpuSpecification, .mappingNotFound, .hostNotFound, .instanceNotFound,
    .instanceNotActive, .mappingAlreadyExists, .hypervisorCallFailed, .rpcTimeout,
    .unauthorizedRequest, .versionMismatch, .badRequest, .internal]

/-- The word for a kind in documents. -/
def word : Kind → String
  | .invalidCpuSpecification => "invalid_cpu_specification"
  | .mappingNotFound => "mapping_not_found"
  | .hostNotFound => "host_not_found"
  | .instanceNotFound => "instance_not_found"
  | .instanceNotActive => "instance_not_active"
  | .mappingAlreadyExists => "mapping_already_exists"
  | .hypervisorCallFailed => "hypervisor_call_failed"
  | .rpcTimeout => "rpc_timeout"
  | .unauthorizedRequest => "unauthorized_request"
  | .versionMismatch => "version_mismatch"
  | .badRequest => "bad_request"
  | .internal => "internal"

/-- The title of a kind in messages. -/
def title : Kind → String
  | .invalidCpuSpecification => "InvalidCpuSpecification"
  | .mappingNotFound => "MappingNotFound"
  | .hostNotFound => "HostNotFound"
  | .instanceNotFound => "InstanceNotFound"
  | .instanceNotActive => "InstanceNotActive"
  | .mappingAlreadyExists => "MappingAlreadyExists"
  | .hypervisorCallFailed => "HypervisorCallFailed"
  | .rpcTimeout => "RpcTimeout"
  | .unauthorizedRequest => "UnauthorizedRequest"
  | .versionMismatch => "VersionMismatch"
  | .badRequest => "BadRequest"
  | .internal => "Internal"

/-- The kind with a word. -/
def ofWord? (w : String) : Option Kind :=
  all.find? (·.word = w)

/-- The kind that a document denotes. -/
def ofJson? : Json → Option Kind :=
  Json.toTag? ofWord?

/-- The status of the response to a request that ends in a fault. -/
def httpStatus : Kind → Nat
  | .invalidCpuSpecification | .badRequest | .versionMismatch => 400
  | .unauthorizedRequest => 401
  | .mappingNotFound | .hostNotFound | .instanceNotFound => 404
  | .mappingAlreadyExists | .instanceNotActive => 409
  | .hypervisorCallFailed => 502
  | .rpcTimeout => 504
  | .internal => 500

@[simp] theorem ofWord?_word (k : Kind) : ofWord? k.word = some k := by
  cases k <;> decide

end Fault.Kind

namespace SpecError

/-- The names of the fields, in order. -/
def fieldNames : List String :=
  ["clause", "reason"]

/-- The reason with a word. -/
def Reason.ofWord? (w : String) : Option Reason :=
  Reason.all.find? (·.word = w)

@[simp] theorem Reason.ofWord?_word (r : Reason) : Reason.ofWord? r.word = some r := by
  cases r <;> decide

/-- A refused specification in a document. -/
def toJson (e : SpecError) : Json :=
  Json.record fieldNames [some (Json.text e.clause), some (Json.text e.reason.word)]

/-- The refused specification that a document denotes. -/
def ofJson? (j : Json) : Option SpecError := do
  let s ← Json.toSlots? fieldNames j
  return {
    clause := ← s.required 0 Json.toString?
    reason := ← s.required 1 (Json.toTag? Reason.ofWord?) }

end SpecError

/-- An error that crosses the wire. -/
structure Fault where
  kind : Fault.Kind
  message : String
  /-- The refused specification, if the fault is about one. -/
  specError : Option SpecError := none
  deriving DecidableEq, Repr

namespace Fault

/-- The names of the fields, in order. -/
def fieldNames : List String :=
  ["kind", "message", "spec_error"]

/-- The fault for a refused specification. -/
def ofSpecError (e : SpecError) : Fault :=
  ⟨.invalidCpuSpecification, e.message, some e⟩

/-- The fault for a call without the right token. -/
def unauthorized : Fault :=
  ⟨.unauthorizedRequest, "missing or invalid rpc token", none⟩

/-- The text of a fault. -/
def text (f : Fault) : String :=
  f.kind.title ++ ": " ++ f.message

/-- A fault in a document; a specification that is not there is left out. -/
def toJson (f : Fault) : Json :=
  Json.record fieldNames
    [some (Json.text f.kind.word), some (Json.text f.message), f.specError.map SpecError.toJson]

/-- The fault that a document denotes. -/
def ofJson? (j : Json) : Option Fault := do
  let s ← Json.toSlots? fieldNames j
  return {
    kind := ← s.required 0 Kind.ofJson?
    message := ← s.required 1 Json.toString?
    specError := ← s.nullable 2 SpecError.ofJson? }

end Fault

end VcpuPinning
