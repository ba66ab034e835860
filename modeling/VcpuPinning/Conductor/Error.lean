import VcpuPinning.Rpc.CallError
import VcpuPinning.Store.Error

/-!
# Conductor errors

Why the conductor refused or failed a request, its message, and the fault that crosses the wire.
`ofCallError` tells what a failed call to a host means for the request that needed it.
-/

namespace VcpuPinning

/-- Why the conductor did not do what it was asked for. -/
inductive ConductorError where
  | invalidCpuSpecification (e : SpecError)
  | mappingNotFound (uuid : String)
  | hostNotFound (what : String)
  | instanceNotFound (uuid : String)
  | instanceNotActive (uuid status : String)
  | mappingAlreadyExists (uuid : String)
  | hypervisorCallFailed (detail : String)
  | rpcTimeout (detail : String)
  | unauthorized
  | rpc (detail : String)
  | store (e : StoreError)
  deriving DecidableEq, Repr

namespace ConductorError

/-- The message of a conductor error. -/
def message : ConductorError → String
  | .invalidCpuSpecification e => e.message
  | .mappingNotFound uuid => "no cpu mapping for instance " ++ uuid
  | .hostNotFound what => "host not found: " ++ what
  | .instanceNotFound uuid => "instance not found: " ++ uuid
  | .instanceNotActive uuid status =>
      "instance " ++ uuid ++ " is not active (status " ++ status ++ ")"
  | .mappingAlreadyExists uuid => "cpu mapping already exists for instance " ++ uuid
  | .hypervisorCallFailed detail => "hypervisor call failed: " ++ detail
  | .rpcTimeout detail => "rpc timed out: " ++ detail
  | .unauthorized => "unauthorized request"
  | .rpc detail => "rpc failed: " ++ detail
  | .store e => "state store error: " ++ e.message

/-- The kind of fault that an error is for a caller. -/
def kind : ConductorError → Fault.Kind
  | .invalidCpuSpecification _ => .invalidCpuSpecification
  | .mappingNotFound _ => .mappingNotFound
  | .hostNotFound _ => .hostNotFound
  | .instanceNotFound _ => .instanceNotFound
  | .instanceNotActive _ _ => .instanceNotActive
  | .mappingAlreadyExists _ => .mappingAlreadyExists
  | .hypervisorCallFailed _ => .hypervisorCallFailed
  | .rpcTimeout _ => .rpcTimeout
  | .unauthorized => .unauthorizedRequest
  | .rpc _ | .store _ => .internal

/-- The refused specification that an error is about. -/
def specError? : ConductorError → Option SpecError
  | .invalidCpuSpecification e => some e
  | _ => none

/-- The fault that tells a caller about an error. -/
def toFault (e : ConductorError) : Fault :=
  ⟨e.kind, e.message, e.specError?⟩

/-- What a fault of a host means for the conductor. -/
def ofFault (f : Fault) : ConductorError :=
  match f.kind, f.specError with
  | .invalidCpuSpecification, some e => .invalidCpuSpecification e
  | .hypervisorCallFailed, _ => .hypervisorCallFailed f.message
  | .unauthorizedRequest, _ => .unauthorized
  | .rpcTimeout, _ => .rpcTimeout f.message
  | _, _ => .rpc f.text

/-- What a failed call means for the conductor. -/
def ofCallError : Rpc.CallError → ConductorError
  | .remote f => ofFault f
  | e@(.timeout _ _) => .rpcTimeout e.message
  | e => .rpc e.message

end ConductorError

end VcpuPinning
