import VcpuPinning.Agent.Link
import VcpuPinning.Hypervisor

/-!
# Reports of an agent

A `Reporter` tells the conductor about its host: first the host itself, then the domains that run
on it. A domain that cannot be read is left out of the report and named in `skipped`.
-/

namespace VcpuPinning.Agent

/-- Why a report was not made. -/
inductive ReportError where
  | hypervisor (e : HypervisorError)
  | conductor (e : Rpc.CallError)
  deriving DecidableEq, Repr

/-- The message of a report error. -/
def ReportError.message : ReportError → String
  | .hypervisor e => "hypervisor: " ++ e.message
  | .conductor e => "conductor: " ++ e.message

/-- What one pass reported. -/
structure Report where
  /-- The conductor did not know the host. -/
  hostCreated : Bool
  /-- The number of instances reported. -/
  instances : Nat
  /-- The domains that could not be read. -/
  skipped : List String
  summary : Rpc.Summary
  deriving DecidableEq, Repr

/-- Reports a host to the conductor. -/
structure Reporter (σ : Type) where
  hypervisor : Hypervisor σ
  link : Link σ
  /-- The time in seconds. -/
  clock : StateM σ UInt64
  hostName : String
  /-- The address at which the host is to be called. -/
  advertise : Option String := none

namespace Reporter

variable {σ : Type}

/-- The host as it is now. -/
def collectHost (r : Reporter σ) : Probe σ Host := do
  let topology ← r.hypervisor.numaTopology
  let maxCpu ← r.hypervisor.maxCpus
  return ⟨r.hostName, topology, maxCpu, r.advertise, ← ExceptT.lift r.clock⟩

/-- Sets by the number of the virtual CPU they belong to. -/
def pinsByVcpu (pins : List CpuSet) : SortedMap UInt32 CpuSet :=
  .ofList (pins.zipIdx.map fun (set, vcpu) => (.ofNat vcpu, set))

/-- A domain as it is now. -/
def collectInstance (r : Reporter σ) (uuid : String) : Probe σ Instance := do
  let info ← r.hypervisor.domainInfo uuid
  let pins ← r.hypervisor.vcpuPins uuid
  return {
    uuid := uuid
    host := some r.hostName
    status := .ofCode info.stateCode
    cpuMappings := pinsByVcpu pins
    updatedAt := ← ExceptT.lift r.clock }

/-- Domains as they are now, and those that cannot be read. -/
def collectEach (r : Reporter σ) : List String → StateM σ (List Instance × List String)
  | [] => return ([], [])
  | uuid :: uuids => do
    let result ← (r.collectInstance uuid).run
    let (instances, skipped) ← collectEach r uuids
    match result with
    | .ok i => return (i :: instances, skipped)
    | .error _ => return (instances, uuid :: skipped)

/-- The domains that run, as they are now, and those that cannot be read. -/
def collectInstances (r : Reporter σ) : Probe σ (List Instance × List String) := do
  ExceptT.lift (r.collectEach (← r.hypervisor.activeDomains))

/-- One pass: the host, then its domains. -/
def reportOnce (r : Reporter σ) (caller : Caller) : StateM σ (Except ReportError Report) :=
  ExceptT.run do
    let host ← ExceptT.adapt .hypervisor r.collectHost
    let reply ← ExceptT.adapt .conductor (ExceptT.mk (r.link.reconcileHost caller host))
    let (instances, skipped) ← ExceptT.adapt .hypervisor r.collectInstances
    let summary ← ExceptT.adapt .conductor
      (ExceptT.mk (r.link.reconcileInstances caller r.hostName instances))
    return ⟨reply.created, instances.length, skipped, summary⟩

end Reporter

/-- The number of passes that begin within a length of time, if one begins every `interval`, and
the first at once or after an interval. -/
def passesWithin (elapsed interval : Duration) (immediately : Bool) : Nat :=
  (if immediately then 1 else 0) + elapsed.nanos / interval.nanos

end VcpuPinning.Agent
