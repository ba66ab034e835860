import VcpuPinning.CpuSet
import VcpuPinning.Host

/-!
# Hypervisors

A `Hypervisor` is what the service needs from the hypervisor of a host: the host's name and CPUs,
the domains that run on it, and a way to pin a virtual CPU of a domain to a set of host CPUs. Each
operation may fail and may change the hypervisor's state, of type `σ`.
-/

namespace VcpuPinning

/-- Why a hypervisor did not do what it was asked for. -/
inductive HypervisorError where
  /-- It has no such domain. -/
  | domainNotFound (uuid : String)
  /-- A command of its tool failed. -/
  | command (line detail : String)
  /-- The output of its tool has another form than expected. -/
  | parse (what detail : String)
  /-- It refused. -/
  | rejected (detail : String)
  /-- Its tool could not be started. -/
  | io (detail : String)
  deriving DecidableEq, Repr

/-- The message of a hypervisor error. -/
def HypervisorError.message : HypervisorError → String
  | .domainNotFound uuid => "domain not found: " ++ uuid
  | .command line detail => line ++ " failed: " ++ detail
  | .parse what detail => "unexpected " ++ what ++ " output: " ++ detail
  | .rejected detail => "hypervisor rejected the call: " ++ detail
  | .io detail => "I/O error: " ++ detail

/-- What a hypervisor tells about a domain. -/
structure DomainInfo where
  uuid : String
  /-- The code of its run state. -/
  stateCode : Nat
  /-- The number of its virtual CPUs. -/
  vcpus : UInt32
  deriving DecidableEq, Repr

/-- An operation of a hypervisor. -/
abbrev Probe (σ α : Type) :=
  ExceptT HypervisorError (StateM σ) α

/-- The operations of a hypervisor with state of type `σ`. -/
structure Hypervisor (σ : Type) where
  /-- The kind of hypervisor. -/
  name : String
  /-- The name of the host. -/
  hostname : Probe σ String
  /-- The number of CPUs of the host. -/
  maxCpus : Probe σ UInt32
  /-- The CPUs of each NUMA cell. -/
  numaTopology : Probe σ Topology
  /-- The domains that run. -/
  activeDomains : Probe σ (List String)
  /-- The run state of a domain and its number of virtual CPUs. -/
  domainInfo : String → Probe σ DomainInfo
  /-- The CPUs on which each virtual CPU of a domain may run. -/
  vcpuPins : String → Probe σ (List CpuSet)
  /-- Pin a virtual CPU of a running domain. -/
  pinVcpu : String → UInt32 → CpuSet → Probe σ Unit

end VcpuPinning
