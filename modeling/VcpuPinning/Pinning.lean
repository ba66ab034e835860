import VcpuPinning.CpuSpec
import VcpuPinning.Hypervisor
import VcpuPinning.Pinning.Outcome
import VcpuPinning.Rpc.Fault

/-!
# Pinning

A `Pinner` applies a CPU specification to a domain of its host: it reads the number of virtual
CPUs, compiles the specification for the host, and pins every virtual CPU to the same set. A
specification that does not compile stops it before anything is pinned; a virtual CPU that cannot
be pinned does not.
-/

namespace VcpuPinning

/-- Why a specification was not applied to a domain. -/
inductive PinError where
  /-- The specification does not compile for the host. -/
  | spec (e : SpecError)
  /-- The domain could not be read. -/
  | hypervisor (e : HypervisorError)
  deriving DecidableEq, Repr

namespace PinError

/-- The message of a pin error. -/
def message : PinError → String
  | .spec e => e.message
  | .hypervisor e => "hypervisor call failed: " ++ e.message

/-- The fault that tells a caller about a pin error. -/
def toFault : PinError → Fault
  | .spec e => .ofSpecError e
  | .hypervisor (.domainNotFound uuid) =>
      ⟨.instanceNotFound, "no domain " ++ uuid ++ " on this host", none⟩
  | .hypervisor e => ⟨.hypervisorCallFailed, e.message, none⟩

end PinError

/-- Pins the domains of a host. -/
structure Pinner (σ : Type) where
  hypervisor : Hypervisor σ
  /-- The number of CPUs of the host, for which specifications are compiled. -/
  maxCpu : UInt32

namespace Pinner

variable {σ : Type}

/-- A pinner for the host of a hypervisor. The number of CPUs is read once. -/
def start (h : Hypervisor σ) : Probe σ (Pinner σ) := do
  return ⟨h, ← h.maxCpus⟩

/-- Pin virtual CPUs to a set, one after the other, and tell which were pinned. -/
def pinEach (h : Hypervisor σ) (uuid : String) (set : CpuSet) :
    List UInt32 → StateM σ (List Bool)
  | [], st => ([], st)
  | vcpu :: vcpus, st =>
    let result := (h.pinVcpu uuid vcpu set).run st
    let results := (pinEach h uuid set vcpus).run result.2
    (result.1.isOk :: results.1, results.2)

/-- The virtual CPUs of a domain that has `n` of them. -/
def vcpusOf (n : UInt32) : List UInt32 :=
  (List.range n.toNat).map .ofNat

/-- Apply a specification to a domain. -/
def apply (p : Pinner σ) (uuid spec : String) : StateM σ (Except PinError PinOutcome) := fun st =>
  match p.hypervisor.domainInfo uuid st with
  | (.error e, st) => (.error (.hypervisor e), st)
  | (.ok info, st) =>
    match CpuSpec.compile spec p.maxCpu.toNat with
    | .error e => (.error (.spec e), st)
    | .ok set =>
      let (results, st) := pinEach p.hypervisor uuid set (vcpusOf info.vcpus) st
      (.ok ⟨results⟩, st)

section Apply

variable {p : Pinner σ} {uuid spec : String} {st st' : σ}

theorem apply_of_domainInfo_error {e : HypervisorError}
    (h : p.hypervisor.domainInfo uuid st = (.error e, st')) :
    (p.apply uuid spec).run st = (.error (.hypervisor e), st') := by
  simp only [StateT.run, apply, h]

theorem apply_of_compile_error {info : DomainInfo}
    (h : p.hypervisor.domainInfo uuid st = (.ok info, st')) {e : SpecError}
    (hc : CpuSpec.compile spec p.maxCpu.toNat = .error e) :
    (p.apply uuid spec).run st = (.error (.spec e), st') := by
  simp only [StateT.run, apply, h, hc]

theorem apply_of_compile_ok {info : DomainInfo}
    (h : p.hypervisor.domainInfo uuid st = (.ok info, st')) {set : CpuSet}
    (hc : CpuSpec.compile spec p.maxCpu.toNat = .ok set) :
    (p.apply uuid spec).run st =
      (.ok ⟨((pinEach p.hypervisor uuid set (vcpusOf info.vcpus)).run st').1⟩,
        ((pinEach p.hypervisor uuid set (vcpusOf info.vcpus)).run st').2) := by
  simp only [StateT.run, apply, h, hc]
  rfl

end Apply

end Pinner

end VcpuPinning
