import VcpuPinning.Hypervisor
import VcpuPinning.Text.Numeral

/-!
# The simulated hypervisor

A hypervisor in memory: a host of equal NUMA cells and domains whose pins can be set, with
failures that can be injected. It writes down every attempt to pin a virtual CPU, and only a
successful one changes a pin.
-/

namespace VcpuPinning.Simulated

/-- A domain. -/
structure Domain where
  /-- The code of its run state; 1 stands for running. -/
  stateCode : Nat
  /-- The CPUs on which each virtual CPU may run. -/
  pins : List CpuSet
  deriving DecidableEq, Repr

/-- An attempt to pin a virtual CPU. -/
structure PinAttempt where
  uuid : String
  vcpu : UInt32
  cpulist : String
  succeeded : Bool
  deriving DecidableEq, Repr

/-- The host with its domains, the failures to come and the attempts so far. -/
structure Machine where
  hostname : String
  topology : Topology
  maxCpu : UInt32
  domains : SortedMap String Domain
  /-- The virtual CPUs that cannot be pinned. -/
  failingPins : List (String × UInt32)
  /-- The domains that cannot be read. -/
  failingInfo : List String
  pinLog : List PinAttempt
  deriving DecidableEq

namespace Machine

/-- A host of `cells` NUMA cells with `perCell` CPUs each, numbered cell by cell. -/
def new (hostname : String) (cells perCell : Nat) : Machine where
  hostname := hostname
  topology := SortedMap.ofList <| (List.range cells).map fun cell =>
    (.ofNat cell, (List.range perCell).map fun i => .ofNat (cell * perCell + i))
  maxCpu := .ofNat (cells * perCell)
  domains := .empty
  failingPins := []
  failingInfo := []
  pinLog := []

/-- The host with one more domain, none of its virtual CPUs pinned. -/
def addDomain (m : Machine) (uuid : String) (stateCode vcpus : Nat) : Machine :=
  { m with
    domains := m.domains.insert uuid
      ⟨stateCode, List.replicate vcpus (.full m.maxCpu.toNat)⟩ }

/-- Let attempts to pin a virtual CPU fail. -/
def failPin (m : Machine) (uuid : String) (vcpu : UInt32) : Machine :=
  { m with failingPins := (uuid, vcpu) :: m.failingPins }

/-- Let attempts to read a domain fail. -/
def failInfo (m : Machine) (uuid : String) : Machine :=
  { m with failingInfo := uuid :: m.failingInfo }

/-- Let no attempt fail any more. -/
def clearFailures (m : Machine) : Machine :=
  { m with failingPins := [], failingInfo := [] }

/-- The pins of a domain. -/
def pins (m : Machine) (uuid : String) : Option (List CpuSet) :=
  (m.domains.get? uuid).map Domain.pins

/-- A domain that can be read. -/
def domain (m : Machine) (uuid : String) : Except HypervisorError Domain :=
  if uuid ∈ m.failingInfo then .error (.rejected ("injected failure for " ++ uuid))
  else
    match m.domains.get? uuid with
    | some d => .ok d
    | none => .error (.domainNotFound uuid)

/-- The domain that a pin changes, or why the pin is refused. -/
def pinTarget (m : Machine) (uuid : String) (vcpu : UInt32) (set : CpuSet) :
    Except HypervisorError Domain :=
  let number := String.ofList (Text.Numeral.text vcpu.toNat)
  if (uuid, vcpu) ∈ m.failingPins then
    .error (.rejected ("injected failure pinning vcpu " ++ number ++ " of " ++ uuid))
  else if set.width ≠ m.maxCpu.toNat ∨ set.count = 0 then
    .error (.rejected ("invalid cpumap " ++ set.letters ++ " for a " ++
      String.ofList (Text.Numeral.text m.maxCpu.toNat) ++ " cpu host"))
  else
    match m.domains.get? uuid with
    | none => .error (.domainNotFound uuid)
    | some d =>
      if d.stateCode ≠ 1 then .error (.rejected ("domain " ++ uuid ++ " is not running"))
      else if vcpu.toNat < d.pins.length then .ok d
      else .error (.rejected ("vcpu " ++ number ++ " out of range for " ++ uuid))

/-- The host after an attempt to pin a virtual CPU. -/
def pin (m : Machine) (uuid : String) (vcpu : UInt32) (set : CpuSet) :
    Except HypervisorError Unit × Machine :=
  match m.pinTarget uuid vcpu set with
  | .error e => (.error e, { m with pinLog := m.pinLog ++ [⟨uuid, vcpu, set.cpulist, false⟩] })
  | .ok d =>
    (.ok (), { m with
      domains := m.domains.insert uuid { d with pins := d.pins.set vcpu.toNat set }
      pinLog := m.pinLog ++ [⟨uuid, vcpu, set.cpulist, true⟩] })

/-- A refused attempt leaves the domains alone. -/
theorem domains_pin_of_error {m : Machine} {uuid : String} {vcpu : UInt32} {set : CpuSet}
    {e : HypervisorError} (h : m.pinTarget uuid vcpu set = .error e) :
    (m.pin uuid vcpu set).2.domains = m.domains := by
  simp [pin, h]

end Machine

/-- Read something off the host. -/
def reading {α : Type} (f : Machine → Except HypervisorError α) : Probe Machine α :=
  fun m => (f m, m)

/-- The hypervisor of a simulated host. -/
def hypervisor : Hypervisor Machine where
  name := "simulated"
  hostname := reading fun m => .ok m.hostname
  maxCpus := reading fun m => .ok m.maxCpu
  numaTopology := reading fun m => .ok m.topology
  activeDomains := reading fun m =>
    .ok ((m.domains.entries.filter fun e => e.2.stateCode = 1).map (·.1))
  domainInfo uuid := reading fun m =>
    (m.domain uuid).map fun d => ⟨uuid, d.stateCode, .ofNat d.pins.length⟩
  vcpuPins uuid := reading fun m => (m.domain uuid).map Domain.pins
  pinVcpu uuid vcpu set := fun m => m.pin uuid vcpu set

end VcpuPinning.Simulated
