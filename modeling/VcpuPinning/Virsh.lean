import VcpuPinning.Duration
import VcpuPinning.Text.Utf8
import VcpuPinning.Virsh.Output

/-!
# The virsh tool

The hypervisor that is driven by runs of a command line tool. A `Shell` runs the tool with a list
of arguments; every operation is one run or two, whose output is read by
`VcpuPinning.Virsh.Output`.
-/

namespace VcpuPinning.Virsh

/-- How a run of the tool ended. -/
inductive Run where
  /-- It could not be started. -/
  | notStarted (detail : String)
  /-- It did not end in time. -/
  | hung
  /-- It ended with a status and its output. -/
  | exited (status : Nat) (out err : List UInt8)
  deriving DecidableEq, Repr

/-- What runs the tool. -/
abbrev Shell (σ : Type) :=
  List String → StateM σ Run

/-- How the tool is run. -/
structure Setup (σ : Type) where
  shell : Shell σ
  /-- The connection that it is given. -/
  uri : String
  /-- How long a run may take. -/
  timeout : Duration

variable {σ : Type}

/-- The message about a domain that the tool does not know. -/
def isMissingDomain (detail : String) : Bool :=
  (Text.after "Domain not found".toList detail.toList).isSome ||
    (Text.after "failed to get domain".toList detail.toList).isSome

/-- What a run that ended with an error says: its error output, or its status. -/
def failureDetail (status : Nat) (err : List UInt8) : String :=
  let detail := Text.trim (Text.Utf8.decodeLossy err).toList
  if detail.isEmpty then "exit status: " ++ String.ofList (Text.Numeral.text status)
  else String.ofList detail

/-- The output of a run, or why there is none. -/
def outputOf (timeout : Duration) (args : List String) : Run → Except HypervisorError String
  | .notStarted detail => .error (.io detail)
  | .hung => .error (.command (String.intercalate " " ("virsh" :: args))
      ("timed out after " ++ timeout.text))
  | .exited 0 out _ => .ok (Text.Utf8.decodeLossy out)
  | .exited status _ err =>
      .error (.command (String.intercalate " " ("virsh" :: args)) (failureDetail status err))

/-- The output of the tool for some arguments. An argument with a NUL cannot be passed on. -/
def Setup.run (s : Setup σ) (args : List String) : Probe σ String := fun st =>
  let all := "-c" :: s.uri :: args
  if all.any (·.toList.contains '\x00') then
    (.error (.io "nul byte found in provided data"), st)
  else
    let (run, st) := s.shell all st
    (outputOf s.timeout args run, st)

/-- A message about a missing domain is an error about the domain. -/
def domainError (uuid : String) : HypervisorError → HypervisorError
  | .command line detail =>
    if isMissingDomain detail then .domainNotFound uuid else .command line detail
  | e => e

/-- The output of the tool for a command about a domain. -/
def Setup.runForDomain (s : Setup σ) (uuid : String) (args : List String) : Probe σ String :=
  fun st =>
    let (out, st) := s.run args st
    (out.mapError (domainError uuid), st)

/-- The name of the host. -/
def hostname (s : Setup σ) : Probe σ String := do
  let out ← s.run ["hostname"]
  let name := Text.trim out.toList
  if name.isEmpty then throw (.parse "hostname" "empty")
  return String.ofList name

/-- The number of CPUs of the host. -/
def maxCpus (s : Setup σ) : Probe σ UInt32 := do
  ExceptT.mk (pure (Output.nodeinfo (← s.run ["nodeinfo"])))

/-- The run state of a domain and its number of virtual CPUs. -/
def domainInfo (s : Setup σ) (uuid : String) : Probe σ DomainInfo := do
  let (state, vcpus) ← ExceptT.mk (pure (Output.dominfo (← s.runForDomain uuid ["dominfo", uuid])))
  return ⟨uuid, state, vcpus⟩

/-- The CPUs on which each virtual CPU of a domain may run. -/
def vcpuPins (s : Setup σ) (uuid : String) : Probe σ (List CpuSet) := do
  let maxCpu ← maxCpus s
  ExceptT.mk (pure (Output.vcpupin (← s.runForDomain uuid ["vcpupin", uuid]) maxCpu.toNat))

/-- Pin a virtual CPU of a running domain. -/
def pinVcpu (s : Setup σ) (uuid : String) (vcpu : UInt32) (set : CpuSet) : Probe σ Unit := do
  let number := String.ofList (Text.Numeral.text vcpu.toNat)
  if set.cpulist = "" then
    throw (.rejected ("empty cpu list for vcpu " ++ number ++ " of " ++ uuid))
  let _ ← s.runForDomain uuid
    ["vcpupin", uuid, "--vcpu", number, "--cpulist", set.cpulist, "--live"]

/-- The hypervisor that the tool drives. -/
def hypervisor (s : Setup σ) : Hypervisor σ where
  name := "virsh"
  hostname := hostname s
  maxCpus := maxCpus s
  numaTopology := do return Output.capabilities (← s.run ["capabilities"])
  activeDomains := do return Output.uuidList (← s.run ["list", "--uuid"])
  domainInfo := domainInfo s
  vcpuPins := vcpuPins s
  pinVcpu := pinVcpu s

end VcpuPinning.Virsh
