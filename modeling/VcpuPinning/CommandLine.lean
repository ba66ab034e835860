import VcpuPinning.CommandLine.Help
import VcpuPinning.Hypervisor.Simulated
import VcpuPinning.Network
import VcpuPinning.Pinning
import VcpuPinning.Settings.File
import VcpuPinning.Store.Error
import VcpuPinning.Virsh

/-!
# The command line

`compile` prints the set that a specification denotes; `conductor` and `agent` start a service. A
`System` gives access to files, addresses and the hypervisor's tool; `run` tells how it went: what
is printed, why nothing was started, or which address is now served.
-/

namespace VcpuPinning.CommandLine

/-- What the command line finds around it. -/
structure System (m : Type → Type) where
  /-- The octets of a file. -/
  contentOf : String → m (Except String (List UInt8))
  /-- Make a directory and those above it that are missing. -/
  makeDirs : String → m (Except String Unit)
  /-- Open a file for reading and writing; if it is missing it is made. -/
  openFile : String → m (Except String Unit)
  /-- Start to serve an address. -/
  listen : Address → m (Except String Unit)
  /-- What runs the hypervisor's tool. -/
  shell : Virsh.Shell Unit

/-- Why a command failed. -/
inductive Failure where
  | load (e : LoadError)
  | spec (e : SpecError)
  | settings (e : SettingsError)
  | hypervisor (e : HypervisorError)
  | store (e : StoreError)
  | io (detail : String)
  deriving DecidableEq, Repr

/-- The message of a failure. -/
def Failure.message : Failure → String
  | .load e => e.message
  | .spec e => e.message
  | .settings e => e.message
  | .hypervisor e => e.message
  | .store e => e.message
  | .io detail => detail

/-- What a failure goes back to, if it is named apart. -/
def Failure.cause? : Failure → Option String
  | .hypervisor (.io detail) => some detail
  | _ => none

/-- The report of a failure. -/
def Failure.report (f : Failure) : String :=
  "Error: " ++ f.message ++
    (match f.cause? with
      | some detail => "\n\nCaused by:\n    " ++ detail
      | none => "") ++ "\n"

/-- How a command went. -/
inductive Outcome where
  /-- It printed something. -/
  | printed (text : String)
  | failed (f : Failure)
  /-- The arguments were wrong. -/
  | misused
  /-- An address is being served. -/
  | serving (address : Address)
  deriving DecidableEq, Repr

variable {m : Type → Type} [Monad m]

/-- Serve an address that is given as text. -/
def serve (sys : System m) (text : String) : ExceptT Failure m Address := do
  let address ← ExceptT.mk (pure ((Address.read text).mapError fun e => .io e.message))
  ExceptT.adapt .io (ExceptT.mk (sys.listen address))
  return address

/-- Print the set that a specification denotes, as letters and as a list. -/
def compiled (spec : String) (cpus : Nat) : Except SpecError String :=
  (CpuSpec.compile spec cpus).map fun set =>
    set.letters ++ "\ncpulist: " ++ set.cpulist ++ "\n"

/-- The path of a name below a directory. -/
def pathBelow (dir name : String) : String :=
  if dir == "" || dir.toList.getLast? == some '/' then dir ++ name else dir ++ "/" ++ name

/-- Open the storage of the conductor. -/
def openStorage (sys : System m) (dataDir : String) : ExceptT Failure m Unit :=
  ExceptT.adapt (fun detail => .store (.opening ("I/O error: " ++ detail)))
    (ExceptT.mk (sys.openFile (pathBelow dataDir "pinwheel.redb")))

/-- Start the conductor. -/
def startConductor (sys : System m) (s : Settings) : ExceptT Failure m Address := do
  ExceptT.adapt .io (ExceptT.mk (sys.makeDirs s.conductor.dataDir))
  openStorage sys s.conductor.dataDir
  let _ ← ExceptT.mk (pure (s.conductorRpcTimeout.mapError .settings))
  serve sys s.conductor.listen

/-- The NUMA cells of the host that an agent simulates. -/
def simulatedCells : Nat := 2

/-- The CPUs in each of these cells. -/
def simulatedCpusPerCell : Nat := 4

/-- The name of a host, as settings or else its hypervisor give it, and a pinner for it. -/
def connect {σ : Type} (s : Settings) (h : Hypervisor σ) : Probe σ (String × Pinner σ) := do
  let name ← match s.host with
    | some name => pure name
    | none => h.hostname
  return (name, ← Pinner.start h)

/-- Connect to the hypervisor that settings name. -/
def connectAny (shell : Virsh.Shell Unit) (s : Settings) : Except Failure Unit := do
  match s.agent.hypervisor with
  | .virsh =>
    let timeout ← s.virshTimeout.mapError .settings
    let result := ((connect s (Virsh.hypervisor ⟨shell, s.agent.virshUri, timeout⟩)).run.run ()).1
    let _ ← result.mapError .hypervisor
  | .simulated =>
    let machine := Simulated.Machine.new (s.host.getD "simulated") simulatedCells
      simulatedCpusPerCell
    let result := ((connect s Simulated.hypervisor).run.run machine).1
    let _ ← result.mapError .hypervisor

/-- Start an agent. -/
def startAgent (sys : System m) (s : Settings) : ExceptT Failure m Address := do
  ExceptT.mk (pure (connectAny sys.shell s))
  let _ ← ExceptT.mk (pure (s.agentRpcTimeout.mapError .settings))
  let _ ← ExceptT.mk (pure (s.trackerInterval.mapError .settings))
  serve sys s.agent.listen

/-- The settings in a file, or those without a file. -/
def loadSettings (sys : System m) : Option String → ExceptT Failure m Settings
  | none => return {}
  | some path => do
    let octets ← ExceptT.adapt (fun detail => .load (.io detail)) (ExceptT.mk (sys.contentOf path))
    ExceptT.mk (pure ((Settings.load octets).mapError .load))

/-- Carry out a command. -/
def carryOut (sys : System m) (i : Invocation) : ExceptT Failure m Outcome := do
  let s ← loadSettings sys i.config
  match i.command with
  | .conductor => .serving <$> startConductor sys s
  | .agent => .serving <$> startAgent sys s
  | .compile spec cpus =>
    .printed <$> ExceptT.mk (pure ((compiled spec cpus).mapError .spec))

/-- Run the command line. -/
def run (sys : System m) (args : List String) : m Outcome :=
  match read args with
  | .error .usage => return .misused
  | .error (.help topic) => return .printed (helpText topic)
  | .ok i => do
    match ← (carryOut sys i).run with
    | .ok outcome => return outcome
    | .error f => return .failed f

end VcpuPinning.CommandLine
