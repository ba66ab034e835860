import VcpuPinning.Duration
import VcpuPinning.Json.Record
import VcpuPinning.Text.Quoted

/-!
# Settings

The settings of a conductor and of an agent, with the values that fields have when they are left
out. `Settings.validate` refuses settings with an unusable duration or a blank trigger key and
names the first of them; the durations of settings that pass can all be read.
-/

namespace VcpuPinning

/-- How an agent carries out the events it acts on. -/
inductive DispatchMode where
  /-- Through the conductor, which records the outcome. -/
  | conductor
  /-- On the host itself, without a record. -/
  | direct
  deriving DecidableEq, Repr

/-- Which hypervisor an agent drives. -/
inductive HypervisorKind where
  | virsh
  | simulated
  deriving DecidableEq, Repr

/-- The word for a dispatch mode. -/
def DispatchMode.word : DispatchMode → String
  | .conductor => "conductor"
  | .direct => "direct"

/-- The dispatch mode with a word. -/
def DispatchMode.ofWord? (w : String) : Option DispatchMode :=
  [DispatchMode.conductor, .direct].find? (·.word = w)

/-- The word for a kind of hypervisor. -/
def HypervisorKind.word : HypervisorKind → String
  | .virsh => "virsh"
  | .simulated => "simulated"

/-- The kind of hypervisor with a word. -/
def HypervisorKind.ofWord? (w : String) : Option HypervisorKind :=
  [HypervisorKind.virsh, .simulated].find? (·.word = w)

/-- The settings of the conductor. -/
structure ConductorSettings where
  /-- The address it listens on. -/
  listen : String := "0.0.0.0:7420"
  /-- Where it keeps its store. -/
  dataDir : String := "/var/lib/pinwheel"
  /-- How long a call to an agent may take. -/
  rpcTimeout : String := "30s"
  deriving DecidableEq, Repr

/-- The settings of an agent. -/
structure AgentSettings where
  /-- The address it listens on. -/
  listen : String := "0.0.0.0:7421"
  /-- The address under which the conductor reaches it. -/
  advertise : Option String := none
  /-- The address of the conductor. -/
  conductorAddr : String := "127.0.0.1:7420"
  /-- The time between two reports. -/
  trackerInterval : String := "60s"
  /-- Whether the first report is sent at once. -/
  trackerRunImmediately : Bool := true
  /-- The metadata key that marks an instance for pinning. -/
  triggerMetadataKey : String := "vcpu-pinning"
  /-- How events are carried out. -/
  dispatchMode : DispatchMode := .conductor
  /-- Which hypervisor runs on the host. -/
  hypervisor : HypervisorKind := .virsh
  /-- The connection that the hypervisor's tool is given. -/
  virshUri : String := "qemu:///system"
  /-- How long a run of the hypervisor's tool may take. -/
  virshTimeout : String := "10s"
  /-- How many notifications may wait. -/
  notificationQueue : UInt64 := 256
  /-- How long a call to the conductor may take. -/
  rpcTimeout : String := "30s"
  deriving DecidableEq, Repr

/-- The settings of both. -/
structure AuthSettings where
  /-- The token that every call has to carry. -/
  rpcToken : Option String := none
  deriving DecidableEq, Repr

/-- All settings. -/
structure Settings where
  /-- The name of the host; the hypervisor's own name if left out. -/
  host : Option String := none
  conductor : ConductorSettings := {}
  agent : AgentSettings := {}
  auth : AuthSettings := {}
  deriving DecidableEq, Repr

/-- Why settings are refused. -/
inductive SettingsError where
  /-- A field does not hold a duration above zero. -/
  | duration (field value : String)
  /-- A field is blank. -/
  | empty (field : String)
  deriving DecidableEq, Repr

/-- The message of refused settings. -/
def SettingsError.message : SettingsError → String
  | .duration field value => "invalid duration for " ++ field ++ ": " ++ Text.quoted value
  | .empty field => field ++ " must not be empty"

namespace AgentSettings

/-- The address under which the conductor is told to reach the agent. -/
def advertiseAddr (a : AgentSettings) : String :=
  a.advertise.getD a.listen

/-- The host part of an address: what stands before its last colon. -/
def hostPart (addr : String) : String :=
  match Text.cutLast (· == ':') addr.toList with
  | some (host, _) => String.ofList host
  | none => addr

/-- The advertised address is a wildcard, which nobody can call. -/
def advertisesWildcard (a : AgentSettings) : Bool :=
  ["0.0.0.0", "[::]", "::", ""].contains (hostPart a.advertiseAddr)

end AgentSettings

namespace Settings

/-! ## Durations -/

/-- The duration above zero that a field holds. -/
def durationField (field value : String) : Except SettingsError Duration :=
  match Duration.read? value with
  | some d => if d.nanos = 0 then .error (.duration field value) else .ok d
  | none => .error (.duration field value)

/-- How long a call of the conductor may take. -/
def conductorRpcTimeout (s : Settings) : Except SettingsError Duration :=
  durationField "conductor.rpc_timeout" s.conductor.rpcTimeout

/-- How long a call of the agent may take. -/
def agentRpcTimeout (s : Settings) : Except SettingsError Duration :=
  durationField "agent.rpc_timeout" s.agent.rpcTimeout

/-- The time between two reports. -/
def trackerInterval (s : Settings) : Except SettingsError Duration :=
  durationField "agent.tracker_interval" s.agent.trackerInterval

/-- How long a run of the hypervisor's tool may take. -/
def virshTimeout (s : Settings) : Except SettingsError Duration :=
  durationField "agent.virsh_timeout" s.agent.virshTimeout

/-- The first fault of the settings. -/
def validate (s : Settings) : Except SettingsError Unit := do
  let _ ← s.conductorRpcTimeout
  let _ ← s.agentRpcTimeout
  let _ ← s.trackerInterval
  let _ ← s.virshTimeout
  if Text.isBlankText s.agent.triggerMetadataKey.toList then
    throw (.empty "agent.trigger_metadata_key")

/-! ## Documents -/

/-- The names of the fields of `ConductorSettings`, in order. -/
def conductorFields : List String :=
  ["listen", "data_dir", "rpc_timeout"]

/-- The names of the fields of `AgentSettings`, in order. -/
def agentFields : List String :=
  ["listen", "advertise", "conductor_addr", "tracker_interval", "tracker_run_immediately",
    "trigger_metadata_key", "dispatch_mode", "hypervisor", "virsh_uri", "virsh_timeout",
    "notification_queue", "rpc_timeout"]

/-- The conductor's settings in a document. -/
def conductorOfJson? (dialect : Json.Dialect) (j : Json) : Option ConductorSettings := do
  let std : ConductorSettings := {}
  let s ← Json.toSlotsIn? dialect conductorFields j
  return {
    listen := ← s.defaulted 0 Json.toString? std.listen
    dataDir := ← s.defaulted 1 Json.toString? std.dataDir
    rpcTimeout := ← s.defaulted 2 Json.toString? std.rpcTimeout }

/-- The agent's settings in a document. -/
def agentOfJson? (dialect : Json.Dialect) (j : Json) : Option AgentSettings := do
  let std : AgentSettings := {}
  let s ← Json.toSlotsIn? dialect agentFields j
  return {
    listen := ← s.defaulted 0 Json.toString? std.listen
    advertise := ← s.nullable 1 Json.toString?
    conductorAddr := ← s.defaulted 2 Json.toString? std.conductorAddr
    trackerInterval := ← s.defaulted 3 Json.toString? std.trackerInterval
    trackerRunImmediately := ← s.defaulted 4 Json.toBool? std.trackerRunImmediately
    triggerMetadataKey := ← s.defaulted 5 Json.toString? std.triggerMetadataKey
    dispatchMode := ← s.defaulted 6 (Json.toTagIn? dialect DispatchMode.ofWord?) std.dispatchMode
    hypervisor := ← s.defaulted 7 (Json.toTagIn? dialect HypervisorKind.ofWord?) std.hypervisor
    virshUri := ← s.defaulted 8 Json.toString? std.virshUri
    virshTimeout := ← s.defaulted 9 Json.toString? std.virshTimeout
    notificationQueue := ← s.defaulted 10 Json.toUInt64? std.notificationQueue
    rpcTimeout := ← s.defaulted 11 Json.toString? std.rpcTimeout }

/-- The settings of both in a document. -/
def authOfJson? (dialect : Json.Dialect) (j : Json) : Option AuthSettings := do
  let s ← Json.toSlotsIn? dialect ["rpc_token"] j
  return { rpcToken := ← s.nullable 0 Json.toString? }

/-- The settings that a document denotes. -/
def ofJson? (dialect : Json.Dialect) (j : Json) : Option Settings := do
  let s ← Json.toSlotsIn? dialect ["host", "conductor", "agent", "auth"] j
  return {
    host := ← s.nullable 0 Json.toString?
    conductor := ← s.defaulted 1 (conductorOfJson? dialect) {}
    agent := ← s.defaulted 2 (agentOfJson? dialect) {}
    auth := ← s.defaulted 3 (authOfJson? dialect) {} }

/-- The conductor's settings as a document. -/
def conductorToJson (c : ConductorSettings) : Json :=
  Json.record conductorFields
    [some (Json.text c.listen), some (Json.text c.dataDir), some (Json.text c.rpcTimeout)]

/-- The agent's settings as a document. -/
def agentToJson (a : AgentSettings) : Json :=
  Json.record agentFields
    [some (Json.text a.listen), some (Json.ofOption Json.text a.advertise),
      some (Json.text a.conductorAddr), some (Json.text a.trackerInterval),
      some (Json.bool a.trackerRunImmediately), some (Json.text a.triggerMetadataKey),
      some (Json.text a.dispatchMode.word), some (Json.text a.hypervisor.word),
      some (Json.text a.virshUri), some (Json.text a.virshTimeout),
      some (Json.nat a.notificationQueue.toNat), some (Json.text a.rpcTimeout)]

/-- The settings as a document. -/
def toJson (s : Settings) : Json :=
  Json.record ["host", "conductor", "agent", "auth"]
    [some (Json.ofOption Json.text s.host), some (conductorToJson s.conductor),
      some (agentToJson s.agent),
      some (Json.record ["rpc_token"] [some (Json.ofOption Json.text s.auth.rpcToken)])]

end Settings

end VcpuPinning
