import VcpuPinning.Conductor.Program
import VcpuPinning.Pinning.Outcome

/-!
# Mappings of the conductor

The operations on mappings. Each of them holds the lock of its instance from its first look at the
mapping to its last write, so two operations on one instance never mix. A cycle that applies a
mapping always ends it as succeeded or failed, with a reason if it failed.
-/

namespace VcpuPinning.Conductor

open Program

/-! ## Where instances are -/

/-- Where an instance is, and in which state. -/
structure Location where
  host : String
  status : PowerState
  deriving DecidableEq, Repr

/-- The location that an instance was reported with, if a host was. -/
def Location.ofInstance (i : Instance) : Option Location :=
  i.host.map fun host => ⟨host, i.status⟩

/-- Look an instance up in the reports. -/
def locate (uuid : String) : ExceptT ConductorError Program (Option Location) := do
  return (← onStore (.findInstance uuid)).bind Location.ofInstance

/-- The host of an instance that has to run: the one it was reported on, or else the one that the
request names. -/
def activeHost (r : Rpc.CreateMapping) : ExceptT ConductorError Program String := do
  match ← locate r.instanceUuid with
  | some location =>
    if location.status = .running then return location.host
    else throw (.instanceNotActive r.instanceUuid location.status.word)
  | none =>
    match r.host with
    | some host => return host
    | none => throw (.instanceNotFound r.instanceUuid)

/-! ## Cycles -/

/-- A list of numbers in a message. -/
def listText (ns : List Nat) : String :=
  "[" ++ String.intercalate ", " (ns.map fun n => String.ofList (Text.Numeral.text n)) ++ "]"

/-- Why a cycle failed, if it did: the reason of the host's answer. -/
def failureOf : Except ConductorError Rpc.Applied → Option String
  | .ok reply =>
    if reply.applied then none
    else some ("vcpus " ++ listText (PinOutcome.failedVcpus ⟨reply.vcpuResults⟩) ++
      " could not be pinned")
  | .error e => some e.message

/-- Write the end of a cycle. -/
def settle (uuid : String) (failure : Option String) : ExceptT ConductorError Program Mapping :=
  onStore (.settle uuid failure)

/-- The host to call, or why there is none. -/
def callee (host : String) : Except StoreError (Option Host) → Except String Host
  | .error e => .error ("host " ++ host ++ " lookup failed: " ++ e.message)
  | .ok none => .error ("host " ++ host ++ " has not reported to the conductor")
  | .ok (some h) => .ok h

/-- Have a host apply a mapping, and settle the mapping. -/
def cycle (caller : Caller) (mapping : Mapping) (host : String) :
    ExceptT ConductorError Program Mapping := do
  let found ← ExceptT.lift <| access (.findHost host) done
  match callee host found with
  | .error reason => settle mapping.instanceUuid (some reason)
  | .ok h =>
    let answer ← ExceptT.lift <| call caller h mapping done
    settle mapping.instanceUuid (failureOf answer)

/-! ## Operations -/

/-- The draft of a requested mapping. -/
def draftOf (caller : Caller) (r : Rpc.CreateMapping) (host : Option String) : Draft where
  instanceUuid := r.instanceUuid
  projectId := caller.projectId
  userId := caller.userId
  host := host
  spec := r.spec

/-- A mapping that exists already is an error of the request, not of the store. -/
def createError (uuid : String) : ConductorError → ConductorError
  | .store (.alreadyExists _) => .mappingAlreadyExists uuid
  | e => e

/-- Create a mapping. Unless it is to wait, its instance has to run, and the mapping is applied at
once. -/
def createMapping (caller : Caller) (r : Rpc.CreateMapping) :
    ExceptT ConductorError Program Mapping := do
  if let .error e := CpuSpec.validate r.spec then throw (.invalidCpuSpecification e)
  let host ← if r.waitUntilActive then pure r.host else some <$> activeHost r
  locked r.instanceUuid do
    let mapping ← ExceptT.adapt (createError r.instanceUuid) <|
      onStore (.create (draftOf caller r host))
    match r.waitUntilActive, host with
    | false, some host => cycle caller mapping host
    | _, _ => return mapping

/-- Apply the mapping of an instance on a host. There may be no mapping. -/
def reconcileInstance (caller : Caller) (uuid host : String) :
    ExceptT ConductorError Program (Option Mapping) :=
  locked uuid do
    match ← onStore (.findMapping uuid) with
    | none => return none
    | some _ =>
      let mapping ← onStore (.move uuid host)
      some <$> cycle caller mapping host

/-- Apply the mapping of an instance once more, on the host that it was last applied on. -/
def reapplyMapping (caller : Caller) (uuid : String) : ExceptT ConductorError Program Mapping :=
  locked uuid do
    match ← onStore (.findMapping uuid) with
    | none => throw (.mappingNotFound uuid)
    | some mapping =>
      match mapping.host with
      | none => throw (.hostNotFound ("mapping for " ++ uuid ++ " has no host yet"))
      | some host => cycle caller mapping host

/-- Remove the mapping of an instance. -/
def deleteMapping (uuid : String) : ExceptT ConductorError Program Unit :=
  locked uuid do
    if !(← onStore (.delete uuid)) then throw (.mappingNotFound uuid)

/-- The mapping of an instance. -/
def getMapping (uuid : String) : ExceptT ConductorError Program Mapping := do
  match ← onStore (.findMapping uuid) with
  | some mapping => return mapping
  | none => throw (.mappingNotFound uuid)

/-- All mappings. -/
def listMappings : ExceptT ConductorError Program (List Mapping) :=
  onStore .listMappings

end VcpuPinning.Conductor
