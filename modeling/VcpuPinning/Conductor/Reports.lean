import VcpuPinning.Conductor.Program

/-!
# Reports to the conductor

Hosts report themselves and their instances. An instance is taken to be on the host that reports
it, and a record that cannot be written does not keep the others from being written.
-/

namespace VcpuPinning.Conductor

open Program

/-- Take the report of a host. -/
def reconcileHost (host : Host) : ExceptT ConductorError Program Upsert :=
  onStore (.reportHost host)

/-- An instance as a host reports it. -/
def reportedOn (hostName : String) (i : Instance) : Instance :=
  { i with host := some hostName }

/-- A summary with the outcome of one more record. -/
def tally (s : Rpc.Summary) : Except StoreError Upsert → Rpc.Summary
  | .ok .created => { s with created := s.created + 1 }
  | .ok (.updated _) => { s with updated := s.updated + 1 }
  | .ok .unchanged => { s with unchanged := s.unchanged + 1 }
  | .error _ => { s with failed := s.failed + 1 }

/-- Take the records of instances, each for itself, and count what became of them. -/
def reconcileEach (hostName : String) (summary : Rpc.Summary) :
    List Instance → Program Rpc.Summary
  | [] => done summary
  | i :: is =>
    access (.reportInstance (reportedOn hostName i)) fun outcome =>
      reconcileEach hostName (tally summary outcome) is

/-- Take the report of a host on its instances. -/
def reconcileInstances (hostName : String) (instances : List Instance) : Program Rpc.Summary :=
  reconcileEach hostName {} instances

/-- The host with a name. -/
def getHost (name : String) : ExceptT ConductorError Program Host := do
  match ← onStore (.findHost name) with
  | some host => return host
  | none => throw (.hostNotFound name)

/-- All hosts. -/
def listHosts : ExceptT ConductorError Program (List Host) :=
  onStore .listHosts

/-- All instances. -/
def listInstances : ExceptT ConductorError Program (List Instance) :=
  onStore .listInstances

end VcpuPinning.Conductor
