import VcpuPinning.Conductor.Program
import VcpuPinning.Rpc.Client

/-!
# Hosts over the network

The executor that calls each host at the address that the host reported.
-/

namespace VcpuPinning.Conductor

variable {σ : Type}

/-- Have a host apply a mapping by a call to its address. -/
def remoteExecutor (net : Network σ) (timeout : Duration) (token : Option String) : Executor σ :=
  fun caller host mapping =>
    match host.rpcAddress with
    | none => return .error (.hostNotFound (host.name ++ " advertises no rpc address"))
    | some address => do
      let client : Rpc.Client := ⟨address, timeout, token⟩
      let result ← client.call net .applyMapping caller Rpc.ApplyMapping.toJson
        Rpc.Applied.ofJson? ⟨mapping⟩
      return result.mapError .ofCallError

end VcpuPinning.Conductor
