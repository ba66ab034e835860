import VcpuPinning.Rpc.Client

/-!
# The agent's link to the conductor

What an agent asks of the conductor, and the link that asks over the network.
-/

namespace VcpuPinning.Agent

/-- What an agent asks of the conductor, with state of type `σ`. -/
structure Link (σ : Type) where
  reconcileHost : Caller → Host → StateM σ (Except Rpc.CallError Rpc.ReconciledHost)
  reconcileInstances :
    Caller → String → List Instance → StateM σ (Except Rpc.CallError Rpc.Summary)
  reconcileInstance :
    Caller → String → String → StateM σ (Except Rpc.CallError (Option Mapping))

/-- The link that calls the address of the conductor. -/
def Link.remote {σ : Type} (net : Network σ) (client : Rpc.Client) : Link σ where
  reconcileHost caller host :=
    client.call net .reconcileHost caller Rpc.ReconcileHost.toJson Rpc.ReconciledHost.ofJson?
      ⟨host⟩
  reconcileInstances caller hostName instances :=
    client.call net .reconcileInstances caller Rpc.ReconcileInstances.toJson Rpc.Summary.ofJson?
      ⟨hostName, instances⟩
  reconcileInstance caller uuid host := do
    let result ← client.call net .reconcileInstance caller Rpc.ReconcileInstance.toJson
      Rpc.ReconciledInstance.ofJson? ⟨uuid, host⟩
    return result.map (·.mapping)

end VcpuPinning.Agent
