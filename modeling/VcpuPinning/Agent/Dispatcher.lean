import VcpuPinning.Agent.Link
import VcpuPinning.Agent.Notice
import VcpuPinning.Pinning
import VcpuPinning.Settings

/-!
# Acting on notices

A `Dispatcher` acts on the notices that concern its host: it asks the conductor to apply the
mapping of the instance, or applies the specification of the notice itself.
-/

namespace VcpuPinning.Agent

/-- Why a notice could not be acted on. -/
inductive DispatchError where
  | conductor (e : Rpc.CallError)
  | pin (e : PinError)
  deriving DecidableEq, Repr

/-- The message of a dispatch error. -/
def DispatchError.message : DispatchError → String
  | .conductor e => "conductor: " ++ e.message
  | .pin e => e.message

/-- What was done about a notice. -/
inductive Dispatch where
  | ignored (reason : IgnoreReason)
  /-- The conductor applied the mapping of the instance, if there is one. -/
  | reconciled (mapping : Option Mapping)
  /-- The specification was applied on this host. -/
  | applied (outcome : PinOutcome)
  deriving DecidableEq

variable {σ : Type}

/-- Act on a notice, given what reconciles an instance on a host and what applies a specification to
a domain. -/
def act (hostName triggerKey : String) (mode : DispatchMode)
    (reconcile : Caller → String → String → StateM σ (Except Rpc.CallError (Option Mapping)))
    (apply : String → String → StateM σ (Except PinError PinOutcome)) (caller : Caller)
    (n : Notice) : StateM σ (Except DispatchError Dispatch) :=
  match triage hostName triggerKey n with
  | .error reason => return .ok (.ignored reason)
  | .ok spec =>
    match mode with
    | .conductor => do
      let result ← reconcile caller n.instanceUuid hostName
      return (result.map .reconciled).mapError .conductor
    | .direct => do
      let result ← apply n.instanceUuid spec
      return (result.map .applied).mapError .pin

/-- Acts on notices. -/
structure Dispatcher (σ : Type) where
  hostName : String
  triggerKey : String
  mode : DispatchMode
  link : Link σ
  pinner : Pinner σ

namespace Dispatcher

/-- Act on a notice. -/
def dispatch (d : Dispatcher σ) (caller : Caller) (n : Notice) :
    StateM σ (Except DispatchError Dispatch) :=
  act d.hostName d.triggerKey d.mode d.link.reconcileInstance d.pinner.apply caller n

/-- Act on notices one after the other. -/
def dispatchAll (d : Dispatcher σ) (caller : Caller) :
    List Notice → StateM σ (List (Notice × Except DispatchError Dispatch))
  | [] => return []
  | n :: ns => do
    let result ← d.dispatch caller n
    return (n, result) :: (← dispatchAll d caller ns)

end Dispatcher

end VcpuPinning.Agent
