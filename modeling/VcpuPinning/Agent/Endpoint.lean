import VcpuPinning.Agent.Inbox
import VcpuPinning.Agent.Notice
import VcpuPinning.Pinning
import VcpuPinning.Rpc.Server

/-!
# The endpoint of an agent

An agent answers the call that applies a mapping on its host, takes notices into its inbox, and
tells that it is there.
-/

namespace VcpuPinning.Agent

variable {σ : Type}

/-- Answer the call that applies a mapping. -/
def answerApply (pinner : Pinner σ) (token : Option String) (r : Http.Request) :
    StateM σ Http.Response :=
  match Rpc.accept token Rpc.ApplyMapping.ofJson? r with
  | .error fault => return Rpc.respond Rpc.Applied.toJson (.error fault)
  | .ok call => do
    let mapping := call.payload.mapping
    let result ← pinner.apply mapping.instanceUuid mapping.spec
    return Rpc.respond Rpc.Applied.toJson <|
      (result.map fun outcome => ⟨outcome.applied, outcome.vcpuResults⟩).mapError (·.toFault)

/-- The response that names an error. -/
def errorResponse (status : Nat) (message : String) : Http.Response :=
  .json status (Json.obj [("error", Json.text message)])

/-- The response to a notice that was offered. -/
def offerResponse : Offer → Http.Response
  | .accepted => .bare 202
  | .full => errorResponse 503 "notification queue full"
  | .stopped => errorResponse 503 "dispatcher stopped"

/-- Take a notice. -/
def takeNotice (token : Option String) (r : Http.Request) :
    StateM (Inbox Notice) Http.Response := fun inbox =>
  if r.hasToken Rpc.tokenHeader token then
    match r.read Notice.ofJson? with
    | .error e => (errorResponse 400 e.message, inbox)
    | .ok n =>
      let (outcome, inbox) := inbox.offer n
      (offerResponse outcome, inbox)
  else (errorResponse 401 "unauthorized", inbox)

/-- The response that tells that the agent is there. -/
def health (pinner : Pinner σ) : Http.Response :=
  .json 200 (Json.obj
    [("status", Json.text "ok"), ("maxcpu", Json.nat pinner.maxCpu.toNat)])

/-- The response to a request. -/
def handle (pinner : Pinner σ) (token : Option String) (r : Http.Request) :
    StateM (Inbox Notice × σ) Http.Response := fun (inbox, st) =>
  let path := Http.Path.ofTarget r.target
  if path = Rpc.Route.applyMapping.path.toList then
    if r.method = "POST" then
      let answer := (answerApply pinner token r).run st
      (answer.1, inbox, answer.2)
    else (.bare 405, inbox, st)
  else if path = "/v1/notifications".toList then
    if r.method = "POST" then
      let answer := (takeNotice token r).run inbox
      (answer.1, answer.2, st)
    else (.bare 405, inbox, st)
  else if path = "/healthz".toList then
    if r.method = "GET" then (health pinner, inbox, st)
    else if r.method = "HEAD" then ((health pinner).withoutBody, inbox, st)
    else (.bare 405, inbox, st)
  else (.bare 404, inbox, st)

end VcpuPinning.Agent
