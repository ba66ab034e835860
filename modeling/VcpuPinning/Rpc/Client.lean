import VcpuPinning.Network
import VcpuPinning.Http.Reason
import VcpuPinning.Http.Uri
import VcpuPinning.Rpc.CallError

/-!
# Calling

A `Client` calls one address. A call is a `POST` of a document to the path of its route, and its
reply is read whatever the status of the response is. Not every address that can be dialled can be
written into a request, nor can every token: such a call is an error once the other side is dialled.
-/

namespace VcpuPinning.Rpc

/-- Calls an address. -/
structure Client where
  address : String
  /-- How long a call may take. -/
  timeout : Duration
  /-- The token that goes with every call. -/
  token : Option String := none
  deriving DecidableEq, Repr

namespace Client

variable {σ α β : Type}

/-- The error of a header field whose value is none. -/
def headerError (route : Route) : CallError :=
  .codec route "failed to parse header value"

/-- The full address of a call. The address of the client also has to be a header value. -/
def target (c : Client) (route : Route) : Except CallError String :=
  match Http.Uri.read (c.address ++ route.path) with
  | .error e => .error (.codec route e.message)
  | .ok uri => if Http.isHeaderValue c.address then .ok uri.text else .error (headerError route)

/-- The request of a call. Its token has to be a header value. -/
def request (c : Client) (route : Route) (body : Json) : Except CallError Http.Request :=
  let headers := [("host", c.address), ("content-type", "application/json"),
    ("user-agent", "pinwheel-rpc/0.1")]
  match c.target route with
  | .error e => .error e
  | .ok target =>
    match c.token with
    | none => .ok ⟨"POST", target, headers, body.toText⟩
    | some token =>
      if Http.isHeaderValue token then
        .ok ⟨"POST", target, headers ++ [(tokenHeader, token)], body.toText⟩
      else .error (headerError route)

/-- What a response answers. -/
def answerOf (route : Route) (answer : Json → Option α) (r : Received) : Except CallError α :=
  match (Json.parse? r.body).bind (replyOfJson? answer) with
  | some (.ok a) => .ok a
  | some (.error fault) => .error (.remote fault)
  | none => .error (.codec route ("status " ++ Http.statusText r.status ++ ": not a reply"))

/-- What arrived, or why nothing did. -/
def arrival (c : Client) (route : Route) : Delivery α → Except CallError α
  | .arrived a => .ok a
  | .failed detail => .error (.transport route detail)
  | .late => .error (.timeout route c.timeout)

/-- Call a route: connect, send, and read the reply. -/
def call (c : Client) (net : Network σ) (route : Route) (caller : Caller)
    (payload : β → Json) (answer : Json → Option α) (b : β) : StateM σ (Except CallError α) :=
  ExceptT.run do
    let address ← ExceptT.mk <| pure <|
      (Address.read c.address).mapError fun e => .transport route e.message
    ExceptT.mk do return c.arrival route (← net.dial address)
    let request ← ExceptT.mk <| pure <|
      c.request route (Call.toJson payload (Call.current caller b))
    let received ← ExceptT.mk do return c.arrival route (← net.send address request)
    ExceptT.mk <| pure <| answerOf route answer received

end Client

end VcpuPinning.Rpc
