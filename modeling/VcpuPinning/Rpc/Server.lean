import VcpuPinning.Http
import VcpuPinning.Rpc.Message

/-!
# Answering calls

A call is accepted if it shows the token, its body can be read, and it has the current version of
the protocol, judged in this order; so nobody learns anything about the payload without the token.
-/

namespace VcpuPinning.Rpc

variable {α : Type}

/-- The fault of a body that cannot be read. -/
def faultOfBody (e : Http.BodyError) : Fault :=
  ⟨.badRequest, e.message, none⟩

/-- The fault of a call with another version of the protocol. -/
def faultOfVersion (version : String) : Fault :=
  ⟨.versionMismatch, "unsupported rpc version " ++ version ++ ", expected " ++ apiVersion, none⟩

/-- The call that a request makes, or why it is refused. -/
def accept (token : Option String) (payload : Json → Option α) (r : Http.Request) :
    Except Fault (Call α) :=
  if r.hasToken tokenHeader token then
    match r.read (Call.ofJson? payload) with
    | .error e => .error (faultOfBody e)
    | .ok call =>
      if call.version = apiVersion then .ok call else .error (faultOfVersion call.version)
  else .error .unauthorized

/-- The response to a call. -/
def respond (answer : α → Json) (result : Except Fault α) : Http.Response :=
  .json (match result with
    | .ok _ => 200
    | .error f => f.kind.httpStatus) (replyToJson answer result)

/-- Without the token every request is refused in the same way. -/
theorem accept_of_not_hasToken {token : Option String} {payload : Json → Option α}
    {r : Http.Request} (h : r.hasToken tokenHeader token = false) :
    accept token payload r = .error .unauthorized := by
  simp [accept, h]

end VcpuPinning.Rpc
