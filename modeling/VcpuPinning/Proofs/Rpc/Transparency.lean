import Mathlib.Data.List.DropRight
import VcpuPinning.Agent.Endpoint
import VcpuPinning.Conductor.Endpoint
import VcpuPinning.Proofs.Rpc.Messages
import VcpuPinning.Proofs.Rpc.Targets

/-!
# Calls are transparent

A server of a route accepts a call, hands it to its handler, and replies with the result (`serve`).
The main statement, `call_transparent`, is about a call that reaches such a server: if both share a
token and the call is not too long, it is the handler on the caller and the payload of the call, and
a fault of the handler comes back as it is. Without the right token, or if the call is too long, the
handler does not run. The endpoints of the conductor and of the agents are such servers
(`Conductor.serves`, `Agent.serves`).
-/

namespace VcpuPinning

variable {σ : Type}

/-! ## The way of a request -/

namespace Http

/-- A blank that may stand around the value of a header. -/
def isEdgeBlank (c : Char) : Bool :=
  c == ' ' || c == '\t'

/-- The value of a header as it arrives, without the blanks around it. -/
def arrivedValue (v : String) : String :=
  String.ofList ((v.toList.dropWhile isEdgeBlank).rdropWhile isEdgeBlank)

/-- A request as it arrives. -/
def Request.arrived (r : Request) : Request :=
  { r with headers := r.headers.map fun (name, v) => (name, arrivedValue v) }

/-- A response as it arrives. -/
def Response.received (r : Response) : Received :=
  ⟨r.status, r.body.toText⟩

/-- A text of visible ASCII characters without a blank at its ends. -/
structure IsToken (t : String) : Prop where
  visible : isVisible t
  head : ∀ c ∈ t.toList.head?, isEdgeBlank c = false
  last : ∀ c ∈ t.toList.getLast?, isEdgeBlank c = false

/-- A text without a blank at its ends arrives as it is. -/
theorem arrivedValue_eq {t : String} (hh : ∀ c ∈ t.toList.head?, isEdgeBlank c = false)
    (hl : ∀ c ∈ t.toList.getLast?, isEdgeBlank c = false) : arrivedValue t = t := by
  have hd : t.toList.dropWhile isEdgeBlank = t.toList := by
    cases hc : t.toList with
    | nil => rfl
    | cons c cs => simp [hh c (by simp [hc])]
  have hr : t.toList.rdropWhile isEdgeBlank = t.toList := by
    refine List.rdropWhile_eq_self_iff.2 fun hne => ?_
    rw [hl _ (List.getLast?_eq_getLast_of_ne_nil hne)]
    decide
  rw [arrivedValue, hd, hr, String.ofList_toList]

end Http

namespace Network

/-- The network connects to an address, and a request sent there reaches a server in time. -/
structure Reaches (net : Network σ) (a : Address)
    (server : Http.Request → StateM σ Http.Response) (r : Http.Request) : Prop where
  dial : net.dial a = pure (.arrived ())
  send : net.send a r = do return .arrived (← server r.arrived).received

/-- The network on which every address is that of one server. -/
def direct (server : Http.Request → StateM σ Http.Response) : Network σ where
  dial _ := return .arrived ()
  send _ r := do return .arrived (← server r.arrived).received

theorem direct_reaches (server : Http.Request → StateM σ Http.Response) (a : Address)
    (r : Http.Request) : (direct server).Reaches a server r :=
  ⟨rfl, rfl⟩

end Network

namespace Rpc

/-! ## Servers -/

/-- Accept a call, have it handled, and reply. -/
def serve {m : Type → Type} [Monad m] {α β : Type} (token : Option String)
    (payload : Json → Option α) (answer : β → Json) (handler : Call α → m (Except Fault β))
    (r : Http.Request) : m Http.Response :=
  match accept token payload r with
  | .error fault => return respond answer (.error fault)
  | .ok call => do return respond answer (← handler call)

/-! ## Tokens -/

/-- The token of a client opens a server: the server has none, or both have the same one. -/
inductive Opens : Option String → Option String → Prop
  | free (token : Option String) : Opens token none
  | same (t : String) (plain : Http.IsToken t) : Opens (some t) (some t)

/-- What a server sees of the token of a client. -/
def presented (token : Option String) : Option String :=
  (token.map Http.arrivedValue).filter Http.isVisible

/-- The document of a call of a route. -/
def Route.document (route : Route) (caller : Caller) (payload : route.Payload) : Json :=
  Call.toJson route.payloadToJson (Call.current caller payload)

/-- The document of a call of a route, as text. -/
def Route.envelope (route : Route) (caller : Caller) (payload : route.Payload) : String :=
  (route.document caller payload).toText

theorem Opens.presented_eq {client server : Option String} (h : Opens client server) {t : String}
    (ht : server = some t) : presented client = some t := by
  cases h with
  | free _ => exact nomatch ht
  | same u plain =>
    obtain rfl := Option.some.inj ht
    simp [presented, Http.arrivedValue_eq plain.head plain.last, plain.visible]

/-! ## Calls that arrive -/

namespace Client

variable {c : Client} {route : Route} {target : String}

/-- The request of a call as it arrives. -/
def arrivedRequest (c : Client) (target body : String) : Http.Request where
  method := "POST"
  target := target
  headers := [("host", Http.arrivedValue c.address), ("content-type", "application/json"),
    ("user-agent", "pinwheel-rpc/0.1")] ++
      (c.token.map fun t => (tokenHeader, Http.arrivedValue t)).toList
  body := body

/-- A request is made from an address that can be written and a token that can be sent. -/
theorem exists_request (hu : c.target route = .ok target)
    (hs : ∀ t ∈ c.token, Http.isHeaderValue t) (body : Json) :
    ∃ r, c.request route body = .ok r := by
  rw [request, hu]
  cases ht : c.token with
  | none => exact ⟨_, rfl⟩
  | some t => exact ⟨_, if_pos (hs t ht)⟩

/-- How a request arrives. -/
theorem arrived_of_request {body : Json} {r : Http.Request} (hr : c.request route body = .ok r) :
    ∃ target, c.target route = .ok target ∧ r.arrived = c.arrivedRequest target body.toText := by
  have hjson : Http.arrivedValue "application/json" = "application/json" := by decide +kernel
  have hagent : Http.arrivedValue "pinwheel-rpc/0.1" = "pinwheel-rpc/0.1" := by decide +kernel
  unfold request at hr
  cases hu : c.target route with
  | error e => simp [hu] at hr
  | ok target =>
    refine ⟨target, rfl, ?_⟩
    cases ht : c.token with
    | none =>
      simp only [hu, ht, Except.ok.injEq] at hr
      simp [← hr, Http.Request.arrived, arrivedRequest, ht, hjson, hagent]
    | some t =>
      simp only [hu, ht] at hr
      split at hr
      · cases hr
        simp [Http.Request.arrived, arrivedRequest, ht, hjson, hagent]
      · exact nomatch hr

theorem header?_content_type (body : String) :
    (c.arrivedRequest target body).header? "content-type" = some "application/json" := by
  rfl

theorem header?_token (body : String) :
    (c.arrivedRequest target body).header? tokenHeader = presented c.token := by
  unfold presented Http.Request.header? arrivedRequest
  cases c.token <;> rfl

theorem hasToken_of_opens {token : Option String} (h : Opens c.token token) (body : String) :
    (c.arrivedRequest target body).hasToken tokenHeader token := by
  cases token with
  | none => rfl
  | some t => simp [Http.Request.hasToken, header?_token, h.presented_eq rfl]

theorem not_hasToken {t : String} (h : presented c.token ≠ some t) (body : String) :
    (c.arrivedRequest target body).hasToken tokenHeader (some t) = false := by
  simp [Http.Request.hasToken, header?_token, h]

end Client

/-! ## What a server takes -/

section

variable {c : Client} {route : Route} {token : Option String}

/-- A call that is not too long is read as it was made. -/
theorem read_arrivedRequest (target : String) (caller : Caller) (payload : route.Payload) :
    (c.arrivedRequest target (route.envelope caller payload)).read
        (Call.ofJson? route.payloadOfJson?) =
      if Http.maxBodySize < (route.envelope caller payload).utf8ByteSize then .error .tooLarge
      else .ok (Call.current caller payload) := by
  have hjson : Http.MediaType.isJson "application/json" = true := by decide +kernel
  have hcall := Call.faithful route.payload_faithful
  have hparse : Json.parse? (route.envelope caller payload) =
      some (Call.toJson route.payloadToJson (Call.current caller payload)) :=
    Json.parse?_toText (hcall.spelled _)
  rw [Http.Request.read, Client.header?_content_type]
  simp [hjson, Client.arrivedRequest, hparse, hcall.read_write]

theorem accept_arrivedRequest (target : String) (h : Opens c.token token) (caller : Caller)
    (payload : route.Payload) :
    accept token route.payloadOfJson?
        (c.arrivedRequest target (route.envelope caller payload)) =
      if Http.maxBodySize < (route.envelope caller payload).utf8ByteSize then
        .error (faultOfBody .tooLarge)
      else .ok (Call.current caller payload) := by
  rw [accept, if_pos (Client.hasToken_of_opens h _), read_arrivedRequest]
  by_cases hsize : Http.maxBodySize < (route.envelope caller payload).utf8ByteSize
  · simp only [if_pos hsize]
  · simp only [if_neg hsize]
    exact if_pos rfl

/-- The result of a handler comes back as it is. -/
theorem answerOf_respond (route : Route) (result : Except Fault route.Answer) :
    Client.answerOf route route.answerOfJson? (respond route.answerToJson result).received =
      result.mapError .remote := by
  have hreply := (reply_faithful route.answer_faithful).read_sent result
  unfold Client.answerOf respond
  rw [Http.Response.received, Http.Response.json, Http.Body.toText, hreply]
  cases result <;> rfl

end

/-! ## Calls -/

/-- A server has the calls that a client makes of a route handled. -/
def Serves (server : Http.Request → StateM σ Http.Response) (c : Client) (token : Option String)
    (route : Route) (handler : Call route.Payload → StateM σ (Except Fault route.Answer)) : Prop :=
  ∀ target body, c.target route = .ok target → server (c.arrivedRequest target body) =
    serve token route.payloadOfJson? route.answerToJson handler (c.arrivedRequest target body)

theorem serves_serve (c : Client) (token : Option String) (route : Route)
    (handler : Call route.Payload → StateM σ (Except Fault route.Answer)) :
    Serves (serve token route.payloadOfJson? route.answerToJson handler) c token route handler :=
  fun _ _ _ => rfl

section

variable {c : Client} {net : Network σ} {a : Address} {token : Option String} {route : Route}
  {caller : Caller} {payload : route.Payload} {r : Http.Request}
  {server : Http.Request → StateM σ Http.Response}
  {handler : Call route.Payload → StateM σ (Except Fault route.Answer)}

/-- A call that arrives is answered by what the server responds. -/
theorem call_of_reaches (ha : Address.read c.address = .ok a)
    (hr : c.request route (route.document caller payload) = .ok r) (hn : net.Reaches a server r)
    (hserves : Serves server c token route handler) : ∃ target,
    c.call net route caller route.payloadToJson route.answerOfJson? payload = do
      return Client.answerOf route route.answerOfJson? (← serve token route.payloadOfJson?
        route.answerToJson handler
        (c.arrivedRequest target (route.envelope caller payload))).received := by
  obtain ⟨target, hu, harrived⟩ := Client.arrived_of_request hr
  refine ⟨target, ?_⟩
  rw [← hserves target _ hu, Route.envelope, ← harrived]
  rw [Route.document] at hr
  unfold Client.call
  simp only [ha, Except.mapError, ExceptT.run_bind, ExceptT.run_mk, pure_bind, hn.dial,
    Client.arrival, hr, hn.send, bind_assoc]

/-- A call that opens the server and is not too long is the handler. -/
theorem call_of_opens (ha : Address.read c.address = .ok a)
    (hr : c.request route (route.document caller payload) = .ok r) (hn : net.Reaches a server r)
    (hserves : Serves server c token route handler) (ho : Opens c.token token)
    (hsize : (route.envelope caller payload).utf8ByteSize ≤ Http.maxBodySize) :
    c.call net route caller route.payloadToJson route.answerOfJson? payload =
      (·.mapError CallError.remote) <$> handler ⟨apiVersion, caller, payload⟩ := by
  obtain ⟨target, hcall⟩ := call_of_reaches ha hr hn hserves
  have haccept := accept_arrivedRequest target ho caller payload
  rw [if_neg (Nat.not_lt.2 hsize)] at haccept
  rw [hcall, serve, haccept]
  simp only [bind_assoc, pure_bind, answerOf_respond, map_eq_pure_bind]
  rfl

/-- A call that is too long is refused. -/
theorem call_of_too_long (ha : Address.read c.address = .ok a)
    (hr : c.request route (route.document caller payload) = .ok r) (hn : net.Reaches a server r)
    (hserves : Serves server c token route handler) (ho : Opens c.token token)
    (hsize : Http.maxBodySize < (route.envelope caller payload).utf8ByteSize) :
    c.call net route caller route.payloadToJson route.answerOfJson? payload =
      pure (.error (.remote (faultOfBody .tooLarge))) := by
  obtain ⟨target, hcall⟩ := call_of_reaches ha hr hn hserves
  have haccept := accept_arrivedRequest target ho caller payload
  rw [if_pos hsize] at haccept
  rw [hcall, serve, haccept]
  simp only [pure_bind, answerOf_respond]
  rfl

/-- A call with the wrong token is refused. -/
theorem call_of_not_presented {t : String} (ha : Address.read c.address = .ok a)
    (hr : c.request route (route.document caller payload) = .ok r) (hn : net.Reaches a server r)
    (hserves : Serves server c (some t) route handler) (hp : presented c.token ≠ some t) :
    c.call net route caller route.payloadToJson route.answerOfJson? payload =
      pure (.error (.remote .unauthorized)) := by
  obtain ⟨target, hcall⟩ := call_of_reaches ha hr hn hserves
  rw [hcall, serve, accept_of_not_hasToken (Client.not_hasToken hp _)]
  simp only [pure_bind, answerOf_respond]
  rfl

/-- A call whose request can be made, which takes an address that can be written and a token that
can be sent, and reaches a server of its route. If the token opens the server and the call has at
most two mebibytes, the call is the handler on its caller and payload: it results in what the
handler returns, and in a fault of the handler as a remote one. A longer call, and one whose token is
wrong, come back with a fault, and the handler does not run. -/
theorem call_transparent (ha : Address.read c.address = .ok a)
    (hr : c.request route (route.document caller payload) = .ok r) (hn : net.Reaches a server r)
    (hserves : Serves server c token route handler) :
    (Opens c.token token →
      (route.envelope caller payload).utf8ByteSize ≤ Http.maxBodySize →
      c.call net route caller route.payloadToJson route.answerOfJson? payload =
        (·.mapError CallError.remote) <$> handler ⟨apiVersion, caller, payload⟩) ∧
    (Opens c.token token →
      Http.maxBodySize < (route.envelope caller payload).utf8ByteSize →
      c.call net route caller route.payloadToJson route.answerOfJson? payload =
        pure (.error (.remote
          ⟨.badRequest, "Failed to buffer the request body: length limit exceeded", none⟩))) ∧
    ∀ t, token = some t → presented c.token ≠ some t →
      c.call net route caller route.payloadToJson route.answerOfJson? payload =
        pure (.error (.remote .unauthorized)) := by
  refine ⟨fun ho hsize => ?_, fun ho hsize => ?_, fun t ht hp => ?_⟩
  · exact call_of_opens ha hr hn hserves ho hsize
  · exact call_of_too_long ha hr hn hserves ho hsize
  · subst ht
    exact call_of_not_presented ha hr hn hserves hp

end

/-- Calls of a node on port 9000 can be written. -/
theorem target_of_node (token : Option String) (route : Route) :
    Client.target ⟨"node-1:9000", .ofSeconds 30, token⟩ route =
      .ok (Http.Uri.scheme ++ "node-1:9000" ++ route.path) := by
  have hname : "node-1".toList.all Http.Uri.isNameChar := by decide +kernel
  have hport : "9000".toList.all Http.Uri.isNameChar := by decide +kernel
  have haddress : "node-1:9000".toList = "node-1".toList ++ ':' :: "9000".toList := by
    decide +kernel
  have hsize : (Http.Uri.scheme ++ ("node-1:9000" ++ route.path)).utf8ByteSize ≤
      Http.Uri.maxSize := by cases route <;> decide +kernel
  exact Client.target_of_named haddress (List.all_eq_true.1 hname) (List.all_eq_true.1 hport) hsize

/-- A call with a shared token, and one with another token. -/
theorem call_transparent_of_reapply :
    let handler : Call ReapplyMapping → StateM ℕ (Except Fault Mapping) :=
      fun call n => (.error ⟨.mappingNotFound, call.payload.instanceUuid, none⟩, n + 1)
    let net := Network.direct
      (serve (some "s3cret") ReapplyMapping.ofJson? Mapping.toJson handler)
    let call (token : String) : ℕ → Except CallError Mapping × ℕ :=
      Client.call ⟨"node-1:9000", .ofSeconds 30, some token⟩ net .reapplyMapping
        ⟨"r", none, none, true⟩ ReapplyMapping.toJson Mapping.ofJson? ⟨"vm-a"⟩
    call "s3cret" 0 = (.error (.remote ⟨.mappingNotFound, "vm-a", none⟩), 1) ∧
      call "secret" 0 = (.error (.remote .unauthorized), 0) := by
  intro handler net call
  obtain ⟨a, ha⟩ : ∃ a, Address.read "node-1:9000" = .ok a := ⟨_, rfl⟩
  let server := serve (some "s3cret") ReapplyMapping.ofJson? Mapping.toJson handler
  have hn := Network.direct_reaches server a
  have hserves (token : String) :=
    serves_serve ⟨"node-1:9000", .ofSeconds 30, some token⟩ (some "s3cret") .reapplyMapping handler
  let caller : Caller := ⟨"r", none, none, true⟩
  have hr (token : String) (hs : Http.isHeaderValue token) :=
    Client.exists_request (target_of_node (some token) .reapplyMapping)
      (by rintro _ ⟨⟩; exact hs) (Route.reapplyMapping.document caller ⟨"vm-a"⟩)
  have hsize : (Route.reapplyMapping.envelope caller ⟨"vm-a"⟩).utf8ByteSize ≤
      Http.maxBodySize := by decide +kernel
  have htoken : Http.IsToken "s3cret" := by
    refine ⟨by decide +kernel, ?_, ?_⟩
    · rintro _ ⟨⟩
      decide
    · rintro _ ⟨⟩
      decide
  have hother : presented (some "secret") ≠ some "s3cret" := by decide +kernel
  constructor
  · obtain ⟨r, hr⟩ := hr "s3cret" (Http.isHeaderValue_of_isVisible htoken.visible)
    obtain ⟨h, -, -⟩ := call_transparent ha hr (hn r) (hserves "s3cret")
    exact congrFun (h (.same "s3cret" htoken) hsize) 0
  · obtain ⟨r, hr⟩ := hr "secret" (by decide +kernel)
    obtain ⟨-, -, h⟩ := call_transparent ha hr (hn r) (hserves "secret")
    exact congrFun (h "s3cret" rfl hother) 0

/-- A report of instances is longer than the name of the host. -/
theorem length_hostName_lt_envelope (caller : Caller) (payload : ReconcileInstances) :
    payload.hostName.length <
      (Route.reconcileInstances.envelope caller payload).utf8ByteSize := by
  have hname : (Json.render (Json.text payload.hostName)).length ≤
      (Json.render payload.toJson).length :=
    Json.length_render_le_record (List.mem_cons_self ..)
  have hcall : (Json.render payload.toJson).length ≤
      (Json.render (Call.toJson ReconcileInstances.toJson (Call.current caller payload))).length :=
    Json.length_render_le_record
      (List.mem_cons_of_mem _ (List.mem_cons_of_mem _ (List.mem_cons_self ..)))
  calc payload.hostName.length
      < (Json.render (Json.text payload.hostName)).length := Json.length_lt_render_text _
    _ ≤ (Json.render (Call.toJson ReconcileInstances.toJson (Call.current caller payload))).length :=
      Nat.le_trans hname hcall
    _ ≤ _ := Json.length_le_utf8ByteSize _

/-- A call that reaches a server which its token opens, but has more than two mebibytes, is not the
handler. -/
theorem call_not_transparent_of_long_name :
    let c : Client := ⟨"node-1:9000", .ofSeconds 30, none⟩
    let caller : Caller := ⟨"r1", none, none, true⟩
    let payload : ReconcileInstances := ⟨String.ofList (List.replicate 2097152 'a'), []⟩
    let handler : Call ReconcileInstances → StateM Unit (Except Fault Summary) :=
      fun _ => return .ok {}
    let server := serve none ReconcileInstances.ofJson? Summary.toJson handler
    ∃ a r, Address.read c.address = .ok a ∧
      c.request .reconcileInstances (Route.reconcileInstances.document caller payload) = .ok r ∧
      (Network.direct server).Reaches a server r ∧
      Serves server c none .reconcileInstances handler ∧ Opens c.token none ∧
      c.call (Network.direct server) .reconcileInstances caller ReconcileInstances.toJson
          Summary.ofJson? payload ≠
        (·.mapError CallError.remote) <$> handler ⟨apiVersion, caller, payload⟩ := by
  intro c caller payload handler server
  obtain ⟨a, ha⟩ : ∃ a, Address.read "node-1:9000" = .ok a := ⟨_, rfl⟩
  obtain ⟨r, hr⟩ := Client.exists_request (c := c) (target_of_node none .reconcileInstances)
    (by simp [c]) (Route.reconcileInstances.document caller payload)
  have hn := Network.direct_reaches server a r
  have hserves := serves_serve c none .reconcileInstances handler
  have ho : Opens c.token none := .free none
  refine ⟨a, r, ha, hr, hn, hserves, ho, fun heq => ?_⟩
  -- The document is too long to be evaluated, so its length is bounded by that of the name.
  have hlen : payload.hostName.length = Http.maxBodySize := by
    rw [String.length_ofList, List.length_replicate, Http.maxBodySize]
  have hsize := length_hostName_lt_envelope caller payload
  rw [hlen] at hsize
  have hlong := call_of_too_long ha hr hn hserves ho hsize
  exact nomatch congrArg Prod.fst (congrFun (hlong.symm.trans heq) ())

/-! ## The endpoints -/

/-- The path in a full address. -/
theorem ofTarget_of_full {target : String} {rest : List Char}
    (h : target.toList = "http://".toList ++ rest) :
    Http.Path.ofTarget target =
      match Http.Path.beforeQuery (rest.dropWhile Http.Uri.isInside) with
      | [] => ['/']
      | path => path := by
  unfold Http.Path.ofTarget
  rw [h]
  rfl

/-- The path of a call as it arrives. -/
theorem Client.path_arrivedRequest {c : Client} {route : Route} {target : String}
    (hc : ∀ d ∈ c.address.toList, Http.Uri.isInside d) (hu : c.target route = .ok target)
    (body : String) :
    Http.Path.ofTarget (c.arrivedRequest target body).target = route.path.toList := by
  obtain ⟨cs, hcs⟩ := List.head?_eq_some_iff.1 route.head?_path
  obtain rfl := Client.target_of_inside hc hu
  -- The client sends the full address, as a caller of a proxy would.
  have htarget : (Http.Uri.scheme ++ c.address ++ route.path).toList =
      "http://".toList ++ (c.address.toList ++ route.path.toList) := by
    rw [String.toList_append, String.toList_append, List.append_assoc, Http.Uri.scheme]
  have hdrop := Http.Uri.dropWhile_isInside hc route.head?_path
  rw [arrivedRequest, ofTarget_of_full htarget, hdrop, route.beforeQuery_path, hcs]

end Rpc

namespace Conductor

open Rpc

/-- The answer to a call, carried out by itself, is that of a server. -/
theorem run_answer {α β : Type} (around : Surroundings σ) (token : Option String)
    (payload : Json → Option α) (reply : β → Json) (r : Http.Request)
    (operation : Call α → ExceptT ConductorError Program β) :
    Program.run around (answer token payload reply r operation) =
      serve token payload reply
        (fun call => (·.mapError (·.toFault)) <$> Program.run around (operation call).run) r := by
  unfold answer serve
  cases accept token payload r with
  | error fault => rfl
  | ok call =>
    funext st
    exact Program.run_bind around (operation call).run _ st

/-- The conductor has each of its routes handled. -/
theorem run_answerCall (around : Surroundings σ) {route : Route} (h : route ∈ routes) :
    ∃ handler : Call route.Payload → StateM (Store × σ) (Except Fault route.Answer),
      ∀ token r, (answerCall token r route).map (Program.run around) =
        some (serve token route.payloadOfJson? route.answerToJson handler r) := by
  cases route with
  | createMapping => exact ⟨_, fun token r => congrArg some (run_answer ..)⟩
  | reconcileInstance => exact ⟨_, fun token r => congrArg some (run_answer ..)⟩
  | reconcileHost => exact ⟨_, fun token r => congrArg some (run_answer ..)⟩
  | reconcileInstances => exact ⟨_, fun token r => congrArg some (run_answer ..)⟩
  | reapplyMapping => exact ⟨_, fun token r => congrArg some (run_answer ..)⟩
  | applyMapping => simp [routes] at h

theorem resource?_path {route : Route} (h : route ∈ routes) :
    resource? route.path.toList = some (.call route) := by
  cases route with
  | applyMapping => simp [routes] at h
  | _ => decide +kernel

/-- The conductor serves the calls that arrive at its routes. -/
theorem serves (around : Surroundings σ) {c : Client}
    (hc : ∀ d ∈ c.address.toList, Http.Uri.isInside d) {route : Route} (h : route ∈ routes) :
    ∃ handler : Call route.Payload → StateM (Store × σ) (Except Fault route.Answer),
      ∀ token, Serves (fun r => Program.run around (handle token r)) c token route handler := by
  obtain ⟨handler, hanswer⟩ := run_answerCall around h
  refine ⟨handler, fun token target body hu => ?_⟩
  have hr := hanswer token (c.arrivedRequest target body)
  obtain ⟨p, hp, hrun⟩ := Option.map_eq_some_iff.1 hr
  have hmethod : (c.arrivedRequest target body).method = "POST" := rfl
  change Program.run around (handle token (c.arrivedRequest target body)) = _
  unfold handle
  rw [Client.path_arrivedRequest hc hu, resource?_path h]
  simp only [hmethod, methodOn, hp, ← hrun]
  rfl

end Conductor

namespace Agent

/-- The answer to the call that applies a mapping is that of a server. -/
theorem answerApply_eq (pinner : Pinner σ) (token : Option String) (r : Http.Request) :
    answerApply pinner token r =
      Rpc.serve token Rpc.ApplyMapping.ofJson? Rpc.Applied.toJson (fun call => do
        let result ← pinner.apply call.payload.mapping.instanceUuid call.payload.mapping.spec
        return (result.map fun outcome => ⟨outcome.applied, outcome.vcpuResults⟩).mapError
          (·.toFault)) r := by
  unfold answerApply Rpc.serve
  cases Rpc.accept token Rpc.ApplyMapping.ofJson? r with
  | error fault => rfl
  | ok call => simp only [bind_assoc, pure_bind]

/-- An agent serves the calls that apply mappings. -/
theorem serves (pinner : Pinner σ) (token : Option String) {c : Rpc.Client}
    (hc : ∀ d ∈ c.address.toList, Http.Uri.isInside d) :
    Rpc.Serves (handle pinner token) c token .applyMapping fun call => fun (inbox, st) =>
      let result := (pinner.apply call.payload.mapping.instanceUuid
        call.payload.mapping.spec).run st
      ((result.1.map fun outcome => ⟨outcome.applied, outcome.vcpuResults⟩).mapError
        (·.toFault), inbox, result.2) := by
  intro target body hu
  funext ⟨inbox, st⟩
  have hmethod : (c.arrivedRequest target body).method = "POST" := rfl
  unfold handle
  simp only [Rpc.Client.path_arrivedRequest hc hu, hmethod, ↓reduceIte, answerApply_eq]
  change _ = (Rpc.serve token Rpc.ApplyMapping.ofJson? Rpc.Applied.toJson _ _ :
    StateM (Inbox Notice × σ) Http.Response) (inbox, st)
  unfold Rpc.serve
  cases Rpc.accept token Rpc.ApplyMapping.ofJson? (c.arrivedRequest target body) with
  | error fault => rfl
  | ok call => rfl

end Agent

end VcpuPinning
