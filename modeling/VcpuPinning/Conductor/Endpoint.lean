import VcpuPinning.Conductor.Mappings
import VcpuPinning.Conductor.Reports
import VcpuPinning.Rpc.Server

/-!
# The endpoint of the conductor

The conductor answers the calls of agents and requests that inspect its store. A request with the
wrong path is answered by 404, one with the wrong method for its path by 405, and `HEAD` works
where `GET` does, without a body.
-/

namespace VcpuPinning.Conductor

/-! ## Calls -/

/-- What a host report changed, as a reply. -/
def hostReply (outcome : Upsert) : Rpc.ReconciledHost :=
  ⟨outcome = .created, outcome.changedFields⟩

/-- The response of an operation on an accepted call. -/
def answer {α β : Type} (token : Option String) (payload : Json → Option α) (reply : β → Json)
    (r : Http.Request) (operation : Rpc.Call α → ExceptT ConductorError Program β) :
    Program Http.Response :=
  match Rpc.accept token payload r with
  | .error fault => return Rpc.respond reply (.error fault)
  | .ok call => do return Rpc.respond reply ((← (operation call).run).mapError (·.toFault))

/-- The response to a call of a route, if the conductor has the route. -/
def answerCall (token : Option String) (r : Http.Request) :
    Rpc.Route → Option (Program Http.Response)
  | .createMapping => some <|
      answer token Rpc.CreateMapping.ofJson? Mapping.toJson r fun c =>
        createMapping c.caller c.payload
  | .reconcileInstance => some <|
      answer token Rpc.ReconcileInstance.ofJson? Rpc.ReconciledInstance.toJson r fun c =>
        .mk <$> reconcileInstance c.caller c.payload.instanceUuid c.payload.host
  | .reconcileHost => some <|
      answer token Rpc.ReconcileHost.ofJson? Rpc.ReconciledHost.toJson r fun c =>
        hostReply <$> reconcileHost c.payload.host
  | .reconcileInstances => some <|
      answer token Rpc.ReconcileInstances.ofJson? Rpc.Summary.toJson r fun c =>
        ExceptT.lift (reconcileInstances c.payload.hostName c.payload.instances)
  | .reapplyMapping => some <|
      answer token Rpc.ReapplyMapping.ofJson? Mapping.toJson r fun c =>
        reapplyMapping c.caller c.payload.instanceUuid
  | .applyMapping => none

/-! ## Inspection -/

/-- The response to an inspection. -/
def inspected {α : Type} (data : α → Json) : Except ConductorError α → Http.Response
  | .ok a => .json 200 (Json.obj [("success", .bool true), ("data", data a)])
  | .error e => .json e.kind.httpStatus
      (Json.obj [("success", .bool false), ("error", Json.text e.message)])

/-- Inspect the store if the request shows the token. -/
def inspect {α : Type} (token : Option String) (r : Http.Request) (data : α → Json)
    (operation : ExceptT ConductorError Program α) : Program Http.Response := do
  if r.hasToken Rpc.tokenHeader token then return inspected data (← operation.run)
  else return inspected data (.error .unauthorized)

/-! ## Requests -/

/-- What there is at a path. -/
inductive Resource where
  | call (route : Rpc.Route)
  | mappings
  /-- The mapping of an instance, by the segment that spells its identifier. -/
  | mapping (segment : List Char)
  | hosts
  | instances
  deriving DecidableEq, Repr

/-- The path of all mappings. -/
def mappingsPath : String :=
  "/v1/instance_cpu_mappings"

/-- The calls that the conductor answers. -/
def routes : List Rpc.Route :=
  [.createMapping, .reconcileInstance, .reconcileHost, .reconcileInstances, .reapplyMapping]

/-- What there is at a path, if anything. -/
def resource? (path : List Char) : Option Resource :=
  match routes.find? fun route => route.path.toList = path with
  | some route => some (.call route)
  | none =>
    if path = mappingsPath.toList then some .mappings
    else if path = "/v1/hosts".toList then some .hosts
    else if path = "/v1/instances".toList then some .instances
    else (Http.Path.segmentBelow? mappingsPath path).map .mapping

/-- The response to a segment that is no text. -/
def badSegment : Http.Response :=
  ⟨400, .text "Invalid URL: Invalid UTF-8 in \x60uuid\x60"⟩

/-- The response to a method for what is at a path, if the method fits. -/
def methodOn (token : Option String) (r : Http.Request) (method : String) :
    Resource → Option (Program Http.Response)
  | .call route => if method = "POST" then answerCall token r route else none
  | .mappings =>
    if method = "GET" then some (inspect token r (Json.ofList Mapping.toJson) listMappings)
    else none
  | .hosts =>
    if method = "GET" then some (inspect token r (Json.ofList Host.toJson) listHosts) else none
  | .instances =>
    if method = "GET" then some (inspect token r (Json.ofList Instance.toJson) listInstances)
    else none
  | .mapping segment =>
    if method = "GET" ∨ method = "DELETE" then
      match Http.Path.decodeSegment? segment with
      | none => some (return badSegment)
      | some uuid =>
        if method = "GET" then some (inspect token r Mapping.toJson (getMapping uuid))
        else some (inspect token r (fun _ => Json.text uuid) (deleteMapping uuid))
    else none

/-- The response to a request. -/
def handle (token : Option String) (r : Http.Request) : Program Http.Response :=
  match resource? (Http.Path.ofTarget r.target) with
  | none => return .bare 404
  | some resource =>
    if r.method = "HEAD" then
      match methodOn token r "GET" resource with
      | some response => do return (← response).withoutBody
      | none => return .bare 405
    else (methodOn token r r.method resource).getD (return .bare 405)

end VcpuPinning.Conductor
