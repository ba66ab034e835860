import VcpuPinning.Agent.Endpoint
import VcpuPinning.Conductor.Endpoint

/-!
# Requests without the token

Where a token is expected, a request that does not show it is answered before anything else of it
is read and before the state of the service is: the response follows from the route and the method
(`Conductor.handle_of_not_shows`, `Agent.handle_of_not_shows`). So two such requests to one route
cannot be told apart, and nothing comes of them (`refused_alike`).
-/

namespace VcpuPinning

/-! ## Tokens -/

/-- The request carries the token. -/
def Http.Request.Shows (r : Http.Request) (t : String) : Prop :=
  r.headers.lookup Rpc.tokenHeader = some t

theorem Http.Request.not_hasToken_of_not_shows {r : Http.Request} {t : String}
    (h : ¬ r.Shows t) : r.hasToken Rpc.tokenHeader (some t) = false := by
  refine beq_eq_false_iff_ne.2 fun ht => h ?_
  exact (Option.filter_eq_some_iff.1 ht).1

/-- The response to a call without the token. -/
def Rpc.refusal : Http.Response :=
  respond (fun _ : Unit => .null) (.error .unauthorized)

/-! ## The conductor -/

namespace Conductor

/-- What the conductor answers at a path, the identifiers in it left out. -/
inductive Endpoint where
  | call (route : Rpc.Route)
  | mappings
  | mapping
  | hosts
  | instances
  deriving DecidableEq, Repr

/-- The endpoint of what is at a path, unless the path spells no identifier. -/
def Resource.endpoint? : Resource → Option Endpoint
  | .call route => some (.call route)
  | .mappings => some .mappings
  | .mapping segment => (Http.Path.decodeSegment? segment).map fun _ => .mapping
  | .hosts => some .hosts
  | .instances => some .instances

/-- The endpoint that a request is for. -/
def endpoint? (r : Http.Request) : Option Endpoint :=
  (resource? (Http.Path.ofTarget r.target)).bind Resource.endpoint?

namespace Endpoint

/-- The methods of an endpoint; `HEAD` comes with `GET`. -/
def methods : Endpoint → List String
  | call _ => ["POST"]
  | mapping => ["GET", "DELETE"]
  | mappings | hosts | instances => ["GET"]

/-- The response to a method of an endpoint without the token. -/
def refusal : Endpoint → Http.Response
  | call _ => Rpc.refusal
  | _ => inspected (fun _ : Unit => .null) (.error .unauthorized)

/-- The response to any method without the token. -/
def refusalOf (e : Endpoint) (method : String) : Http.Response :=
  if method = "HEAD" then
    if "GET" ∈ e.methods then e.refusal.withoutBody else .bare 405
  else if method ∈ e.methods then e.refusal else .bare 405

end Endpoint

variable {t : String} {r : Http.Request}

theorem answer_of_not_shows (h : ¬ r.Shows t) {α β : Type} (payload : Json → Option α)
    (reply : β → Json) (operation : Rpc.Call α → ExceptT ConductorError Program β) :
    answer (some t) payload reply r operation = .done Rpc.refusal := by
  rw [answer, Rpc.accept_of_not_hasToken (Http.Request.not_hasToken_of_not_shows h)]
  rfl

theorem inspect_of_not_shows (h : ¬ r.Shows t) {α : Type} (data : α → Json)
    (operation : ExceptT ConductorError Program α) :
    inspect (some t) r data operation =
      .done (inspected (fun _ : Unit => .null) (.error .unauthorized)) := by
  rw [inspect, Http.Request.not_hasToken_of_not_shows h]
  rfl

/-- Every call of the conductor is refused alike. -/
theorem answerCall_of_not_shows (h : ¬ r.Shows t) {route : Rpc.Route} (hroute : route ∈ routes) :
    answerCall (some t) r route = some (.done Rpc.refusal) := by
  cases route with
  | applyMapping => exact absurd hroute (by decide)
  | _ => exact congrArg some (answer_of_not_shows h ..)

theorem mem_routes_of_resource? {path : List Char} {route : Rpc.Route}
    (h : resource? path = some (.call route)) : route ∈ routes := by
  rw [resource?] at h
  split at h
  · rename_i route' hfind
    cases h
    exact List.mem_of_find?_eq_some hfind
  · split at h
    · exact nomatch h
    split at h
    · exact nomatch h
    split at h
    · exact nomatch h
    obtain ⟨_, _, hsegment⟩ := Option.map_eq_some_iff.1 h
    exact nomatch hsegment

theorem methodOn_of_not_shows (h : ¬ r.Shows t) {resource : Resource} {e : Endpoint}
    (he : resource.endpoint? = some e) (hroute : ∀ route, resource = .call route → route ∈ routes)
    (method : String) : methodOn (some t) r method resource =
      if method ∈ e.methods then some (.done e.refusal) else none := by
  cases resource with
  | call route =>
    cases he
    simp only [methodOn, Endpoint.methods, List.mem_singleton,
      answerCall_of_not_shows h (hroute route rfl), Endpoint.refusal]
  | mapping segment =>
    obtain ⟨uuid, hsegment, rfl⟩ := Option.map_eq_some_iff.1 he
    simp only [methodOn, Endpoint.methods, hsegment, inspect_of_not_shows h, ite_self,
      List.mem_cons, List.not_mem_nil, or_false, Endpoint.refusal]
  | mappings | hosts | instances =>
    cases he
    simp only [methodOn, Endpoint.methods, List.mem_singleton, inspect_of_not_shows h,
      Endpoint.refusal]

/-- Without the token, the endpoint and the method settle the response, and nothing is done. -/
theorem handle_of_not_shows (h : ¬ r.Shows t) {e : Endpoint} (he : endpoint? r = some e) :
    handle (some t) r = .done (e.refusalOf r.method) := by
  obtain ⟨resource, hresource, he⟩ := Option.bind_eq_some_iff.1 he
  have hmethod := methodOn_of_not_shows h he fun route hr =>
    mem_routes_of_resource? (hr ▸ hresource)
  simp only [handle, hresource, hmethod, Endpoint.refusalOf]
  by_cases hhead : r.method = "HEAD"
  · by_cases hget : "GET" ∈ e.methods
    · simp only [hhead, hget, ↓reduceIte]
      rfl
    · simp only [hhead, hget, ↓reduceIte]
      rfl
  · by_cases hmem : r.method ∈ e.methods
    · simp only [hhead, hmem, ↓reduceIte, Option.getD_some]
    · simp only [hhead, hmem, ↓reduceIte, Option.getD_none]
      rfl

/-- The requests are for one endpoint, by one method or each by a method of the endpoint. -/
def SameRoute (r₁ r₂ : Http.Request) : Prop :=
  ∃ e, endpoint? r₁ = some e ∧ endpoint? r₂ = some e ∧
    (r₁.method = r₂.method ∨ r₁.method ∈ e.methods ∧ r₂.method ∈ e.methods)

/-- A request gets a response, whatever the state is and what is around, and nothing changes. -/
structure OnlyAnswers (token : Option String) (r : Http.Request) (response : Http.Response) :
    Prop where
  /-- No statement is made, no lock is waited for and no host is called. -/
  program : handle token r = .done response
  run : ∀ (σ : Type) (around : Surroundings σ) (st : Store × σ),
    ((handle token r).run around).run st = (response, st)

theorem onlyAnswers_of_not_shows (h : ¬ r.Shows t) {e : Endpoint} (he : endpoint? r = some e) :
    OnlyAnswers (some t) r (e.refusalOf r.method) where
  program := handle_of_not_shows h he
  run σ around st := by
    rw [handle_of_not_shows h he]
    rfl

theorem Endpoint.refusalOf_of_mem {e : Endpoint} {method : String} (h : method ∈ e.methods) :
    e.refusalOf method = e.refusal := by
  have hne : method ≠ "HEAD" := by
    rintro rfl
    cases e with
    | _ => simp [methods] at h
  rw [refusalOf, if_neg hne, if_pos h]

end Conductor

/-! ## The agent -/

namespace Agent

/-- The paths of an agent for which the token is asked. -/
def guardedPaths : List String :=
  [Rpc.Route.applyMapping.path, "/v1/notifications"]

/-- The requests are for one guarded path, by one method. -/
def SameRoute (r₁ r₂ : Http.Request) : Prop :=
  ∃ path ∈ guardedPaths, Http.Path.ofTarget r₁.target = path.toList ∧
    Http.Path.ofTarget r₂.target = path.toList ∧ r₁.method = r₂.method

/-- The response to a guarded path without the token. -/
def refusalOf (path method : String) : Http.Response :=
  if method = "POST" then
    if path = Rpc.Route.applyMapping.path then Rpc.refusal else errorResponse 401 "unauthorized"
  else .bare 405

/-- A request gets a response, whatever the state of the agent and of its host is, and nothing
changes. -/
def OnlyAnswers (token : Option String) (r : Http.Request) (response : Http.Response) : Prop :=
  ∀ (σ : Type) (pinner : Pinner σ) (st : Inbox Notice × σ),
    (handle pinner token r).run st = (response, st)

variable {t : String} {r : Http.Request} {σ : Type}

theorem answerApply_of_not_shows (h : ¬ r.Shows t) (pinner : Pinner σ) (st : σ) :
    (answerApply pinner (some t) r).run st = (Rpc.refusal, st) := by
  rw [answerApply, Rpc.accept_of_not_hasToken (Http.Request.not_hasToken_of_not_shows h)]
  rfl

theorem takeNotice_of_not_shows (h : ¬ r.Shows t) (inbox : Inbox Notice) :
    (takeNotice (some t) r).run inbox = (errorResponse 401 "unauthorized", inbox) := by
  simp only [StateT.run, takeNotice, Http.Request.not_hasToken_of_not_shows h]
  rfl

theorem handle_of_not_shows (h : ¬ r.Shows t) {path : String} (hpath : path ∈ guardedPaths)
    (ht : Http.Path.ofTarget r.target = path.toList) :
    OnlyAnswers (some t) r (refusalOf path r.method) := by
  rintro σ pinner ⟨inbox, st⟩
  obtain rfl | rfl : path = Rpc.Route.applyMapping.path ∨ path = "/v1/notifications" := by
    simpa [guardedPaths] using hpath
  · simp only [StateT.run, handle, ht, refusalOf, ↓reduceIte]
    split
    · exact congrArg (fun answer => (answer.1, inbox, answer.2))
        (answerApply_of_not_shows h pinner st)
    · rfl
  · have hne : "/v1/notifications" ≠ Rpc.Route.applyMapping.path := by decide
    have hne' : "/v1/notifications".toList ≠ Rpc.Route.applyMapping.path.toList := by decide
    simp only [StateT.run, handle, ht, refusalOf, hne, hne', ↓reduceIte]
    split
    · exact congrArg (fun answer => (answer.1, answer.2, st)) (takeNotice_of_not_shows h inbox)
    · rfl

end Agent

/-! ## Two requests -/

/-- Two requests to one route without the token get one response, from any two states, and change
none. -/
theorem refused_alike {t : String} {r₁ r₂ : Http.Request} (h₁ : ¬ r₁.Shows t)
    (h₂ : ¬ r₂.Shows t) :
    (Conductor.SameRoute r₁ r₂ → ∃ response, Conductor.OnlyAnswers (some t) r₁ response ∧
      Conductor.OnlyAnswers (some t) r₂ response) ∧
    (Agent.SameRoute r₁ r₂ → ∃ response, Agent.OnlyAnswers (some t) r₁ response ∧
      Agent.OnlyAnswers (some t) r₂ response) := by
  constructor
  · rintro ⟨e, he₁, he₂, hmethods⟩
    have hrefusal : e.refusalOf r₂.method = e.refusalOf r₁.method := by
      rcases hmethods with heq | ⟨hm₁, hm₂⟩
      · rw [heq]
      · rw [Conductor.Endpoint.refusalOf_of_mem hm₁, Conductor.Endpoint.refusalOf_of_mem hm₂]
    exact ⟨_, Conductor.onlyAnswers_of_not_shows h₁ he₁,
      hrefusal ▸ Conductor.onlyAnswers_of_not_shows h₂ he₂⟩
  · rintro ⟨path, hpath, ht₁, ht₂, hmethod⟩
    exact ⟨_, Agent.handle_of_not_shows h₁ hpath ht₁,
      hmethod ▸ Agent.handle_of_not_shows h₂ hpath ht₂⟩

/-- A guess of the token tells no more than none, to whatever instance and with whatever body. -/
theorem refused_alike_of_guess :
    let bare (method target : String) : Http.Request := ⟨method, target, [], ""⟩
    let guess (method target : String) : Http.Request :=
      ⟨method, target, [("content-type", "application/json"), (Rpc.tokenHeader, "guess")], "[1]"⟩
    (∃ response,
      Conductor.OnlyAnswers (some "secret")
        (bare "GET" "/v1/instance_cpu_mappings/vm-a") response ∧
      Conductor.OnlyAnswers (some "secret")
        (guess "DELETE" "/v1/instance_cpu_mappings/vm%2Db?force") response) ∧
    ∃ response,
      Agent.OnlyAnswers (some "secret") (bare "POST" Rpc.Route.applyMapping.path) response ∧
      Agent.OnlyAnswers (some "secret") (guess "POST" Rpc.Route.applyMapping.path) response := by
  intro bare guess
  have hbare : ∀ method target, ¬ (bare method target).Shows "secret" := fun _ _ => nofun
  have hlookup : [("content-type", "application/json"), (Rpc.tokenHeader, "guess")].lookup
      Rpc.tokenHeader ≠ some "secret" := by decide +kernel
  have hguess : ∀ method target, ¬ (guess method target).Shows "secret" := fun _ _ => hlookup
  exact ⟨(refused_alike (hbare _ _) (hguess _ _)).1 ⟨.mapping, by decide +kernel,
      by decide +kernel, .inr (by decide)⟩,
    (refused_alike (hbare _ _) (hguess _ _)).2 ⟨Rpc.Route.applyMapping.path, by decide,
      by decide +kernel, by decide +kernel, rfl⟩⟩

end VcpuPinning
