import VcpuPinning.Proofs.Rpc.Transparency

/-!
# Shared tokens

A client sends its token as a header value, and a server reads the value as text. The two rules
differ: every text without control characters is sent, but only visible ASCII is read as text, and
the blanks around a value are lost on the way. So a token that both sides share opens the server
exactly if it is visible ASCII without a blank at its ends (`shared_token_opens_iff`), and another
one may be sent and refused (`shared_token_refused_of_accent`).
-/

namespace VcpuPinning

variable {σ : Type}

namespace Http

/-- Only a text without a blank at its ends arrives as it is. -/
theorem arrivedValue_eq_iff {t : String} : arrivedValue t = t ↔
    (∀ c ∈ t.toList.head?, isEdgeBlank c = false) ∧
      ∀ c ∈ t.toList.getLast?, isEdgeBlank c = false := by
  refine ⟨fun h => ?_, fun h => arrivedValue_eq h.1 h.2⟩
  have hlist : (t.toList.dropWhile isEdgeBlank).rdropWhile isEdgeBlank = t.toList := by
    simpa [arrivedValue] using congrArg String.toList h
  -- what is cut at either end would be missing in the length
  have hcut := List.rdropWhile_prefix isEdgeBlank (t.toList.dropWhile isEdgeBlank)
  have hend := hcut.length_le
  have hdrop : t.toList.dropWhile isEdgeBlank = t.toList := by
    refine (List.dropWhile_suffix isEdgeBlank).eq_of_length_le ?_
    rwa [hlist] at hend
  rw [hdrop] at hlist
  constructor
  · intro c hc
    have hhead := List.head?_dropWhile_not isEdgeBlank t.toList
    rw [hdrop, Option.mem_def.1 hc] at hhead
    exact hhead
  · intro c hc
    have hne : t.toList ≠ [] := by
      rintro h
      simp [h] at hc
    have hlast := List.rdropWhile_eq_self_iff.1 hlist hne
    rw [List.getLast?_eq_some_getLast hne] at hc
    rw [← Option.some.inj hc]
    exact Bool.eq_false_iff.2 hlast

/-- A text is a token exactly if it arrives as it is and counts as text then. -/
theorem isToken_iff {t : String} : IsToken t ↔ arrivedValue t = t ∧ isVisible t := by
  rw [arrivedValue_eq_iff]
  exact ⟨fun h => ⟨⟨h.head, h.last⟩, h.visible⟩, fun h => ⟨h.2, h.1.1, h.1.2⟩⟩

end Http

namespace Rpc

variable {net : Network σ} {a : Address} {c : Client} {t : String}

/-! ## The two sides -/

/-- Once the token is shown, a call is accepted as by a server without one. -/
theorem accept_of_hasToken {α : Type} {token : Option String} {payload : Json → Option α}
    {r : Http.Request} (h : r.hasToken tokenHeader token) :
    accept token payload r = accept none payload r := by
  simp [accept, h]

namespace Client

/-- A request that cannot be written is an error of the call, which sends nothing. -/
theorem call_of_request_error {route : Route} {caller : Caller} {payload : route.Payload}
    {e : CallError} (ha : Address.read c.address = .ok a)
    (hr : c.request route (route.document caller payload) = .error e) :
    c.call net route caller route.payloadToJson route.answerOfJson? payload =
      (fun d => (c.arrival route d).bind fun _ => .error e) <$> net.dial a := by
  rw [Route.document] at hr
  unfold call
  simp only [ha, Except.mapError, ExceptT.run_bind, ExceptT.run_mk, pure_bind, hr, bind_assoc,
    map_eq_pure_bind]
  refine congrArg (net.dial a >>= ·) (funext fun d => ?_)
  cases c.arrival route d <;> rfl

/-- The server sees the token of the client exactly if it is one that arrives as it is. -/
theorem hasToken_arrivedRequest_iff (ht : c.token = some t) (target body : String) :
    (c.arrivedRequest target body).hasToken tokenHeader (some t) ↔ Http.IsToken t := by
  rw [Http.Request.hasToken, header?_token, ht, beq_iff_eq, presented, Option.map_some,
    Option.filter_eq_some_iff, Option.some_inj, Http.isToken_iff]

end Client

/-! ## Shared tokens -/

/-- The token of a client is also the one of the server. If the address of the client cannot be
written into a request, or the token is no header value, then the call is a codec error once the
server is dialled, and nothing is sent. Otherwise the call is sent, and the server sees its token
exactly if that is visible ASCII without a blank at its ends: with such a token the call is accepted
as by a server without one, and with another token it is refused. -/
theorem shared_token_opens_iff (net : Network σ) (ht : c.token = some t)
    (ha : Address.read c.address = .ok a) (route : Route) (caller : Caller)
    (payload : route.Payload) :
    (∀ e, c.target route = .error e → (∃ detail, e = .codec route detail) ∧
      c.call net route caller route.payloadToJson route.answerOfJson? payload =
        (fun d => (c.arrival route d).bind fun _ => .error e) <$> net.dial a) ∧
    ∀ target, c.target route = .ok target →
      (Http.isHeaderValue t = false →
        c.call net route caller route.payloadToJson route.answerOfJson? payload =
          (fun d => (c.arrival route d).bind fun _ =>
            .error (.codec route "failed to parse header value")) <$> net.dial a) ∧
      (Http.isHeaderValue t = true →
        ∃ r, c.request route (route.document caller payload) = .ok r ∧
          (r.arrived.hasToken tokenHeader (some t) ↔ Http.IsToken t) ∧
          (Http.IsToken t → accept (some t) route.payloadOfJson? r.arrived =
            accept none route.payloadOfJson? r.arrived) ∧
          (¬ Http.IsToken t →
            accept (some t) route.payloadOfJson? r.arrived = .error .unauthorized)) := by
  refine ⟨fun e hu => ⟨Client.codec_of_target_error hu, ?_⟩,
    fun target hu => ⟨fun hv => ?_, fun hv => ?_⟩⟩
  · have hr : c.request route (route.document caller payload) = .error e := by
      rw [Client.request, hu]
    exact Client.call_of_request_error ha hr
  · have hr : c.request route (route.document caller payload) =
        .error (Client.headerError route) := by simp [Client.request, hu, ht, hv]
    exact Client.call_of_request_error ha hr
  · have hs : ∀ v ∈ c.token, Http.isHeaderValue v := by
      rw [ht]
      rintro _ ⟨⟩
      exact hv
    obtain ⟨r, hr⟩ := Client.exists_request hu hs (route.document caller payload)
    obtain ⟨target, -, harrived⟩ := Client.arrived_of_request hr
    have htoken : r.arrived.hasToken tokenHeader (some t) ↔ Http.IsToken t := by
      rw [harrived]
      exact Client.hasToken_arrivedRequest_iff ht target _
    refine ⟨r, hr, htoken, fun h => accept_of_hasToken (htoken.2 h), fun h => ?_⟩
    exact accept_of_not_hasToken (Bool.eq_false_iff.2 (mt htoken.1 h))

/-- A token with a blank inside opens the server, and one with a blank in front does not. -/
theorem shared_token_opens_of_blanks :
    let client (token : String) : Client := ⟨"node-1:9000", .ofSeconds 30, some token⟩
    let body := Route.reapplyMapping.document ⟨"r", none, none, true⟩ ⟨"vm-a"⟩
    (∃ r, (client "a key").request .reapplyMapping body = .ok r ∧
      r.arrived.hasToken tokenHeader (some "a key")) ∧
    ∃ r, (client " key").request .reapplyMapping body = .ok r ∧
      accept (some " key") ReapplyMapping.ofJson? r.arrived = .error .unauthorized := by
  intro client body
  obtain ⟨a, ha⟩ : ∃ a, Address.read "node-1:9000" = .ok a := ⟨_, rfl⟩
  have hinner : Http.IsToken "a key" := Http.isToken_iff.2 ⟨by decide +kernel, by decide +kernel⟩
  have hfront : ¬ Http.IsToken " key" :=
    fun h => absurd (Http.isToken_iff.1 h).1 (by decide +kernel)
  have sent (t : String) (hv : Http.isHeaderValue t = true) :=
    ((shared_token_opens_iff (c := client t) (.unreachable : Network Unit) rfl ha
      .reapplyMapping ⟨"r", none, none, true⟩ ⟨"vm-a"⟩).2 _ (target_of_node (some t) _)).2 hv
  constructor
  · obtain ⟨r, hr, htoken, -, -⟩ := sent "a key" (by decide +kernel)
    exact ⟨r, hr, htoken.2 hinner⟩
  · obtain ⟨r, hr, -, -, hrefused⟩ := sent " key" (by decide +kernel)
    exact ⟨r, hr, hrefused hfront⟩

/-- A shared token with an accent is sent, and then refused. -/
theorem shared_token_refused_of_accent :
    let c : Client := ⟨"node-1:9000", .ofSeconds 30, some "clé"⟩
    let body := Route.reconcileHost.document ⟨"r1", none, none, true⟩
      ⟨"node-1", .empty, 2, none, 1⟩
    ¬ (c.request .reconcileHost body =
          .error (.codec .reconcileHost "failed to parse header value") ∨
        ∃ r, c.request .reconcileHost body = .ok r ∧
          r.arrived.hasToken tokenHeader (some "clé")) ∧
      ∃ r, c.request .reconcileHost body = .ok r ∧
        accept (some "clé") ReconcileHost.ofJson? r.arrived = .error .unauthorized := by
  intro c body
  have hs : ∀ v ∈ c.token, Http.isHeaderValue v := by
    rintro _ ⟨⟩
    decide +kernel
  obtain ⟨r, hr⟩ := Client.exists_request (target_of_node (some "clé") .reconcileHost) hs body
  obtain ⟨target, -, harrived⟩ := Client.arrived_of_request hr
  have htoken : r.arrived.hasToken tokenHeader (some "clé") = false := by
    rw [harrived]
    exact Client.not_hasToken (by decide +kernel) _
  refine ⟨?_, r, hr, accept_of_not_hasToken htoken⟩
  rintro (he | ⟨r', hr', hshown⟩)
  · exact nomatch hr.symm.trans he
  · obtain rfl := Except.ok.inj (hr.symm.trans hr')
    exact Bool.false_ne_true (htoken.symm.trans hshown)

end Rpc

end VcpuPinning
