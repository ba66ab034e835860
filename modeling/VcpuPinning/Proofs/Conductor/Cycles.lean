import VcpuPinning.Proofs.Conductor.Runs
import VcpuPinning.Proofs.Store.Mappings

/-!
# Cycles

`Runs.cycle` : a cycle on a stored mapping ends it. What is learned before the end is an
`Attempt`, and the mapping is then written as it is `afterCycle`. The operations that apply a
mapping reach their cycle in different ways, and each of them answers with the mapping that the
cycle wrote (`Runs.reconcile_of_holds`, `Runs.reapply_of_holds`, `Runs.create_applied`).
-/

namespace VcpuPinning

namespace Mapping

/-- The mapping put on a host at a time. -/
def afterMove (m : Mapping) (host : String) (now : UInt64) : Mapping :=
  Store.stamped m (m.withHost host) now

/-- The mapping at the end of a cycle, which failed if there is a reason. -/
def afterCycle (m : Mapping) (failure : Option String) (now : UInt64) : Mapping :=
  Store.stamped m (m.settled failure.isNone failure) now

@[simp] theorem host_afterMove (m : Mapping) (host : String) (now : UInt64) :
    (m.afterMove host now).host = some host := rfl

@[simp] theorem host_afterCycle (m : Mapping) (failure : Option String) (now : UInt64) :
    (m.afterCycle failure now).host = m.host := rfl

@[simp] theorem status_afterCycle (m : Mapping) (failure : Option String) (now : UInt64) :
    (m.afterCycle failure now).status = .ofApplied failure.isNone := rfl

/-- The reason of a failure is kept. -/
@[simp] theorem statusReason_afterCycle (m : Mapping) (failure : Option String) (now : UInt64) :
    (m.afterCycle failure now).statusReason = failure := by
  cases failure <;> rfl

/-- A mapping may be put on another host in every state. -/
theorem canBecome_withHost (m : Mapping) (host : String) :
    m.status.canBecome (m.withHost host).status := by
  unfold withHost
  cases m.status <;> rfl

/-- A cycle may end a mapping in every state. -/
theorem canBecome_settled (m : Mapping) (failure : Option String) :
    m.status.canBecome (m.settled failure.isNone failure).status := by
  simp [settled]

end Mapping

namespace Conductor

variable {σ : Type}

/-! ## Attempts -/

/-- What a cycle learns before it writes its end. -/
structure Attempt (σ : Type) where
  /-- What is to be seen of it. -/
  events : List Event
  /-- Why it failed, if it did. -/
  failure : Option String
  /-- What is around the conductor after it. -/
  after : σ

/-- The attempt of a host to apply a mapping. -/
def attempt (around : Surroundings σ) (caller : Caller) (mapping : Mapping) (host : String)
    (s : Store) (c : σ) : Attempt σ :=
  let now := around.clock.run c
  match callee host (s.getHost host).1 with
  | .error reason => ⟨[.stated (.findHost host)], some reason, now.2⟩
  | .ok h =>
    let answer := (around.executor caller h mapping).run now.2
    ⟨[.stated (.findHost host), .called caller h mapping], failureOf answer.1, answer.2⟩

/-- The host that a request to apply a mapping at once leads to, by the reported instance. -/
def hostFor (r : Rpc.CreateMapping) :
    Except StoreError (Option Instance) → Except ConductorError String
  | .error e => .error (.store e)
  | .ok found =>
    match found.bind Location.ofInstance with
    | some location =>
      if location.status = .running then .ok location.host
      else .error (.instanceNotActive r.instanceUuid location.status.word)
    | none =>
      match r.host with
      | some host => .ok host
      | none => .error (.instanceNotFound r.instanceUuid)

/-- The mapping that a request creates in a store, pending and with the next number. -/
def created (caller : Caller) (r : Rpc.CreateMapping) (host : Option String) (s : Store)
    (now : UInt64) : Mapping :=
  (draftOf caller r host).toMapping s.nextMappingNumber now

namespace Runs

variable {around : Surroundings σ} {s : Store}

/-- A statement that answers. -/
theorem onStore_ok {q : Statement} {c : σ} {a : q.Value} {s' : Store}
    (h : q.perform (around.clock.run c).1 s = (.ok a, s')) :
    Runs around (Program.onStore q).run (s, c) [.stated q] (.ok a)
      (s', (around.clock.run c).2) := by
  have hr : Runs around _ (s, c) _ _ _ := Runs.onStore q
  rw [h] at hr
  exact hr

/-- A statement that fails. -/
theorem onStore_error {q : Statement} {c : σ} {e : StoreError} {s' : Store}
    (h : q.perform (around.clock.run c).1 s = (.error e, s')) :
    Runs around (Program.onStore q).run (s, c) [.stated q] (.error (.store e))
      (s', (around.clock.run c).2) := by
  have hr : Runs around _ (s, c) _ _ _ := Runs.onStore q
  rw [h] at hr
  exact hr

/-! ## Parts of operations -/

theorem findMapping_of_some {uuid : String} {m : Mapping} (hm : s.mapping? uuid = some m) (c : σ) :
    Runs around (Program.onStore (.findMapping uuid)).run (s, c) [.stated (.findMapping uuid)]
      (.ok (some m)) (s, (around.clock.run c).2) :=
  onStore_ok (Store.getMapping_of_some hm)

theorem move {m : Mapping} (hm : s.Holds m) (host : String) (c : σ) :
    Runs around (Program.onStore (.move m.instanceUuid host)).run (s, c)
      [.stated (.move m.instanceUuid host)] (.ok (m.afterMove host (around.clock.run c).1))
      (s.withMapping (m.afterMove host (around.clock.run c).1), (around.clock.run c).2) :=
  onStore_ok (Store.updateMapping_of_holds hm (Mapping.canBecome_withHost m host) _)

theorem settle {m : Mapping} (hm : s.Holds m) (failure : Option String) (c : σ) :
    Runs around (Conductor.settle m.instanceUuid failure).run (s, c)
      [.stated (.settle m.instanceUuid failure)]
      (.ok (m.afterCycle failure (around.clock.run c).1))
      (s.withMapping (m.afterCycle failure (around.clock.run c).1), (around.clock.run c).2) :=
  onStore_ok (Store.updateMapping_of_holds hm (Mapping.canBecome_settled m failure) _)

theorem activeHost (r : Rpc.CreateMapping) (c : σ) :
    Runs around (activeHost r).run (s, c) [.stated (.findInstance r.instanceUuid)]
      (hostFor r (s.getInstance r.instanceUuid).1) (s, (around.clock.run c).2) := by
  have hq : Statement.perform (around.clock.run c).1 s (.findInstance r.instanceUuid) =
      ((s.getInstance r.instanceUuid).1, s) := Prod.ext rfl (Store.getInstance_snd s _)
  cases hf : (s.getInstance r.instanceUuid).1 with
  | error e =>
    rw [hf] at hq
    exact bind_error (bind_error (onStore_error hq))
  | ok found =>
    rw [hf] at hq
    have hl : Runs around (locate r.instanceUuid).run (s, c) [.stated (.findInstance _)]
        (.ok (found.bind Location.ofInstance)) (s, (around.clock.run c).2) :=
      bind_ok (k := []) (onStore_ok hq) (pure _)
    refine bind_ok (k := []) hl ?_
    rw [hostFor]
    rcases found.bind Location.ofInstance with _ | ⟨host, status⟩
    · cases r.host with
      | none => exact throw _
      | some host => exact pure _
    · by_cases hr : status = .running
      · simp only [hr, ↓reduceIte]
        exact pure _
      · simp only [hr, ↓reduceIte]
        exact throw _

/-- A cycle on a stored mapping ends it. -/
theorem cycle {m : Mapping} (hm : s.Holds m) (caller : Caller) (host : String) (c : σ)
    {a : Attempt σ} (ha : attempt around caller m host s c = a) :
    Runs around (cycle caller m host).run (s, c)
      (a.events ++ [.stated (.settle m.instanceUuid a.failure)])
      (.ok (m.afterCycle a.failure (around.clock.run a.after).1))
      (s.withMapping (m.afterCycle a.failure (around.clock.run a.after).1),
        (around.clock.run a.after).2) := by
  have hf : Runs around
      (ExceptT.lift (.access (.findHost host) .done) : ExceptT ConductorError Program _).run
      (s, c) [.stated (.findHost host)] (.ok (s.getHost host).1)
      (s, (around.clock.run c).2) := by
    have hr : Runs around _ (s, c) _ _ _ := lift_access (.findHost host)
    simpa [Statement.perform] using hr
  subst ha
  unfold attempt Conductor.cycle
  cases hc : callee host (s.getHost host).1 with
  | error reason =>
    refine bind_ok hf ?_
    simp only [hc]
    exact settle hm _ _
  | ok h =>
    refine bind_ok (l := [_]) hf ?_
    simp only [hc]
    exact bind_ok (lift_call caller h m) (settle hm _ _)

/-! ## Operations -/

theorem reconcile_of_none {uuid : String} (h : s.getMapping uuid = (.ok none, s)) (caller : Caller)
    (host : String) (c : σ) :
    Runs around (reconcileInstance caller uuid host).run (s, c) [.stated (.findMapping uuid)]
      (.ok none) (s, (around.clock.run c).2) :=
  locked uuid (bind_ok (k := []) (onStore_ok (q := .findMapping uuid) h) (pure none))

theorem reconcile_of_unreadable {uuid : String} {e : StoreError}
    (h : s.getMapping uuid = (.error e, s)) (caller : Caller) (host : String) (c : σ) :
    Runs around (reconcileInstance caller uuid host).run (s, c) [.stated (.findMapping uuid)]
      (.error (.store e)) (s, (around.clock.run c).2) :=
  locked uuid (bind_error (onStore_error (q := .findMapping uuid) h))

/-- A mapping that is there is put on the host and applied. -/
theorem reconcile_of_holds {m moved : Mapping} (hm : s.Holds m) (caller : Caller) (host : String)
    {c c₁ : σ} (hc : (around.clock.run c).2 = c₁)
    (hmoved : m.afterMove host (around.clock.run c₁).1 = moved) {a : Attempt σ}
    (ha : attempt around caller moved host (s.withMapping moved) (around.clock.run c₁).2 = a) :
    Runs around (reconcileInstance caller m.instanceUuid host).run (s, c)
      (.stated (.findMapping m.instanceUuid) :: .stated (.move m.instanceUuid host) ::
        (a.events ++ [.stated (.settle m.instanceUuid a.failure)]))
      (.ok (some (moved.afterCycle a.failure (around.clock.run a.after).1)))
      ((s.withMapping moved).withMapping
        (moved.afterCycle a.failure (around.clock.run a.after).1),
        (around.clock.run a.after).2) := by
  subst hc hmoved
  refine locked _ (bind_ok (l := [_]) (findMapping_of_some hm c) ?_)
  have hcycle := cycle (s.holds_withMapping _) caller host _ ha
  exact bind_ok (l := [_]) (move hm host _) (hcycle.map some)

theorem reconcile_of_some (hs : s.MappingsKept) {uuid : String} {m moved : Mapping}
    (hm : s.mapping? uuid = some m) (caller : Caller) (host : String) {c c₁ : σ}
    (hc : (around.clock.run c).2 = c₁) (hmoved : m.afterMove host (around.clock.run c₁).1 = moved)
    {a : Attempt σ}
    (ha : attempt around caller moved host (s.withMapping moved) (around.clock.run c₁).2 = a) :
    Runs around (reconcileInstance caller uuid host).run (s, c)
      (.stated (.findMapping uuid) :: .stated (.move uuid host) ::
        (a.events ++ [.stated (.settle uuid a.failure)]))
      (.ok (some (moved.afterCycle a.failure (around.clock.run a.after).1)))
      ((s.withMapping moved).withMapping
        (moved.afterCycle a.failure (around.clock.run a.after).1),
        (around.clock.run a.after).2) := by
  obtain rfl : m.instanceUuid = uuid := hs.instanceUuid_of_mapping? hm
  exact reconcile_of_holds hm caller host hc hmoved ha

theorem reapply_of_none {uuid : String} (h : s.getMapping uuid = (.ok none, s)) (caller : Caller)
    (c : σ) :
    Runs around (reapplyMapping caller uuid).run (s, c) [.stated (.findMapping uuid)]
      (.error (.mappingNotFound uuid)) (s, (around.clock.run c).2) :=
  locked uuid (bind_ok (k := []) (onStore_ok (q := .findMapping uuid) h) (throw _))

theorem reapply_of_unreadable {uuid : String} {e : StoreError}
    (h : s.getMapping uuid = (.error e, s)) (caller : Caller) (c : σ) :
    Runs around (reapplyMapping caller uuid).run (s, c) [.stated (.findMapping uuid)]
      (.error (.store e)) (s, (around.clock.run c).2) :=
  locked uuid (bind_error (onStore_error (q := .findMapping uuid) h))

theorem reapply_of_no_host {uuid : String} {m : Mapping} (hm : s.mapping? uuid = some m)
    (hh : m.host = none) (caller : Caller) (c : σ) :
    Runs around (reapplyMapping caller uuid).run (s, c) [.stated (.findMapping uuid)]
      (.error (.hostNotFound ("mapping for " ++ uuid ++ " has no host yet")))
      (s, (around.clock.run c).2) := by
  refine locked uuid (bind_ok (k := []) (findMapping_of_some hm c) ?_)
  simp only [hh]
  exact throw _

/-- A mapping with a host is applied on it. -/
theorem reapply_of_holds {host : String} {m : Mapping} (hm : s.Holds m) (hh : m.host = some host)
    (caller : Caller) (c : σ) {a : Attempt σ}
    (ha : attempt around caller m host s (around.clock.run c).2 = a) :
    Runs around (reapplyMapping caller m.instanceUuid).run (s, c)
      (.stated (.findMapping m.instanceUuid) ::
        (a.events ++ [.stated (.settle m.instanceUuid a.failure)]))
      (.ok (m.afterCycle a.failure (around.clock.run a.after).1))
      (s.withMapping (m.afterCycle a.failure (around.clock.run a.after).1),
        (around.clock.run a.after).2) := by
  refine locked _ (bind_ok (l := [_]) (findMapping_of_some hm c) ?_)
  simp only [hh]
  exact cycle hm caller host _ ha

theorem reapply_of_host (hs : s.MappingsKept) {uuid host : String} {m : Mapping}
    (hm : s.mapping? uuid = some m) (hh : m.host = some host) (caller : Caller) (c : σ)
    {a : Attempt σ} (ha : attempt around caller m host s (around.clock.run c).2 = a) :
    Runs around (reapplyMapping caller uuid).run (s, c)
      (.stated (.findMapping uuid) :: (a.events ++ [.stated (.settle uuid a.failure)]))
      (.ok (m.afterCycle a.failure (around.clock.run a.after).1))
      (s.withMapping (m.afterCycle a.failure (around.clock.run a.after).1),
        (around.clock.run a.after).2) := by
  obtain rfl : m.instanceUuid = uuid := hs.instanceUuid_of_mapping? hm
  exact reapply_of_holds hm hh caller c ha

theorem create_of_invalid {caller : Caller} {r : Rpc.CreateMapping} {e : SpecError}
    (hv : CpuSpec.validate r.spec = .error e) (c : σ) :
    Runs around (createMapping caller r).run (s, c) []
      (.error (.invalidCpuSpecification e)) (s, c) := by
  unfold createMapping
  simp only [hv]
  exact bind_error (throw _)

/-- The draft is refused if the instance has a mapping. -/
theorem create_statement_of_some (hs : s.MappingsKept) {caller : Caller} {r : Rpc.CreateMapping}
    {m : Mapping} (hm : s.mapping? r.instanceUuid = some m) (host : Option String) (c : σ) :
    Runs around (ExceptT.adapt (createError r.instanceUuid)
        (Program.onStore (.create (draftOf caller r host)))).run (s, c)
      [.stated (.create (draftOf caller r host))]
      (.error (.mappingAlreadyExists r.instanceUuid)) (s, (around.clock.run c).2) := by
  have hq : Statement.perform (around.clock.run c).1 s (.create (draftOf caller r host)) =
      (.error (.alreadyExists (Store.mappingOf r.instanceUuid)), s) :=
    Store.createMapping_of_some hs hm _
  exact adapt (createError r.instanceUuid) (onStore_error hq)

theorem create_statement_of_none (hs : s.MappingsKept) {caller : Caller} {r : Rpc.CreateMapping}
    (hm : s.mapping? r.instanceUuid = none) (host : Option String) (c : σ) :
    Runs around (ExceptT.adapt (createError r.instanceUuid)
        (Program.onStore (.create (draftOf caller r host)))).run (s, c)
      [.stated (.create (draftOf caller r host))]
      (.ok (created caller r host s (around.clock.run c).1))
      ((s.withNumber s.nextMappingNumber).withMapping
        (created caller r host s (around.clock.run c).1), (around.clock.run c).2) := by
  have hq : Statement.perform (around.clock.run c).1 s (.create (draftOf caller r host)) =
      (.ok (created caller r host s (around.clock.run c).1),
        (s.withNumber s.nextMappingNumber).withMapping
          (created caller r host s (around.clock.run c).1)) :=
    Store.createMapping_of_none hs hm _
  exact adapt (createError r.instanceUuid) (onStore_ok hq)

/-- A request that is to wait only writes its mapping. -/
theorem create_of_waiting {caller : Caller} {r : Rpc.CreateMapping}
    (hv : CpuSpec.validate r.spec = .ok ()) (hw : r.waitUntilActive = true) {c : σ}
    {l : List Event} {result : Except ConductorError Mapping} {st' : Store × σ}
    (h : Runs around (ExceptT.adapt (createError r.instanceUuid)
      (Program.onStore (.create (draftOf caller r r.host)))).run (s, c) l result st') :
    Runs around (createMapping caller r).run (s, c) l result st' := by
  unfold createMapping
  simp only [hv, hw, ↓reduceIte]
  refine bind_ok (l := []) (pure _) (locked _ ?_)
  cases result with
  | error e => exact bind_error h
  | ok mapping => simpa only [List.append_nil] using bind_ok h (pure _)

theorem create_of_no_host {caller : Caller} {r : Rpc.CreateMapping} {e : ConductorError}
    (hv : CpuSpec.validate r.spec = .ok ()) (hw : r.waitUntilActive = false)
    (hh : hostFor r (s.getInstance r.instanceUuid).1 = .error e) (c : σ) :
    Runs around (createMapping caller r).run (s, c) [.stated (.findInstance r.instanceUuid)]
      (.error e) (s, (around.clock.run c).2) := by
  unfold createMapping
  simp only [hv, hw, Bool.false_eq_true, ↓reduceIte]
  have hr : Runs around _ (s, c) _ _ _ := (activeHost r c).map some
  rw [hh] at hr
  exact bind_error hr

/-- A request for an instance that runs writes its mapping and applies it. -/
theorem create_of_active {caller : Caller} {r : Rpc.CreateMapping} {host : String}
    (hv : CpuSpec.validate r.spec = .ok ()) (hw : r.waitUntilActive = false)
    (hh : hostFor r (s.getInstance r.instanceUuid).1 = .ok host) {c : σ} {l : List Event}
    {result : Except ConductorError Mapping} {st' : Store × σ}
    (h : Runs around (ExceptT.adapt (createError r.instanceUuid)
        (Program.onStore (.create (draftOf caller r (some host)))) >>= fun mapping =>
          Conductor.cycle caller mapping host).run (s, (around.clock.run c).2) l result st') :
    Runs around (createMapping caller r).run (s, c)
      (.stated (.findInstance r.instanceUuid) :: l) result st' := by
  unfold createMapping
  simp only [hv, hw, Bool.false_eq_true, ↓reduceIte]
  have hr : Runs around _ (s, c) _ _ _ := (activeHost r c).map some
  rw [hh] at hr
  exact bind_ok (l := [_]) hr (locked _ h)

/-- A new mapping of an instance that runs is applied at once. -/
theorem create_applied (hs : s.MappingsKept) {caller : Caller} {r : Rpc.CreateMapping}
    {host : String} {new : Mapping} (hv : CpuSpec.validate r.spec = .ok ())
    (hw : r.waitUntilActive = false)
    (hh : hostFor r (s.getInstance r.instanceUuid).1 = .ok host)
    (hm : s.mapping? r.instanceUuid = none) {c c₁ : σ} (hc : (around.clock.run c).2 = c₁)
    (hnew : created caller r (some host) s (around.clock.run c₁).1 = new) {a : Attempt σ}
    (ha : attempt around caller new host
      ((s.withNumber s.nextMappingNumber).withMapping new) (around.clock.run c₁).2 = a) :
    Runs around (createMapping caller r).run (s, c)
      (.stated (.findInstance r.instanceUuid) :: .stated (.create (draftOf caller r (some host))) ::
        (a.events ++ [.stated (.settle r.instanceUuid a.failure)]))
      (.ok (new.afterCycle a.failure (around.clock.run a.after).1))
      (((s.withNumber s.nextMappingNumber).withMapping new).withMapping
        (new.afterCycle a.failure (around.clock.run a.after).1),
        (around.clock.run a.after).2) := by
  subst hc hnew
  have hcycle := cycle (Store.holds_withMapping _ _) caller host _ ha
  exact create_of_active hv hw hh
    (bind_ok (l := [_]) (create_statement_of_none hs hm (some host) _) hcycle)

end Runs

end Conductor

end VcpuPinning
