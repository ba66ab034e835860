import VcpuPinning.Proofs.Conductor.Cycles

/-!
# Operations

An `Operation` is a request to the service that may write its store, and `Effect` is everything
that one can make of the mappings (`effect_perform`). What holds of the empty store and is kept by
every effect holds of each store that is `Reached`, whatever hosts and clocks do.
-/

namespace VcpuPinning

namespace Mapping

/-- Two versions of one record : they agree in what never changes. -/
structure Version (m m' : Mapping) : Prop where
  id : m'.id = m.id
  instanceUuid : m'.instanceUuid = m.instanceUuid
  projectId : m'.projectId = m.projectId
  userId : m'.userId = m.userId
  spec : m'.spec = m.spec
  createdAt : m'.createdAt = m.createdAt

theorem Version.refl (m : Mapping) : m.Version m :=
  ⟨rfl, rfl, rfl, rfl, rfl, rfl⟩

theorem Version.trans {m m' m'' : Mapping} (h : m.Version m') (h' : m'.Version m'') :
    m.Version m'' where
  id := h'.id.trans h.id
  instanceUuid := h'.instanceUuid.trans h.instanceUuid
  projectId := h'.projectId.trans h.projectId
  userId := h'.userId.trans h.userId
  spec := h'.spec.trans h.spec
  createdAt := h'.createdAt.trans h.createdAt

theorem version_afterMove (m : Mapping) (host : String) (now : UInt64) :
    m.Version (m.afterMove host now) :=
  ⟨rfl, rfl, rfl, rfl, rfl, rfl⟩

theorem version_afterCycle (m : Mapping) (failure : Option String) (now : UInt64) :
    m.Version (m.afterCycle failure now) :=
  ⟨rfl, rfl, rfl, rfl, rfl, rfl⟩

/-- A mapping that a cycle ended : it has failed exactly if there is a reason. -/
def Ended (m : Mapping) : Prop :=
  m.status = .ofApplied m.statusReason.isNone

theorem ended_afterCycle (m : Mapping) (failure : Option String) (now : UInt64) :
    (m.afterCycle failure now).Ended := by
  simp [Ended]

theorem Ended.succeed_iff {m : Mapping} (h : m.Ended) :
    m.status = .succeed ↔ m.statusReason = none := by
  rw [h]
  cases m.statusReason <;> simp [Status.ofApplied]

theorem Ended.failed_iff {m : Mapping} (h : m.Ended) :
    m.status = .failed ↔ ∃ text, m.statusReason = some text := by
  rw [h]
  cases m.statusReason <;> simp [Status.ofApplied]

theorem Ended.isTerminal {m : Mapping} (h : m.Ended) : m.status.isTerminal := by
  rw [h]
  simp

end Mapping

namespace Conductor

variable {σ : Type}

/-! ## Operations and their answers -/

/-- A request to the service that may write its store. -/
inductive Operation where
  | create (caller : Caller) (r : Rpc.CreateMapping)
  | reconcile (caller : Caller) (uuid host : String)
  | reapply (caller : Caller) (uuid : String)
  | delete (uuid : String)
  | reportHost (host : Host)
  | reportInstances (hostName : String) (instances : List Instance)

/-- What an operation that succeeds answers with. -/
inductive Answer where
  /-- The mapping in question, if there is one. -/
  | mapping (m : Option Mapping)
  | deleted
  | host (outcome : Upsert)
  | instances (summary : Rpc.Summary)
  deriving DecidableEq

namespace Operation

/-- The program of an operation. -/
def program : Operation → ExceptT ConductorError Program Answer
  | create caller r => (fun m => .mapping (some m)) <$> createMapping caller r
  | reconcile caller uuid host => .mapping <$> reconcileInstance caller uuid host
  | reapply caller uuid => (fun m => .mapping (some m)) <$> reapplyMapping caller uuid
  | delete uuid => (fun _ => .deleted) <$> deleteMapping uuid
  | reportHost host => .host <$> reconcileHost host
  | reportInstances hostName instances =>
    .instances <$> ExceptT.lift (reconcileInstances hostName instances)

/-- The instance whose mapping an operation is to apply, if it is to apply one. -/
def target? : Operation → Option String
  | create _ r => if r.waitUntilActive then none else some r.instanceUuid
  | reconcile _ uuid _ => some uuid
  | reapply _ uuid => some uuid
  | _ => none

/-- The host that an operation puts the mapping of an instance on, if it does. -/
def movedTo? (uuid : String) : Operation → Option String
  | reconcile _ u host => if u = uuid then some host else none
  | _ => none

/-- The answers of an operation that succeeds and leaves the mappings alone. -/
def Spares : Operation → Answer → Prop
  | reconcile _ _ _, .mapping none => True
  | reportHost _, .host _ => True
  | reportInstances _ _, .instances _ => True
  | _, _ => False

/-- Carry out an operation by itself. -/
def perform (around : Surroundings σ) (op : Operation) (st : Store × σ) :
    Except ConductorError Answer × (Store × σ) :=
  (op.program.run.run around).run st

/-- Carry out operations one after the other. -/
def after (around : Surroundings σ) (ops : List Operation) (st : Store × σ) : Store × σ :=
  ops.foldl (fun st op => (op.perform around st).2) st

end Operation

/-- The service can reach the store from the empty one. -/
def Reached (s : Store) : Prop :=
  ∃ (σ : Type) (around : Surroundings σ) (ops : List Operation) (c : σ),
    s = (Operation.after around ops (.empty, c)).1

/-! ## Effects -/

/-- The event belongs to a cycle on the mapping of an instance. -/
def Event.ofCycle (uuid : String) : Event → Prop
  | .stated (.settle u _) => u = uuid
  | .called _ _ mapping => mapping.instanceUuid = uuid
  | _ => False

/-- The events of one cycle, on the mapping of an instance. -/
structure Cycled (uuid : String) (events : List Event) : Prop where
  some : ∃ e ∈ events, e.ofCycle uuid
  only : ∀ other, ∀ e ∈ events, e.ofCycle other → other = uuid

/-- The events belong to no cycle. -/
def Calm (events : List Event) : Prop :=
  ∀ uuid, ∀ e ∈ events, ¬ e.ofCycle uuid

/-- Everything that an operation can make of the mappings of a store, with its events and its
answer. -/
inductive Effect (s s' : Store) (events : List Event) :
    Operation → Except ConductorError Answer → Prop
  /-- The mappings stay as they are. -/
  | idle {op : Operation} {answer : Except ConductorError Answer}
      (same : s'.mapping? = s.mapping?) (calm : Calm events)
      (spared : ∀ a, answer = .ok a → op.Spares a)
      (absent : ∀ caller uuid host, op = .reconcile caller uuid host → s.mapping? uuid = none) :
      Effect s s' events op answer
  /-- A mapping is written, and applied unless it is to wait. -/
  | creates {caller : Caller} {r : Rpc.CreateMapping} {now : UInt64} {m : Mapping}
      (fresh : s.mapping? r.instanceUuid = none)
      (wrote : .stated (.create (draftOf caller r m.host)) ∈ events)
      (new : (created caller r m.host s now).Version m)
      (state : if r.waitUntilActive then m.status = .pending ∧ m.statusReason = none ∧ Calm events
        else m.Ended ∧ Cycled r.instanceUuid events)
      (stored : s'.mapping? = Function.update s.mapping? r.instanceUuid (some m)) :
      Effect s s' events (.create caller r) (.ok (.mapping (some m)))
  /-- A stored mapping is applied. -/
  | applies {op : Operation} {uuid : String} {m m' : Mapping} (target : op.target? = some uuid)
      (found : s.mapping? uuid = some m) (version : m.Version m')
      (host : m'.host = (op.movedTo? uuid).or m.host) (ended : m'.Ended)
      (cycled : Cycled uuid events)
      (stored : s'.mapping? = Function.update s.mapping? uuid (some m')) :
      Effect s s' events op (.ok (.mapping (some m')))
  /-- A stored mapping is removed. -/
  | deletes {uuid : String} (calm : Calm events)
      (stored : s'.mapping? = Function.update s.mapping? uuid none) :
      Effect s s' events (.delete uuid) (.ok .deleted)

/-! ## Events -/

section Events

variable {around : Surroundings σ} {caller : Caller} {host : String} {s : Store} {c : σ}
  {a : Attempt σ}

theorem Calm.nil : Calm [] := by
  simp [Calm]

theorem Calm.cons {e : Event} {events : List Event} (he : ∀ uuid, ¬ e.ofCycle uuid)
    (h : Calm events) : Calm (e :: events) := by
  intro uuid e' he'
  rcases List.mem_cons.1 he' with rfl | he'
  · exact he uuid
  · exact h uuid e' he'

theorem Cycled.cons {uuid : String} {e : Event} {events : List Event}
    (he : ∀ uuid, ¬ e.ofCycle uuid) (h : Cycled uuid events) : Cycled uuid (e :: events) where
  some := by
    obtain ⟨e', hm, hc⟩ := h.some
    exact ⟨e', List.mem_cons_of_mem _ hm, hc⟩
  only other e' he' hc := by
    rcases List.mem_cons.1 he' with rfl | he'
    · exact absurd hc (he other)
    · exact h.only other e' he' hc

/-- A cycle on a mapping is one on the mapping of its instance. -/
theorem cycled_attempt (mapping : Mapping)
    (ha : attempt around caller mapping host s c = a) (failure : Option String) :
    Cycled mapping.instanceUuid
      (a.events ++ [.stated (.settle mapping.instanceUuid failure)]) where
  some := ⟨.stated (.settle mapping.instanceUuid failure), by simp, rfl⟩
  only other e he hc := by
    subst ha
    rcases List.mem_append.1 he with he | he
    · unfold attempt at he
      cases hcallee : callee host (s.getHost host).1 with
      | error reason =>
        rw [hcallee] at he
        obtain rfl := List.mem_singleton.1 he
        exact hc.elim
      | ok h =>
        rw [hcallee] at he
        rcases List.mem_cons.1 he with rfl | he
        · exact hc.elim
        · obtain rfl := List.mem_singleton.1 he
          exact hc.symm
    · obtain rfl := List.mem_singleton.1 he
      exact hc.symm

end Events

/-! ## What operations do -/

namespace Runs

variable {around : Surroundings σ} {s : Store}

theorem delete (hs : s.MappingsKept) (uuid : String) (c : σ) :
    Runs around (deleteMapping uuid).run (s, c) [.stated (.delete uuid)]
      (if (s.mapping? uuid).isSome then .ok () else .error (.mappingNotFound uuid))
      (s.dropRow .mappings uuid, (around.clock.run c).2) := by
  have hq : Statement.perform (around.clock.run c).1 s (.delete uuid) =
      (.ok (s.mapping? uuid).isSome, s.dropRow .mappings uuid) := Store.deleteMapping_eq hs uuid
  refine locked uuid (bind_ok (k := []) (onStore_ok hq) ?_)
  cases (s.mapping? uuid).isSome with
  | true => exact pure _
  | false => exact throw _

/-- Reports of instances leave the mappings and their numbers alone. -/
theorem reconcileEach (around : Surroundings σ) (s : Store) (hostName : String)
    (summary : Rpc.Summary) (is : List Instance) (c : σ) :
    ∃ l summary' s' c', Runs around (reconcileEach hostName summary is) (s, c) l summary' (s', c') ∧
      s'.mappings = s.mappings ∧ Calm l := by
  induction is generalizing summary s c with
  | nil => exact ⟨[], summary, s, c, ⟨rfl, rfl⟩, rfl, Calm.nil⟩
  | cons i is ih =>
    obtain ⟨l, summary', s', c', hr, hm, hl⟩ := ih
      (s.upsertInstance (reportedOn hostName i)).2
      (tally summary (s.upsertInstance (reportedOn hostName i)).1) (around.clock.run c).2
    refine ⟨.stated (.reportInstance (reportedOn hostName i)) :: l, summary', s', c',
      ⟨congrArg _ hr.trace, hr.run⟩, hm.trans ?_, hl.cons fun _ => id⟩
    exact (Store.mappings_upsert (by decide) _ _ _ _ _ _).1

end Runs

/-- The operation, carried out by itself, has one of the effects, and every row stays the written
form of a mapping. -/
def HasEffect (around : Surroundings σ) (s : Store) (c : σ) (op : Operation) : Prop :=
  ∃ events answer s' c', Runs around op.program.run (s, c) events answer (s', c') ∧
    Effect s s' events op answer ∧ s'.MappingsKept

namespace HasEffect

variable {around : Surroundings σ} {s : Store} {c : σ}

/-- An operation that fails and leaves the store as it was. -/
theorem refused (hs : s.MappingsKept) (op : Operation) {events : List Event} {e : ConductorError}
    {c' : σ} (hr : Runs around op.program.run (s, c) events (.error e) (s, c'))
    (hc : Calm events) (ha : ∀ caller uuid host, op ≠ .reconcile caller uuid host) :
    HasEffect around s c op :=
  ⟨events, .error e, s, c', hr, .idle rfl hc (fun _ h => nomatch h)
    fun caller uuid host h => absurd h (ha caller uuid host), hs⟩

theorem create (hs : s.MappingsKept) (caller : Caller) (r : Rpc.CreateMapping) (c : σ) :
    HasEffect around s c (.create caller r) := by
  have refused {events : List Event} {e : ConductorError} {c' : σ}
      (hr : Runs around (createMapping caller r).run (s, c) events (.error e) (s, c'))
      (hc : Calm events) : HasEffect around s c (.create caller r) :=
    refused hs (.create caller r) (hr.map _) hc fun _ _ _ h => nomatch h
  cases hv : CpuSpec.validate r.spec with
  | error e => exact refused (Runs.create_of_invalid hv c) Calm.nil
  | ok =>
  cases hw : r.waitUntilActive with
  | true =>
    cases hm : s.mapping? r.instanceUuid with
    | some m =>
      exact refused (Runs.create_of_waiting hv hw (Runs.create_statement_of_some hs hm _ _))
        (Calm.nil.cons fun _ => id)
    | none =>
      have hr : Runs around (createMapping caller r).run (s, c) _ _ _ :=
        Runs.create_of_waiting hv hw (Runs.create_statement_of_none hs hm r.host c)
      refine ⟨_, _, _, _, hr.map _, .creates hm (List.mem_singleton_self _) (.refl _) ?_ ?_, ?_⟩
      · simp only [hw, ↓reduceIte]
        exact ⟨rfl, rfl, Calm.nil.cons fun _ => id⟩
      · exact Store.mapping?_withMapping _ _
      · exact (hs.withNumber _).withMapping _
  | false =>
    cases hh : hostFor r (s.getInstance r.instanceUuid).1 with
    | error e => exact refused (Runs.create_of_no_host hv hw hh c) (Calm.nil.cons fun _ => id)
    | ok host =>
    cases hm : s.mapping? r.instanceUuid with
    | some m =>
      exact refused
        (Runs.create_of_active hv hw hh
          (Runs.bind_error (Runs.create_statement_of_some hs hm _ _)))
        ((Calm.nil.cons fun _ => id).cons fun _ => id)
    | none =>
      have hr : Runs around (createMapping caller r).run (s, c) _ _ _ :=
        Runs.create_applied hs hv hw hh hm rfl rfl rfl
      refine ⟨_, _, _, _, hr.map _, .creates hm ?_ (Mapping.version_afterCycle _ _ _) ?_ ?_, ?_⟩
      · exact List.mem_cons_of_mem _ (List.mem_cons_self ..)
      · simp only [hw, Bool.false_eq_true, ↓reduceIte]
        exact ⟨Mapping.ended_afterCycle _ _ _,
          ((cycled_attempt (created caller r (some host) s _) rfl _).cons
            fun _ => id).cons fun _ => id⟩
      · exact Store.mapping?_withMapping_withMapping (s.withNumber _) rfl
      · exact ((hs.withNumber _).withMapping _).withMapping _

theorem reconcile (hs : s.MappingsKept) (caller : Caller) (uuid host : String) (c : σ) :
    HasEffect around s c (.reconcile caller uuid host) := by
  cases hm : s.mapping? uuid with
  | none =>
    have hget : s.getMapping uuid = (.ok none, s) := by rw [Store.getMapping_eq hs, hm]
    refine ⟨_, _, _, _, (Runs.reconcile_of_none hget caller host c).map _,
      .idle rfl (Calm.nil.cons fun _ => id) ?_ ?_, hs⟩
    · rintro a ⟨⟩
      trivial
    · rintro _ _ _ ⟨⟩
      exact hm
  | some m =>
    obtain rfl : m.instanceUuid = uuid := hs.instanceUuid_of_mapping? hm
    have hr : Runs around (reconcileInstance caller _ host).run (s, c) _ _ _ :=
      Runs.reconcile_of_some hs hm caller host rfl rfl rfl
    refine ⟨_, _, _, _, hr.map _, .applies rfl hm
      ((Mapping.version_afterMove _ _ _).trans (Mapping.version_afterCycle _ _ _)) ?_
      (Mapping.ended_afterCycle _ _ _) ?_ ?_, (hs.withMapping _).withMapping _⟩
    · simp [Operation.movedTo?]
    · exact ((cycled_attempt (m.afterMove host _) rfl _).cons fun _ => id).cons
        fun _ => id
    · exact Store.mapping?_withMapping_withMapping s rfl

theorem reapply (hs : s.MappingsKept) (caller : Caller) (uuid : String) (c : σ) :
    HasEffect around s c (.reapply caller uuid) := by
  have refused {e : ConductorError} {c' : σ}
      (hr : Runs around (reapplyMapping caller uuid).run (s, c) [.stated (.findMapping uuid)]
        (.error e) (s, c')) : HasEffect around s c (.reapply caller uuid) :=
    refused hs (.reapply caller uuid) (hr.map _) (Calm.nil.cons fun _ => id)
      fun _ _ _ h => nomatch h
  cases hm : s.mapping? uuid with
  | none => exact refused (Runs.reapply_of_none (by rw [Store.getMapping_eq hs, hm]) caller c)
  | some m =>
  cases hh : m.host with
  | none => exact refused (Runs.reapply_of_no_host hm hh caller c)
  | some host =>
    obtain rfl : m.instanceUuid = uuid := hs.instanceUuid_of_mapping? hm
    have hr : Runs around (reapplyMapping caller _).run (s, c) _ _ _ :=
      Runs.reapply_of_host hs hm hh caller c rfl
    exact ⟨_, _, _, _, hr.map _, .applies rfl hm (Mapping.version_afterCycle _ _ _) rfl
      (Mapping.ended_afterCycle _ _ _) ((cycled_attempt m rfl _).cons fun _ => id)
      (Store.mapping?_withMapping _ _), hs.withMapping _⟩

theorem delete (hs : s.MappingsKept) (uuid : String) (c : σ) :
    HasEffect around s c (.delete uuid) := by
  have hr : Runs around _ (s, c) _ _ _ := (Runs.delete hs uuid c).map fun _ => Answer.deleted
  have hd := Store.mapping?_dropRow s uuid
  cases hm : s.mapping? uuid with
  | some m =>
    simp only [hm, Option.isSome_some, ↓reduceIte] at hr
    exact ⟨_, _, _, _, hr, .deletes (Calm.nil.cons fun _ => id) hd, hs.dropRow uuid⟩
  | none =>
    simp only [hm, Option.isSome_none, Bool.false_eq_true, ↓reduceIte] at hr
    rw [← hm, Function.update_eq_self] at hd
    exact ⟨_, _, _, _, hr, .idle hd (Calm.nil.cons fun _ => id) (fun _ h => nomatch h)
      (fun _ _ _ h => nomatch h), hs.dropRow uuid⟩

/-- A report leaves the mappings alone. -/
theorem report (hs : s.MappingsKept) {op : Operation} {events : List Event}
    {answer : Except ConductorError Answer} {s' : Store} {c' : σ}
    (hr : Runs around op.program.run (s, c) events answer (s', c'))
    (hm : s'.mappings = s.mappings) (hc : Calm events)
    (ha : ∀ a, answer = .ok a → op.Spares a)
    (ho : ∀ caller uuid host, op ≠ .reconcile caller uuid host) : HasEffect around s c op :=
  ⟨events, answer, s', c', hr, .idle (Store.mapping?_congr hm) hc ha
    fun caller uuid host h => absurd h (ho caller uuid host), hs.congr hm⟩

theorem reportHost (hs : s.MappingsKept) (host : Host) (c : σ) :
    HasEffect around s c (.reportHost host) := by
  refine report hs ((Runs.onStore (.reportHost host)).map Answer.host)
    (Store.mappings_upsert (by decide) _ _ _ _ _ _).1 (Calm.nil.cons fun _ => id) ?_
    fun _ _ _ h => nomatch h
  intro a ha
  cases hu : ((Statement.reportHost host).perform (around.clock.run c).1 s).1 with
  | error e =>
    rw [hu] at ha
    exact nomatch ha
  | ok outcome =>
    rw [hu] at ha
    cases ha
    trivial

theorem reportInstances (hs : s.MappingsKept) (hostName : String) (instances : List Instance)
    (c : σ) : HasEffect around s c (.reportInstances hostName instances) := by
  obtain ⟨l, summary, s', c', hr, hm, hl⟩ :=
    Runs.reconcileEach around s hostName {} instances c
  have hlift : Runs around (ExceptT.lift (reconcileInstances hostName instances) :
      ExceptT ConductorError Program _).run (s, c) l (.ok summary) (s', c') :=
    hr.bind_done (f := Program.done ∘ Except.ok) rfl
  refine report hs (hlift.map Answer.instances) hm hl ?_ fun _ _ _ h => nomatch h
  rintro a ⟨⟩
  trivial

end HasEffect

/-- Every operation has one of the effects. -/
theorem hasEffect (around : Surroundings σ) {s : Store} (hs : s.MappingsKept) (c : σ) :
    ∀ op, HasEffect around s c op
  | .create caller r => .create hs caller r c
  | .reconcile caller uuid host => .reconcile hs caller uuid host c
  | .reapply caller uuid => .reapply hs caller uuid c
  | .delete uuid => .delete hs uuid c
  | .reportHost host => .reportHost hs host c
  | .reportInstances hostName instances => .reportInstances hs hostName instances c

theorem effect_perform (around : Surroundings σ) {s : Store} (hs : s.MappingsKept) (c : σ)
    (op : Operation) :
    Effect s (op.perform around (s, c)).2.1 (op.program.run.trace around (s, c)) op
        (op.perform around (s, c)).1 ∧
      (op.perform around (s, c)).2.1.MappingsKept := by
  obtain ⟨events, answer, s', c', hr, he, hk⟩ := hasEffect around hs c op
  rw [Operation.perform, hr.trace, show (op.program.run.run around).run (s, c) = _ from hr.run]
  exact ⟨he, hk⟩

/-! ## Stores that the service reaches -/

theorem mappingsKept_after (around : Surroundings σ) (ops : List Operation) {st : Store × σ}
    (hs : st.1.MappingsKept) : (Operation.after around ops st).1.MappingsKept := by
  induction ops generalizing st with
  | nil => exact hs
  | cons op ops ih => exact ih (effect_perform around hs st.2 op).2

/-- The mappings of a reached store can be read. -/
theorem Reached.mappingsKept {s : Store} : Reached s → s.MappingsKept
  | ⟨_, around, ops, _, h⟩ => h ▸ mappingsKept_after around ops Store.MappingsKept.empty

end Conductor

end VcpuPinning
