import VcpuPinning.Proofs.Conductor.Inventory
import VcpuPinning.Proofs.Conductor.Outcomes

/-!
# Creation

`creation_all_or_nothing` : in a reached store a request to create a mapping is `Refused` for the
first of four reasons that applies, and then nothing is written and nobody is called. In every
other case the mapping is `Created`, with the next number, on the host that the request or the
inventory tells (`PlacedOn`), and what becomes of its first cycle is no error of the request.
-/

namespace VcpuPinning.Conductor

variable {σ : Type}

/-! ## Requests -/

/-- The host that a request puts its mapping on. -/
inductive PlacedOn (s : Store) (r : Rpc.CreateMapping) : Option String → Prop
  /-- A mapping that is to wait is on the host that the request names, if it names one. -/
  | waiting {host : Option String} (wait : r.waitUntilActive = true) (asked : r.host = host) :
      PlacedOn s r host
  /-- The inventory decides for an instance that it knows. -/
  | reported {i : Instance} {host : String} (active : r.waitUntilActive = false)
      (found : (s.getInstance r.instanceUuid).1 = .ok (some i)) (running : i.status = .running)
      (placed : i.host = some host) : PlacedOn s r (some host)
  /-- The request decides for any other. -/
  | named {host : String} (active : r.waitUntilActive = false)
      (unknown : (s.getInstance r.instanceUuid).1 = .ok none) (asked : r.host = some host) :
      PlacedOn s r (some host)

/-- The first reason to refuse a request that applies. -/
inductive Refused (s : Store) (r : Rpc.CreateMapping) : ConductorError → Prop
  | invalid {e : SpecError} (invalid : CpuSpec.validate r.spec = .error e) :
      Refused s r (.invalidCpuSpecification e)
  | notActive {i : Instance} (valid : CpuSpec.validate r.spec = .ok ())
      (active : r.waitUntilActive = false)
      (found : (s.getInstance r.instanceUuid).1 = .ok (some i)) (stopped : i.status ≠ .running) :
      Refused s r (.instanceNotActive r.instanceUuid i.status.word)
  | notFound (valid : CpuSpec.validate r.spec = .ok ()) (active : r.waitUntilActive = false)
      (unknown : (s.getInstance r.instanceUuid).1 = .ok none) (asked : r.host = none) :
      Refused s r (.instanceNotFound r.instanceUuid)
  | alreadyExists {host : Option String} {m : Mapping} (valid : CpuSpec.validate r.spec = .ok ())
      (placed : PlacedOn s r host) (found : s.mapping? r.instanceUuid = some m) :
      Refused s r (.mappingAlreadyExists r.instanceUuid)

/-- A request made a mapping on a host in a store, with calls of hosts. -/
structure Created (around : Surroundings σ) (caller : Caller) (r : Rpc.CreateMapping)
    (target : Option String) (s : Store) (c : σ) (s' : Store) (calls : List Event) (m : Mapping) :
    Prop where
  id : m.id = s.lastMappingNumber + 1
  /-- No stored mapping has the number, as long as the numbers last in the steps that led to the
  store. -/
  fresh : ∀ steps, s = Store.empty.after steps →
    (Store.creations .empty steps).length + 1 < UInt64.size →
    ∀ uuid m', s.mapping? uuid = some m' → m'.id ≠ m.id
  instanceUuid : m.instanceUuid = r.instanceUuid
  projectId : m.projectId = caller.projectId
  userId : m.userId = caller.userId
  spec : m.spec = r.spec
  host : m.host = target
  stored : s' = (s.withNumber m.id).withMapping m
  deferred : r.waitUntilActive = true →
    m.status = .pending ∧ m.statusReason = none ∧ calls = []
  /-- One cycle was run on the pending mapping, whatever came of it. -/
  applied : r.waitUntilActive = false → m.status.isTerminal ∧ ∀ name, target = some name →
    Outcome around caller (s.getHost name).1 (around.tick (around.tick c))
      (created caller r target s m.createdAt) calls m

section Requests

variable {around : Surroundings σ} {caller : Caller} {r : Rpc.CreateMapping} {s : Store} {c : σ}

theorem hostFor_of_placedOn {host : Option String} (h : PlacedOn s r host)
    (hw : r.waitUntilActive = false) :
    ∃ name, host = some name ∧ hostFor r (s.getInstance r.instanceUuid).1 = .ok name := by
  cases h with
  | waiting wait asked => exact absurd (hw.symm.trans wait) Bool.false_ne_true
  | @reported i name active found running placed =>
    refine ⟨name, rfl, ?_⟩
    simp [hostFor, found, Location.ofInstance, placed, running]
  | @named name active unknown asked =>
    refine ⟨name, rfl, ?_⟩
    simp [hostFor, unknown, asked]

/-- A request with a valid specification is refused, or there is a host for its mapping. -/
theorem refused_or_exists_host (hs : Placed s) (hv : CpuSpec.validate r.spec = .ok ()) :
    (∃ e, Refused s r e) ∨ ∃ host, PlacedOn s r host := by
  cases hw : r.waitUntilActive with
  | true => exact .inr ⟨r.host, .waiting hw rfl⟩
  | false =>
    rcases hs.getInstance r.instanceUuid with hi | ⟨i, host, hi, hh⟩
    · cases hr : r.host with
      | none => exact .inl ⟨_, .notFound hv hw hi hr⟩
      | some host => exact .inr ⟨some host, .named hw hi hr⟩
    · by_cases hrun : i.status = .running
      · exact .inr ⟨some host, .reported hw hi hrun hh⟩
      · exact .inl ⟨_, .notActive hv hw hi hrun⟩

/-- A request is refused, or there is a host for its mapping and no mapping yet. -/
theorem refused_or_placedOn (hs : Placed s) (r : Rpc.CreateMapping) :
    (∃ e, Refused s r e) ∨ CpuSpec.validate r.spec = .ok () ∧
      s.mapping? r.instanceUuid = none ∧ ∃ host, PlacedOn s r host := by
  cases hv : CpuSpec.validate r.spec with
  | error e => exact .inl ⟨_, .invalid hv⟩
  | ok =>
    rcases refused_or_exists_host hs hv with h | ⟨host, hp⟩
    · exact .inl h
    · cases hm : s.mapping? r.instanceUuid with
      | some m => exact .inl ⟨_, .alreadyExists hv hp hm⟩
      | none => exact .inr ⟨rfl, rfl, host, hp⟩

/-- A request that is refused leaves the store as it is, and calls nobody. -/
theorem runs_of_refused (around : Surroundings σ) (hp : Placed s) (hk : s.MappingsKept) {e : ConductorError}
    (h : Refused s r e) (caller : Caller) (c : σ) :
    ∃ events c', Runs around (createMapping caller r).run (s, c) events (.error e) (s, c') ∧
      events.filter Event.isCall = [] := by
  cases h with
  | invalid invalid => exact ⟨_, _, Runs.create_of_invalid invalid c, rfl⟩
  | @notActive i valid active found stopped =>
    have hh : hostFor r (s.getInstance r.instanceUuid).1 =
        .error (.instanceNotActive r.instanceUuid i.status.word) := by
      obtain hn | ⟨j, host, hj, hhost⟩ := hp.getInstance r.instanceUuid
      · exact nomatch hn.symm.trans found
      · obtain rfl := Option.some.inj (Except.ok.inj (hj.symm.trans found))
        simp [hostFor, found, Location.ofInstance, hhost, stopped]
    exact ⟨_, _, Runs.create_of_no_host valid active hh c, rfl⟩
  | notFound valid active unknown asked =>
    have hh : hostFor r (s.getInstance r.instanceUuid).1 =
        .error (.instanceNotFound r.instanceUuid) := by
      simp [hostFor, unknown, asked]
    exact ⟨_, _, Runs.create_of_no_host valid active hh c, rfl⟩
  | alreadyExists valid placed found =>
    cases hw : r.waitUntilActive with
    | true =>
      exact ⟨_, _, Runs.create_of_waiting valid hw
        (Runs.create_statement_of_some hk found _ _), rfl⟩
    | false =>
      obtain ⟨name, rfl, hh⟩ := hostFor_of_placedOn placed hw
      exact ⟨_, _, Runs.create_of_active valid hw hh
        (Runs.bind_error (Runs.create_statement_of_some hk found _ _)), rfl⟩

/-- The next number is that of no stored mapping, as long as the numbers last. -/
theorem id_ne_nextMappingNumber {steps : List Store.Step}
    (hmax : (Store.creations .empty steps).length + 1 < UInt64.size) {uuid : String} {m : Mapping}
    (hm : (Store.empty.after steps).mapping? uuid = some m) :
    m.id ≠ (Store.empty.after steps).nextMappingNumber := by
  intro he
  obtain ⟨hn, -⟩ := Store.Numbered.empty.after steps (by omega)
  have hle := hn.le_last uuid m hm
  have hnext : (Store.empty.after steps).nextMappingNumber.toNat =
      0 + (Store.creations .empty steps).length + 1 := by
    change ((Store.empty.after steps).lastMappingNumber + 1).toNat = _
    rw [UInt64.toNat_add, hn.last]
    exact Nat.mod_eq_of_lt (by simpa using hmax)
  rw [he, hnext] at hle
  omega

/-- A version of the pending mapping is all that a request creates. -/
theorem created_of_version {target : Option String} {now : UInt64} {m : Mapping} {s' : Store}
    {calls : List Event} (hm : (created caller r target s now).Version m) (hh : m.host = target)
    (stored : s' = (s.withNumber s.nextMappingNumber).withMapping m)
    (deferred : r.waitUntilActive = true →
      m.status = .pending ∧ m.statusReason = none ∧ calls = [])
    (applied : r.waitUntilActive = false → m.status.isTerminal ∧ ∀ name, target = some name →
      Outcome around caller (s.getHost name).1 (around.tick (around.tick c))
        (created caller r target s now) calls m) :
    Created around caller r target s c s' calls m where
  id := hm.id
  fresh steps hs hmax uuid m' hm' := by
    rw [hm.id]
    subst hs
    exact id_ne_nextMappingNumber hmax hm'
  instanceUuid := hm.instanceUuid
  projectId := hm.projectId
  userId := hm.userId
  spec := hm.spec
  host := hh
  stored := by rwa [hm.id]
  deferred := deferred
  applied := by rwa [show m.createdAt = now from hm.createdAt]

theorem create_waits (hk : s.MappingsKept) (hv : CpuSpec.validate r.spec = .ok ())
    (hw : r.waitUntilActive = true) (hm : s.mapping? r.instanceUuid = none) (caller : Caller)
    (c : σ) : ∃ m s' c', (Operation.create caller r).perform around (s, c) =
        (.ok (.mapping (some m)), (s', c')) ∧
      Created around caller r r.host s c s'
        ((Operation.create caller r).calls around (s, c)) m := by
  have hr : Runs around (Operation.create caller r).program.run (s, c) _ _ _ :=
    (Runs.create_of_waiting hv hw (Runs.create_statement_of_none hk hm r.host c)).map
      fun m => Answer.mapping (some m)
  refine ⟨_, _, _, hr.perform_eq, created_of_version (.refl _) rfl rfl (fun _ => ?_) fun hn => ?_⟩
  · exact ⟨rfl, rfl, hr.calls_eq⟩
  · exact absurd (hn.symm.trans hw) Bool.false_ne_true

theorem create_applies (hk : s.MappingsKept) (hv : CpuSpec.validate r.spec = .ok ())
    (hw : r.waitUntilActive = false) {name : String}
    (hh : hostFor r (s.getInstance r.instanceUuid).1 = .ok name)
    (hm : s.mapping? r.instanceUuid = none) (caller : Caller) (c : σ) :
    ∃ m s' c', (Operation.create caller r).perform around (s, c) =
        (.ok (.mapping (some m)), (s', c')) ∧
      Created around caller r (some name) s c s'
        ((Operation.create caller r).calls around (s, c)) m := by
  obtain ⟨new, hnew⟩ : ∃ new,
    created caller r (some name) s (around.clock.run (around.tick c)).1 = new := ⟨_, rfl⟩
  obtain ⟨a, ha⟩ : ∃ a, attempt around caller new name
    ((s.withNumber s.nextMappingNumber).withMapping new) (around.tick (around.tick c)) = a :=
    ⟨_, rfl⟩
  have hr : Runs around (Operation.create caller r).program.run (s, c) _ _ _ :=
    (Runs.create_applied hk hv hw hh hm rfl hnew ha).map fun m => Answer.mapping (some m)
  have ho := outcome_of_runs
    [.findInstance r.instanceUuid, .create (draftOf caller r (some name))] ha hr
    (around.clock.run a.after).1
  rw [Store.getHost_withMapping, Store.getHost_withNumber] at ho
  subst hnew
  refine ⟨_, _, _, hr.perform_eq, created_of_version (Mapping.version_afterCycle _ _ _) rfl
    (Store.withMapping_withMapping _ rfl) (fun hn => ?_) fun _ => ?_⟩
  · exact absurd (hw.symm.trans hn) Bool.false_ne_true
  · refine ⟨ho.ended.isTerminal, ?_⟩
    rintro _ ⟨⟩
    exact ho

theorem created_of_placedOn (around : Surroundings σ) (hk : s.MappingsKept)
    {target : Option String} (hv : CpuSpec.validate r.spec = .ok ()) (hm : s.mapping? r.instanceUuid = none)
    (hp : PlacedOn s r target) (caller : Caller) (c : σ) :
    ∃ m s' c', (Operation.create caller r).perform around (s, c) =
        (.ok (.mapping (some m)), (s', c')) ∧
      Created around caller r target s c s'
        ((Operation.create caller r).calls around (s, c)) m := by
  cases hw : r.waitUntilActive with
  | true =>
    cases hp with
    | waiting wait asked => exact asked ▸ create_waits hk hv hw hm caller c
    | reported active _ _ _ => exact absurd (active.symm.trans hw) Bool.false_ne_true
    | named active _ _ => exact absurd (active.symm.trans hw) Bool.false_ne_true
  | false =>
    obtain ⟨name, rfl, hh⟩ := hostFor_of_placedOn hp hw
    exact create_applies hk hv hw hh hm caller c

end Requests

/-- In a reached store a request to create a mapping fails exactly for the first reason to refuse it
that applies, and then nothing is written and nobody is called. A request that there is no reason to
refuse creates its mapping. -/
theorem creation_all_or_nothing (around : Surroundings σ) {s : Store} (hs : Reached s)
    (caller : Caller) (r : Rpc.CreateMapping) (c : σ) :
    (∀ e, ((Operation.create caller r).perform around (s, c)).1 = .error e ↔ Refused s r e) ∧
    (∀ e, Refused s r e → (Operation.create caller r).Idles around s c) ∧
    ((∀ e, ¬ Refused s r e) → ∃ target m s' c', PlacedOn s r target ∧
      (Operation.create caller r).perform around (s, c) = (.ok (.mapping (some m)), (s', c')) ∧
      Created around caller r target s c s'
        ((Operation.create caller r).calls around (s, c)) m) := by
  have hp := hs.placed
  have hk := hs.mappingsKept
  have refused {e : ConductorError} (h : Refused s r e) :
      ((Operation.create caller r).perform around (s, c)).1 = .error e ∧
        (Operation.create caller r).Idles around s c := by
    obtain ⟨events, c', hr, he⟩ := runs_of_refused around hp hk h caller c
    have hr' : Runs around (Operation.create caller r).program.run (s, c) _ _ _ :=
      hr.map fun m => Answer.mapping (some m)
    exact ⟨congrArg Prod.fst hr'.perform_eq, hr'.idles he⟩
  refine ⟨fun e => ⟨fun he => ?_, fun h => (refused h).1⟩, fun e h => (refused h).2, fun hn => ?_⟩
  · rcases refused_or_placedOn hp r with ⟨e', h⟩ | ⟨hv, hm, target, ht⟩
    · obtain rfl := Except.error.inj ((refused h).1.symm.trans he)
      exact h
    · obtain ⟨m, s', c', hr, -⟩ := created_of_placedOn around hk hv hm ht caller c
      rw [hr] at he
      exact nomatch he
  · rcases refused_or_placedOn hp r with ⟨e, h⟩ | ⟨hv, hm, target, ht⟩
    · exact absurd h (hn e)
    · obtain ⟨m, s', c', hr, hm⟩ := created_of_placedOn around hk hv hm ht caller c
      exact ⟨target, m, s', c', ht, hr, hm⟩

/-- The inventory knows the host of an instance that runs, and the one that the request names is not
taken. The host has not reported itself, so the mapping ends as failed, and is there. -/
theorem creation_all_or_nothing_of_other_host :
    let around : Surroundings Unit :=
      ⟨fun c => (7, c), fun _ _ _ => pure (.ok ⟨true, [true]⟩)⟩
    let s := (Operation.after around
      [.reportInstances "sim-1" [⟨"vm-a", none, .running, .empty, 0⟩]] (.empty, ())).1
    let r : Rpc.CreateMapping := ⟨"vm-a", "1-2", false, some "sim-2"⟩
    ∃ m, ((Operation.create ⟨"q", none, none, true⟩ r).perform around (s, ())).1 =
      .ok (.mapping (some m)) ∧ m.host = some "sim-1" ∧ m.status.isTerminal := by
  intro around s r
  have hvalid : CpuSpec.validate r.spec = .ok () := by decide +kernel
  have hfound : (s.getInstance "vm-a").1 =
      .ok (some ⟨"vm-a", some "sim-1", .running, .empty, 0⟩) := by decide +kernel
  have hmapping : s.mapping? "vm-a" = none := by decide +kernel
  obtain ⟨-, -, hcreated⟩ := creation_all_or_nothing around (s := s)
    ⟨Unit, around, _, (), rfl⟩ ⟨"q", none, none, true⟩ r ()
  obtain ⟨target, m, s', c', ht, hr, hm⟩ := hcreated fun e he => by
    cases he with
    | invalid invalid => exact nomatch hvalid.symm.trans invalid
    | notActive _ _ found stopped =>
      obtain rfl := Option.some.inj (Except.ok.inj (hfound.symm.trans found))
      exact stopped rfl
    | notFound _ _ unknown _ => exact nomatch hfound.symm.trans unknown
    | alreadyExists _ _ found => exact nomatch hmapping.symm.trans found
  have htarget : target = some "sim-1" := by
    cases ht with
    | waiting wait _ => exact nomatch wait
    | reported _ found _ placed =>
      obtain rfl := Option.some.inj (Except.ok.inj (hfound.symm.trans found))
      exact placed.symm
    | named _ unknown _ => exact nomatch hfound.symm.trans unknown
  exact ⟨m, congrArg Prod.fst hr, hm.host.trans htarget, (hm.applied rfl).1⟩

end VcpuPinning.Conductor
