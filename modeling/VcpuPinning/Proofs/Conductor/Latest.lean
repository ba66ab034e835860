import VcpuPinning.Proofs.Conductor.Creation

/-!
# The last report

A report replaces the one before it, and nothing else writes or removes a record of an instance. So
what is stored about an instance is what was reported last, but for the time (`Tells`), whatever
operations there are in between. A request that is to be applied at once is decided by that report
alone, however long ago it was made (`verdict`).
-/

namespace VcpuPinning.Conductor

variable {σ : Type} {told : List Instance} {s s' : Store} {uuid : String}

/-! ## Reports -/

/-- The last report about an instance. -/
def latest (told : List Instance) (uuid : String) : Option Instance :=
  (told.filter (·.uuid = uuid)).getLast?

theorem latest_append (told later : List Instance) (uuid : String) :
    latest (told ++ later) uuid = (latest later uuid).or (latest told uuid) := by
  rw [latest, List.filter_append, List.getLast?_append, latest, latest]

theorem latest_eq_none_iff : latest told uuid = none ↔ ∀ i ∈ told, i.uuid ≠ uuid := by
  simp [latest]

theorem latest_concat (told : List Instance) (i : Instance) :
    latest (told ++ [i]) = Function.update (latest told) i.uuid (some i) := by
  funext uuid
  rw [latest_append]
  by_cases h : i.uuid = uuid
  · subst h
    simp [latest]
  · rw [Function.update_of_ne (Ne.symm h)]
    simp [latest, h]

theorem mem_of_latest {i : Instance} (h : latest told uuid = some i) : i ∈ told :=
  (List.mem_filter.1 (List.mem_of_getLast? h)).1

/-- The instances that an operation reports, each on the host that reports it. -/
def Operation.reports : Operation → List Instance
  | reportInstances hostName instances => instances.map (reportedOn hostName)
  | _ => []

/-- Records that agree but for the time tell the same host and the same state. -/
theorem agree_of_undated_eq {i j : Instance} (h : i.undated = j.undated) :
    i.host = j.host ∧ i.status = j.status := by
  have hhost : i.undated.host = j.undated.host := congrArg Instance.host h
  have hstatus : i.undated.status = j.undated.status := congrArg Instance.status h
  exact ⟨hhost, hstatus⟩

/-- The store tells of each instance what was reported last, but for the time. -/
structure Tells (told : List Instance) (s : Store) : Prop where
  kept : Store.instanceReports.Kept s
  placed : ∀ i ∈ told, i.host ≠ none
  stored : ∀ uuid, (Store.instanceReports.stored? s uuid).map Instance.undated =
    (latest told uuid).map Instance.undated

namespace Tells

theorem empty : Tells [] .empty where
  kept := .empty
  placed := List.forall_mem_nil _
  stored uuid := by simp [Store.ReportKind.stored?, Store.row?, Store.rows, Store.instanceReports,
    Store.empty, latest]

theorem congr (h : Tells told s) (hrows : s'.rows .instances = s.rows .instances) :
    Tells told s' where
  kept := h.kept.congr hrows
  placed := h.placed
  stored uuid := by
    rw [Store.instanceReports.stored?_congr hrows]
    exact h.stored uuid

theorem take (h : Tells told s) {i : Instance} (hi : i.host ≠ none) :
    Tells (told ++ [i]) (Store.instanceReports.take i s).2 where
  kept := h.kept.take i
  placed := List.forall_mem_append.2 ⟨h.placed, List.forall_mem_singleton.2 hi⟩
  stored uuid := by
    have hkey : Store.instanceReports.key i = i.uuid := rfl
    rw [Store.ReportKind.stored?_take h.kept, latest_concat, hkey]
    by_cases hu : uuid = i.uuid
    · subst hu
      rw [Function.update_self, Function.update_self]
      exact congrArg some (Store.instanceReports.undated_settled _ i)
    · rw [Function.update_of_ne hu, Function.update_of_ne hu]
      exact h.stored uuid

theorem takeEach (h : Tells told s) {is : List Instance} (his : ∀ i ∈ is, i.host ≠ none) :
    Tells (told ++ is) (Store.instanceReports.takeEach is s).2 := by
  induction is generalizing told s with
  | nil => rwa [List.append_nil]
  | cons i is ih =>
    obtain ⟨hi, his⟩ := List.forall_mem_cons.1 his
    rw [List.append_cons]
    exact ih (h.take hi) his

/-- What is found under an identifier is what was reported last. -/
theorem getInstance (h : Tells told s) (uuid : String) :
    (s.getInstance uuid).1 = .ok none ∧ latest told uuid = none ∨
      ∃ i j, (s.getInstance uuid).1 = .ok (some i) ∧ latest told uuid = some j ∧
        i.undated = j.undated := by
  have hf : (s.getInstance uuid).1 = .ok (Store.instanceReports.stored? s uuid) :=
    congrArg Prod.fst (h.kept.find_eq uuid)
  have hs := h.stored uuid
  rw [hf]
  cases hi : Store.instanceReports.stored? s uuid with
  | none =>
    rw [hi, Option.map_none, eq_comm, Option.map_eq_none_iff] at hs
    exact .inl ⟨rfl, hs⟩
  | some i =>
    rw [hi, Option.map_some, eq_comm, Option.map_eq_some_iff] at hs
    obtain ⟨j, hj, hu⟩ := hs
    exact .inr ⟨i, j, rfl, hj, hu.symm⟩

/-- Every stored instance has a host, since every report tells one. -/
theorem placedStore (h : Tells told s) : Placed s where
  kept := h.kept
  host uuid i hi := by
    have hs := h.stored uuid
    rw [hi, Option.map_some, eq_comm, Option.map_eq_some_iff] at hs
    obtain ⟨j, hj, hu⟩ := hs
    rw [← (agree_of_undated_eq hu).1]
    exact h.placed j (mem_of_latest hj)

end Tells

/-- An operation without reports of instances leaves their records as they are. -/
theorem Operation.Silent.rows_eq {op : Operation} (h : op.Silent) (around : Surroundings σ)
    (st : Store × σ) : (op.perform around st).2.1.rows .instances = st.1.rows .instances := by
  refine (makes_silent h).run (I := fun s => s.rows .instances = st.1.rows .instances)
    (fun now s q hq hs => ?_) around rfl
  rw [Statement.perform_snd]
  rcases Store.instanceReports.perform_cases now s q.operation with ⟨i, hi, -⟩ | ⟨-, hp⟩
  · exact nomatch hq.symm.trans hi
  · exact hp.trans hs

/-- An operation adds its reports to those that the store tells. -/
theorem Tells.perform {st : Store × σ} (h : Tells told st.1) (around : Surroundings σ)
    (op : Operation) : Tells (told ++ op.reports) (op.perform around st).2.1 := by
  have silent (hop : op.Silent) : Tells (told ++ []) (op.perform around st).2.1 := by
    rw [List.append_nil]
    exact h.congr (hop.rows_eq around st)
  cases op with
  | reportInstances hostName instances =>
    obtain ⟨s, c⟩ := st
    rw [perform_reportInstances, reconcileInstances, run_reconcileEach]
    refine h.takeEach fun i hi => ?_
    obtain ⟨j, -, rfl⟩ := List.mem_map.1 hi
    exact nofun
  | _ => exact silent trivial

/-- A report of instances leaves the records of others as they are. -/
theorem row?_reportInstances {is : List Instance} (h : ∀ i ∈ is, i.uuid ≠ uuid)
    (around : Surroundings σ) (hostName : String) (st : Store × σ) :
    ((Operation.reportInstances hostName is).perform around st).2.1.row? .instances uuid =
      st.1.row? .instances uuid := by
  obtain ⟨s, c⟩ := st
  rw [perform_reportInstances, reconcileInstances, run_reconcileEach]
  refine Store.instanceReports.row?_takeEach (fun i hi => ?_) s .instances
  obtain ⟨j, hj, rfl⟩ := List.mem_map.1 hi
  exact h j hj

/-! ## Immediate requests -/

/-- The host that an immediate request puts its mapping on, by the last report about its
instance. -/
inductive Target (r : Rpc.CreateMapping) : Option Instance → String → Prop
  | reported {i : Instance} {host : String} (running : i.status = .running)
      (placed : i.host = some host) : Target r (some i) host
  | named {host : String} (asked : r.host = some host) : Target r none host

/-- What becomes of an immediate request with a valid specification, by the last report about its
instance and the mapping that there is. -/
inductive Verdict (r : Rpc.CreateMapping) (found : Option Mapping) :
    Option Instance → Except ConductorError Answer → Prop
  | notFound (asked : r.host = none) :
      Verdict r found none (.error (.instanceNotFound r.instanceUuid))
  | notActive {i : Instance} (stopped : i.status ≠ .running) :
      Verdict r found (some i) (.error (.instanceNotActive r.instanceUuid i.status.word))
  | alreadyExists {report : Option Instance} {host : String} {m : Mapping}
      (target : Target r report host) (mapped : found = some m) :
      Verdict r found report (.error (.mappingAlreadyExists r.instanceUuid))
  | accepted {report : Option Instance} {host : String} {m : Mapping}
      (target : Target r report host) (fresh : found = none) (placed : m.host = some host) :
      Verdict r found report (.ok (.mapping (some m)))

section Requests

variable {r : Rpc.CreateMapping}

theorem perform_of_refused (around : Surroundings σ) (hp : Placed s) (hk : s.MappingsKept)
    {e : ConductorError} (h : Refused s r e) (caller : Caller) (c : σ) :
    ((Operation.create caller r).perform around (s, c)).1 = .error e := by
  obtain ⟨events, c', hr, -⟩ := runs_of_refused around hp hk h caller c
  have hr' : Runs around (Operation.create caller r).program.run (s, c) _ _ _ :=
    hr.map fun m => Answer.mapping (some m)
  exact congrArg Prod.fst hr'.perform_eq

/-- A request with a host for its mapping is refused only if there is a mapping already. -/
theorem verdict_of_placedOn (around : Surroundings σ) (hp : Placed s) (hk : s.MappingsKept)
    (hv : CpuSpec.validate r.spec = .ok ()) {report : Option Instance} {host : String}
    (ht : Target r report host) (h : PlacedOn s r (some host)) (caller : Caller) (c : σ) :
    Verdict r (s.mapping? r.instanceUuid) report
      ((Operation.create caller r).perform around (s, c)).1 := by
  cases hm : s.mapping? r.instanceUuid with
  | some m =>
    rw [perform_of_refused around hp hk (.alreadyExists hv h hm)]
    exact .alreadyExists ht rfl
  | none =>
    obtain ⟨m, s', c', hr, hc⟩ := created_of_placedOn around hk hv hm h caller c
    rw [hr]
    exact .accepted ht rfl hc.host

/-- An immediate request is decided by the last report about its instance, however old it is. -/
theorem Tells.verdict (h : Tells told s) (hk : s.MappingsKept) (around : Surroundings σ)
    (hv : CpuSpec.validate r.spec = .ok ()) (hw : r.waitUntilActive = false) (caller : Caller)
    (c : σ) : Verdict r (s.mapping? r.instanceUuid) (latest told r.instanceUuid)
      ((Operation.create caller r).perform around (s, c)).1 := by
  have hp := h.placedStore
  rcases h.getInstance r.instanceUuid with ⟨hi, hl⟩ | ⟨i, j, hi, hl, hu⟩
  · rw [hl]
    cases hr : r.host with
    | none =>
      rw [perform_of_refused around hp hk (.notFound hv hw hi hr)]
      exact .notFound hr
    | some host => exact verdict_of_placedOn around hp hk hv (.named hr) (.named hw hi hr) caller c
  · obtain ⟨hhost, hstatus⟩ := agree_of_undated_eq hu
    rw [hl]
    by_cases hrun : i.status = .running
    · obtain ⟨host, hh⟩ := Option.ne_none_iff_exists'.1 (h.placed j (mem_of_latest hl))
      exact verdict_of_placedOn around hp hk hv (.reported (hstatus ▸ hrun) hh)
        (.reported hw hi hrun (hhost.trans hh)) caller c
    · rw [perform_of_refused around hp hk (.notActive hv hw hi hrun), hstatus]
      exact .notActive (hstatus ▸ hrun)

end Requests

end VcpuPinning.Conductor
