import VcpuPinning.Agent.Reporter
import VcpuPinning.Conductor.Endpoint
import VcpuPinning.Proofs.Hypervisor.Simulated
import VcpuPinning.Proofs.Hypervisor.Steps
import VcpuPinning.Proofs.Store.Reports

/-!
# Readings of an agent

What the agent of a simulated host reads, in one process with the service. Of the domains that run
those are reported for which no failure was injected (`map_uuid_batch`), each as the machine has it
(`exists_domain_of_mem_batch`). But for the times, what is read follows from the machine
(`run_collectEach`).
-/

namespace VcpuPinning

namespace Simulated.Machine

/-- The domains that run, in the order in which they are listed. -/
def active (m : Machine) : List String :=
  (m.domains.entries.filter fun e => e.2.stateCode = 1).map (·.1)

theorem run_activeDomains (m : Machine) :
    hypervisor.activeDomains.run.run m = (.ok m.active, m) := rfl

theorem nodup_active (m : Machine) : m.active.Nodup := by
  refine List.Pairwise.map _ (fun a b h he => ?_) (m.domains.sorted.filter _)
  rw [he] at h
  simp at h

theorem exists_get?_of_mem_active {m : Machine} {uuid : String} (h : uuid ∈ m.active) :
    ∃ d, m.domains.get? uuid = some d := by
  obtain ⟨⟨key, d⟩, hm, rfl⟩ := List.mem_map.1 h
  exact ⟨d, SortedMap.mem_entries_iff.1 (List.mem_filter.1 hm).1⟩

/-- Of the domains that run, those can be read for which no failure was injected. -/
theorem isOk_domain_iff {m : Machine} {uuid : String} (h : uuid ∈ m.active) :
    (m.domain uuid).isOk ↔ uuid ∉ m.failingInfo := by
  obtain ⟨d, hd⟩ := exists_get?_of_mem_active h
  unfold domain
  rw [hd]
  by_cases hf : uuid ∈ m.failingInfo
  · simp [hf, Except.isOk, Except.toBool]
  · simp [hf, Except.isOk, Except.toBool]

end Simulated.Machine

namespace Agent

open Conductor Simulated

variable {α σ κ : Type}

/-- A pass whose parts succeed. -/
theorem run_reportOnce {r : Reporter σ} {caller : Caller} {host : Host}
    {reply : Rpc.ReconciledHost} {batch : List Instance} {skipped : List String}
    {summary : Rpc.Summary} {st st' st₁ st₂ st₃ : σ}
    (hhost : r.collectHost.run.run st = (.ok host, st₁))
    (hreply : (r.link.reconcileHost caller host).run st₁ = (.ok reply, st₂))
    (hbatch : r.collectInstances.run.run st₂ = (.ok (batch, skipped), st₃))
    (hsummary : (r.link.reconcileInstances caller r.hostName batch).run st₃ =
      (.ok summary, st')) :
    (r.reportOnce caller).run st =
      (.ok ⟨reply.created, batch.length, skipped, summary⟩, st') := by
  unfold Reporter.reportOnce
  refine (run_bind_ok (run_adapt ReportError.hypervisor hhost) _).trans ?_
  refine (run_bind_ok (run_adapt ReportError.conductor hreply) _).trans ?_
  refine (run_bind_ok (run_adapt ReportError.hypervisor hbatch) _).trans ?_
  exact run_bind_ok (run_adapt ReportError.conductor hsummary) _

/-! ## One process -/

/-- The link to a service in the same process. An error of the service crosses it as a fault. -/
def serviceLink (around : Surroundings σ) : Link (Store × σ) where
  reconcileHost _ host := do
    let result ← (reconcileHost host).run.run around
    return (result.map hostReply).mapError fun e => .remote e.toFault
  reconcileInstances _ hostName instances := do
    return .ok (← (reconcileInstances hostName instances).run around)
  reconcileInstance caller uuid host := do
    let result ← (reconcileInstance caller uuid host).run.run around
    return result.mapError fun e => .remote e.toFault

/-- An operation of a hypervisor, beside a store and a clock. -/
def within (probe : Probe Machine α) : Probe (Store × (Machine × κ)) α :=
  fun (s, (m, k)) => ((probe.run.run m).1, (s, ((probe.run.run m).2, k)))

/-- The simulated hypervisor, beside a store and a clock. -/
def hypervisorWithin : Hypervisor (Store × (Machine × κ)) where
  name := hypervisor.name
  hostname := within hypervisor.hostname
  maxCpus := within hypervisor.maxCpus
  numaTopology := within hypervisor.numaTopology
  activeDomains := within hypervisor.activeDomains
  domainInfo uuid := within (hypervisor.domainInfo uuid)
  vcpuPins uuid := within (hypervisor.vcpuPins uuid)
  pinVcpu uuid vcpu set := within (hypervisor.pinVcpu uuid vcpu set)

/-- What the service finds around it: the clock, and hosts that may work on the machine. -/
def serviceOf (clock : StateM κ UInt64) (executor : Executor (Machine × κ)) :
    Surroundings (Machine × κ) where
  clock := fun (m, k) => ((clock.run k).1, (m, (clock.run k).2))
  executor := executor

/-- The agent of a machine, beside the service. -/
def reporterOf (clock : StateM κ UInt64) (executor : Executor (Machine × κ)) (hostName : String)
    (advertise : Option String) : Reporter (Store × (Machine × κ)) where
  hypervisor := hypervisorWithin
  link := serviceLink (serviceOf clock executor)
  clock := fun (s, (m, k)) => ((clock.run k).1, (s, (m, (clock.run k).2)))
  hostName := hostName
  advertise := advertise

/-! ## What is read -/

/-- A domain as it is reported. -/
def instanceOf (hostName uuid : String) (d : Domain) (now : UInt64) : Instance :=
  ⟨uuid, some hostName, .ofCode d.stateCode, Reporter.pinsByVcpu d.pins, now⟩

/-- Domains as they are reported, without the time; those that cannot be read are left out. -/
def snapshots (hostName : String) (m : Machine) (uuids : List String) : List Instance :=
  uuids.filterMap fun uuid => (m.domain uuid).toOption.map fun d => instanceOf hostName uuid d 0

theorem snapshots_cons_ok {hostName uuid : String} {m : Machine} {d : Domain}
    (h : m.domain uuid = .ok d) (uuids : List String) :
    snapshots hostName m (uuid :: uuids) =
      instanceOf hostName uuid d 0 :: snapshots hostName m uuids := by
  simp [snapshots, h, Except.toOption]

theorem snapshots_cons_error {hostName uuid : String} {m : Machine} {e : HypervisorError}
    (h : m.domain uuid = .error e) (uuids : List String) :
    snapshots hostName m (uuid :: uuids) = snapshots hostName m uuids := by
  simp [snapshots, h, Except.toOption]

theorem map_uuid_snapshots (hostName : String) (m : Machine) (uuids : List String) :
    (snapshots hostName m uuids).map (·.uuid) = uuids.filter fun uuid => (m.domain uuid).isOk := by
  induction uuids with
  | nil => rfl
  | cons uuid uuids ih =>
    cases h : m.domain uuid with
    | ok d =>
      rw [snapshots_cons_ok h, List.map_cons, ih, List.filter_cons_of_pos (by rw [h]; rfl)]
      rfl
    | error e => rw [snapshots_cons_error h, ih, List.filter_cons_of_neg (by rw [h]; exact nofun)]

section Readings

variable (clock : StateM κ UInt64) (executor : Executor (Machine × κ)) (hostName : String)
  (advertise : Option String)

theorem run_collectHost (s : Store) (m : Machine) (k : κ) :
    (reporterOf clock executor hostName advertise).collectHost.run.run (s, (m, k)) =
      (.ok ⟨hostName, m.topology, m.maxCpu, advertise, (clock.run k).1⟩,
        (s, (m, (clock.run k).2))) := rfl

theorem run_collectInstance (uuid : String) (s : Store) (m : Machine) (k : κ) :
    ((reporterOf clock executor hostName advertise).collectInstance uuid).run.run (s, (m, k)) =
      match m.domain uuid with
      | .ok d => (.ok (instanceOf hostName uuid d (clock.run k).1), (s, (m, (clock.run k).2)))
      | .error e => (.error e, (s, (m, k))) := by
  have hinfo : (hypervisorWithin.domainInfo uuid).run.run (s, (m, k)) =
      ((m.domain uuid).map fun d => ⟨uuid, d.stateCode, .ofNat d.pins.length⟩, (s, (m, k))) :=
    rfl
  have hpins : (hypervisorWithin.vcpuPins uuid).run.run (s, (m, k)) =
      ((m.domain uuid).map Domain.pins, (s, (m, k))) := rfl
  unfold Reporter.collectInstance
  cases h : m.domain uuid with
  | error e =>
    rw [h] at hinfo
    exact run_bind_error hinfo _
  | ok d =>
    rw [h] at hinfo hpins
    exact (run_bind_ok hinfo _).trans (run_bind_ok hpins _)

/-- What is read of domains does not depend on the time, and reading leaves all as it is. -/
theorem run_collectEach (uuids : List String) (s : Store) (m : Machine) (k : κ) :
    ∃ batch k', ((reporterOf clock executor hostName advertise).collectEach uuids).run
        (s, (m, k)) = ((batch, uuids.filter fun uuid => !(m.domain uuid).isOk), (s, (m, k'))) ∧
      batch.map Instance.undated = snapshots hostName m uuids := by
  induction uuids generalizing k with
  | nil => exact ⟨[], k, rfl, rfl⟩
  | cons uuid uuids ih =>
    have hone := run_collectInstance clock executor hostName advertise uuid s m k
    unfold Reporter.collectEach
    cases h : m.domain uuid with
    | ok d =>
      rw [h] at hone
      obtain ⟨batch, k', hr, hb⟩ := ih (clock.run k).2
      refine ⟨instanceOf hostName uuid d (clock.run k).1 :: batch, k', ?_, ?_⟩
      · rw [List.filter_cons_of_neg (by rw [h]; simp [Except.isOk, Except.toBool])]
        exact (run_bind_eq hone _).trans (run_bind_eq hr _)
      · rw [List.map_cons, hb, snapshots_cons_ok h]
        rfl
    | error e =>
      rw [h] at hone
      obtain ⟨batch, k', hr, hb⟩ := ih k
      refine ⟨batch, k', ?_, ?_⟩
      · rw [List.filter_cons_of_pos (by rw [h]; rfl)]
        exact (run_bind_eq hone _).trans (run_bind_eq hr _)
      · rw [hb, snapshots_cons_error h]

/-- The domains that run are reported, except for those that cannot be read. -/
theorem run_collectInstances (s : Store) (m : Machine) (k : κ) :
    ∃ batch k', (reporterOf clock executor hostName advertise).collectInstances.run.run
        (s, (m, k)) = (.ok (batch, m.active.filter (· ∈ m.failingInfo)), (s, (m, k'))) ∧
      batch.map Instance.undated = snapshots hostName m m.active := by
  obtain ⟨batch, k', hr, hb⟩ := run_collectEach clock executor hostName advertise m.active s m k
  have hactive : (hypervisorWithin.activeDomains : Probe (Store × (Machine × κ)) _).run.run
      (s, (m, k)) = (.ok m.active, (s, (m, k))) := rfl
  have hskipped : (m.active.filter fun uuid => !(m.domain uuid).isOk) =
      m.active.filter (· ∈ m.failingInfo) := by
    refine List.filter_congr fun uuid hu => ?_
    rw [Bool.eq_iff_iff, Bool.not_eq_true', ← Bool.not_eq_true, m.isOk_domain_iff hu]
    simp
  rw [hskipped] at hr
  exact ⟨batch, k', (run_bind_ok hactive _).trans (run_map_eq hr _), hb⟩

end Readings

/-! ## What is sent -/

section Batches

variable {hostName : String} {m : Machine} {batch : List Instance}

/-- The domains of a batch are those that run and can be read, in the order of the listing. -/
theorem map_uuid_batch (hb : batch.map Instance.undated = snapshots hostName m m.active) :
    batch.map (·.uuid) = m.active.filter (· ∉ m.failingInfo) := by
  have hu : batch.map (·.uuid) = (batch.map Instance.undated).map (·.uuid) := by
    rw [List.map_map]
    rfl
  rw [hu, hb, map_uuid_snapshots]
  refine List.filter_congr fun uuid h => ?_
  rw [Bool.eq_iff_iff, m.isOk_domain_iff h]
  simp

theorem nodup_batch (hb : batch.map Instance.undated = snapshots hostName m m.active) :
    (batch.map (·.uuid)).Nodup := by
  rw [map_uuid_batch hb]
  exact m.nodup_active.filter _

/-- Each record of a batch is what can be read of its domain. -/
theorem exists_domain_of_mem_batch
    (hb : batch.map Instance.undated = snapshots hostName m m.active) {i : Instance}
    (hi : i ∈ batch) :
    ∃ d, m.domain i.uuid = .ok d ∧ i.undated = instanceOf hostName i.uuid d 0 := by
  have hmem : i.undated ∈ snapshots hostName m m.active := hb ▸ List.mem_map_of_mem hi
  obtain ⟨uuid, -, hd⟩ := List.mem_filterMap.1 hmem
  cases h : m.domain uuid with
  | error e => simp [h, Except.toOption] at hd
  | ok d =>
    have he : instanceOf hostName uuid d 0 = i.undated := by
      simpa [h, Except.toOption] using hd
    have hu : uuid = i.uuid := congrArg Instance.uuid he
    exact ⟨d, hu ▸ h, hu ▸ he.symm⟩

/-- The service takes the records as they are, since they name the host that reports them. -/
theorem map_reportedOn_batch (hb : batch.map Instance.undated = snapshots hostName m m.active) :
    batch.map (reportedOn hostName) = batch := by
  refine (List.map_congr_left fun i hi => ?_).trans (List.map_id batch)
  obtain ⟨d, -, he⟩ := exists_domain_of_mem_batch hb hi
  have hh : i.host = some hostName := congrArg Instance.host he
  unfold reportedOn
  rw [← hh]
  rfl

end Batches

end Agent

end VcpuPinning
