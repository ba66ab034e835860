import VcpuPinning.Proofs.Agent.Positions
import VcpuPinning.Proofs.Agent.Readings
import VcpuPinning.Proofs.Conductor.Reports

/-!
# Passes of an agent

`pass_reconciles` says what one pass of an agent makes of the store of the service, and that a
second pass over the same host changes nothing: both passes report the same but for the time, and
the store keeps a record that a report agrees with.
-/

namespace VcpuPinning.Agent

open Conductor Simulated

variable {σ κ : Type}

/-! ## Requests -/

theorem run_link_reconcileHost (around : Surroundings σ) {host : Host} {s s' : Store}
    {outcome : Upsert} (h : s.upsertHost host = (.ok outcome, s')) (caller : Caller) (c : σ) :
    ((serviceLink around).reconcileHost caller host).run (s, c) =
      (.ok (hostReply outcome), (s', (around.clock.run c).2)) := by
  have hq : Statement.perform (around.clock.run c).1 s (.reportHost host) = (.ok outcome, s') := h
  have hr := (Runs.onStore_ok (c := c) hq).run
  exact run_bind_eq (x := (reconcileHost host).run.run around) hr _

theorem run_link_reconcileInstances {around : Surroundings σ} {hostName : String}
    {batch : List Instance} {st st' : Store × σ} {summary : Rpc.Summary}
    (h : ((reconcileInstances hostName batch).run around).run st = (summary, st'))
    (caller : Caller) :
    ((serviceLink around).reconcileInstances caller hostName batch).run st =
      (.ok summary, st') :=
  run_bind_eq h _

/-- The clock of the service does not touch the machine. -/
theorem exists_iterate_clock (clock : StateM κ UInt64) (executor : Executor (Machine × κ))
    (n : ℕ) (m : Machine) (k : κ) :
    ∃ k', (fun c => ((serviceOf clock executor).clock.run c).2)^[n] (m, k) = (m, k') := by
  induction n generalizing k with
  | zero => exact ⟨k, rfl⟩
  | succ n ih => exact ih (clock.run k).2

/-! ## Passes -/

/-- A pass from one store to another: what is sent, and what becomes of it. -/
structure Pass (hostName : String) (advertise : Option String) (m : Machine) (s s' : Store) where
  host : Host
  outcome : Upsert
  /-- The store between the two requests. -/
  between : Store
  batch : List Instance
  outcomes : List Upsert
  host_eq : host.undated = ⟨hostName, m.topology, m.maxCpu, advertise, 0⟩
  take_eq : Store.hostReports.take host s = (.ok outcome, between)
  batch_eq : batch.map Instance.undated = snapshots hostName m m.active
  takeEach_eq : Store.instanceReports.takeEach batch between = (outcomes.map .ok, s')

/-- The two requests that a pass makes of the service, and their answers. -/
def Sends (around : Surroundings (Machine × κ)) (hostName : String) (m : Machine) (host : Host)
    (batch : List Instance) (report : Report) (s s' : Store) : Prop :=
  ∃ k₁ k₂ between c₁ c₂ outcome,
    (Operation.reportHost host).perform around (s, (m, k₁)) =
        (.ok (.host outcome), (between, c₁)) ∧
      report.hostCreated = decide (outcome = .created) ∧
      (Operation.reportInstances hostName batch).perform around (between, (m, k₂)) =
        (.ok (.instances report.summary), (s', c₂))

/-- What a pass over a machine makes of a store. -/
structure Reconciled (m : Machine) (hostName : String) (advertise : Option String)
    (batch : List Instance) (report : Report) (s s' : Store) : Prop where
  /-- Each domain that runs is listed once. -/
  listed : hypervisor.activeDomains.run.run m = (.ok m.active, m) ∧ m.active.Nodup
  /-- Those that can be read are reported, the others are skipped. -/
  reported : batch.map (·.uuid) = m.active.filter (· ∉ m.failingInfo)
  skipped : report.skipped = m.active.filter (· ∈ m.failingInfo)
  counted : report.instances = batch.length
  host : ∃ h, (s'.getHost hostName).1 = .ok (some h) ∧ h.topology = m.topology ∧
    h.maxCpu = m.maxCpu ∧ h.rpcAddress = advertise
  instances : ∀ uuid ∈ batch.map (·.uuid), ∃ d i, m.domains.get? uuid = some d ∧
    (s'.getInstance uuid).1 = .ok (some i) ∧ i.host = some hostName ∧
    i.status = .ofCode d.stateCode ∧ ∀ v, i.cpuMappings.get? v = d.pins[v.toNat]?
  /-- The counters are numbers of 64 bits, and so is their sum. -/
  summed : report.summary.created + report.summary.updated + report.summary.unchanged =
    .ofNat batch.length ∧ report.summary.failed = 0
  summed_toNat : batch.length < UInt64.size →
    report.summary.created.toNat + report.summary.updated.toNat +
      report.summary.unchanged.toNat = batch.length
  mappings : s'.mappings = s.mappings
  sequences : s'.sequences = s.sequences
  otherHosts : ∀ name ≠ hostName, s'.row? .hosts name = s.row? .hosts name
  otherInstances : ∀ uuid ∉ batch.map (·.uuid),
    s'.row? .instances uuid = s.row? .instances uuid

namespace Pass

variable {clock : StateM κ UInt64} {executor : Executor (Machine × κ)} {hostName : String}
  {advertise : Option String} {m : Machine} {s s' s'' : Store}

/-- What a pass is answered with. -/
def report (p : Pass hostName advertise m s s') : Report :=
  ⟨p.outcome = .created, p.batch.length, m.active.filter (· ∈ m.failingInfo),
    summaryOf p.outcomes⟩

/-- The report of a host leaves the other tables as they are. -/
theorem rows_of_take {host : Host} {r : Except StoreError Upsert} {between : Store}
    (ht : Store.hostReports.take host s = (r, between)) {t : Store.Table} (h : t ≠ .hosts) :
    between.rows t = s.rows t := by
  have hrows := Store.hostReports.rows_take_of_ne host s h
  rwa [ht] at hrows

variable (clock executor hostName advertise m) in
/-- A pass over a store that can be read succeeds. -/
theorem exists_run (hh : Store.hostReports.Kept s) (hi : Store.instanceReports.Kept s)
    (caller : Caller) (k : κ) :
    ∃ (s' : Store) (p : Pass hostName advertise m s s') (k' : κ),
      ((reporterOf clock executor hostName advertise).reportOnce caller).run (s, (m, k)) =
        (.ok p.report, (s', (m, k'))) ∧
      Sends (serviceOf clock executor) hostName m p.host p.batch p.report s s' := by
  have hhost := run_collectHost clock executor hostName advertise s m k
  obtain ⟨outcome, between, htake⟩ := Store.ReportKind.exists_take_eq_ok hh
    ⟨hostName, m.topology, m.maxCpu, advertise, (clock.run k).1⟩
  obtain ⟨batch, k₂, hbatch, hb⟩ := run_collectInstances clock executor hostName advertise between
    m (clock.run (clock.run k).2).2
  obtain ⟨outcomes, s', heach⟩ :=
    Store.ReportKind.exists_takeEach_eq_ok (hi.congr (rows_of_take htake (by decide))) batch
  obtain ⟨k', hk'⟩ := exists_iterate_clock clock executor batch.length m k₂
  have hupsert : s.upsertHost ⟨hostName, m.topology, m.maxCpu, advertise, (clock.run k).1⟩ =
      (.ok outcome, between) := htake
  have hsummary := run_reconcileInstances (serviceOf clock executor) hostName
    ((map_reportedOn_batch hb).symm ▸ heach) (m, k₂)
  rw [hk'] at hsummary
  have hreply := run_link_reconcileHost (serviceOf clock executor) hupsert caller
    (m, (clock.run k).2)
  refine ⟨s', ⟨_, outcome, between, batch, outcomes, rfl, htake, hb, heach⟩, k', ?_, ?_⟩
  · exact run_reportOnce hhost hreply hbatch (run_link_reconcileInstances hsummary caller)
  · refine ⟨(clock.run k).2, k₂, between, (m, (clock.run (clock.run k).2).2), (m, k'), outcome,
      ?_, rfl, ?_⟩
    · rw [perform_reportHost, hupsert]
      rfl
    · rw [perform_reportInstances, show StateT.run _ _ = _ from hsummary]
      rfl

/-- The reports of instances leave the other tables as they are. -/
theorem rows_eq (p : Pass hostName advertise m s s') {t : Store.Table} (h : t ≠ .instances) :
    s'.rows t = p.between.rows t := by
  have hrows := Store.instanceReports.rows_takeEach p.batch p.between h
  rwa [p.takeEach_eq] at hrows

theorem sequences_eq (p : Pass hostName advertise m s s') : s'.sequences = s.sequences := by
  have hfirst := Store.hostReports.sequences_take p.host s
  have hsecond := Store.instanceReports.sequences_takeEach p.batch p.between
  rw [p.take_eq] at hfirst
  rw [p.takeEach_eq] at hsecond
  exact hsecond.trans hfirst

theorem length_outcomes (p : Pass hostName advertise m s s') :
    p.outcomes.length = p.batch.length := by
  have hl := Store.instanceReports.length_fst_takeEach p.batch p.between
  rwa [p.takeEach_eq, List.length_map] at hl

theorem name_host (p : Pass hostName advertise m s s') : p.host.name = hostName :=
  congrArg Host.name p.host_eq

theorem hostsKept (p : Pass hostName advertise m s s')
    (hh : Store.hostReports.Kept s) : Store.hostReports.Kept s' := by
  have hk : Store.hostReports.Kept p.between := by
    have hk := hh.take p.host
    rwa [p.take_eq] at hk
  exact hk.congr (p.rows_eq (by decide))

theorem between_kept (p : Pass hostName advertise m s s')
    (hi : Store.instanceReports.Kept s) : Store.instanceReports.Kept p.between :=
  hi.congr (rows_of_take p.take_eq (by decide))

theorem instancesKept (p : Pass hostName advertise m s s')
    (hi : Store.instanceReports.Kept s) : Store.instanceReports.Kept s' := by
  have hk := (p.between_kept hi).takeEach p.batch
  rwa [p.takeEach_eq] at hk

/-- The stored host agrees with the machine. -/
theorem stored_host (p : Pass hostName advertise m s s')
    (hh : Store.hostReports.Kept s) :
    ∃ h, Store.hostReports.stored? s' hostName = some h ∧
      h.undated = ⟨hostName, m.topology, m.maxCpu, advertise, 0⟩ := by
  have hs : Store.hostReports.stored? s' = Store.hostReports.stored? p.between :=
    Store.hostReports.stored?_congr (p.rows_eq (by decide))
  obtain ⟨h, ht, hu⟩ := Store.ReportKind.stored?_take_self hh p.host
  rw [p.take_eq, show Store.hostReports.key p.host = hostName from p.name_host] at ht
  exact ⟨h, by rw [hs, ht], hu.trans p.host_eq⟩

/-- The stored records of a batch agree with what was sent. -/
theorem stored_instance (p : Pass hostName advertise m s s')
    (hi : Store.instanceReports.Kept s) {i : Instance} (h : i ∈ p.batch) :
    ∃ j, Store.instanceReports.stored? s' i.uuid = some j ∧ j.undated = i.undated := by
  have hs := Store.ReportKind.stored?_takeEach (p.between_kept hi) (nodup_batch p.batch_eq) h
  rwa [p.takeEach_eq] at hs

theorem reconciled (p : Pass hostName advertise m s s') (hh : Store.hostReports.Kept s)
    (hi : Store.instanceReports.Kept s)
    (hm : ∀ uuid d, m.domains.get? uuid = some d → d.pins.length < UInt32.size) :
    Reconciled m hostName advertise p.batch p.report s s' where
  listed := ⟨m.run_activeDomains, m.nodup_active⟩
  reported := map_uuid_batch p.batch_eq
  skipped := rfl
  counted := rfl
  host := by
    obtain ⟨h, hs, hu⟩ := p.stored_host hh
    have hget : (s'.getHost hostName).1 = .ok (some h) := by
      rw [← hs]
      exact congrArg Prod.fst ((p.hostsKept hh).find_eq hostName)
    exact ⟨h, hget, congrArg Host.topology hu, congrArg Host.maxCpu hu,
      congrArg Host.rpcAddress hu⟩
  instances uuid hu := by
    obtain ⟨i, hmem, rfl⟩ := List.mem_map.1 hu
    obtain ⟨d, hd, hread⟩ := exists_domain_of_mem_batch p.batch_eq hmem
    obtain ⟨j, hs, hj⟩ := p.stored_instance hi hmem
    have hget : (s'.getInstance i.uuid).1 = .ok (some j) := by
      rw [← hs]
      exact congrArg Prod.fst ((p.instancesKept hi).find_eq i.uuid)
    have hdom := get?_of_domain hd
    have hagree := hj.trans hread
    have hpins : j.cpuMappings = Reporter.pinsByVcpu d.pins :=
      congrArg Instance.cpuMappings hagree
    refine ⟨d, j, hdom, hget, congrArg Instance.host hagree, congrArg Instance.status hagree,
      fun v => ?_⟩
    rw [hpins, Reporter.get?_pinsByVcpu (Nat.le_of_lt (hm _ d hdom))]
  summed := by
    refine ⟨?_, rfl⟩
    have hcount := count_outcomes p.outcomes
    rw [p.length_outcomes] at hcount
    rw [← hcount, UInt64.ofNat_add, UInt64.ofNat_add]
    rfl
  summed_toNat hlt := by
    have hcount := count_outcomes p.outcomes
    rw [p.length_outcomes] at hcount
    simp only [report, summaryOf]
    rw [UInt64.toNat_ofNat_of_lt' (by omega), UInt64.toNat_ofNat_of_lt' (by omega),
      UInt64.toNat_ofNat_of_lt' (by omega)]
    exact hcount
  mappings := by
    have hrows := p.rows_eq (t := .mappings) (by decide)
    exact hrows.trans (rows_of_take p.take_eq (t := .mappings) (by decide))
  sequences := p.sequences_eq
  otherHosts name hne := by
    have hkey : name ≠ Store.hostReports.key p.host := fun he => hne (he.trans p.name_host)
    have hrow := Store.hostReports.row?_take_of_ne p.host s hkey .hosts
    rw [p.take_eq] at hrow
    rw [← hrow, Store.row?, p.rows_eq (by decide)]
    rfl
  otherInstances uuid hnot := by
    have hkey : ∀ i ∈ p.batch, Store.instanceReports.key i ≠ uuid :=
      fun i hmem he => hnot (he ▸ List.mem_map_of_mem hmem)
    have hrow := Store.instanceReports.row?_takeEach hkey p.between .instances
    rw [p.takeEach_eq] at hrow
    rw [hrow, Store.row?, rows_of_take p.take_eq (by decide)]
    rfl

/-- A second pass over the same machine finds everything as it was reported. -/
theorem again (p : Pass hostName advertise m s s') (hh : Store.hostReports.Kept s)
    (hi : Store.instanceReports.Kept s) (q : Pass hostName advertise m s' s'') :
    s'' = s' ∧
      q.report = ⟨false, p.batch.length, p.report.skipped,
        ⟨0, 0, .ofNat p.batch.length, 0⟩⟩ := by
  have hsame : q.batch.map Instance.undated = p.batch.map Instance.undated :=
    q.batch_eq.trans p.batch_eq.symm
  have hlength : q.batch.length = p.batch.length := by simpa using congrArg List.length hsame
  -- the host agrees with the stored one
  obtain ⟨h, hs, hu⟩ := p.stored_host hh
  have hhost := Store.ReportKind.take_of_agree (p.hostsKept hh) (a := q.host) (b := h)
    (by rw [show Store.hostReports.key q.host = hostName from q.name_host, hs])
    (hu.trans q.host_eq.symm)
  obtain ⟨houtcome, hbetween⟩ := Prod.mk.inj (hhost.symm.trans q.take_eq)
  -- and so does each instance
  have hagree : ∀ i ∈ q.batch,
      ∃ j, Store.instanceReports.stored? s' i.uuid = some j ∧ j.undated = i.undated := by
    intro i hmem
    have hin : i.undated ∈ p.batch.map Instance.undated := hsame ▸ List.mem_map_of_mem hmem
    obtain ⟨i₀, hmem₀, hi₀⟩ := List.mem_map.1 hin
    obtain ⟨j, hj, hju⟩ := p.stored_instance hi hmem₀
    have huuid : i₀.undated.uuid = i.undated.uuid := congrArg Instance.uuid hi₀
    have hkey : i₀.uuid = i.uuid := huuid
    exact ⟨j, hkey ▸ hj, hju.trans hi₀⟩
  have heach := Store.ReportKind.takeEach_of_agree (p.instancesKept hi) hagree
  have hsecond := q.takeEach_eq
  rw [← hbetween, heach] at hsecond
  obtain ⟨houtcomes, hstore⟩ := Prod.mk.inj hsecond
  have hunchanged : q.outcomes = List.replicate q.batch.length .unchanged := by
    rw [← List.map_replicate] at houtcomes
    exact ((List.map_inj_right fun _ _ h => Except.ok.inj h).1 houtcomes).symm
  refine ⟨hstore.symm, ?_⟩
  unfold report
  rw [← Except.ok.inj houtcome, hunchanged, summaryOf_unchanged, hlength]
  rfl

end Pass

/-- One pass of an agent against a service in the same process, over a store that the service
reached. The domains that run are reported in the order of the listing, except for those that cannot
be read, which are skipped. The host and the reported domains are stored then as the machine has
them, and nothing else has changed. A second pass over the same machine, at whatever times, reports
each domain as unchanged and leaves the store as it is. -/
theorem pass_reconciles {p : Pinner Machine} {m : Machine} {s : Store} (hs : Reached s)
    (hm : Served p m) (clock : StateM κ UInt64) (executor : Executor (Machine × κ))
    (hostName : String) (advertise : Option String) (caller : Caller) (k : κ) :
    ∃ host batch report s' k',
      ((reporterOf clock executor hostName advertise).reportOnce caller).run (s, (m, k)) =
        (.ok report, (s', (m, k'))) ∧
      Sends (serviceOf clock executor) hostName m host batch report s s' ∧
      Reconciled m hostName advertise batch report s s' ∧
      ∀ caller later, ∃ later',
        ((reporterOf clock executor hostName advertise).reportOnce caller).run
            (s', (m, later)) =
          (.ok ⟨false, batch.length, report.skipped, ⟨0, 0, .ofNat batch.length, 0⟩⟩,
            (s', (m, later'))) := by
  have hh := hs.kept Store.hostReports
  have hi := hs.kept Store.instanceReports
  obtain ⟨s', pass, k', hrun, hsends⟩ :=
    Pass.exists_run clock executor hostName advertise m hh hi caller k
  refine ⟨pass.host, pass.batch, pass.report, s', k', hrun, hsends,
    pass.reconciled hh hi fun uuid d hd => hm.length_pins_lt hd, fun caller later => ?_⟩
  obtain ⟨s'', second, later', hrun', -⟩ := Pass.exists_run clock executor hostName advertise m
    (pass.hostsKept hh) (pass.instancesKept hi) caller later
  obtain ⟨rfl, hreport⟩ := pass.again hh hi second
  exact ⟨later', hreport ▸ hrun'⟩

/-- Two domains, one of which cannot be read: the other one is reported, with its pins. -/
theorem pass_reconciles_of_unreadable_domain :
    let m := (((Machine.new "sim-1" 1 4).addDomain "vm-a" 1 2).addDomain "vm-b" 1 1).failInfo "vm-b"
    ∃ report s' k',
      ((reporterOf (fun n : UInt64 => (n, n + 1)) (fun _ _ _ => pure (.error .unauthorized))
          "sim-1" none).reportOnce ⟨"r", none, none, true⟩).run (.empty, (m, 7)) =
        (.ok report, (s', (m, k'))) ∧
      report.skipped = ["vm-b"] ∧ report.instances = 1 ∧
      ∃ i, (s'.getInstance "vm-a").1 = .ok (some i) ∧ i.status = .running ∧
        i.cpuMappings.get? 1 = some (.full 4) := by
  intro m
  have hm : Served ⟨hypervisor, 4⟩ m :=
    .failInfo "vm-b" (.addDomain "vm-b" 1 1 (.addDomain "vm-a" 1 2 (.new rfl)))
  have hs : Reached .empty :=
    ⟨Unit, ⟨fun c => (0, c), fun _ _ _ => pure (.error .unauthorized)⟩, [], (), rfl⟩
  have hd : m.domains.get? "vm-a" = some ⟨1, [.full 4, .full 4]⟩ := by decide +kernel
  obtain ⟨host, batch, report, s', k', hrun, -, hr, -⟩ := pass_reconciles hs hm
    (fun n : UInt64 => (n, n + 1)) (fun _ _ _ => pure (.error .unauthorized)) "sim-1" none
    ⟨"r", none, none, true⟩ 7
  have hbatch : batch.map (·.uuid) = ["vm-a"] := hr.reported.trans (by decide +kernel)
  have hlength : batch.length = 1 := by simpa using congrArg List.length hbatch
  obtain ⟨d, i, hdom, hget, -, hstatus, hpins⟩ :=
    hr.instances "vm-a" (by rw [hbatch]; exact List.mem_singleton_self _)
  obtain rfl := Option.some.inj (hd.symm.trans hdom)
  exact ⟨report, s', k', hrun, hr.skipped.trans (by decide +kernel), hr.counted.trans hlength,
    i, hget, hstatus, hpins 1⟩

end VcpuPinning.Agent
