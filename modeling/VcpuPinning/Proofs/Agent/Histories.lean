import VcpuPinning.Proofs.Agent.Readings
import VcpuPinning.Proofs.Conductor.Latest
import VcpuPinning.Proofs.Conductor.Placement

/-!
# Histories of hosts

Domains come and go on the hosts of a `Fleet`, their agents report in passes, and the service is
asked to pin, in any order (`Happening`). A pass sends what it reads of the domains that run, and
what it reports of a domain stays in the inventory until some pass reports it again (`Known`). So a
domain that has stopped stays there as it was reported last.
-/

namespace VcpuPinning.Agent

open Conductor

variable {α β ε σ : Type}

/-! ## Agents beside a service -/

/-- An operation of a hypervisor, beside the store of the service. -/
def besideStore (probe : Probe σ α) : Probe (Store × σ) α :=
  fun (s, c) => ((probe.run.run c).1, (s, (probe.run.run c).2))

/-- Hosts with their hypervisors, and what the service finds around it. -/
structure Fleet (σ : Type) where
  around : Surroundings σ
  hypervisor : String → Hypervisor σ
  clock : String → StateM σ UInt64
  advertise : String → Option String

namespace Fleet

/-- The agent of a host. -/
def agent (f : Fleet σ) (hostName : String) : Reporter (Store × σ) where
  hypervisor :=
    let h := f.hypervisor hostName
    { name := h.name
      hostname := besideStore h.hostname
      maxCpus := besideStore h.maxCpus
      numaTopology := besideStore h.numaTopology
      activeDomains := besideStore h.activeDomains
      domainInfo := fun uuid => besideStore (h.domainInfo uuid)
      vcpuPins := fun uuid => besideStore (h.vcpuPins uuid)
      pinVcpu := fun uuid vcpu set => besideStore (h.pinVcpu uuid vcpu set) }
  link := serviceLink f.around
  clock := fun (s, c) => (((f.clock hostName).run c).1, (s, ((f.clock hostName).run c).2))
  hostName := hostName
  advertise := f.advertise hostName

end Fleet

namespace Reporter

/-- A pass up to the list of the domains that run. -/
def listing (r : Reporter σ) (caller : Caller) :
    ExceptT ReportError (StateM σ) (Rpc.ReconciledHost × List String) := do
  let host ← ExceptT.adapt .hypervisor r.collectHost
  let reply ← ExceptT.adapt .conductor (ExceptT.mk (r.link.reconcileHost caller host))
  let uuids ← ExceptT.adapt .hypervisor r.hypervisor.activeDomains
  return (reply, uuids)

/-- A pass from the list of the domains that run. -/
def report (r : Reporter σ) (caller : Caller) (reply : Rpc.ReconciledHost) (uuids : List String) :
    ExceptT ReportError (StateM σ) Report := do
  let (instances, skipped) ← ExceptT.lift (r.collectEach uuids)
  let summary ← ExceptT.adapt .conductor
    (ExceptT.mk (r.link.reconcileInstances caller r.hostName instances))
  return ⟨reply.created, instances.length, skipped, summary⟩

theorem reportOnce_eq (r : Reporter σ) (caller : Caller) : r.reportOnce caller =
    (r.listing caller >>= fun (reply, uuids) => r.report caller reply uuids).run := by
  simp only [reportOnce, listing, report, collectInstances, adapt_bind, adapt_lift, bind_assoc,
    pure_bind]

/-- The instances that a pass sends, if it gets so far. -/
def batch (r : Reporter σ) (caller : Caller) (st : σ) : List Instance :=
  match (r.listing caller).run.run st with
  | (.ok (_, uuids), st) => ((r.collectEach uuids).run st).1.1
  | (.error _, _) => []

theorem uuid_of_collectInstance {r : Reporter σ} {uuid : String} {i : Instance} {st st' : σ}
    (h : (r.collectInstance uuid).run.run st = (.ok i, st')) : i.uuid = uuid := by
  unfold collectInstance at h
  obtain ⟨info, st₁, hinfo, h⟩ := exists_of_run_bind h
  obtain ⟨pins, st₂, hpins, h⟩ := exists_of_run_bind h
  obtain ⟨now, st₃, hnow, h⟩ := exists_of_run_bind h
  cases h
  rfl

/-- Every listed domain is sent or skipped, and no other. -/
theorem collectEach_uuids {r : Reporter σ} {uuids skipped : List String} {batch : List Instance}
    {st st' : σ} (h : (r.collectEach uuids).run st = ((batch, skipped), st')) :
    (∀ i ∈ batch, i.uuid ∈ uuids) ∧
      ∀ uuid ∈ uuids, uuid ∈ skipped ∨ ∃ i ∈ batch, i.uuid = uuid := by
  induction uuids generalizing batch skipped st st' with
  | nil => cases h; simp
  | cons uuid uuids ih =>
    obtain ⟨result, st₁, hone⟩ :
      ∃ result st₁, (r.collectInstance uuid).run.run st = (result, st₁) := ⟨_, _, rfl⟩
    obtain ⟨batch', skipped', st₂, hrest⟩ :
      ∃ batch' skipped' st₂, (r.collectEach uuids).run st₁ = ((batch', skipped'), st₂) :=
      ⟨_, _, _, rfl⟩
    obtain ⟨hsent, hlisted⟩ := ih hrest
    unfold collectEach at h
    replace h := (run_bind_eq hrest _).symm.trans ((run_bind_eq hone _).symm.trans h)
    cases result with
    | ok i =>
      cases h
      have hi : i.uuid = uuid := uuid_of_collectInstance hone
      refine ⟨fun j hj => ?_, fun other ho => ?_⟩
      · rcases List.mem_cons.1 hj with rfl | hj
        · exact List.mem_cons.2 (.inl hi)
        · exact List.mem_cons_of_mem _ (hsent j hj)
      · rcases List.mem_cons.1 ho with rfl | ho
        · exact .inr ⟨i, List.mem_cons_self, hi⟩
        · exact (hlisted other ho).imp_right
            (Exists.imp fun _ => And.imp_left (List.mem_cons_of_mem _))
    | error e =>
      cases h
      refine ⟨fun j hj => List.mem_cons_of_mem _ (hsent j hj), fun other ho => ?_⟩
      rcases List.mem_cons.1 ho with rfl | ho
      · exact .inl List.mem_cons_self
      · exact (hlisted other ho).imp_left (List.mem_cons_of_mem _)

end Reporter

/-! ## Passes -/

/-- A computation keeps a property of the store. -/
def Keeps (I : Store → Prop) (x : StateM (Store × σ) α) : Prop :=
  ∀ st, I st.1 → I (x.run st).2.1

namespace Keeps

variable {I : Store → Prop}

protected theorem bind {x : StateM (Store × σ) α} {f : α → StateM (Store × σ) β} (hx : Keeps I x)
    (hf : ∀ a, Keeps I (f a)) : Keeps I (x >>= f) :=
  fun st h => hf _ _ (hx st h)

theorem andThen {x : ExceptT ε (StateM (Store × σ)) α}
    {f : α → ExceptT ε (StateM (Store × σ)) β} (hx : Keeps I x.run)
    (hf : ∀ a, Keeps I (f a).run) : Keeps I (x >>= f).run := by
  rw [ExceptT.run_bind]
  refine .bind hx fun r => ?_
  cases r with
  | ok a => exact hf a
  | error e => exact fun _ h => h

theorem probe (p : Probe σ α) : Keeps I (besideStore p).run :=
  fun _ h => h

end Keeps

namespace Fleet

variable (f : Fleet σ) {I : Store → Prop} {hostName : String} {caller : Caller}

theorem keeps_collectHost : Keeps I (f.agent hostName).collectHost.run :=
  .andThen (.probe _) fun _ => .andThen (.probe _) fun _ => .andThen (fun _ h => h) fun _ _ h => h

theorem keeps_collectInstance (uuid : String) :
    Keeps I ((f.agent hostName).collectInstance uuid).run :=
  .andThen (.probe _) fun _ => .andThen (.probe _) fun _ => .andThen (fun _ h => h) fun _ _ h => h

theorem keeps_collectEach (hostName : String) (uuids : List String) :
    Keeps I ((f.agent hostName).collectEach uuids) := by
  induction uuids with
  | nil => exact fun _ h => h
  | cons uuid uuids ih =>
    refine .bind (f.keeps_collectInstance uuid) fun result => .bind ih fun _ => ?_
    cases result <;> exact fun _ h => h

/-- The report of a host makes of the store what the request to the service makes of it. -/
theorem snd_link_reconcileHost (around : Surroundings σ) (caller : Caller) (host : Host)
    (st : Store × σ) :
    (((serviceLink around).reconcileHost caller host).run st).2 =
      ((Operation.reportHost host).perform around st).2 := by
  obtain ⟨s, c⟩ := st
  have hr : Runs around (reconcileHost host).run (s, c) _ _ _ := .onStore (.reportHost host)
  rw [perform_reportHost]
  exact congrArg Prod.snd (run_bind_eq (x := (reconcileHost host).run.run around) hr.run _)

/-- What the report of a host keeps, a pass keeps up to the list of the domains. -/
theorem keeps_listing
    (hI : ∀ host st, I st.1 → I ((Operation.reportHost host).perform f.around st).2.1) :
    Keeps I ((f.agent hostName).listing caller).run := by
  refine .andThen (f.keeps_collectHost) fun host => .andThen ?_ fun _ =>
    .andThen (fun _ h => h) fun _ _ h => h
  intro st h
  have hlink := snd_link_reconcileHost f.around caller host st
  exact hlink ▸ hI host st h

/-- A pass with a list of the domains that run ends with the request to the service to take what was
read of them. -/
theorem run_report (reply : Rpc.ReconciledHost) {uuids skipped : List String}
    {batch : List Instance} {st st' : Store × σ}
    (h : ((f.agent hostName).collectEach uuids).run st = ((batch, skipped), st')) :
    ((f.agent hostName).report caller reply uuids).run.run st =
      (.ok ⟨reply.created, batch.length, skipped,
          (((reconcileInstances hostName batch).run f.around).run st').1⟩,
        ((Operation.reportInstances hostName batch).perform f.around st').2) := by
  rw [perform_reportInstances]
  exact run_bind_ok (x := ExceptT.lift ((f.agent hostName).collectEach uuids)) (run_map_eq h _) _

end Fleet

/-! ## Histories -/

/-- What happens on the hosts and at the service. -/
inductive Happening (σ : Type) where
  /-- Domains are started, stopped or removed. -/
  | change (g : σ → σ)
  /-- The service is asked for something. -/
  | request (op : Operation)
  /-- The agent of a host makes a pass. -/
  | pass (hostName : String) (caller : Caller)

namespace Fleet

variable (f : Fleet σ)

/-- What a happening makes of the store and the hosts. A pass is one step: its requests follow each
other with nothing between them. -/
def next : Happening σ → Store × σ → Store × σ
  | .change g, (s, c) => (s, g c)
  | .request op, st => (op.perform f.around st).2
  | .pass hostName caller, st => (((f.agent hostName).reportOnce caller).run st).2

/-- The instances that the service takes reports of in a happening. -/
def reports : Happening σ → Store × σ → List Instance
  | .change _, _ => []
  | .request op, _ => op.reports
  | .pass hostName caller, st => ((f.agent hostName).batch caller st).map (reportedOn hostName)

/-- What a history makes of the store and the hosts. -/
def after (history : List (Happening σ)) (st : Store × σ) : Store × σ :=
  history.foldl (fun st h => f.next h st) st

/-- The instances that the service takes reports of in a history. -/
def told : List (Happening σ) → Store × σ → List Instance
  | [], _ => []
  | h :: history, st => f.reports h st ++ told history (f.next h st)

end Fleet

/-- A store that holds the last report of each instance, and mappings that can be read. -/
structure Known (told : List Instance) (s : Store) : Prop where
  tells : Tells told s
  mappingsKept : s.MappingsKept

namespace Known

variable {told : List Instance} {st : Store × σ}

theorem perform (h : Known told st.1) (around : Surroundings σ) (op : Operation) :
    Known (told ++ op.reports) (op.perform around st).2.1 :=
  ⟨h.tells.perform around op, (effect_perform around h.mappingsKept st.2 op).2⟩

theorem reportHost (h : Known told st.1) (around : Surroundings σ) (host : Host) :
    Known told ((Operation.reportHost host).perform around st).2.1 := by
  have hp := h.perform around (.reportHost host)
  rwa [show (Operation.reportHost host).reports = [] from rfl, List.append_nil] at hp

end Known

/-- What a pass that made its report did: it listed domains, read them, and had the service take
what it read. -/
theorem exists_of_reportOnce {f : Fleet σ} {hostName : String} {caller : Caller} {report : Report}
    {st st' : Store × σ}
    (h : ((f.agent hostName).reportOnce caller).run st = (.ok report, st')) :
    ∃ reply uuids st₁ batch st₂,
      ((f.agent hostName).listing caller).run.run st = (.ok (reply, uuids), st₁) ∧
      ((f.agent hostName).collectEach uuids).run st₁ = ((batch, report.skipped), st₂) ∧
      st' = ((Operation.reportInstances hostName batch).perform f.around st₂).2 := by
  rw [Reporter.reportOnce_eq] at h
  obtain ⟨⟨reply, uuids⟩, st₁, hlist, h⟩ := exists_of_run_bind h
  obtain ⟨batch, skipped, st₂, heach⟩ : ∃ batch skipped st₂,
    ((f.agent hostName).collectEach uuids).run st₁ = ((batch, skipped), st₂) := ⟨_, _, _, rfl⟩
  obtain ⟨hreport, hst⟩ := Prod.mk.inj ((f.run_report reply heach).symm.trans h)
  cases hreport
  exact ⟨reply, uuids, st₁, batch, st₂, hlist, heach, hst.symm⟩

theorem Reporter.batch_eq {r : Reporter σ} {caller : Caller} {reply : Rpc.ReconciledHost}
    {uuids skipped : List String} {batch : List Instance} {st st₁ st₂ : σ}
    (hlist : (r.listing caller).run.run st = (.ok (reply, uuids), st₁))
    (heach : (r.collectEach uuids).run st₁ = ((batch, skipped), st₂)) :
    r.batch caller st = batch := by
  simp only [Reporter.batch, hlist, heach]

namespace Known

variable {told : List Instance} {st : Store × σ}

theorem pass (h : Known told st.1) (f : Fleet σ) (hostName : String) (caller : Caller) :
    Known (told ++ f.reports (.pass hostName caller) st)
      (f.next (.pass hostName caller) st).1 := by
  have hkeeps : Keeps (Known told) ((f.agent hostName).listing caller).run :=
    f.keeps_listing fun host _ hs => hs.reportHost f.around host
  have hlisted := hkeeps st h
  obtain ⟨r, st₁, hlist⟩ :
    ∃ r st₁, ((f.agent hostName).listing caller).run.run st = (r, st₁) := ⟨_, _, rfl⟩
  rw [hlist] at hlisted
  cases r with
  | error e =>
    have hrun := run_bind_error hlist fun (reply, uuids) =>
      (f.agent hostName).report caller reply uuids
    rw [Fleet.next, Fleet.reports, Reporter.reportOnce_eq, hrun, Reporter.batch, hlist]
    simpa using hlisted
  | ok listed =>
    obtain ⟨reply, uuids⟩ := listed
    obtain ⟨batch, skipped, st₂, heach⟩ : ∃ batch skipped st₂,
      ((f.agent hostName).collectEach uuids).run st₁ = ((batch, skipped), st₂) := ⟨_, _, _, rfl⟩
    have hrun := (run_bind_ok hlist fun (reply, uuids) =>
      (f.agent hostName).report caller reply uuids).trans (f.run_report reply heach)
    have hcollected := f.keeps_collectEach hostName uuids st₁ hlisted
    rw [heach] at hcollected
    rw [Fleet.next, Fleet.reports, Reporter.reportOnce_eq, hrun, Reporter.batch_eq hlist heach]
    exact hcollected.perform f.around (.reportInstances hostName batch)

theorem next (h : Known told st.1) (f : Fleet σ) (happening : Happening σ) :
    Known (told ++ f.reports happening st) (f.next happening st).1 := by
  cases happening with
  | change g => simpa [Fleet.reports, Fleet.next] using h
  | request op => exact h.perform f.around op
  | pass hostName caller => exact h.pass f hostName caller

/-- The inventory tells of each instance what was reported last in a history. -/
theorem after (h : Known told st.1) (f : Fleet σ) (history : List (Happening σ)) :
    Known (told ++ f.told history st) (f.after history st).1 := by
  induction history generalizing told st with
  | nil => simpa [Fleet.told, Fleet.after] using h
  | cons happening history ih =>
    rw [Fleet.told, ← List.append_assoc]
    exact ih (h.next f happening)

end Known

/-! ## The inventory after a pass -/

/-- A record that a pass left as it was: it agrees, but for the time, with the last report of its
instance in the history before. -/
structure LeftOver (told : List Instance) (s s' : Store) (uuid : String) (i : Instance) : Prop where
  reported : ∃ j, latest told uuid = some j ∧ i.undated = j.undated
  untouched : s'.row? .instances uuid = s.row? .instances uuid

/-- What a pass with nothing skipped made of an inventory: every listed domain was sent, and no
other. -/
structure Inventoried (hostName : String) (told : List Instance) (uuids : List String)
    (batch : List Instance) (s s' : Store) : Prop where
  known : Known (told ++ batch.map (reportedOn hostName)) s'
  sent : ∀ uuid ∈ uuids, ∃ i ∈ batch, i.uuid = uuid
  listed : ∀ i ∈ batch, i.uuid ∈ uuids
  untouched : ∀ uuid ∉ uuids, s'.row? .instances uuid = s.row? .instances uuid

namespace Inventoried

variable {hostName uuid : String} {told batch : List Instance} {uuids : List String} {s s' : Store}

theorem latest_of_not_listed (h : Inventoried hostName told uuids batch s s')
    (hu : uuid ∉ uuids) :
    latest (told ++ batch.map (reportedOn hostName)) uuid = latest told uuid := by
  have hnone : latest (batch.map (reportedOn hostName)) uuid = none := by
    refine latest_eq_none_iff.2 fun i hi he => ?_
    obtain ⟨j, hj, rfl⟩ := List.mem_map.1 hi
    exact hu (he ▸ h.listed j hj)
  rw [latest_append, hnone, Option.none_or]

/-- A domain that was listed has a record on the host. -/
theorem exists_of_listed (h : Inventoried hostName told uuids batch s s') (hu : uuid ∈ uuids) :
    ∃ i, (s'.getInstance uuid).1 = .ok (some i) ∧ i.host = some hostName := by
  have hsome : latest (batch.map (reportedOn hostName)) uuid ≠ none := by
    obtain ⟨i, hi, rfl⟩ := h.sent uuid hu
    exact fun hn => latest_eq_none_iff.1 hn _ (List.mem_map_of_mem hi) rfl
  obtain ⟨j, hj⟩ := Option.ne_none_iff_exists'.1 hsome
  have hhost : j.host = some hostName := by
    obtain ⟨i, -, rfl⟩ := List.mem_map.1 (mem_of_latest hj)
    rfl
  have hlatest : latest (told ++ batch.map (reportedOn hostName)) uuid = some j := by
    rw [latest_append, hj, Option.some_or]
  rcases h.known.tells.getInstance uuid with ⟨-, hn⟩ | ⟨i, j', hi, hj', hagree⟩
  · exact nomatch hn.symm.trans hlatest
  · obtain rfl := Option.some.inj (hj'.symm.trans hlatest)
    exact ⟨i, hi, (agree_of_undated_eq hagree).1.trans hhost⟩

theorem leftOver (h : Inventoried hostName told uuids batch s s') {i : Instance}
    (hi : (s'.getInstance uuid).1 = .ok (some i)) (hu : uuid ∉ uuids) :
    LeftOver told s s' uuid i where
  reported := by
    rcases h.known.tells.getInstance uuid with ⟨hn, -⟩ | ⟨i', j, hi', hj, hagree⟩
    · exact nomatch hn.symm.trans hi
    · obtain rfl := Option.some.inj (Except.ok.inj (hi'.symm.trans hi))
      exact ⟨j, (h.latest_of_not_listed hu).symm.trans hj, hagree⟩
  untouched := h.untouched uuid hu

end Inventoried

/-- Up to its reports of instances a pass leaves their records as they are. -/
theorem rows_of_read {f : Fleet σ} {hostName : String} {caller : Caller}
    {reply : Rpc.ReconciledHost} {uuids skipped : List String} {batch : List Instance}
    {st st₁ st₂ : Store × σ}
    (hlist : ((f.agent hostName).listing caller).run.run st = (.ok (reply, uuids), st₁))
    (heach : ((f.agent hostName).collectEach uuids).run st₁ = ((batch, skipped), st₂)) :
    st₂.1.rows .instances = st.1.rows .instances := by
  let Same : Store → Prop := fun s => s.rows .instances = st.1.rows .instances
  have hlisting : Keeps Same ((f.agent hostName).listing caller).run :=
    f.keeps_listing fun host st' hs =>
      have hsilent : (Operation.reportHost host).Silent := trivial
      (hsilent.rows_eq f.around st').trans hs
  have hcollect : Keeps Same ((f.agent hostName).collectEach uuids) :=
    f.keeps_collectEach hostName uuids
  have h₁ : Same st₁.1 := by
    have h := hlisting st rfl
    rwa [hlist] at h
  have h₂ := hcollect st₁ h₁
  rwa [heach] at h₂

theorem inventoried_of_reportOnce {f : Fleet σ} {hostName : String} {caller : Caller}
    {report : Report} {told : List Instance} {st st' : Store × σ} (hk : Known told st.1)
    (hrun : ((f.agent hostName).reportOnce caller).run st = (.ok report, st'))
    (hskipped : report.skipped = []) : ∃ reply uuids st₁ batch,
      ((f.agent hostName).listing caller).run.run st = (.ok (reply, uuids), st₁) ∧
      Inventoried hostName told uuids batch st.1 st'.1 := by
  obtain ⟨reply, uuids, st₁, batch, st₂, hlist, heach, hst⟩ := exists_of_reportOnce hrun
  obtain ⟨hlisted, hsent⟩ := Reporter.collectEach_uuids heach
  have hknown := hk.pass f hostName caller
  rw [Fleet.reports, Reporter.batch_eq hlist heach, Fleet.next, hrun] at hknown
  refine ⟨reply, uuids, st₁, batch, hlist, hknown, fun uuid hu => ?_, hlisted, fun uuid hu => ?_⟩
  · exact (hsent uuid hu).resolve_left (by simp [hskipped])
  · have hother : ∀ i ∈ batch, i.uuid ≠ uuid := fun i hi he => hu (he ▸ hlisted i hi)
    rw [hst, row?_reportInstances hother, Store.row?, rows_of_read hlist heach]
    rfl

/-- After a pass with nothing skipped, whatever happened before, every listed domain has a record on
the host. Every record of an instance that runs on the host belongs to a listed domain, or is left
over: reports are only ever replaced, so a domain that has stopped stays as it was reported last. A
request to pin a domain that was not listed is decided by that report. -/
theorem running_record_listed_or_leftOver (f : Fleet σ) (history : List (Happening σ)) (c : σ)
    (hostName : String) (caller : Caller) {report : Report} {s' : Store} {c' : σ}
    (hrun : ((f.agent hostName).reportOnce caller).run (f.after history (.empty, c)) =
      (.ok report, (s', c')))
    (hskipped : report.skipped = []) : ∃ reply uuids st₁,
      ((f.agent hostName).listing caller).run.run (f.after history (.empty, c)) =
        (.ok (reply, uuids), st₁) ∧
      (∀ uuid ∈ uuids, ∃ i, (s'.getInstance uuid).1 = .ok (some i) ∧ i.host = some hostName) ∧
      (∀ uuid i, (s'.getInstance uuid).1 = .ok (some i) → i.host = some hostName →
        i.status = .running → uuid ∈ uuids ∨
          LeftOver (f.told history (.empty, c)) (f.after history (.empty, c)).1 s' uuid i) ∧
      ∀ caller r c'', CpuSpec.validate r.spec = .ok () → r.waitUntilActive = false →
        r.instanceUuid ∉ uuids →
        Verdict r (s'.mapping? r.instanceUuid)
          (latest (f.told history (.empty, c)) r.instanceUuid)
          ((Operation.create caller r).perform f.around (s', c'')).1 := by
  have hempty : Known [] (Store.empty, c).1 := ⟨.empty, Store.MappingsKept.empty⟩
  have hknown := hempty.after f history
  rw [List.nil_append] at hknown
  obtain ⟨reply, uuids, st₁, batch, hlist, h⟩ := inventoried_of_reportOnce hknown hrun hskipped
  refine ⟨reply, uuids, st₁, hlist, fun uuid => h.exists_of_listed, fun uuid i hi _ _ => ?_,
    fun caller r c'' hv hw hu => ?_⟩
  · by_cases hu : uuid ∈ uuids
    · exact .inl hu
    · exact .inr (h.leftOver hi hu)
  · rw [← h.latest_of_not_listed hu]
    exact h.known.tells.verdict h.known.mappingsKept f.around hv hw caller c''

/-- A simulated host with its pinner, at a time that stands still. -/
def Fleet.simulated : Fleet Simulated.Machine where
  around := ⟨fun m => (7, m), fun _ _ mapping m =>
    let pinner : Pinner Simulated.Machine := ⟨Simulated.hypervisor, m.maxCpu⟩
    let result := (pinner.apply mapping.instanceUuid mapping.spec).run m
    (carried result.1, result.2)⟩
  hypervisor := fun _ => Simulated.hypervisor
  clock := fun _ m => (7, m)
  advertise := fun _ => some "sim:1"

/-- Of two domains one has stopped. The other one has its record, and a request to pin a third one,
which was never reported, is refused. -/
theorem running_record_listed_or_leftOver_of_stopped_domain :
    let f := Fleet.simulated
    let caller : Caller := ⟨"q", none, none, true⟩
    let history := [.pass "sim-1" caller, .change (·.addDomain "vm-a" 5 1)]
    let m := ((Simulated.Machine.new "sim-1" 1 1).addDomain "vm-a" 1 1).addDomain "vm-b" 1 1
    ∃ report s' m', ((f.agent "sim-1").reportOnce caller).run (f.after history (.empty, m)) =
        (.ok report, (s', m')) ∧ report.skipped = [] ∧
      (∃ i, (s'.getInstance "vm-b").1 = .ok (some i) ∧ i.host = some "sim-1") ∧
      ((Operation.create caller ⟨"vm-c", "0", false, none⟩).perform f.around (s', m')).1 =
        .error (.instanceNotFound "vm-c") := by
  intro f caller history m
  have hresult : (((f.agent "sim-1").reportOnce caller).run (f.after history (.empty, m))).1 =
      .ok ⟨false, 1, [], ⟨0, 0, 1, 0⟩⟩ := by decide +kernel
  have hlist : (((f.agent "sim-1").listing caller).run.run (f.after history (.empty, m))).1 =
      .ok (⟨false, []⟩, ["vm-b"]) := by decide +kernel
  generalize hrun : ((f.agent "sim-1").reportOnce caller).run (f.after history (.empty, m)) = out
    at hresult
  obtain ⟨result, s', m'⟩ := out
  cases hresult
  obtain ⟨reply, uuids, st₁, hl, hlisted, -, hverdict⟩ :=
    running_record_listed_or_leftOver f history m "sim-1" caller hrun rfl
  rw [hl] at hlist
  cases hlist
  have hlatest : latest (f.told history (.empty, m)) "vm-c" = none := by decide +kernel
  have hv := hverdict caller ⟨"vm-c", "0", false, none⟩ m' (by decide +kernel) rfl (by decide)
  rw [hlatest] at hv
  refine ⟨_, s', m', rfl, rfl, hlisted "vm-b" (by decide), ?_⟩
  generalize ((Operation.create caller _).perform f.around (s', m')).1 = answer at hv ⊢
  cases hv with
  | notFound => rfl
  | alreadyExists target _ => cases target with | named asked => exact nomatch asked
  | accepted target _ _ => cases target with | named asked => exact nomatch asked

/-- A domain is reported and stops. The next pass lists no domain and skips none, and yet the record
of the domain tells that it runs. A request to pin it is accepted: a mapping is written and sent to
the host, where it fails. -/
theorem stopped_domain_is_accepted :
    let f := Fleet.simulated
    let caller : Caller := ⟨"q", none, none, true⟩
    let history := [.pass "sim-1" caller, .change (·.addDomain "vm-a" 5 1)]
    let st := f.after history (.empty, (Simulated.Machine.new "sim-1" 1 1).addDomain "vm-a" 1 1)
    let after := ((f.agent "sim-1").reportOnce caller).run st
    after.1 = .ok ⟨false, 0, [], ⟨0, 0, 0, 0⟩⟩ ∧
      (((f.agent "sim-1").listing caller).run.run st).1 = .ok (⟨false, []⟩, []) ∧
      (after.2.1.getInstance "vm-a").1 = .ok (some ⟨"vm-a", some "sim-1", .running,
        Reporter.pinsByVcpu [.full 1], 7⟩) ∧
      ((Operation.create caller ⟨"vm-a", "0", false, none⟩).perform f.around after.2).1 =
        .ok (.mapping (some ⟨1, "vm-a", none, none, some "sim-1", "0", .failed,
          some "vcpus [0] could not be pinned", 7, 7⟩)) := by
  decide +kernel

end VcpuPinning.Agent
