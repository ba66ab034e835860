import VcpuPinning.Proofs.Conductor.Operations
import VcpuPinning.Proofs.Hypervisor.Simulated

/-!
# Placements

`placement` : a mapping ends as succeeded exactly if its set is pinned on every virtual CPU of the
domain. The cycle of the conductor, the fault that crosses the wire, the loop of the pinner and
the state of the hypervisor are put together here. What the pinner answers settles the mapping
(`Placement.of_apply`), and every operation that applies a mapping has the pinner answer once.
-/

namespace VcpuPinning

namespace Conductor

open Simulated

variable {κ : Type}

/-! ## A host with a pinner -/

/-- What the conductor receives of an answer of a pinner. An error crosses the wire as a fault. -/
def carried (result : Except PinError PinOutcome) : Except ConductorError Rpc.Applied :=
  (result.map fun outcome => ⟨outcome.applied, outcome.vcpuResults⟩).mapError fun e =>
    .ofCallError (.remote e.toFault)

/-- A machine whose pinner applies the mappings, beside a clock. -/
def besidePinner (p : Pinner Machine) (clock : StateM κ UInt64) : Surroundings (Machine × κ) where
  clock := fun (m, k) => ((clock.run k).1, (m, (clock.run k).2))
  executor := fun _ _ mapping (m, k) =>
    let result := (p.apply mapping.instanceUuid mapping.spec).run m
    (carried result.1, (result.2, k))

/-- The operation applies a specification to the domain of an instance, on a host : by a mapping
that is stored, or by a request to write one and apply it at once. -/
inductive Applies (s : Store) : Operation → (uuid spec host : String) → Prop
  | reconcile {caller : Caller} {uuid host : String} {m : Mapping}
      (found : s.mapping? uuid = some m) :
      Applies s (.reconcile caller uuid host) uuid m.spec host
  | reapply {caller : Caller} {uuid host : String} {m : Mapping}
      (found : s.mapping? uuid = some m) (placed : m.host = some host) :
      Applies s (.reapply caller uuid) uuid m.spec host
  | create {caller : Caller} {r : Rpc.CreateMapping} {host : String}
      (valid : CpuSpec.validate r.spec = .ok ()) (active : r.waitUntilActive = false)
      (fresh : s.mapping? r.instanceUuid = none)
      (reported : hostFor r (s.getInstance r.instanceUuid).1 = .ok host) :
      Applies s (.create caller r) r.instanceUuid r.spec host

/-- What a cycle made of the machine, and what the mapping tells about it in the end. -/
structure Placement (p : Pinner Machine) (m m' : Machine) (uuid spec : String) (r : Mapping) :
    Prop where
  /-- The mapping has failed exactly if it has a reason. -/
  ended : r.Ended
  succeed_iff : r.status = .succeed ↔ ∃ d set, m.domain uuid = .ok d ∧
    CpuSpec.compile spec p.maxCpu.toNat = .ok set ∧
    ∀ i < d.pins.length, m.accepts uuid set (.ofNat i)
  /-- Every virtual CPU has the compiled set then. -/
  succeeded : r.status = .succeed → ∃ d set, m.domain uuid = .ok d ∧
    CpuSpec.compile spec p.maxCpu.toNat = .ok set ∧
    m'.pins uuid = some (List.replicate d.pins.length set)
  /-- Those of which the pin was accepted have it in any case, and the others what they had. -/
  pinned : ∀ d set, m.domain uuid = .ok d → CpuSpec.compile spec p.maxCpu.toNat = .ok set →
    m'.pins uuid = some (d.pins.mapIdx fun i former =>
      if m.accepts uuid set (.ofNat i) then set else former)
  /-- Each virtual CPU was attempted once. -/
  attempts : ∀ d set, m.domain uuid = .ok d → CpuSpec.compile spec p.maxCpu.toNat = .ok set →
    m'.pinLog = m.pinLog ++ (List.range d.pins.length).map fun i =>
      ⟨uuid, .ofNat i, set.cpulist, m.accepts uuid set (.ofNat i)⟩
  /-- A failure after that names the refused virtual CPUs. -/
  reason : ∀ d set, m.domain uuid = .ok d → CpuSpec.compile spec p.maxCpu.toNat = .ok set →
    r.status = .failed → r.statusReason = some ("vcpus " ++
      listText ((List.range d.pins.length).filter fun i => !m.accepts uuid set (.ofNat i)) ++
      " could not be pinned")
  /-- A specification that does not compile is the reason, and nothing was attempted. -/
  refused : ∀ d e, m.domain uuid = .ok d → CpuSpec.compile spec p.maxCpu.toNat = .error e →
    m' = m ∧ r.status = .failed ∧ r.statusReason = some e.message
  unreadable : ∀ e, m.domain uuid = .error e → m' = m ∧ r.status = .failed
  others : ∀ other ≠ uuid, m'.domains.get? other = m.domains.get? other

/-! ## What the pinner answers -/

theorem failureOf_carried_spec (e : SpecError) :
    failureOf (carried (.error (.spec e))) = some e.message := rfl

/-- A domain that cannot be read is a failure, whatever the fault tells. -/
theorem failureOf_carried_hypervisor (e : HypervisorError) :
    ∃ text, failureOf (carried (.error (.hypervisor e))) = some text :=
  ⟨_, rfl⟩

theorem failureOf_carried_ok (outcome : PinOutcome) :
    failureOf (carried (.ok outcome)) =
      if outcome.applied then none
      else some ("vcpus " ++ listText outcome.failedVcpus ++ " could not be pinned") := rfl

namespace Placement

variable {p : Pinner Machine} {m m' : Machine} {uuid spec : String} {r : Mapping}

/-- The domain cannot be read, and nothing was pinned. -/
theorem of_unreadable {e : HypervisorError} (hd : m.domain uuid = .error e) (he : r.Ended)
    (hf : r.statusReason = failureOf (carried (.error (.hypervisor e)))) :
    Placement p m m uuid spec r := by
  have hfail : r.status = .failed :=
    he.failed_iff.2 ((failureOf_carried_hypervisor e).imp fun _ h => hf.trans h)
  have hne : r.status ≠ .succeed := by simp [hfail]
  refine ⟨he, ⟨fun h => absurd h hne, ?_⟩, fun h => absurd h hne, ?_, ?_, ?_, ?_,
    fun _ _ => ⟨rfl, hfail⟩, fun _ _ => rfl⟩
  all_goals simp [hd]

/-- The specification does not compile, and nothing was pinned. -/
theorem of_refused {d : Domain} {e : SpecError} (hd : m.domain uuid = .ok d)
    (hc : CpuSpec.compile spec p.maxCpu.toNat = .error e) (he : r.Ended)
    (hf : r.statusReason = failureOf (carried (.error (.spec e)))) :
    Placement p m m uuid spec r := by
  have hreason : r.statusReason = some e.message := hf.trans (failureOf_carried_spec e)
  have hfail : r.status = .failed := he.failed_iff.2 ⟨_, hreason⟩
  have hne : r.status ≠ .succeed := by simp [hfail]
  refine ⟨he, ⟨fun h => absurd h hne, ?_⟩, fun h => absurd h hne, ?_, ?_, ?_, ?_, ?_,
    fun _ _ => rfl⟩
  · simp [hc]
  · simp [hc]
  · simp [hc]
  · simp [hc]
  · intro d' e' _ he'
    obtain rfl := Except.error.inj (hc.symm.trans he')
    exact ⟨rfl, hfail, hreason⟩
  · simp [hd]

/-- Every virtual CPU was to be pinned, and the mapping tells of those that were refused. -/
theorem of_pinned {d : Domain} {set : CpuSet} (hd : m.domain uuid = .ok d)
    (hc : CpuSpec.compile spec p.maxCpu.toNat = .ok set) (hlen : d.pins.length < UInt32.size)
    (hpin : Pinned m m' uuid set (Pinner.vcpusOf (.ofNat d.pins.length)) d) (he : r.Ended)
    (hf : r.statusReason = failureOf
      (carried (.ok ⟨(Pinner.vcpusOf (.ofNat d.pins.length)).map (m.accepts uuid set)⟩))) :
    Placement p m m' uuid spec r := by
  rw [failureOf_carried_ok, failedVcpus_vcpusOf _ hlen] at hf
  have happlied := applied_vcpusOf (m.accepts uuid set) hlen
  have hsucceed : r.status = .succeed ↔
      ∀ i < d.pins.length, m.accepts uuid set (.ofNat i) := by
    rw [he.succeed_iff, ← happlied, hf]
    split <;> simp_all
  have hpins : m'.pins uuid = some (d.pins.mapIdx fun i former =>
      if m.accepts uuid set (.ofNat i) then set else former) := by
    rw [Machine.pins, hpin.domain, ← pinsAfter_vcpusOf _ _ hlen]
    rfl
  have one {d' : Domain} {set' : CpuSet} (hd' : m.domain uuid = .ok d')
      (hc' : CpuSpec.compile spec p.maxCpu.toNat = .ok set') : d = d' ∧ set = set' :=
    ⟨Except.ok.inj (hd.symm.trans hd'), Except.ok.inj (hc.symm.trans hc')⟩
  refine ⟨he, hsucceed.trans ⟨fun h => ⟨d, set, hd, hc, h⟩, ?_⟩,
    fun h => ⟨d, set, hd, hc, ?_⟩, ?_, ?_, ?_, ?_, ?_, hpin.others⟩
  · rintro ⟨d', set', hd', hc', h⟩
    obtain ⟨rfl, rfl⟩ := one hd' hc'
    exact h
  · rw [hpins, mapIdx_eq_replicate fun i hi former => if_pos (hsucceed.1 h i hi)]
  · intro d' set' hd' hc'
    obtain ⟨rfl, rfl⟩ := one hd' hc'
    exact hpins
  · intro d' set' hd' hc'
    obtain ⟨rfl, rfl⟩ := one hd' hc'
    rw [hpin.log, vcpusOf_ofNat hlen, List.map_map]
    rfl
  · intro d' set' hd' hc' hfail
    obtain ⟨rfl, rfl⟩ := one hd' hc'
    obtain ⟨text, ht⟩ := he.failed_iff.1 hfail
    split at hf
    · simp [hf] at ht
    · exact hf
  · simp [hc]
  · simp [hd]

/-- The answer of the pinner settles the mapping. -/
theorem of_apply (hp : Served p m) {result : Except PinError PinOutcome}
    (hr : (p.apply uuid spec).run m = (result, m')) (he : r.Ended)
    (hf : r.statusReason = failureOf (carried result)) : Placement p m m' uuid spec r := by
  cases hd : m.domain uuid with
  | error e =>
    rw [apply_of_unreadable hp hd] at hr
    obtain ⟨rfl, rfl⟩ := Prod.mk.inj hr
    exact of_unreadable hd he hf
  | ok d =>
  cases hc : CpuSpec.compile spec p.maxCpu.toNat with
  | error e =>
    rw [apply_of_refused hp hd hc] at hr
    obtain ⟨rfl, rfl⟩ := Prod.mk.inj hr
    exact of_refused hd hc he hf
  | ok set =>
    obtain ⟨m₁, ha, hpin⟩ := apply_of_compiled hp hd hc
    rw [ha] at hr
    obtain ⟨rfl, rfl⟩ := Prod.mk.inj hr
    exact of_pinned hd hc (hp.length_pins_lt (get?_of_domain hd)) hpin he hf

end Placement

/-! ## One cycle -/

/-- An attempt on a reported host has its pinner answer once. -/
theorem attempt_besidePinner {p : Pinner Machine} {clock : StateM κ UInt64} {s : Store}
    {host : String} {h : Host} (hh : (s.getHost host).1 = .ok (some h)) (caller : Caller)
    (mapping : Mapping) (m : Machine) (k : κ) :
    attempt (besidePinner p clock) caller mapping host s (m, k) =
      ⟨[.stated (.findHost host), .called caller h mapping],
        failureOf (carried ((p.apply mapping.instanceUuid mapping.spec).run m).1),
        (((p.apply mapping.instanceUuid mapping.spec).run m).2, (clock.run k).2)⟩ := by
  rw [attempt, hh]
  rfl

/-- A cycle of an operation run alone, on a host that was reported : the answer is the mapping as
it is stored, and it tells what became of the pins. -/
theorem placement {p : Pinner Machine} {clock : StateM κ UInt64} {m : Machine} {k : κ} {s : Store}
    {op : Operation} {uuid spec host : String} {h : Host} (hs : Reached s) (hm : Served p m)
    (hh : (s.getHost host).1 = .ok (some h)) (ha : Applies s op uuid spec host) :
    ∃ r s' m' k', op.perform (besidePinner p clock) (s, (m, k)) =
        (.ok (.mapping (some r)), (s', (m', k'))) ∧
      r.instanceUuid = uuid ∧ r.spec = spec ∧
      s'.row? .mappings uuid = some (Store.encode Mapping.toJson r) ∧
      Placement p m m' uuid spec r := by
  have hk := hs.mappingsKept
  cases ha with
  | @reconcile caller uuid host v found =>
    obtain rfl := hk.instanceUuid_of_mapping? found
    have hr : Runs (besidePinner p clock) (reconcileInstance caller _ host).run (s, (m, k)) _ _ _ :=
      Runs.reconcile_of_some hk found caller host rfl rfl
        (attempt_besidePinner (by simpa using hh) caller _ m _)
    refine ⟨_, _, _, _, (hr.map Answer.mapping).run, rfl, rfl, ?_,
      .of_apply hm (Prod.eta _).symm (Mapping.ended_afterCycle _ _ _)
        (Mapping.statusReason_afterCycle _ _ _)⟩
    exact Store.row?_putRow_self _ _ _ _
  | @reapply caller uuid host v found placed =>
    obtain rfl := hk.instanceUuid_of_mapping? found
    have hr : Runs (besidePinner p clock) (reapplyMapping caller _).run (s, (m, k)) _ _ _ :=
      Runs.reapply_of_host hk found placed caller _ (attempt_besidePinner hh caller _ m _)
    refine ⟨_, _, _, _, (hr.map fun m => Answer.mapping (some m)).run, rfl, rfl, ?_,
      .of_apply hm (Prod.eta _).symm (Mapping.ended_afterCycle _ _ _)
        (Mapping.statusReason_afterCycle _ _ _)⟩
    exact Store.row?_putRow_self _ _ _ _
  | @create caller r host valid active fresh reported =>
    have hr : Runs (besidePinner p clock) (createMapping caller r).run (s, (m, k)) _ _ _ :=
      Runs.create_applied hk valid active reported fresh rfl rfl
        (attempt_besidePinner (by simpa using hh) caller _ m _)
    refine ⟨_, _, _, _, (hr.map fun m => Answer.mapping (some m)).run, rfl, rfl, ?_,
      .of_apply hm (Prod.eta _).symm (Mapping.ended_afterCycle _ _ _)
        (Mapping.statusReason_afterCycle _ _ _)⟩
    exact Store.row?_putRow_self _ _ _ _

/-- A store to which one host has reported. -/
def storeOfHost (host : Host) : Store :=
  (Operation.after ⟨fun c : Unit => (0, c), fun _ _ _ => pure (.error .unauthorized)⟩
    [.reportHost host] (.empty, ())).1

/-- A domain of which one virtual CPU is refused : the other one is pinned, and the mapping tells
which one failed. -/
theorem placement_of_refused_vcpu :
    let m := ((Machine.new "sim-1" 1 4).addDomain "vm-a" 1 2).failPin "vm-a" 1
    ∃ r s' m' k',
      (Operation.create ⟨"r", none, none, true⟩ ⟨"vm-a", "1-2", false, some "sim-1"⟩).perform
          (besidePinner ⟨hypervisor, 4⟩ fun c : Unit => (7, c))
          (storeOfHost ⟨"sim-1", .empty, 4, none, 0⟩, (m, ())) =
        (.ok (.mapping (some r)), (s', (m', k'))) ∧
      s'.row? .mappings "vm-a" = some (Store.encode Mapping.toJson r) ∧ r.status = .failed ∧
      r.statusReason = some "vcpus [1] could not be pinned" ∧
      m'.pins "vm-a" = some [⟨[false, true, true, false]⟩, .full 4] := by
  intro m
  have hm : Served ⟨hypervisor, 4⟩ m := .failPin "vm-a" 1 (.addDomain "vm-a" 1 2 (.new rfl))
  have hd : m.domain "vm-a" = .ok ⟨1, [.full 4, .full 4]⟩ := by decide +kernel
  have hc : CpuSpec.compile "1-2" 4 = .ok ⟨[false, true, true, false]⟩ := by decide +kernel
  have h0 : m.accepts "vm-a" ⟨[false, true, true, false]⟩ 0 = true := by decide +kernel
  have h1 : m.accepts "vm-a" ⟨[false, true, true, false]⟩ 1 = false := by decide +kernel
  have ha : Applies (storeOfHost ⟨"sim-1", .empty, 4, none, 0⟩)
      (.create ⟨"r", none, none, true⟩ ⟨"vm-a", "1-2", false, some "sim-1"⟩)
      "vm-a" "1-2" "sim-1" :=
    .create (by decide +kernel) rfl (by decide +kernel) (by decide +kernel)
  obtain ⟨r, s', m', k', hr, -, -, hrow, hp⟩ :=
    placement (h := ⟨"sim-1", .empty, 4, none, 0⟩) ⟨Unit, _, _, _, rfl⟩ hm (by decide +kernel) ha
  have hfail : r.status = .failed := by
    rw [hp.ended.failed_iff, ← Option.ne_none_iff_exists', ne_eq, ← hp.ended.succeed_iff,
      hp.succeed_iff]
    rintro ⟨d, set, hd', hc', hall⟩
    obtain rfl := Except.ok.inj (hd.symm.trans hd')
    obtain rfl := Except.ok.inj (hc.symm.trans hc')
    exact Bool.false_ne_true (h1.symm.trans (hall 1 (by decide)))
  have hl : (List.range 2).filter
      (fun i => !m.accepts "vm-a" ⟨[false, true, true, false]⟩ (.ofNat i)) = [1] := by
    simp [List.range_succ, h0, h1]
  refine ⟨r, s', m', k', hr, hrow, hfail, ?_, ?_⟩
  · rw [hp.reason _ _ hd hc hfail]
    exact congrArg (fun ns => some ("vcpus " ++ listText ns ++ " could not be pinned")) hl
  · rw [hp.pinned _ _ hd hc]
    simp [List.mapIdx_cons, h0, h1]

end Conductor

end VcpuPinning
