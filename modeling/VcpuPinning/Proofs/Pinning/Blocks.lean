import VcpuPinning.Proofs.Hypervisor.Attempts
import VcpuPinning.Proofs.Pinning.Exclusion

/-!
# Blocks of attempts

Applies on the simulated hypervisor, in any order of their steps. What one of them meets is not
changed by the others, so that it makes the attempts and has the result that it would have by
itself (`Run.tracked`). The log of a domain is one block after the other, each of an apply to one
set, and every virtual CPU holds the set of the last block in which it was pinned
(`applies_in_blocks`).
-/

namespace VcpuPinning.Pinning

open Pinner Simulated

variable {ι : Type} {p : Pinner Machine} {m : Machine} {req : ι → Request}
  {labels : List (Label ι)} {sys : System Machine ι}

/-! ## One apply -/

/-- The set that an apply pins to, unless the domain cannot be read or the specification does not
compile. -/
def target? (p : Pinner Machine) (m : Machine) (r : Request) : Option CpuSet :=
  match m.domain r.uuid, CpuSpec.compile r.spec p.maxCpu.toNat with
  | .ok _, .ok set => some set
  | _, _ => none

/-- The attempts that an apply makes. -/
def plan (p : Pinner Machine) (m : Machine) (r : Request) : List (UInt32 × CpuSet) :=
  (target? p m r).toList.flatMap (m.attemptsWith r.uuid)

/-- What an apply has done by a stage, with the attempts that it made: so far what it does by
itself. -/
def Covers (p : Pinner Machine) (m : Machine) (r : Request) (attempts : List (UInt32 × CpuSet)) :
    Stage → Prop
  | .pinning set left results =>
    target? p m r = some set ∧ attempts ++ left.map (·, set) = m.attemptsWith r.uuid set ∧
      results = attempts.map fun a => m.accepts r.uuid a.2 a.1
  | .failed e => target? p m r = none ∧ attempts = [] ∧ ((p.apply r.uuid r.spec).run m).1 = .error e
  | .ended result => attempts = plan p m r ∧ result = ((p.apply r.uuid r.spec).run m).1
  | _ => attempts = []

theorem vcpuCount_eq {uuid : String} {d : Domain} (hd : m.domains.get? uuid = some d) :
    m.vcpuCount uuid = d.pins.length := by
  rw [Machine.vcpuCount, Machine.pins, hd]
  rfl

theorem target?_of_compiled {r : Request} {d : Domain} {set : CpuSet}
    (hd : m.domain r.uuid = .ok d) (hc : CpuSpec.compile r.spec p.maxCpu.toNat = .ok set) :
    target? p m r = some set := by
  simp only [target?, hd, hc]

theorem exists_of_target? {r : Request} {set : CpuSet} (h : target? p m r = some set) :
    ∃ d, m.domain r.uuid = .ok d ∧ CpuSpec.compile r.spec p.maxCpu.toNat = .ok set := by
  rw [target?] at h
  split at h
  · rename_i d set' hd hc
    obtain rfl := Option.some.inj h
    exact ⟨d, hd, hc⟩
  · exact nomatch h

/-- An apply by itself pins the virtual CPUs to its target, if it has one. -/
theorem apply_of_target? (served : Served p m) {r : Request} {set : CpuSet}
    (h : target? p m r = some set) : ((p.apply r.uuid r.spec).run m).1 =
      .ok ⟨(m.attemptsWith r.uuid set).map fun a => m.accepts r.uuid a.2 a.1⟩ := by
  obtain ⟨d, hd, hc⟩ := exists_of_target? h
  obtain ⟨m', hr, -⟩ := apply_of_compiled served hd hc
  rw [hr, Machine.attemptsWith, vcpuCount_eq (get?_of_domain hd), List.map_map]
  rfl

/-- An apply by itself has an outcome if it has a target. -/
theorem isOk_apply (served : Served p m) (r : Request) :
    ((p.apply r.uuid r.spec).run m).1.isOk = (target? p m r).isSome := by
  cases hd : m.domain r.uuid with
  | error e =>
    rw [apply_of_unreadable served hd]
    simp only [target?, hd]
    rfl
  | ok d =>
    cases hc : CpuSpec.compile r.spec p.maxCpu.toNat with
    | error e =>
      rw [apply_of_refused served hd hc]
      simp only [target?, hd, hc]
      rfl
    | ok set =>
      have htarget := target?_of_compiled hd hc
      rw [apply_of_target? served htarget, htarget]
      rfl

/-- An attempt, or the reading of the domain, goes on as the apply would by itself. -/
theorem Covers.next (served : Served p m) {host host' : Machine} {r : Request}
    {attempts others : List (UInt32 × CpuSet)} {stage stage' : Stage}
    (h : Covers p m r attempts stage) (hm : Attempted m host r.uuid others)
    (hn : stage.next p r host = some (stage', host')) :
    Covers p m r (attempts ++ stage.attempt?.toList) stage' ∧
      host' = host.attempt r.uuid stage.attempt? := by
  obtain rfl := served.pinner_eq
  cases stage with
  | reading =>
    obtain rfl : attempts = [] := h
    -- the machine is read as it was in the beginning, since no pin shows in what is read
    have hinfo : hypervisor.domainInfo r.uuid host = (m.info r.uuid, host) :=
      congrArg (·, host) hm.info_eq
    cases hd : m.domain r.uuid with
    | error e =>
      rw [Machine.info, hd] at hinfo
      rw [Stage.next_of_unreadable hinfo] at hn
      cases hn
      refine ⟨⟨?_, rfl, ?_⟩, rfl⟩
      · simp only [target?, hd]
      · rw [apply_of_unreadable served hd]
    | ok d =>
      rw [Machine.info, hd] at hinfo
      cases hc : CpuSpec.compile r.spec m.maxCpu.toNat with
      | error e =>
        rw [Stage.next_of_refused hinfo hc] at hn
        cases hn
        refine ⟨⟨?_, rfl, ?_⟩, rfl⟩
        · simp only [target?, hd, hc]
        · rw [apply_of_refused served hd hc]
      | ok set =>
        rw [Stage.next_of_compiled hinfo hc] at hn
        cases hn
        refine ⟨⟨target?_of_compiled hd hc, ?_, rfl⟩, rfl⟩
        rw [Machine.attemptsWith, vcpuCount_eq (get?_of_domain hd)]
        rfl
  | pinning set left results =>
    cases left with
    | nil => cases hn
    | cons v left =>
      obtain ⟨htarget, hplan, rfl⟩ := h
      cases hn
      refine ⟨⟨htarget, ?_, ?_⟩, rfl⟩
      · rw [← hplan, List.append_assoc]
        rfl
      · rw [List.map_append]
        exact congrArg (_ ++ [·]) (congrFun (congrFun hm.accepts_eq set) v)
  | _ => cases hn

/-- An apply that has nothing left to do has done what it does by itself. -/
theorem Covers.ended (served : Served p m) {r : Request} {attempts : List (UInt32 × CpuSet)}
    {stage : Stage} (h : Covers p m r attempts stage) {result : Except PinError PinOutcome}
    (hr : stage.result? = some result) : Covers p m r attempts (.ended result) := by
  cases stage with
  | pinning set left results =>
    cases left with
    | nil =>
      obtain ⟨htarget, hplan, rfl⟩ := h
      obtain rfl := Option.some.inj hr
      rw [List.map_nil, List.append_nil] at hplan
      refine ⟨?_, ?_⟩
      · rw [plan, htarget, hplan]
        exact (List.flatMap_singleton _ _).symm
      · rw [apply_of_target? served htarget, hplan]
    | cons v left => exact nomatch hr
  | failed e =>
    obtain ⟨htarget, rfl, happly⟩ := h
    obtain rfl := Option.some.inj hr
    refine ⟨?_, happly.symm⟩
    rw [plan, htarget]
    rfl
  | _ => exact nomatch hr

/-- The attempts that an apply has made so far are the first of those that it makes. -/
theorem Covers.prefix_plan {r : Request} {attempts : List (UInt32 × CpuSet)} {stage : Stage}
    (h : Covers p m r attempts stage) : attempts <+: plan p m r := by
  cases stage with
  | pinning set left results =>
    obtain ⟨htarget, hplan, -⟩ := h
    rw [plan, htarget, Option.toList_some, List.flatMap_singleton, ← hplan]
    exact List.prefix_append _ _
  | failed e => exact h.2.1 ▸ List.nil_prefix
  | ended result => exact h.1 ▸ List.prefix_rfl
  | _ => exact h ▸ List.nil_prefix

/-- An apply that gave the lock back has made all of them. -/
theorem Covers.eq_plan {r : Request} {attempts : List (UInt32 × CpuSet)} {stage : Stage}
    (h : Covers p m r attempts stage) (granted : stage.Granted) (out : ¬ stage.Inside) :
    attempts = plan p m r := by
  cases stage with
  | ended result => exact h.1
  | _ => exact absurd granted out

/-! ## All applies -/

variable [DecidableEq ι]

/-- Every apply did what it does by itself, and nothing else was done to the machine. -/
structure Tracked (p : Pinner Machine) (m : Machine) (req : ι → Request) (labels : List (Label ι))
    (host : Machine) (stage : ι → Stage) : Prop where
  host : ∀ uuid, Attempted m host uuid (attemptsOn req labels uuid)
  stages : ∀ i, Covers p m (req i) (attemptsOf labels i) (stage i)

namespace Tracked

variable {host : Machine} {stage : ι → Stage}

/-- An apply goes on, with an attempt or without. -/
theorem move (h : Tracked p m req labels host stage) {i : ι} (a : Option (UInt32 × CpuSet))
    {label : Label ι}
    (hon : ∀ uuid, label.attemptOn? req uuid = if (req i).uuid = uuid then a else none)
    (hof : ∀ j, label.attemptOf? j = if i = j then a else none) {s : Stage}
    (hs : Covers p m (req i) (attemptsOf labels i ++ a.toList) s) :
    Tracked p m req (labels ++ [label]) (host.attempt (req i).uuid a)
      (Function.update stage i s) where
  host uuid := by
    rw [attemptsOn_concat, hon]
    exact (h.host uuid).attempt (req i).uuid a
  stages := by
    refine (Function.forall_update_iff stage fun j s => Covers p m (req j) _ s).2
      ⟨?_, fun j hj => ?_⟩
    · rw [attemptsOf_concat, hof, if_pos rfl]
      exact hs
    · rw [attemptsOf_concat, hof, if_neg hj.symm, Option.toList_none, List.append_nil]
      exact h.stages j

/-- An apply goes on without an attempt. -/
theorem pass (h : Tracked p m req labels host stage) {i : ι} {label : Label ι}
    (hon : ∀ uuid, label.attemptOn? req uuid = none) (hof : ∀ j, label.attemptOf? j = none)
    {s : Stage} (hs : Covers p m (req i) (attemptsOf labels i) s) :
    Tracked p m req (labels ++ [label]) host (Function.update stage i s) :=
  h.move none (fun uuid => (hon uuid).trans (ite_self _).symm)
    (fun j => (hof j).trans (ite_self _).symm) (by rwa [Option.toList_none, List.append_nil])

theorem step (served : Served p m) {sys sys' : System Machine ι} {label : Label ι}
    (h : Tracked p m req labels sys.host sys.stage) (hs : Step p req sys label sys') :
    Tracked p m req (labels ++ [label]) sys'.host sys'.stage := by
  cases hs with
  | @asked i stage =>
    have hi := h.stages i
    rw [stage] at hi
    exact h.pass (fun _ => rfl) (fun _ => rfl) hi
  | @granted i stage holds =>
    have hi := h.stages i
    rw [stage] at hi
    exact h.pass (fun _ => rfl) (fun _ => rfl) hi
  | @worked i stage host next =>
    obtain ⟨hi, rfl⟩ := (h.stages i).next served (h.host _) next
    exact h.move _ (fun _ => rfl) (fun _ => rfl) hi
  | released done => exact h.pass (fun _ => rfl) (fun _ => rfl) ((h.stages _).ended served done)

end Tracked

theorem Run.tracked (served : Served p m) (run : Run p req m labels sys) :
    Tracked p m req labels sys.host sys.stage := by
  induction run with
  | start => exact ⟨.refl m, fun _ => rfl⟩
  | step _ step ih => exact ih.step served step

/-! ## Blocks -/

/-- The log of one apply to a domain: every virtual CPU once, ascending, with one set. -/
def block (m : Machine) (uuid : String) (set : CpuSet) : List PinAttempt :=
  (List.range (m.vcpuCount uuid)).map fun v =>
    ⟨uuid, .ofNat v, set.cpulist, m.accepts uuid set (.ofNat v)⟩

/-- The sets of the applies that got the lock of a domain and came to pinning, in order. -/
def targets (p : Pinner Machine) (m : Machine) (req : ι → Request) (labels : List (Label ι))
    (uuid : String) : List CpuSet :=
  (turns req labels uuid).filterMap fun i => target? p m (req i)

theorem vcpuCount_lt (served : Served p m) (uuid : String) : m.vcpuCount uuid < UInt32.size := by
  cases hd : m.domains.get? uuid with
  | none =>
    rw [Machine.vcpuCount, Machine.pins, hd]
    decide
  | some d =>
    rw [vcpuCount_eq hd]
    exact served.length_pins_lt hd

theorem map_entry_attemptsWith (served : Served p m) (uuid : String) (set : CpuSet) :
    (m.attemptsWith uuid set).map (m.entry uuid) = block m uuid set := by
  rw [Machine.attemptsWith, vcpusOf_ofNat (vcpuCount_lt served uuid), List.map_map, List.map_map]
  rfl

omit [DecidableEq ι] in
/-- The applies of a domain that come to pinning attempt all its virtual CPUs. -/
theorem flatMap_plan (p : Pinner Machine) (m : Machine) (req : ι → Request)
    (labels : List (Label ι)) (uuid : String) :
    (turns req labels uuid).flatMap (fun i => plan p m (req i)) =
      (targets p m req labels uuid).flatMap (m.attemptsWith uuid) := by
  have hplan : ∀ i ∈ turns req labels uuid,
      plan p m (req i) = (target? p m (req i)).toList.flatMap (m.attemptsWith uuid) := by
    intro i hi
    have hu : (req i).uuid = uuid := of_decide_eq_true (List.mem_filter.1 hi).2
    rw [plan, hu]
  rw [List.flatMap_congr hplan, targets, List.filterMap_eq_flatMap_toList, List.flatMap_assoc]

theorem map_entry_flatMap (served : Served p m) (uuid : String) (sets : List CpuSet) :
    (sets.flatMap (m.attemptsWith uuid)).map (m.entry uuid) = sets.flatMap (block m uuid) := by
  rw [List.map_flatMap]
  exact List.flatMap_congr fun set _ => map_entry_attemptsWith served uuid set

/-- No apply to the domain has its lock. -/
def Quiet (req : ι → Request) (sys : System Machine ι) (uuid : String) : Prop :=
  ∀ i, (req i).uuid = uuid → ¬ (sys.stage i).Inside

/-- An apply that got the lock and gave it back has made its attempts. -/
theorem attempts_of_out (tracked : Tracked p m req labels sys.host sys.stage)
    (h : Exclusive req labels sys.locks sys.stage) {i : ι} (hi : i ∈ lockOrder labels)
    (out : ¬ (sys.stage i).Inside) : attemptsOf labels i = plan p m (req i) :=
  (tracked.stages i).eq_plan ((h.granted i).1 hi) out

theorem Run.attemptsOn_of_quiet (served : Served p m) (run : Run p req m labels sys)
    {uuid : String} (quiet : Quiet req sys uuid) : attemptsOn req labels uuid =
      (targets p m req labels uuid).flatMap (m.attemptsWith uuid) := by
  rw [run.inTurns.attempts, ← flatMap_plan]
  refine List.flatMap_congr fun i hi => ?_
  obtain ⟨ho, hu⟩ := List.mem_filter.1 hi
  exact attempts_of_out (run.tracked served) run.exclusive ho (quiet i (of_decide_eq_true hu))

/-- Only the last apply may have attempts to make. -/
theorem Run.attemptsOn_prefix (served : Served p m) (run : Run p req m labels sys)
    (uuid : String) : attemptsOn req labels uuid <+:
      (targets p m req labels uuid).flatMap (m.attemptsWith uuid) := by
  rw [run.inTurns.attempts, ← flatMap_plan]
  have hx := run.exclusive
  have hnodup : (turns req labels uuid).Nodup := hx.nodup.filter _
  have hmem : ∀ i ∈ turns req labels uuid, i ∈ lockOrder labels ∧ (req i).uuid = uuid :=
    fun i hi => ⟨List.mem_of_mem_filter hi, of_decide_eq_true (List.mem_filter.1 hi).2⟩
  have hlast : ∀ i ∈ turns req labels uuid, (sys.stage i).Inside →
      (turns req labels uuid).getLast? = some i := by
    intro i hi hin
    have h := hx.last i hin
    rwa [(hmem i hi).2] at h
  -- an apply that has the lock has the last turn, so that those before it gave it back
  rcases List.eq_nil_or_concat (turns req labels uuid) with hnil | ⟨js, i, hjs⟩
  · rw [hnil]
    exact List.prefix_rfl
  · rw [List.concat_eq_append] at hjs
    rw [hjs] at hnodup hmem hlast ⊢
    have hfirst : js.flatMap (attemptsOf labels) = js.flatMap fun j => plan p m (req j) := by
      refine List.flatMap_congr fun j hj => ?_
      have hj' : j ∈ js ++ [i] := List.mem_append_left _ hj
      refine attempts_of_out (run.tracked served) hx (hmem j hj').1 fun hin => ?_
      have hi := hlast j hj' hin
      rw [List.getLast?_concat] at hi
      obtain rfl := Option.some.inj hi
      exact List.disjoint_of_nodup_append hnodup hj (List.mem_singleton_self i)
    rw [List.flatMap_append, List.flatMap_append, hfirst, List.prefix_append_right_inj,
      List.flatMap_singleton, List.flatMap_singleton]
    exact ((run.tracked served).stages i).prefix_plan

omit [DecidableEq ι] in
/-- An apply that comes to pinning is refused nothing, where no failure is made. -/
theorem accepts_of_mem_targets (served : Served p m) {uuid : String} {d : Domain}
    (hd : m.domains.get? uuid = some d) (running : d.stateCode = 1)
    (hfail : ∀ v, (uuid, v) ∉ m.failingPins) {v : Nat} (hv : v < d.pins.length) {set : CpuSet}
    (hset : set ∈ targets p m req labels uuid) : m.accepts uuid set (.ofNat v) = true := by
  obtain ⟨i, -, hi⟩ := List.mem_filterMap.1 hset
  obtain ⟨-, -, hc⟩ := exists_of_target? hi
  obtain ⟨hwidth, hcount⟩ := CpuSpec.width_of_compile hc
  rw [served.pinner_eq] at hwidth
  refine Machine.accepts_of_running hd running (hfail _) hwidth hcount ?_
  rwa [UInt32.toNat_ofNat_of_lt' (Nat.lt_trans hv (served.length_pins_lt hd))]

/-- The applies to a domain had their turns one after the other, and each of them left its mark on
the domain as a whole. -/
structure InBlocks (p : Pinner Machine) (m : Machine) (req : ι → Request)
    (labels : List (Label ι)) (sys : System Machine ι) (uuid : String) : Prop where
  /-- An apply has one turn. -/
  once : (turns req labels uuid).Nodup
  mem : ∀ i, i ∈ turns req labels uuid ↔ (req i).uuid = uuid ∧ (sys.stage i).Granted
  /-- It ends with the result that it has by itself, and it came to pinning if that is an
  outcome. -/
  results : ∀ i ∈ turns req labels uuid, ∀ result, sys.stage i = .ended result →
    result = ((p.apply uuid (req i).spec).run m).1 ∧
      result.isOk = (target? p m (req i)).isSome
  /-- The log of the domain is blocks, of which the last may be under way. -/
  begun : logOf uuid sys.host.pinLog <+:
    logOf uuid m.pinLog ++ (targets p m req labels uuid).flatMap (block m uuid)
  whole : Quiet req sys uuid → logOf uuid sys.host.pinLog =
    logOf uuid m.pinLog ++ (targets p m req labels uuid).flatMap (block m uuid)
  /-- A virtual CPU holds the set of the last block in which it was pinned. -/
  pins : Quiet req sys uuid → sys.host.pins uuid = (m.pins uuid).map fun pins =>
    pins.mapIdx fun v former =>
      (((targets p m req labels uuid).filter fun set =>
        m.accepts uuid set (.ofNat v)).getLast?).getD former
  /-- Where the domain runs and no pin of it is made to fail, all hold the set of the last block. -/
  uniform : Quiet req sys uuid → ∀ d, m.domains.get? uuid = some d → d.stateCode = 1 →
    (∀ v, (uuid, v) ∉ m.failingPins) → ∀ set, (targets p m req labels uuid).getLast? = some set →
      sys.host.pins uuid = some (.replicate d.pins.length set)

/-- Applies on the simulated hypervisor never interleave on a domain, whatever the order of their
steps. -/
theorem applies_in_blocks (served : Served p m) (run : Run p req m labels sys) (uuid : String) :
    InBlocks p m req labels sys uuid := by
  have hx := run.exclusive
  have htracked := run.tracked served
  have hhost := htracked.host uuid
  have hmem : ∀ i, i ∈ turns req labels uuid ↔ (req i).uuid = uuid ∧ (sys.stage i).Granted := by
    intro i
    rw [turns, List.mem_filter, hx.granted, decide_eq_true_iff, and_comm]
  have hpins : Quiet req sys uuid → sys.host.pins uuid = (m.pins uuid).map fun pins =>
      pins.mapIdx fun v former =>
        (((targets p m req labels uuid).filter fun set =>
          m.accepts uuid set (.ofNat v)).getLast?).getD former := by
    intro quiet
    rw [hhost.pins_eq, run.attemptsOn_of_quiet served quiet]
    refine Option.map_congr fun pins hp => ?_
    have hcount : m.vcpuCount uuid = pins.length := by
      rw [Machine.vcpuCount, hp, Option.getD_some]
    exact m.pinsAfterAll_attemptsWith uuid _ (hcount ▸ vcpuCount_lt served uuid) hcount
  refine ⟨hx.nodup.filter _, hmem, ?results, ?begun, ?whole, hpins, ?uniform⟩
  case results =>
    intro i hi result hended
    have hi' := htracked.stages i
    rw [hended] at hi'
    have hok := isOk_apply served (req i)
    rw [← hi'.2] at hok
    refine ⟨?_, hok⟩
    rw [hi'.2, ((hmem i).1 hi).1]
  case begun =>
    rw [hhost.log, List.prefix_append_right_inj, ← map_entry_flatMap served]
    exact (run.attemptsOn_prefix served uuid).map _
  case whole =>
    intro quiet
    rw [hhost.log, run.attemptsOn_of_quiet served quiet, map_entry_flatMap served]
  case uniform =>
    intro quiet d hd running hfail set hset
    rw [hpins quiet, Machine.pins, hd, Option.map_some, Option.map_some]
    have hall : ∀ v < d.pins.length, ∀ s ∈ targets p m req labels uuid,
        m.accepts uuid s (.ofNat v) = true :=
      fun v hv s hs => accepts_of_mem_targets served hd running hfail hv hs
    refine congrArg some (mapIdx_eq_replicate fun v hv former => ?_)
    rw [List.filter_eq_self.2 (hall v hv), hset, Option.getD_some]

/-- The second apply asks before the first one pins, and pins after it. -/
theorem applies_in_blocks_of_two :
    let m : Machine := (Machine.new "sim" 1 4).addDomain "vm-a" 1 2
    let p : Pinner Machine := ⟨hypervisor, 4⟩
    let req : Bool → Request := fun second => ⟨"vm-a", if second then "2-3" else "0"⟩
    ∃ labels sys, Served p m ∧ Run p req m labels sys ∧ InBlocks p m req labels sys "vm-a" ∧
      sys.host.pinLog.map (·.cpulist) = ["0", "0", "2-3", "2-3"] ∧
      sys.host.pins "vm-a" =
        some [⟨[false, false, true, true]⟩, ⟨[false, false, true, true]⟩] := by
  intro m p req
  have served : Served p m := .addDomain "vm-a" 1 2 (.new rfl)
  have hfirst : CpuSpec.compile "0" 4 = .ok ⟨[true, false, false, false]⟩ := by decide +kernel
  have hsecond : CpuSpec.compile "2-3" 4 = .ok ⟨[false, false, true, true]⟩ := by decide +kernel
  have hinfo : m.info "vm-a" = .ok ⟨"vm-a", 1, 2⟩ := by decide +kernel
  have hread : ∀ {labels sys}, Run p req m labels sys →
      p.hypervisor.domainInfo "vm-a" sys.host = (.ok ⟨"vm-a", 1, 2⟩, sys.host) :=
    fun run => congrArg (·, _) (((run.tracked served).host "vm-a").info_eq.trans hinfo)
  have begun : Run p req m [] ⟨m, .empty, fun _ => .idle⟩ := .start
  have asked := (begun.step (.asked (i := false) rfl)).step (.asked (i := true) rfl)
  have granted := asked.step (.granted (i := false) rfl rfl)
  have read := granted.step (.worked (i := false) (Stage.next_of_compiled (hread granted) hfirst))
  have pinned := (read.step (.worked (i := false) rfl)).step (.worked (i := false) rfl)
  have released := pinned.step (.released (i := false) rfl)
  have granted := released.step (.granted (i := true) rfl rfl)
  have read := granted.step (.worked (i := true) (Stage.next_of_compiled (hread granted) hsecond))
  have pinned := (read.step (.worked (i := true) rfl)).step (.worked (i := true) rfl)
  have run := pinned.step (.released (i := true) rfl)
  exact ⟨_, _, served, run, applies_in_blocks served run "vm-a", by decide +kernel,
    by decide +kernel⟩

end VcpuPinning.Pinning
