import VcpuPinning.Proofs.Agent.Positions
import VcpuPinning.Proofs.Virsh.Printer

/-!
# The virsh tool and the simulated hypervisor

A hypervisor that drives a stand-in for the tool answers as the simulated one does that has the same
domains : one call has answers that agree and leaves the same domains on both sides (`Linked.ask`),
and so do any number of calls (`hypervisors_agree`). The domains may have any printable names, as
long as none has a NUL, which no argument of a command may have (`hypervisors_differ_on_nul`).
-/

namespace VcpuPinning.Virsh

open Output Simulated

variable {σ α β : Type}

/-! ## Calls -/

/-- A call of a hypervisor. -/
inductive Call where
  | maxCpus
  | numaTopology
  | activeDomains
  | domainInfo (uuid : String)
  | vcpuPins (uuid : String)
  | pinVcpu (uuid : String) (vcpu : UInt32) (set : CpuSet)
  deriving DecidableEq, Repr

/-- The answer to a call that succeeds. -/
inductive Reply where
  | cpus (n : UInt32)
  | topology (t : Topology)
  | names (uuids : List String)
  | info (i : DomainInfo)
  | pins (sets : List CpuSet)
  | done
  deriving DecidableEq

/-- Make a call. -/
def Call.ask (h : Hypervisor σ) : Call → Probe σ Reply
  | .maxCpus => Reply.cpus <$> h.maxCpus
  | .numaTopology => Reply.topology <$> h.numaTopology
  | .activeDomains => Reply.names <$> h.activeDomains
  | .domainInfo uuid => Reply.info <$> h.domainInfo uuid
  | .vcpuPins uuid => Reply.pins <$> h.vcpuPins uuid
  | .pinVcpu uuid vcpu set => (fun _ => Reply.done) <$> h.pinVcpu uuid vcpu set

/-- Make calls, one after the other. -/
def answers (h : Hypervisor σ) : List Call → σ → List (Except HypervisorError Reply) × σ
  | [], st => ([], st)
  | call :: calls, st =>
    let (r, st) := (call.ask h).run.run st
    let (rs, st) := answers h calls st
    (r :: rs, st)

/-- A pin is to a set of CPUs of a host with `maxCpu` CPUs. -/
def Call.Fits (maxCpu : UInt32) : Call → Prop
  | .pinVcpu _ _ set => set.width = maxCpu.toNat
  | _ => True

/-- What a call leaves of a simulated host. -/
theorem Call.left_ask (call : Call) (m : Machine) :
    ((call.ask Simulated.hypervisor).run.run m).2 =
      match call with
      | .pinVcpu uuid vcpu set => (m.pin uuid vcpu set).2
      | _ => m := by
  cases call <;> exact congrArg Prod.snd (run_map_except _ _ m)

theorem Call.maxCpu_ask (call : Call) (m : Machine) :
    ((call.ask Simulated.hypervisor).run.run m).2.maxCpu = m.maxCpu := by
  rw [Call.left_ask]
  cases call with
  | pinVcpu uuid vcpu set => exact Machine.maxCpu_pin m uuid vcpu set
  | _ => rfl

/-! ## Answers that agree -/

/-- Both succeed with one answer, or both fail, and a domain is missing on both sides or on none. The
tool cannot be asked for a domain with a NUL in its name. -/
structure Agree (r r' : Except HypervisorError α) : Prop where
  answer : r.toOption = r'.toOption
  missing : ∀ uuid : String, '\x00' ∉ uuid.toList →
    (r = .error (.domainNotFound uuid) ↔ r' = .error (.domainNotFound uuid))

theorem Agree.refl (r : Except HypervisorError α) : Agree r r :=
  ⟨rfl, fun _ _ => Iff.rfl⟩

/-- Errors that are not about missing domains agree. -/
theorem Agree.of_error {e e' : HypervisorError}
    (h : ∀ uuid : String, '\x00' ∉ uuid.toList → e ≠ .domainNotFound uuid)
    (h' : ∀ uuid : String, '\x00' ∉ uuid.toList → e' ≠ .domainNotFound uuid) :
    Agree (.error e : Except HypervisorError α) (.error e') :=
  ⟨rfl, fun uuid hu => ⟨fun he => absurd (Except.error.inj he) (h uuid hu),
    fun he => absurd (Except.error.inj he) (h' uuid hu)⟩⟩

theorem Agree.map {r r' : Except HypervisorError α} (h : Agree r r') (f : α → β) :
    Agree (r.map f) (r'.map f) := by
  have hopt (r : Except HypervisorError α) : (r.map f).toOption = r.toOption.map f := by
    cases r <;> rfl
  have herr (r : Except HypervisorError α) (e : HypervisorError) :
      r.map f = .error e ↔ r = .error e := by
    cases r <;> simp [Except.map]
  constructor
  · rw [hopt, hopt, h.answer]
  · intro uuid hu
    rw [herr, herr, h.missing uuid hu]

/-- A call of the tool and a call of the simulated host, which agree and leave the same domains. -/
def Alike (domains : σ → Domains) (x : Probe σ α) (st : σ) (y : Probe Machine α) (m : Machine) :
    Prop :=
  Agree (x.run.run st).1 (y.run.run m).1 ∧ domains (x.run.run st).2 = (y.run.run m).2.domains

theorem Alike.of_runs {domains : σ → Domains} {x : Probe σ α} {st st' : σ} {y : Probe Machine α}
    {m m' : Machine} {r r' : Except HypervisorError α} (hx : x.run.run st = (r, st'))
    (hy : y.run.run m = (r', m')) (h : Agree r r') (hd : domains st' = m'.domains) :
    Alike domains x st y m := by
  rw [Alike, hx, hy]
  exact ⟨h, hd⟩

theorem Alike.map {domains : σ → Domains} {x : Probe σ α} {st : σ} {y : Probe Machine α}
    {m : Machine} (h : Alike domains x st y m) (f : α → β) :
    Alike domains (f <$> x) st (f <$> y) m :=
  .of_runs (run_map_except f x st) (run_map_except f y m) (h.1.map f) h.2

/-! ## Hosts that a tool can show -/

/-- A host with a CPU and without injected failures, whose domains have names and states that are
printed. -/
structure Showable (m : Machine) : Prop where
  built : Built m
  cpus : m.maxCpu ≠ 0
  failingPins : m.failingPins = []
  failingInfo : m.failingInfo = []
  domains : ∀ uuid d, m.domains.get? uuid = some d → IsName uuid ∧ d.stateCode ≤ 8

namespace Showable

variable {m : Machine} {uuid : String} {d : Domain}

theorem isPrintable (h : Showable m) (hd : m.domains.get? uuid = some d) :
    IsPrintable m.maxCpu.toNat uuid d where
  name := (h.domains uuid d hd).1
  stateCode := (h.domains uuid d hd).2
  vcpus := h.built.served.length_pins_lt hd
  sets := h.built.sets h.cpus uuid d hd

theorem domain_of_some (h : Showable m) (hd : m.domains.get? uuid = some d) :
    m.domain uuid = .ok d := by
  simp [Machine.domain, h.failingInfo, hd]

theorem domain_of_none (h : Showable m) (hd : m.domains.get? uuid = none) :
    m.domain uuid = .error (.domainNotFound uuid) := by
  simp [Machine.domain, h.failingInfo, hd]

theorem not_mem_failingPins (h : Showable m) (vcpu : UInt32) : (uuid, vcpu) ∉ m.failingPins := by
  simp [h.failingPins]

theorem pin (h : Showable m) (uuid : String) (vcpu : UInt32) (set : CpuSet) :
    Showable (m.pin uuid vcpu set).2 where
  built := h.built.pin uuid vcpu set
  cpus := by rw [Machine.maxCpu_pin]; exact h.cpus
  failingPins := by rw [Machine.failingPins_pin, h.failingPins]
  failingInfo := by rw [Machine.failingInfo_pin, h.failingInfo]
  domains := Machine.forall_get?_pin h.domains fun _ _ hold => hold

end Showable

/-! ## One call -/

/-- A stand-in and the host that it shows. -/
structure Linked (s : Setup σ) (domains : σ → Domains) (st : σ) (m : Machine) : Prop where
  showable : Showable m
  names : ∀ uuid d, m.domains.get? uuid = some d → '\x00' ∉ uuid.toList
  uri : '\x00' ∉ s.uri.toList
  standIn : StandIn s m.maxCpu m.topology domains
  same : domains st = m.domains

namespace Linked

variable {s : Setup σ} {domains : σ → Domains} {st st' : σ} {m : Machine} {uuid : String}
  {d : Domain} {args : List String}

/-- The stand-in may be in any state in which it has the same domains. -/
theorem move (h : Linked s domains st m) (hst : domains st' = m.domains) :
    Linked s domains st' m :=
  { h with same := hst }

theorem pin (h : Linked s domains st m) {vcpu : UInt32} {set : CpuSet}
    (hst : domains st' = (m.pin uuid vcpu set).2.domains) :
    Linked s domains st' (m.pin uuid vcpu set).2 where
  showable := h.showable.pin uuid vcpu set
  names := Machine.forall_get?_pin h.names fun _ _ hold => hold
  uri := h.uri
  standIn := by rw [Machine.maxCpu_pin, Machine.topology_pin]; exact h.standIn
  same := hst

theorem serves (h : Linked s domains st m) : Serves s m.maxCpu m.topology domains st := by
  refine h.standIn st fun uuid d hd => ?_
  rw [h.same] at hd
  exact h.showable.isPrintable hd

theorem known (h : Linked s domains st m) (hd : m.domains.get? uuid = some d) :
    (domains st).get? uuid = some d := by
  rw [h.same, hd]

/-- What the tool answers is what is printed. -/
theorem prints (h : Linked s domains st m) {layout : List Line → Prop} {left : Domains}
    (ha : Answers s domains args st left layout) (hnul : ∀ a ∈ args, '\x00' ∉ a.toList) :
    ∃ st', Prints s args st st' layout ∧ domains st' = left :=
  ha.prints (List.forall_mem_cons.2 ⟨h.uri, hnul⟩)

/-- A command about a domain that there is not. -/
theorem run_unknown (h : Linked s domains st m) (hd : m.domains.get? uuid = none)
    {command : String} (about : command = "dominfo" ∨ command = "vcpupin") {options : List String}
    (hnul : ∀ a ∈ options, '\x00' ∉ a.toList) :
    ∃ e st', (s.run (command :: uuid :: options)).run.run st = (.error e, st') ∧
      domains st' = m.domains ∧ ∀ α : Type,
        Agree (.error (domainError uuid e) : Except HypervisorError α)
          (.error (.domainNotFound uuid)) := by
  -- with a NUL in its name the tool is not even started
  by_cases hu : '\x00' ∈ uuid.toList
  · refine ⟨_, st, run_of_nul (List.mem_cons_of_mem _ List.mem_cons_self) hu, h.same, fun α => ?_⟩
    refine .of_error (fun _ _ => nofun) fun other hother he => ?_
    rw [HypervisorError.domainNotFound.inj he] at hu
    exact hother hu
  have hcommand : '\x00' ∉ command.toList := by
    rcases about with rfl | rfl <;> decide
  have hargs : ∀ a ∈ s.uri :: command :: uuid :: options, '\x00' ∉ a.toList := by
    simp only [List.forall_mem_cons]
    exact ⟨h.uri, hcommand, hu, hnul⟩
  have hmissing : (domains st).get? uuid = none := by rw [h.same, hd]
  obtain ⟨line, detail, text, st', hrun, hleft, hsaid, hsame⟩ :=
    (h.serves.unknown about hmissing).run hargs
  have hdetail : isMissingDomain detail = true := hsame.trans (isMissingDomain_iff.2 (.inr hsaid))
  refine ⟨_, st', hrun, hleft.trans h.same, fun α => ?_⟩
  rw [domainError, if_pos hdetail]
  exact .refl _

theorem maxCpus (h : Linked s domains st m) :
    Alike domains (Virsh.hypervisor s).maxCpus st Simulated.hypervisor.maxCpus m := by
  obtain ⟨st', hp, hst⟩ := h.prints h.serves.nodeinfo (by decide)
  exact .of_runs (run_maxCpus hp) rfl (.refl _) (hst.trans h.same)

theorem numaTopology (h : Linked s domains st m) :
    Alike domains (Virsh.hypervisor s).numaTopology st Simulated.hypervisor.numaTopology m := by
  obtain ⟨st', hp, hst⟩ := h.prints h.serves.capabilities (by decide)
  exact .of_runs (run_numaTopology hp h.showable.built.topology) rfl (.refl _) (hst.trans h.same)

theorem activeDomains (h : Linked s domains st m) :
    Alike domains (Virsh.hypervisor s).activeDomains st Simulated.hypervisor.activeDomains m := by
  obtain ⟨st', hp, hst⟩ := h.prints h.serves.list (by decide)
  rw [h.same] at hp
  exact .of_runs (run_activeDomains hp) rfl (.refl _) (hst.trans h.same)

theorem domainInfo (h : Linked s domains st m) (uuid : String) :
    Alike domains ((Virsh.hypervisor s).domainInfo uuid) st
      (Simulated.hypervisor.domainInfo uuid) m := by
  have hsim : (Simulated.hypervisor.domainInfo uuid).run.run m =
      ((m.domain uuid).map fun d => ⟨uuid, d.stateCode, .ofNat d.pins.length⟩, m) := rfl
  cases hd : m.domains.get? uuid with
  | none =>
    obtain ⟨e, st', hrun, hst, hagree⟩ := h.run_unknown hd (.inl rfl) (List.forall_mem_nil _)
    rw [h.showable.domain_of_none hd] at hsim
    exact .of_runs (run_domainInfo_of_error hrun) hsim (hagree _) hst
  | some d =>
    obtain ⟨word, hword, hans⟩ := h.serves.dominfo (h.known hd)
    obtain ⟨st', hp, hst⟩ := h.prints hans (by simp [h.names uuid d hd])
    rw [h.showable.domain_of_some hd] at hsim
    have hrun := run_domainInfo hp
    rw [hword] at hrun
    exact .of_runs hrun hsim (.refl _) (hst.trans h.same)

theorem vcpuPins (h : Linked s domains st m) (uuid : String) :
    Alike domains ((Virsh.hypervisor s).vcpuPins uuid) st
      (Simulated.hypervisor.vcpuPins uuid) m := by
  have hsim : (Simulated.hypervisor.vcpuPins uuid).run.run m =
      ((m.domain uuid).map Domain.pins, m) := rfl
  obtain ⟨st₁, hn, hst₁⟩ := h.prints h.serves.nodeinfo (by decide)
  have h₁ : Linked s domains st₁ m := h.move (hst₁.trans h.same)
  cases hd : m.domains.get? uuid with
  | none =>
    obtain ⟨e, st', hrun, hst, hagree⟩ := h₁.run_unknown hd (.inr rfl) (List.forall_mem_nil _)
    rw [h.showable.domain_of_none hd] at hsim
    exact .of_runs (run_vcpuPins_of_error hn hrun) hsim (hagree _) hst
  | some d =>
    have hdom := h.showable.isPrintable hd
    have hvalues := Agent.Reporter.values_pinsByVcpu (Nat.le_of_lt hdom.vcpus)
    obtain ⟨st', hp, hst⟩ := h₁.prints (h₁.serves.vcpupin (h₁.known hd))
      (by simp [h.names uuid d hd])
    rw [h.showable.domain_of_some hd] at hsim
    have hrun := run_vcpuPins hn hp (by rw [hvalues]; exact hdom.sets)
    rw [hvalues] at hrun
    exact .of_runs hrun hsim (.refl _) (hst.trans h₁.same)

theorem pinVcpu (h : Linked s domains st m) (uuid : String) (vcpu : UInt32) {set : CpuSet}
    (hw : set.width = m.maxCpu.toNat) :
    Alike domains ((Virsh.hypervisor s).pinVcpu uuid vcpu set) st
      (Simulated.hypervisor.pinVcpu uuid vcpu set) m := by
  have hf : (uuid, vcpu) ∉ m.failingPins := h.showable.not_mem_failingPins vcpu
  have hsim {r : Except HypervisorError Unit} {left : Domains}
      (hr : (m.pin uuid vcpu set).1 = r ∧ (m.pin uuid vcpu set).2.domains = left) :
      (Simulated.hypervisor.pinVcpu uuid vcpu set).run.run m = (r, (m.pin uuid vcpu set).2) ∧
        (m.pin uuid vcpu set).2.domains = left :=
    ⟨Prod.ext hr.1 rfl, hr.2⟩
  -- a set without a CPU is refused on both sides before anything is looked up
  by_cases hc : set.count = 0
  · obtain ⟨detail, ht⟩ := Machine.pinTarget_of_empty hf hc
    obtain ⟨hr, hleft⟩ := hsim (Machine.pin_of_error ht)
    obtain ⟨e, hrun⟩ : ∃ e, ((Virsh.hypervisor s).pinVcpu uuid vcpu set).run.run st =
        (.error (.rejected e), st) := run_pinVcpu_of_empty hc
    exact .of_runs hrun hr (.of_error (fun _ _ => nofun) fun _ _ => nofun) (h.same.trans hleft.symm)
  have hlist : CpuSpec.compile set.cpulist m.maxCpu.toNat = .ok set := by
    have hmax := toNat_le_max64 m.maxCpu
    rw [← hw] at hmax ⊢
    exact CpuSpec.compile_cpulist hmax hc
  have hoptions := nul_not_mem_options vcpu set
  cases hd : m.domains.get? uuid with
  | none =>
    obtain ⟨hr, hleft⟩ := hsim (Machine.pin_of_error (Machine.pinTarget_of_none hf hw hc hd))
    obtain ⟨e, st', hrun, hst, hagree⟩ := h.run_unknown hd (.inr rfl) hoptions
    exact .of_runs (run_pinVcpu hc hrun) hr (hagree _) (hst.trans hleft.symm)
  | some d =>
    have hargs : ∀ a ∈ pinArguments uuid vcpu set.cpulist, '\x00' ∉ a.toList :=
      List.forall_mem_cons.2 ⟨by decide, List.forall_mem_cons.2 ⟨h.names uuid d hd, hoptions⟩⟩
    by_cases hv : d.Pinnable vcpu
    · obtain ⟨hr, hleft⟩ := hsim
        (Machine.pin_of_ok (Machine.pinTarget_eq_ok_iff.2 ⟨hf, ⟨hw, hc⟩, hd, hv⟩))
      obtain ⟨st', ⟨out, hrun, -⟩, hst⟩ := h.prints (h.serves.pin (h.known hd) hv hlist) hargs
      rw [h.same] at hst
      exact .of_runs (run_pinVcpu hc hrun) hr (.refl _) (hst.trans hleft.symm)
    · obtain ⟨detail, ht⟩ := Machine.pinTarget_of_refused hf hd hv
      obtain ⟨hr, hleft⟩ := hsim (Machine.pin_of_error ht)
      obtain ⟨line, detail, text, st', hrun, hst, hsaid, hsame⟩ :=
        (h.serves.refusal (h.known hd) hv).run (List.forall_mem_cons.2 ⟨h.uri, hargs⟩)
      have hdetail : ¬ isMissingDomain detail := by rwa [hsame]
      have hrun' := run_pinVcpu hc hrun
      rw [Except.mapError, domainError, if_neg hdetail] at hrun'
      exact .of_runs hrun' hr (.of_error (fun _ _ => nofun) fun _ _ => nofun)
        ((hst.trans h.same).trans hleft.symm)

theorem alike (h : Linked s domains st m) {call : Call} (fits : call.Fits m.maxCpu) :
    Alike domains (call.ask (Virsh.hypervisor s)) st (call.ask Simulated.hypervisor) m := by
  cases call with
  | maxCpus => exact h.maxCpus.map _
  | numaTopology => exact h.numaTopology.map _
  | activeDomains => exact h.activeDomains.map _
  | domainInfo uuid => exact (h.domainInfo uuid).map _
  | vcpuPins uuid => exact (h.vcpuPins uuid).map _
  | pinVcpu uuid vcpu set => exact (h.pinVcpu uuid vcpu fits).map _

/-- A call leaves the stand-in with the domains of the host. -/
theorem ask (h : Linked s domains st m) {call : Call} (fits : call.Fits m.maxCpu) :
    Linked s domains ((call.ask (Virsh.hypervisor s)).run.run st).2
      ((call.ask Simulated.hypervisor).run.run m).2 := by
  have hst := (h.alike fits).2
  rw [Call.left_ask] at hst ⊢
  cases call with
  | maxCpus | numaTopology | activeDomains | domainInfo | vcpuPins => exact h.move hst
  | pinVcpu => exact h.pin hst

end Linked

/-! ## Any number of calls -/

/-- The hypervisor that drives a stand-in for a host and the simulated hypervisor of the host give
answers that agree, call by call, and both hosts have the same domains in the end. -/
theorem hypervisors_agree {s : Setup σ} {domains : σ → Domains} {st : σ} {m : Machine}
    (showable : Showable m) (names : ∀ uuid d, m.domains.get? uuid = some d → '\x00' ∉ uuid.toList)
    (uri : '\x00' ∉ s.uri.toList) (standIn : StandIn s m.maxCpu m.topology domains)
    (same : domains st = m.domains) {calls : List Call} (fits : ∀ call ∈ calls, call.Fits m.maxCpu) :
    List.Forall₂ Agree (answers (Virsh.hypervisor s) calls st).1
        (answers Simulated.hypervisor calls m).1 ∧
      domains (answers (Virsh.hypervisor s) calls st).2 =
        (answers Simulated.hypervisor calls m).2.domains := by
  have linked : Linked s domains st m := ⟨showable, names, uri, standIn, same⟩
  clear showable names standIn same
  -- `Linked` is what one call hands on to the next
  induction calls generalizing st m with
  | nil => exact ⟨.nil, linked.same⟩
  | cons call calls ih =>
    obtain ⟨hcall, hcalls⟩ := List.forall_mem_cons.1 fits
    have hnext := linked.ask hcall
    rw [← Call.maxCpu_ask call m] at hcalls
    obtain ⟨hagree, hleft⟩ := ih hcalls hnext
    exact ⟨.cons (linked.alike hcall).1 hagree, hleft⟩

/-! ## Hosts with one domain -/

/-- A host with one domain, which runs. -/
def oneDomain (uuid : String) : Machine :=
  (Machine.new "node-1" 2 2).addDomain uuid 1 2

theorem get?_oneDomain {uuid other : String} {d : Domain}
    (h : (oneDomain uuid).domains.get? other = some d) : other = uuid ∧ d.stateCode = 1 := by
  by_cases ho : other = uuid
  · subst ho
    rw [oneDomain, Machine.addDomain, SortedMap.get?_insert_self] at h
    obtain rfl := Option.some.inj h
    exact ⟨rfl, rfl⟩
  · rw [oneDomain, Machine.addDomain, SortedMap.get?_insert_of_ne ho] at h
    simp [Machine.new] at h

theorem showable_oneDomain {uuid : String} (h : IsName uuid) : Showable (oneDomain uuid) where
  built := .addDomain uuid 1 2 (.new "node-1" 2 2 (by decide))
  cpus := by
    change (4 : UInt32) ≠ 0
    decide
  failingPins := rfl
  failingInfo := rfl
  domains other d hd := by
    obtain ⟨rfl, hstate⟩ := get?_oneDomain hd
    exact ⟨h, by rw [hstate]; decide⟩

/-- Pins of a virtual CPU that there is and of one that there is not, and calls about them. -/
theorem hypervisors_agree_of_pins :
    let m := oneDomain "vm-1"
    let s := printerSetup m.maxCpu m.topology
    let calls := [.maxCpus, .numaTopology, .pinVcpu "vm-1" 1 ⟨[true, true, false, true]⟩,
      .pinVcpu "vm-1" 2 ⟨[true, false, false, false]⟩, .activeDomains, .vcpuPins "vm-1",
      .domainInfo "vm-2"]
    Showable m ∧ (∀ uuid d, m.domains.get? uuid = some d → '\x00' ∉ uuid.toList) ∧
      '\x00' ∉ s.uri.toList ∧ StandIn s m.maxCpu m.topology id ∧
      (∀ call ∈ calls, Call.Fits m.maxCpu call) ∧
      List.Forall₂ Agree (answers (Virsh.hypervisor s) calls m.domains).1
        (answers Simulated.hypervisor calls m).1 ∧
      (answers (Virsh.hypervisor s) calls m.domains).2 =
        (answers Simulated.hypervisor calls m).2.domains := by
  intro m s calls
  have hshow : Showable m := showable_oneDomain ⟨by decide, by decide, by decide⟩
  have hnames : ∀ uuid d, m.domains.get? uuid = some d → '\x00' ∉ uuid.toList := by
    intro uuid d hd
    rw [(get?_oneDomain hd).1]
    decide
  have huri : '\x00' ∉ s.uri.toList := by decide
  have hfits : ∀ call ∈ calls, Call.Fits m.maxCpu call := by
    simp only [calls, List.forall_mem_cons]
    exact ⟨trivial, trivial, rfl, rfl, trivial, trivial, trivial, List.forall_mem_nil _⟩
  have hstand := standIn_printer m.maxCpu m.topology
  exact ⟨hshow, hnames, huri, hstand, hfits,
    hypervisors_agree hshow hnames huri hstand rfl hfits⟩

/-- The tool cannot be asked for a domain with a NUL in its name, about which the simulated hypervisor
tells. -/
theorem hypervisors_differ_on_nul :
    let m := oneDomain "a\x00b"
    let s := printerSetup m.maxCpu m.topology
    Showable m ∧ '\x00' ∉ s.uri.toList ∧ StandIn s m.maxCpu m.topology id ∧
      (answers (Virsh.hypervisor s) [.domainInfo "a\x00b"] m.domains).1 =
        [.error (.io "nul byte found in provided data")] ∧
      (answers Simulated.hypervisor [.domainInfo "a\x00b"] m).1 =
        [.ok (.info ⟨"a\x00b", 1, 2⟩)] ∧
      ¬ List.Forall₂ Agree (answers (Virsh.hypervisor s) [.domainInfo "a\x00b"] m.domains).1
        (answers Simulated.hypervisor [.domainInfo "a\x00b"] m).1 := by
  intro m s
  have hshow : Showable m := showable_oneDomain ⟨by decide, by decide, by decide⟩
  have hrun : (Virsh.domainInfo s "a\x00b").run.run m.domains =
      (.error (.io "nul byte found in provided data"), m.domains) :=
    run_domainInfo_of_error (run_of_nul (List.mem_cons_of_mem _ List.mem_cons_self) (by decide))
  have hvirsh : (answers (Virsh.hypervisor s) [.domainInfo "a\x00b"] m.domains).1 =
      [.error (.io "nul byte found in provided data")] := by
    change [((Reply.info <$> Virsh.domainInfo s "a\x00b").run.run m.domains).1] = _
    rw [run_map_except, hrun]
    rfl
  have hsim : (answers Simulated.hypervisor [.domainInfo "a\x00b"] m).1 =
      [.ok (.info ⟨"a\x00b", 1, 2⟩)] := rfl
  refine ⟨hshow, by decide, standIn_printer m.maxCpu m.topology, hvirsh, hsim, fun h => ?_⟩
  rw [hvirsh, hsim] at h
  cases h with
  | cons hagree _ => exact nomatch hagree.answer

end VcpuPinning.Virsh
