import VcpuPinning.Pinning

/-!
# What an apply asks of its hypervisor

`Hypervisor.recorded` keeps a record of the calls by which virtual CPUs are to be pinned, and is
otherwise the hypervisor that it is made from. So the calls of an apply, whatever the hypervisor
answers, are what it leaves in the record. The main statement, `one_call_per_vcpu`, is that there are
none unless the domain can be read and the specification compiles, and then one for each virtual
CPU, in order.
-/

namespace VcpuPinning

variable {σ α : Type}

/-- A call to pin a virtual CPU, with its answer. -/
structure PinCall where
  uuid : String
  vcpu : UInt32
  set : CpuSet
  answer : Except HypervisorError Unit

namespace PinCall

/-- What was asked for. -/
def request (c : PinCall) : String × UInt32 × CpuSet :=
  (c.uuid, c.vcpu, c.set)

/-- The virtual CPU was pinned. -/
def succeeded (c : PinCall) : Bool :=
  c.answer.isOk

end PinCall

/-! ## Records -/

namespace Hypervisor

/-- An operation that leaves the record alone. -/
def unrecorded (x : Probe σ α) : Probe (σ × List PinCall) α := fun st =>
  ((x.run.run st.1).1, (x.run.run st.1).2, st.2)

/-- The hypervisor with a record of the calls to pin virtual CPUs. -/
def recorded (h : Hypervisor σ) : Hypervisor (σ × List PinCall) where
  name := h.name
  hostname := unrecorded h.hostname
  maxCpus := unrecorded h.maxCpus
  numaTopology := unrecorded h.numaTopology
  activeDomains := unrecorded h.activeDomains
  domainInfo uuid := unrecorded (h.domainInfo uuid)
  vcpuPins uuid := unrecorded (h.vcpuPins uuid)
  pinVcpu uuid vcpu set := fun st =>
    let result := (h.pinVcpu uuid vcpu set).run.run st.1
    (result.1, result.2, st.2 ++ [⟨uuid, vcpu, set, result.1⟩])

end Hypervisor

namespace Pinner

/-- The pinner on the hypervisor with a record. -/
def recorded (p : Pinner σ) : Pinner (σ × List PinCall) :=
  ⟨p.hypervisor.recorded, p.maxCpu⟩

/-- One call for each virtual CPU is recorded, and nothing else changes. -/
theorem exists_calls_pinEach (h : Hypervisor σ) (uuid : String) (set : CpuSet)
    (vcpus : List UInt32) (st : σ) (log : List PinCall) :
    ∃ calls : List PinCall, calls.map PinCall.request = vcpus.map (uuid, ·, set) ∧
      ((pinEach h uuid set vcpus).run st).1 = calls.map PinCall.succeeded ∧
      (pinEach h.recorded uuid set vcpus).run (st, log) =
        (((pinEach h uuid set vcpus).run st).1, ((pinEach h uuid set vcpus).run st).2,
          log ++ calls) := by
  induction vcpus generalizing st log with
  | nil => exact ⟨[], rfl, rfl, by rw [List.append_nil]; rfl⟩
  | cons v vcpus ih =>
    let result := (h.pinVcpu uuid v set).run.run st
    let call : PinCall := ⟨uuid, v, set, result.1⟩
    obtain ⟨calls, hrequests, hresults, hrun⟩ := ih result.2 (log ++ [call])
    refine ⟨call :: calls, congrArg ((uuid, v, set) :: ·) hrequests,
      congrArg (result.1.isOk :: ·) hresults, ?_⟩
    have hcons : (pinEach h.recorded uuid set (v :: vcpus)).run (st, log) =
        (result.1.isOk :: ((pinEach h.recorded uuid set vcpus).run (result.2, log ++ [call])).1,
          ((pinEach h.recorded uuid set vcpus).run (result.2, log ++ [call])).2) := rfl
    rw [hcons, hrun, List.append_assoc]
    rfl

end Pinner

/-! ## Applying a specification -/

/-- The calls of an apply that pins : one for each of `n` virtual CPUs, in order. Its outcome tells
what became of them. -/
structure PinCall.Attempts (uuid : String) (n : Nat) (set : CpuSet) (calls : List PinCall)
    (o : PinOutcome) : Prop where
  requests : calls.map PinCall.request = (List.range n).map fun v => (uuid, .ofNat v, set)
  results : o.vcpuResults = calls.map PinCall.succeeded
  applied : o.applied ↔ ∀ c ∈ calls, c.succeeded
  ascending : o.failedVcpus.Pairwise (· < ·)
  failed : ∀ v, v ∈ o.failedVcpus ↔ ∃ c, calls[v]? = some c ∧ ¬c.succeeded

/-- An outcome that has the results of the calls tells what became of them. -/
theorem PinCall.Attempts.of_results {uuid : String} {n : Nat} {set : CpuSet}
    {calls : List PinCall} {o : PinOutcome}
    (requests : calls.map request = (List.range n).map fun v => (uuid, .ofNat v, set))
    (results : o.vcpuResults = calls.map succeeded) : Attempts uuid n set calls o where
  requests := requests
  results := results
  applied := by rw [PinOutcome.applied, results, List.all_map, List.all_eq_true]; rfl
  ascending := o.pairwise_failedVcpus
  failed v := by
    rw [PinOutcome.mem_failedVcpus, results, List.getElem?_map, Option.map_eq_some_iff]
    simp only [Bool.not_eq_true]

namespace Pinner

section Apply

variable {p : Pinner σ} {uuid spec : String} {st : σ}

theorem domainInfo_recorded {info : Except HypervisorError DomainInfo} {st' : σ}
    (h : p.hypervisor.domainInfo uuid st = (info, st')) (log : List PinCall) :
    p.recorded.hypervisor.domainInfo uuid (st, log) = (info, st', log) := by
  simp only [recorded, Hypervisor.recorded, Hypervisor.unrecorded, StateT.run, ExceptT.run, h]

/-- Why nothing is pinned : the domain cannot be read, or it can and the specification does not
compile. -/
inductive Prevented (p : Pinner σ) (uuid spec : String) (st : σ) : PinError → Prop
  | unreadable {e : HypervisorError} {st' : σ} :
      p.hypervisor.domainInfo uuid st = (.error e, st') → Prevented p uuid spec st (.hypervisor e)
  | refused {info : DomainInfo} {st' : σ} {e : SpecError} :
      p.hypervisor.domainInfo uuid st = (.ok info, st') →
      CpuSpec.compile spec p.maxCpu.toNat = .error e → Prevented p uuid spec st (.spec e)

theorem exists_prevented_or (p : Pinner σ) (uuid spec : String) (st : σ) :
    (∃ e, p.Prevented uuid spec st e) ∨
      ∃ info st' set, p.hypervisor.domainInfo uuid st = (.ok info, st') ∧
        CpuSpec.compile spec p.maxCpu.toNat = .ok set := by
  cases hinfo : p.hypervisor.domainInfo uuid st with
  | mk info st' =>
  cases info with
  | error e => exact .inl ⟨_, .unreadable hinfo⟩
  | ok info =>
    cases hc : CpuSpec.compile spec p.maxCpu.toNat with
    | error e => exact .inl ⟨_, .refused hinfo hc⟩
    | ok set => exact .inr ⟨info, st', set, rfl, rfl⟩

theorem Prevented.apply_eq {e : PinError} (h : p.Prevented uuid spec st e) :
    ((p.apply uuid spec).run st).1 = .error e := by
  cases h with
  | unreadable hinfo => rw [apply_of_domainInfo_error hinfo]
  | refused hinfo hc => rw [apply_of_compile_error hinfo hc]

/-- What keeps an apply from pinning keeps it from making a call. -/
theorem Prevented.apply_recorded {e : PinError} (h : p.Prevented uuid spec st e)
    (log : List PinCall) : (p.recorded.apply uuid spec).run (st, log) =
      (((p.apply uuid spec).run st).1, ((p.apply uuid spec).run st).2, log) := by
  cases h with
  | unreadable hinfo =>
    rw [apply_of_domainInfo_error (domainInfo_recorded hinfo log), apply_of_domainInfo_error hinfo]
  | refused hinfo hc =>
    rw [apply_of_compile_error (domainInfo_recorded hinfo log) hc, apply_of_compile_error hinfo hc]

theorem apply_eq_error_iff {e : PinError} :
    ((p.apply uuid spec).run st).1 = .error e ↔ p.Prevented uuid spec st e := by
  refine ⟨fun h => ?_, Prevented.apply_eq⟩
  rcases exists_prevented_or p uuid spec st with ⟨e', he⟩ | ⟨info, st', set, hinfo, hc⟩
  · rw [he.apply_eq] at h
    exact Except.error.inj h ▸ he
  · rw [apply_of_compile_ok hinfo hc] at h
    exact nomatch h

end Apply

/-- An apply fails exactly if the domain cannot be read or the specification does not compile, and
then it has made no call. Otherwise it makes one for each virtual CPU of the domain, whatever
becomes of the others. -/
theorem one_call_per_vcpu (p : Pinner σ) (uuid spec : String) (st : σ) :
    ∃ calls, (p.recorded.apply uuid spec).run (st, []) =
        (((p.apply uuid spec).run st).1, ((p.apply uuid spec).run st).2, calls) ∧
      (∀ e, ((p.apply uuid spec).run st).1 = .error e ↔ p.Prevented uuid spec st e) ∧
      (∀ e, p.Prevented uuid spec st e → calls = []) ∧
      ∀ o, ((p.apply uuid spec).run st).1 = .ok o →
        ∃ info st' set, p.hypervisor.domainInfo uuid st = (.ok info, st') ∧
          CpuSpec.compile spec p.maxCpu.toNat = .ok set ∧
          PinCall.Attempts uuid info.vcpus.toNat set calls o := by
  rcases exists_prevented_or p uuid spec st with ⟨e, he⟩ | ⟨info, st', set, hinfo, hc⟩
  · refine ⟨[], he.apply_recorded [], fun _ => apply_eq_error_iff, fun _ _ => rfl, fun o ho => ?_⟩
    rw [he.apply_eq] at ho
    exact nomatch ho
  · obtain ⟨calls, hrequests, hresults, hrun⟩ :=
      exists_calls_pinEach p.hypervisor uuid set (vcpusOf info.vcpus) st' []
    have hok := apply_of_compile_ok hinfo hc
    refine ⟨calls, ?_, fun _ => apply_eq_error_iff, fun e he => ?_, fun o ho => ?_⟩
    · have hrecorded : p.recorded.hypervisor = p.hypervisor.recorded := rfl
      rw [apply_of_compile_ok (domainInfo_recorded hinfo []) hc, hok, hrecorded, hrun,
        List.nil_append]
    · rw [← apply_eq_error_iff, hok] at he
      exact nomatch he
    · rw [hok] at ho
      obtain rfl := Except.ok.inj ho
      rw [vcpusOf, List.map_map] at hrequests
      exact ⟨info, st', set, hinfo, hc, .of_results hrequests hresults⟩

end Pinner

end VcpuPinning
