import VcpuPinning.Proofs.Hypervisor.Steps
import VcpuPinning.Proofs.Virsh.Layouts
import VcpuPinning.Virsh

/-!
# Readings of the virsh tool

What an operation of the hypervisor answers follows from what its runs of the tool print : one
lemma for each operation whose runs succeed, and `domainError` for one that asks for a domain and
fails.
-/

namespace VcpuPinning.Virsh

open Output

variable {σ : Type} {s : Setup σ} {st st' st'' : σ} {uuid : String} {e : HypervisorError}

/-- The tool prints lines of a layout. -/
def Prints (s : Setup σ) (args : List String) (st st' : σ) (layout : List Line → Prop) : Prop :=
  ∃ out, (s.run args).run.run st = (.ok out, st') ∧ layout (linesOf out)

/-- Arguments without a NUL are passed on to the tool. -/
theorem run_of_shell {args : List String} {run : Run}
    (hnul : ∀ a ∈ s.uri :: args, '\x00' ∉ a.toList)
    (h : s.shell ("-c" :: s.uri :: args) st = (run, st')) :
    (s.run args).run.run st = (outputOf s.timeout args run, st') := by
  have hall : ("-c" :: s.uri :: args).any (fun a => a.toList.contains '\x00') = false := by
    rw [List.any_cons, Bool.or_eq_false_iff, List.any_eq_false]
    exact ⟨by decide, fun a ha => by simpa using hnul a ha⟩
  change (if ("-c" :: s.uri :: args).any (fun a => a.toList.contains '\x00') then _ else _) = _
  rw [hall, if_neg Bool.false_ne_true]
  exact congrArg (fun r => (outputOf s.timeout args r.1, r.2)) h

/-- A run that ends well prints its output. -/
theorem Prints.of_shell {args : List String} {out err : List UInt8} {layout : List Line → Prop}
    (hnul : ∀ a ∈ s.uri :: args, '\x00' ∉ a.toList)
    (h : s.shell ("-c" :: s.uri :: args) st = (.exited 0 out err, st'))
    (hl : layout (linesOf (Text.Utf8.decodeLossy out))) : Prints s args st st' layout :=
  ⟨_, run_of_shell hnul h, hl⟩

theorem run_runForDomain {args : List String} {r : Except HypervisorError String}
    (h : (s.run args).run.run st = (r, st')) :
    (s.runForDomain uuid args).run.run st = (r.mapError (domainError uuid), st') := by
  change ((((s.run args).run.run st).1).mapError (domainError uuid),
    ((s.run args).run.run st).2) = _
  rw [h]

/-! ## The host -/

theorem run_maxCpus {n : UInt32}
    (h : Prints s ["nodeinfo"] st st' (Shows "CPU(s)" (toString n))) :
    (maxCpus s).run.run st = (.ok n, st') := by
  obtain ⟨out, hr, hs⟩ := h
  refine (run_bind_ok hr _).trans ?_
  rw [nodeinfo, cpuCount_of_shows hs]
  rfl

theorem run_numaTopology {t : Topology}
    (h : Prints s ["capabilities"] st st' (ShowsTopology t))
    (ascending : ∀ e ∈ t.entries, e.2.Pairwise (· ≤ ·)) :
    (hypervisor s).numaTopology.run.run st = (.ok t, st') := by
  obtain ⟨out, hr, hs⟩ := h
  refine (run_bind_ok hr _).trans ?_
  rw [capabilities_of_shows hs ascending]
  rfl

theorem run_activeDomains {names : List String}
    (h : Prints s ["list", "--uuid"] st st' (Names · names)) :
    (hypervisor s).activeDomains.run.run st = (.ok names, st') := by
  obtain ⟨out, hr, hs⟩ := h
  refine (run_bind_ok hr _).trans ?_
  rw [uuidList_of_names hs]
  rfl

/-! ## A domain -/

theorem run_domainInfo {word : String} {n : UInt32}
    (h : Prints s ["dominfo", uuid] st st' fun ls =>
      Shows "State" word ls ∧ Shows "CPU(s)" (toString n) ls) :
    (domainInfo s uuid).run.run st = (.ok ⟨uuid, stateCode word, n⟩, st') := by
  obtain ⟨out, hr, hw, hn⟩ := h
  refine (run_bind_ok (run_runForDomain hr) _).trans ?_
  rw [dominfo_of_shows hw hn]
  rfl

theorem run_domainInfo_of_error (h : (s.run ["dominfo", uuid]).run.run st = (.error e, st')) :
    (domainInfo s uuid).run.run st = (.error (domainError uuid e), st') :=
  run_bind_error (run_runForDomain h) _

/-- The number of CPUs of the host tells how to read the pins. -/
theorem run_vcpuPins {n : UInt32} {pins : SortedMap UInt32 CpuSet}
    (hn : Prints s ["nodeinfo"] st st' (Shows "CPU(s)" (toString n)))
    (hp : Prints s ["vcpupin", uuid] st' st'' (ShowsPins pins))
    (hpins : ∀ set ∈ pins.values, set.width = n.toNat ∧ set.count ≠ 0) :
    (vcpuPins s uuid).run.run st = (.ok pins.values, st'') := by
  obtain ⟨out, hr, hs⟩ := hp
  refine (run_bind_ok (run_maxCpus hn) _).trans ?_
  refine (run_bind_ok (run_runForDomain hr) _).trans ?_
  rw [vcpupin_of_shows (toNat_le_max64 n) hs hpins]
  rfl

theorem run_vcpuPins_of_error {n : UInt32}
    (hn : Prints s ["nodeinfo"] st st' (Shows "CPU(s)" (toString n)))
    (h : (s.run ["vcpupin", uuid]).run.run st' = (.error e, st'')) :
    (vcpuPins s uuid).run.run st = (.error (domainError uuid e), st'') :=
  (run_bind_ok (run_maxCpus hn) _).trans (run_bind_error (run_runForDomain h) _)

/-! ## A pin -/

/-- The arguments of the run that pins a virtual CPU. -/
def pinArguments (uuid : String) (vcpu : UInt32) (list : String) : List String :=
  ["vcpupin", uuid, "--vcpu", toString vcpu, "--cpulist", list, "--live"]

/-- Numbers and lists of CPUs may be arguments. -/
theorem nul_not_mem_options (vcpu : UInt32) (set : CpuSet) :
    ∀ a ∈ ["--vcpu", toString vcpu, "--cpulist", set.cpulist, "--live"], '\x00' ∉ a.toList := by
  have hnumber : '\x00' ∉ (toString vcpu).toList := by
    rw [toList_toString]
    exact not_mem_text (by decide) _
  simp only [List.forall_mem_cons]
  exact ⟨by decide, hnumber, by decide, not_mem_cpulist (by decide) set, by decide,
    List.forall_mem_nil _⟩

variable {vcpu : UInt32} {set : CpuSet}

/-- A set without a CPU has no list that the tool could be given. -/
theorem run_pinVcpu_of_empty (h : set.count = 0) : ∃ e,
    (pinVcpu s uuid vcpu set).run.run st = (.error (.rejected e), st) := by
  have hlist : set.cpulist = "" := CpuSet.cpulist_eq_empty_iff.2 h
  unfold pinVcpu
  simp only [hlist, ↓reduceIte]
  exact ⟨_, rfl⟩

theorem run_pinVcpu {r : Except HypervisorError String} (hc : set.count ≠ 0)
    (h : (s.run (pinArguments uuid vcpu set.cpulist)).run.run st = (r, st')) :
    (pinVcpu s uuid vcpu set).run.run st =
      ((r.mapError (domainError uuid)).map fun _ => (), st') := by
  have hlist : set.cpulist ≠ "" := fun he => hc (CpuSet.cpulist_eq_empty_iff.1 he)
  unfold pinVcpu
  simp only [hlist, ↓reduceIte]
  cases r with
  | ok out => exact run_bind_ok (run_runForDomain h) _
  | error e => exact run_bind_error (run_runForDomain h) _

end VcpuPinning.Virsh
