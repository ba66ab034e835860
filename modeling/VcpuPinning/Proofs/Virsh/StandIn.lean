import VcpuPinning.Agent.Reporter
import VcpuPinning.Proofs.Hypervisor.Machines
import VcpuPinning.Proofs.Virsh.Readings

/-!
# Stand-ins for the virsh tool

A stand-in holds domains, prints them and their host in the layouts of the tool, and pins what the
tool would pin (`StandIn`). What a run of a stand-in prints is what an operation of the hypervisor
reads (`Answers.prints`), and whether it fails because of a missing domain is told by its error
output (`Fails.run`) : the hypervisor sees it trimmed, or sees a status in its place, and finds the
same phrases (`isMissingDomain_failureDetail`).
-/

namespace VcpuPinning.Virsh

open Output Simulated

/-- Domains by their names. -/
abbrev Domains := SortedMap String Domain

/-- A name that fills a line of its own. -/
structure IsName (name : String) : Prop where
  trimmed : Text.trim name.toList = name.toList
  nonempty : name ≠ ""
  singleLine : '\n' ∉ name.toList

/-- A domain of a host with `maxCpu` CPUs that the tool can print. -/
structure IsPrintable (maxCpu : ℕ) (uuid : String) (d : Domain) : Prop where
  name : IsName uuid
  stateCode : d.stateCode ≤ 8
  vcpus : d.pins.length < UInt32.size
  sets : ∀ set ∈ d.pins, set.width = maxCpu ∧ set.count ≠ 0

variable {σ : Type} {s : Setup σ} {domains : σ → Domains} {args : List String} {st st' : σ}

/-! ## Runs of a stand-in -/

/-- A run ends well, prints lines of a layout and leaves some domains. -/
def Answers (s : Setup σ) (domains : σ → Domains) (args : List String) (st : σ) (left : Domains)
    (layout : List Line → Prop) : Prop :=
  ∃ out err st', s.shell ("-c" :: s.uri :: args) st = (.exited 0 out err, st') ∧
    domains st' = left ∧ layout (linesOf (Text.Utf8.decodeLossy out))

/-- A run ends with an error, says something about it and changes no domain. -/
def Fails (s : Setup σ) (domains : σ → Domains) (args : List String) (st : σ)
    (said : String → Prop) : Prop :=
  ∃ status out err st', status ≠ 0 ∧
    s.shell ("-c" :: s.uri :: args) st = (.exited status out err, st') ∧
    domains st' = domains st ∧ said (Text.Utf8.decodeLossy err)

/-- What a stand-in does while it holds the domains of a state. -/
structure Serves (s : Setup σ) (maxCpu : UInt32) (topology : Topology) (domains : σ → Domains)
    (st : σ) : Prop where
  nodeinfo : Answers s domains ["nodeinfo"] st (domains st) (Shows "CPU(s)" (toString maxCpu))
  capabilities : Answers s domains ["capabilities"] st (domains st) (ShowsTopology topology)
  list : Answers s domains ["list", "--uuid"] st (domains st) (Names · (running (domains st)))
  dominfo {uuid : String} {d : Domain} (known : (domains st).get? uuid = some d) :
    ∃ word, stateCode word = d.stateCode ∧
      Answers s domains ["dominfo", uuid] st (domains st) fun ls =>
        Shows "State" word ls ∧ Shows "CPU(s)" (toString (UInt32.ofNat d.pins.length)) ls
  vcpupin {uuid : String} {d : Domain} (known : (domains st).get? uuid = some d) :
    Answers s domains ["vcpupin", uuid] st (domains st)
      (ShowsPins (Agent.Reporter.pinsByVcpu d.pins))
  /-- The set that a list denotes is stored, if the domain runs and has the virtual CPU. -/
  pin {uuid list : String} {d : Domain} {vcpu : UInt32} {set : CpuSet}
    (known : (domains st).get? uuid = some d) (pinnable : d.Pinnable vcpu)
    (denoted : CpuSpec.compile list maxCpu.toNat = .ok set) :
    Answers s domains (pinArguments uuid vcpu list) st
      ((domains st).insert uuid (d.withPin vcpu set)) fun _ => True
  /-- Otherwise the attempt fails, for another reason than a missing domain. -/
  refusal {uuid list : String} {d : Domain} {vcpu : UInt32}
    (known : (domains st).get? uuid = some d) (refused : ¬ d.Pinnable vcpu) :
    Fails s domains (pinArguments uuid vcpu list) st fun text => ¬ isMissingDomain text
  /-- Every command about a domain that there is not says so. -/
  unknown {command uuid : String} {options : List String}
    (about : command = "dominfo" ∨ command = "vcpupin")
    (missing : (domains st).get? uuid = none) :
    Fails s domains (command :: uuid :: options) st fun text =>
      "failed to get domain".toList <:+: text.toList

/-- A tool that stands in for the one of a host, whatever domains it holds. -/
def StandIn (s : Setup σ) (maxCpu : UInt32) (topology : Topology) (domains : σ → Domains) : Prop :=
  ∀ st, (∀ uuid d, (domains st).get? uuid = some d → IsPrintable maxCpu.toNat uuid d) →
    Serves s maxCpu topology domains st

/-! ## Messages about missing domains -/

theorem isMissingDomain_iff {detail : String} : isMissingDomain detail ↔
    "Domain not found".toList <:+: detail.toList ∨
      "failed to get domain".toList <:+: detail.toList := by
  rw [isMissingDomain, Bool.or_eq_true, Text.isSome_after_iff, Text.isSome_after_iff]

/-- A phrase stays in an error output that is trimmed, and is not in a status in its place. -/
theorem infix_failureDetail_iff {c : Char} {phrase : List Char} (hc : Text.isBlank c = false)
    {d : Char} (hlast : (c :: phrase).getLast? = some d) (hd : Text.isBlank d = false)
    (hfirst : c ∉ "exit status: ".toList) (hdigit : c.isDigit = false) (status : ℕ)
    (err : List UInt8) : c :: phrase <:+: (failureDetail status err).toList ↔
      c :: phrase <:+: (Text.Utf8.decodeLossy err).toList := by
  have hhead : ∀ d, (c :: phrase).head? = some d → Text.isBlank d = false := by
    rintro _ ⟨⟩
    exact hc
  have hend : ∀ e, (c :: phrase).getLast? = some e → Text.isBlank e = false := by
    intro e he
    rw [hlast] at he
    exact Option.some.inj he ▸ hd
  have htrim : c :: phrase <:+: Text.trim (Text.Utf8.decodeLossy err).toList ↔
      c :: phrase <:+: (Text.Utf8.decodeLossy err).toList :=
    ⟨fun h => h.trans (Text.trim_infix _),
      Text.infix_trim (List.cons_ne_nil c phrase) hhead hend⟩
  rw [failureDetail, ← htrim]
  cases Text.trim (Text.Utf8.decodeLossy err).toList with
  | cons d ds => simp only [List.isEmpty_cons, Bool.false_eq_true, ↓reduceIte, String.toList_ofList]
  | nil =>
    simp only [List.isEmpty_nil, ↓reduceIte, String.toList_append, String.toList_ofList,
      List.infix_nil, reduceCtorEq, iff_false]
    intro h
    rcases List.mem_append.1 (h.subset List.mem_cons_self) with h | h
    · exact hfirst h
    · exact Bool.false_ne_true (hdigit.symm.trans (Text.Numeral.isDigit_of_mem_text h))

theorem isMissingDomain_failureDetail (status : ℕ) (err : List UInt8) :
    isMissingDomain (failureDetail status err) = isMissingDomain (Text.Utf8.decodeLossy err) := by
  rw [Bool.eq_iff_iff, isMissingDomain_iff, isMissingDomain_iff]
  exact or_congr
    (infix_failureDetail_iff rfl rfl rfl (by decide) rfl status err)
    (infix_failureDetail_iff rfl rfl rfl (by decide) rfl status err)

/-! ## What is read -/

theorem Answers.prints {left : Domains} {layout : List Line → Prop}
    (h : Answers s domains args st left layout) (hnul : ∀ a ∈ s.uri :: args, '\x00' ∉ a.toList) :
    ∃ st', Prints s args st st' layout ∧ domains st' = left := by
  obtain ⟨out, err, st', hrun, hleft, hlayout⟩ := h
  exact ⟨st', .of_shell hnul hrun hlayout, hleft⟩

theorem Fails.run {said : String → Prop} (h : Fails s domains args st said)
    (hnul : ∀ a ∈ s.uri :: args, '\x00' ∉ a.toList) :
    ∃ line detail text st', (s.run args).run.run st = (.error (.command line detail), st') ∧
      domains st' = domains st ∧ said text ∧ isMissingDomain detail = isMissingDomain text := by
  obtain ⟨status, out, err, st', hstatus, hrun, hleft, hsaid⟩ := h
  obtain ⟨n, rfl⟩ := Nat.exists_eq_succ_of_ne_zero hstatus
  exact ⟨_, _, _, st', run_of_shell hnul hrun, hleft, hsaid, isMissingDomain_failureDetail _ err⟩

/-- An argument with a NUL is not passed on. -/
theorem run_of_nul {a : String} (ha : a ∈ args) (hnul : '\x00' ∈ a.toList) :
    (s.run args).run.run st = (.error (.io "nul byte found in provided data"), st) := by
  have hany : ("-c" :: s.uri :: args).any (fun a => a.toList.contains '\x00') = true :=
    List.any_eq_true.2 ⟨a, List.mem_cons_of_mem _ (List.mem_cons_of_mem _ ha), by simpa using hnul⟩
  change (if ("-c" :: s.uri :: args).any (fun a => a.toList.contains '\x00') then _ else _) = _
  rw [if_pos hany]

end VcpuPinning.Virsh
