import VcpuPinning.Proofs.CpuSet.Lists
import VcpuPinning.Proofs.Hypervisor.Machines
import VcpuPinning.Proofs.Pinning.Calls

/-!
# Replaying the log

A simulated host writes down every attempt to pin a virtual CPU, with the list of the CPUs that were
asked for (`pinLog_after`). The log is enough to tell the pins: a virtual CPU holds the set that the
last successful attempt names, of those since its domain was added, or every CPU if there is none
(`Replayed`). So lists, not sets, need to be kept. The main statement is `log_replays_to_pins`.
-/

namespace VcpuPinning.Simulated

/-- What can be done to a simulated host. -/
inductive Request where
  /-- A domain is added, or replaced by a new one. -/
  | addDomain (uuid : String) (stateCode : ℕ) (vcpus : UInt32)
  | failPin (uuid : String) (vcpu : UInt32)
  | failInfo (uuid : String)
  | clearFailures
  | pin (uuid : String) (vcpu : UInt32) (set : CpuSet)

namespace Request

/-- A domain of that name is added. -/
def Adds (uuid : String) : Request → Prop
  | .addDomain u _ _ => u = uuid
  | _ => False

instance (uuid : String) : DecidablePred (Adds uuid)
  | .addDomain u _ _ => inferInstanceAs (Decidable (u = uuid))
  | .failPin .. | .failInfo _ | .clearFailures | .pin .. => inferInstanceAs (Decidable False)

/-- The host after a request. -/
def onMachine (m : Machine) : Request → Machine
  | .addDomain uuid stateCode vcpus => m.addDomain uuid stateCode vcpus.toNat
  | .failPin uuid vcpu => m.failPin uuid vcpu
  | .failInfo uuid => m.failInfo uuid
  | .clearFailures => m.clearFailures
  | .pin uuid vcpu set => (m.pin uuid vcpu set).2

/-- The call to pin a virtual CPU, with its answer. -/
def calls (m : Machine) : Request → List PinCall
  | .pin uuid vcpu set => [⟨uuid, vcpu, set, (m.pin uuid vcpu set).1⟩]
  | _ => []

end Request

/-- How a call is written down. -/
def attemptOf (c : PinCall) : PinAttempt :=
  ⟨c.uuid, c.vcpu, c.set.cpulist, c.succeeded⟩

namespace Machine

/-- The host after requests. -/
def after (m : Machine) (rs : List Request) : Machine :=
  rs.foldl Request.onMachine m

/-- The calls to pin virtual CPUs, with their answers, in order. -/
def callsOf (m : Machine) : List Request → List PinCall
  | [] => []
  | r :: rs => r.calls m ++ (r.onMachine m).callsOf rs

end Machine

/-- The last successful attempt to pin a virtual CPU. -/
def lastPinned (uuid : String) (vcpu : UInt32) (log : List PinAttempt) : Option PinAttempt :=
  (log.filter fun a => a.uuid = uuid ∧ a.vcpu = vcpu ∧ a.succeeded).getLast?

/-- What a virtual CPU holds after its last successful attempt: the set of the list that was written
down, on a host with `total` CPUs, and every CPU if there was none. -/
def Holds (total : ℕ) (set : CpuSet) : Option PinAttempt → Prop
  | some a => CpuSpec.compile a.cpulist total = .ok set
  | none => set = .full total

/-- The pins of a domain are what a log says. -/
def Replayed (total : ℕ) (uuid : String) (log : List PinAttempt) (pins : List CpuSet) : Prop :=
  ∀ (v : UInt32) (set : CpuSet), pins[v.toNat]? = some set → Holds total set (lastPinned uuid v log)

/-! ## The log -/

theorem pinLog_onMachine (m : Machine) (r : Request) :
    (r.onMachine m).pinLog = m.pinLog ++ (r.calls m).map attemptOf := by
  cases r with
  | pin uuid vcpu set => exact m.pinLog_pin uuid vcpu set
  | addDomain | failPin | failInfo | clearFailures => exact (List.append_nil _).symm

/-- The log has one entry for each call. -/
theorem pinLog_after (m : Machine) (rs : List Request) :
    (m.after rs).pinLog = m.pinLog ++ (m.callsOf rs).map attemptOf := by
  induction rs generalizing m with
  | nil => exact (List.append_nil _).symm
  | cons r rs ih =>
    have hcons : m.after (r :: rs) = (r.onMachine m).after rs := rfl
    rw [hcons, ih, pinLog_onMachine, Machine.callsOf, List.map_append, List.append_assoc]

theorem maxCpu_after (m : Machine) (rs : List Request) : (m.after rs).maxCpu = m.maxCpu := by
  induction rs generalizing m with
  | nil => rfl
  | cons r rs ih =>
    refine (ih (r.onMachine m)).trans ?_
    cases r with
    | pin uuid vcpu set => exact m.maxCpu_pin uuid vcpu set
    | addDomain | failPin | failInfo | clearFailures => rfl

theorem lastPinned_concat (uuid : String) (v : UInt32) (log : List PinAttempt) (a : PinAttempt) :
    lastPinned uuid v (log ++ [a]) =
      if a.uuid = uuid ∧ a.vcpu = v ∧ a.succeeded then some a else lastPinned uuid v log := by
  unfold lastPinned
  rw [List.filter_append]
  by_cases h : a.uuid = uuid ∧ a.vcpu = v ∧ a.succeeded = true
  · simp [h]
  · simp [h]

/-! ## One attempt -/

/-- A refused attempt changes no pin, and one that is made changes that of one virtual CPU of one
domain. -/
theorem pins_pin (m : Machine) (uuid : String) (vcpu : UInt32) (set : CpuSet) :
    (m.accepts uuid set vcpu = false → ∀ u, (m.pin uuid vcpu set).2.pins u = m.pins u) ∧
    (m.accepts uuid set vcpu = true →
      (∀ u, u ≠ uuid → (m.pin uuid vcpu set).2.pins u = m.pins u) ∧
      ∃ pins, m.pins uuid = some pins ∧ vcpu.toNat < pins.length ∧
        (m.pin uuid vcpu set).2.pins uuid = some (pins.set vcpu.toNat set)) := by
  rw [Machine.accepts_eq]
  cases ht : m.pinTarget uuid vcpu set with
  | error e =>
    refine ⟨fun _ u => ?_, (nomatch ·)⟩
    rw [Machine.pins, Machine.domains_pin_of_error ht, Machine.pins]
  | ok d =>
    obtain ⟨-, -, hd, -, hv⟩ := Machine.pinTarget_eq_ok_iff.1 ht
    refine ⟨(nomatch ·), fun _ => ⟨fun u hu => ?_, d.pins, ?_, hv, ?_⟩⟩
    · rw [Machine.pins, m.get?_pin_of_ne hu, Machine.pins]
    · rw [Machine.pins, hd, Option.map_some]
    · rw [Machine.pins, (Machine.pin_of_ok ht).2, SortedMap.get?_insert_self]
      rfl

/-- The list of a set that was accepted denotes the set on the host. -/
theorem compile_of_accepts {m : Machine} {uuid : String} {vcpu : UInt32} {set : CpuSet}
    (h : m.accepts uuid set vcpu = true) :
    CpuSpec.compile set.cpulist m.maxCpu.toNat = .ok set := by
  rw [Machine.accepts_eq] at h
  cases ht : m.pinTarget uuid vcpu set with
  | error e =>
    rw [ht] at h
    exact nomatch h
  | ok d =>
    obtain ⟨-, ⟨hw, hc⟩, -⟩ := Machine.pinTarget_eq_ok_iff.1 ht
    have hfits : set.width ≤ Text.Numeral.max64 := by
      rw [hw]
      exact Nat.le_trans (Nat.le_of_lt m.maxCpu.toNat_lt) (by decide)
    rw [← hw]
    exact CpuSpec.compile_cpulist hfits hc

/-! ## Replaying -/

namespace Replayed

variable {total : ℕ} {uuid : String} {log : List PinAttempt} {pins : List CpuSet}

/-- A new domain holds every CPU. -/
theorem new (total : ℕ) (uuid : String) (vcpus : ℕ) :
    Replayed total uuid [] (List.replicate vcpus (.full total)) := by
  intro v set hset
  exact List.eq_of_mem_replicate (List.mem_of_getElem? hset)

/-- Attempts that fail, or that are on another domain, do not count. -/
theorem skip (h : Replayed total uuid log pins) {a : PinAttempt}
    (ha : a.uuid = uuid → a.succeeded = false) : Replayed total uuid (log ++ [a]) pins := by
  intro v set hset
  rw [lastPinned_concat, if_neg fun hc => Bool.false_ne_true ((ha hc.1).symm.trans hc.2.2)]
  exact h v set hset

/-- A successful attempt counts for its virtual CPU. -/
theorem pinned (h : Replayed total uuid log pins) {vcpu : UInt32} {set : CpuSet}
    (hcompile : CpuSpec.compile set.cpulist total = .ok set) :
    Replayed total uuid (log ++ [⟨uuid, vcpu, set.cpulist, true⟩])
      (pins.set vcpu.toNat set) := by
  intro v s hs
  rw [lastPinned_concat]
  by_cases hv : vcpu = v
  · subst hv
    rw [if_pos ⟨rfl, rfl, rfl⟩]
    rw [List.getElem?_set_self'] at hs
    obtain ⟨-, -, rfl⟩ := Option.map_eq_some_iff.1 hs
    exact hcompile
  · have hne : vcpu.toNat ≠ v.toNat := fun he => hv (UInt32.toNat_inj.1 he)
    rw [if_neg fun hc => hv hc.2.1]
    rw [List.getElem?_set_ne hne] at hs
    exact h v s hs

end Replayed

/-- A domain with `vcpus` virtual CPUs, whose pins are what a log says. -/
def Kept (m : Machine) (uuid : String) (vcpus : ℕ) (log : List PinAttempt) : Prop :=
  ∃ pins, m.pins uuid = some pins ∧ pins.length = vcpus ∧ Replayed m.maxCpu.toNat uuid log pins

namespace Kept

variable {m : Machine} {uuid : String} {vcpus : ℕ} {log : List PinAttempt}

theorem addDomain (m : Machine) (uuid : String) (stateCode vcpus : ℕ) :
    Kept (m.addDomain uuid stateCode vcpus) uuid vcpus [] := by
  refine ⟨List.replicate vcpus (.full m.maxCpu.toNat), ?_, List.length_replicate,
    .new m.maxCpu.toNat uuid vcpus⟩
  rw [Machine.pins, Machine.addDomain, SortedMap.get?_insert_self]
  rfl

/-- One request more, which does not replace the domain. -/
theorem onMachine (h : Kept m uuid vcpus log) {r : Request} (hr : ¬ r.Adds uuid) :
    Kept (r.onMachine m) uuid vcpus (log ++ (r.calls m).map attemptOf) := by
  obtain ⟨pins, hpins, hlen, hlog⟩ := h
  cases r with
  | addDomain u stateCode n =>
    refine ⟨pins, ?_, hlen, (List.append_nil log).symm ▸ hlog⟩
    rw [Request.onMachine, Machine.pins, Machine.addDomain,
      SortedMap.get?_insert_of_ne fun hu => hr hu.symm]
    exact hpins
  | failPin | failInfo | clearFailures =>
    exact ⟨pins, hpins, hlen, (List.append_nil log).symm ▸ hlog⟩
  | pin u vcpu set =>
    obtain ⟨hrefused, hmade⟩ := pins_pin m u vcpu set
    rw [Kept, Request.onMachine, Machine.maxCpu_pin, Request.calls, List.map_singleton]
    by_cases ha : m.accepts u set vcpu = true
    · obtain ⟨hothers, pins', hpins', -, hset⟩ := hmade ha
      by_cases hu : u = uuid
      · subst hu
        obtain rfl := Option.some.inj (hpins.symm.trans hpins')
        have hentry : attemptOf ⟨u, vcpu, set, (m.pin u vcpu set).1⟩ =
            ⟨u, vcpu, set.cpulist, true⟩ := congrArg (PinAttempt.mk u vcpu set.cpulist) ha
        rw [hentry]
        exact ⟨_, hset, List.length_set.trans hlen, hlog.pinned (compile_of_accepts ha)⟩
      · exact ⟨pins, (hothers uuid (Ne.symm hu)).trans hpins, hlen, hlog.skip fun he => absurd he hu⟩
    · rw [Bool.not_eq_true] at ha
      exact ⟨pins, (hrefused ha uuid).trans hpins, hlen, hlog.skip fun _ => ha⟩

theorem after (h : Kept m uuid vcpus log) {rs : List Request} (hrs : ∀ r ∈ rs, ¬ r.Adds uuid) :
    Kept (m.after rs) uuid vcpus (log ++ (m.callsOf rs).map attemptOf) := by
  induction rs generalizing m log with
  | nil =>
    rw [Machine.callsOf, List.map_nil, List.append_nil]
    exact h
  | cons r rs ih =>
    rw [List.forall_mem_cons] at hrs
    have hnext := ih (h.onMachine hrs.1) hrs.2
    rw [Machine.callsOf, List.map_append, ← List.append_assoc]
    exact hnext

end Kept

/-- Since a domain was added, its pins are what was written down since then. -/
theorem kept_since_added (start : Machine) {uuid : String} (before : List Request)
    (stateCode : ℕ) (vcpus : UInt32) {since : List Request} (hsince : ∀ r ∈ since, ¬ r.Adds uuid) :
    Kept (start.after (before ++ .addDomain uuid stateCode vcpus :: since)) uuid vcpus.toNat
      ((start.after (before ++ .addDomain uuid stateCode vcpus :: since)).pinLog.drop
        (start.after before).pinLog.length) := by
  let added := (start.after before).addDomain uuid stateCode vcpus.toNat
  have hafter : start.after (before ++ .addDomain uuid stateCode vcpus :: since) =
      added.after since := by
    rw [Machine.after, List.foldl_append]
    rfl
  have hlog : (added.after since).pinLog.drop (start.after before).pinLog.length =
      (added.callsOf since).map attemptOf := by
    rw [pinLog_after added since]
    exact List.drop_left
  rw [hafter, hlog]
  exact (Kept.addDomain (start.after before) uuid stateCode vcpus.toNat).after hsince

/-- A domain that is never added is never there. -/
theorem pins_after_eq_none {m : Machine} {uuid : String} (h : m.pins uuid = none)
    {rs : List Request} (hrs : ∀ r ∈ rs, ¬ r.Adds uuid) : (m.after rs).pins uuid = none := by
  induction rs generalizing m with
  | nil => exact h
  | cons r rs ih =>
    rw [List.forall_mem_cons] at hrs
    refine ih ?_ hrs.2
    cases r with
    | addDomain u stateCode n =>
      rw [Request.onMachine, Machine.pins, Machine.addDomain,
        SortedMap.get?_insert_of_ne fun hu => hrs.1 hu.symm]
      exact h
    | failPin | failInfo | clearFailures => exact h
    | pin u vcpu set =>
      obtain ⟨hrefused, hmade⟩ := pins_pin m u vcpu set
      by_cases ha : m.accepts u set vcpu = true
      · obtain ⟨hothers, pins, hpins, -⟩ := hmade ha
        have hu : uuid ≠ u := by
          rintro rfl
          exact Option.some_ne_none pins (hpins.symm.trans h)
        exact (hothers uuid hu).trans h
      · exact (hrefused (Bool.not_eq_true _ ▸ ha) uuid).trans h

/-- A domain was never added, or there was a last time. -/
theorem exists_last_added (uuid : String) (rs : List Request) :
    (∀ r ∈ rs, ¬ r.Adds uuid) ∨
    ∃ before stateCode vcpus since, rs = before ++ .addDomain uuid stateCode vcpus :: since ∧
      ∀ r ∈ since, ¬ r.Adds uuid := by
  induction rs with
  | nil => exact .inl fun r hr => absurd hr List.not_mem_nil
  | cons r rs ih =>
    rcases ih with hrs | ⟨before, stateCode, vcpus, since, rfl, hsince⟩
    · by_cases hr : r.Adds uuid
      · cases r with
        | addDomain u stateCode vcpus =>
          obtain rfl : u = uuid := hr
          exact .inr ⟨[], stateCode, vcpus, rs, rfl, hrs⟩
        | failPin | failInfo | clearFailures | pin => exact hr.elim
      · exact .inl (List.forall_mem_cons.2 ⟨hr, hrs⟩)
    · exact .inr ⟨r :: before, stateCode, vcpus, since, rfl, hsince⟩

/-- What is held selects a CPU of the host. -/
theorem Holds.width_and_count {total : ℕ} {set : CpuSet} {last : Option PinAttempt}
    (h : Holds total set last) (hcpu : total ≠ 0) : set.width = total ∧ set.count ≠ 0 := by
  cases last with
  | none =>
    obtain rfl : set = .full total := h
    rw [CpuSet.count, CpuSet.full, List.count_replicate_self]
    exact ⟨CpuSet.width_full total, hcpu⟩
  | some a => exact CpuSpec.width_of_compile h

/-- On a simulated host with a CPU, after whatever was done to it:

* the log has one entry for each call to pin a virtual CPU, in order, marked as the call was answered;
* a refused call changes no pin, and one that succeeds changes that of its virtual CPU only;
* there are no pins of a domain that was never added, and since a domain was last added each of its
  virtual CPUs holds the set that its last successful entry denotes on the host, or every CPU if there
  is no such entry;
* every set that is held has the width of the host and selects a CPU. -/
theorem log_replays_to_pins (hostname : String) (cells perCell : ℕ)
    (hasCpu : (Machine.new hostname cells perCell).maxCpu ≠ 0) (rs : List Request) :
    let start := Machine.new hostname cells perCell
    let m := start.after rs
    m.pinLog = (start.callsOf rs).map attemptOf ∧
    (∀ uuid vcpu set,
      ((m.pin uuid vcpu set).1.isOk = false → ∀ u, (m.pin uuid vcpu set).2.pins u = m.pins u) ∧
      ((m.pin uuid vcpu set).1.isOk = true →
        (∀ u, u ≠ uuid → (m.pin uuid vcpu set).2.pins u = m.pins u) ∧
        ∃ pins, m.pins uuid = some pins ∧ vcpu.toNat < pins.length ∧
          (m.pin uuid vcpu set).2.pins uuid = some (pins.set vcpu.toNat set))) ∧
    (∀ uuid, (∀ r ∈ rs, ¬ r.Adds uuid) → m.pins uuid = none) ∧
    (∀ uuid before stateCode vcpus since,
      rs = before ++ .addDomain uuid stateCode vcpus :: since → (∀ r ∈ since, ¬ r.Adds uuid) →
      ∃ pins, m.pins uuid = some pins ∧ pins.length = vcpus.toNat ∧
        ∀ (v : UInt32) (set : CpuSet), pins[v.toNat]? = some set →
          Holds start.maxCpu.toNat set
            (lastPinned uuid v (m.pinLog.drop (start.after before).pinLog.length))) ∧
    ∀ uuid pins, m.pins uuid = some pins → ∀ set ∈ pins,
      set.width = start.maxCpu.toNat ∧ set.count ≠ 0 := by
  intro start m
  have hnever : ∀ uuid, (∀ r ∈ rs, ¬ r.Adds uuid) → m.pins uuid = none := fun uuid =>
    pins_after_eq_none rfl
  have hsince : ∀ uuid before stateCode vcpus since,
      rs = before ++ .addDomain uuid stateCode vcpus :: since → (∀ r ∈ since, ¬ r.Adds uuid) →
      ∃ pins, m.pins uuid = some pins ∧ pins.length = vcpus.toNat ∧ Replayed start.maxCpu.toNat uuid
        (m.pinLog.drop (start.after before).pinLog.length) pins := by
    intro uuid before stateCode vcpus since hrs hquiet
    have hkept := kept_since_added start before stateCode vcpus hquiet
    rwa [← hrs, Kept, maxCpu_after] at hkept
  refine ⟨?_, fun uuid vcpu set => pins_pin m uuid vcpu set, hnever, hsince, ?_⟩
  · exact (pinLog_after start rs).trans (List.nil_append _)
  · intro uuid pins hpins set hset
    rcases exists_last_added uuid rs with hquiet | ⟨before, stateCode, vcpus, since, hrs, hquiet⟩
    · exact absurd (hpins.symm.trans (hnever uuid hquiet)) (Option.some_ne_none pins)
    · obtain ⟨pins', hpins', hlen, hlog⟩ := hsince uuid before stateCode vcpus since hrs hquiet
      obtain rfl := Option.some.inj (hpins.symm.trans hpins')
      obtain ⟨i, hi, rfl⟩ := List.mem_iff_getElem.1 hset
      -- its place is the number of a virtual CPU
      have hnat : (UInt32.ofNat i).toNat = i :=
        UInt32.toNat_ofNat_of_lt' (Nat.lt_trans (hlen ▸ hi) vcpus.toNat_lt)
      have hholds := hlog (.ofNat i) pins[i] (by rw [hnat, List.getElem?_eq_getElem hi])
      exact hholds.width_and_count fun h => hasCpu (UInt32.toNat_inj.1 h)

/-- A domain is added anew after its virtual CPU 0 was pinned. Of what follows, one attempt succeeds,
a second one is made to fail, and a third one has the width of another host. -/
def readded : List Request :=
  [.addDomain "vm-a" 1 1, .pin "vm-a" 0 ⟨[true, false, false, false]⟩, .addDomain "vm-a" 1 2,
    .pin "vm-a" 1 ⟨[false, true, true, false]⟩, .failPin "vm-a" 1,
    .pin "vm-a" 1 ⟨[false, false, false, true]⟩, .pin "vm-a" 0 ⟨[true, true]⟩]

/-- Virtual CPU 0 holds every CPU again, and virtual CPU 1 the set that was accepted. -/
theorem log_replays_to_pins_of_readded :
    (Machine.new "sim-1" 1 4).maxCpu ≠ 0 ∧
    ∃ pins, ((Machine.new "sim-1" 1 4).after readded).pins "vm-a" = some pins ∧ pins.length = 2 ∧
      (∀ set, pins[0]? = some set → set = .full 4) ∧
      ∀ set, pins[1]? = some set → CpuSpec.compile "1-2" 4 = .ok set := by
  have hcpu : (Machine.new "sim-1" 1 4).maxCpu ≠ 0 := by decide
  have hlog : ((Machine.new "sim-1" 1 4).after readded).pinLog.drop 1 =
      [⟨"vm-a", 1, "1-2", true⟩, ⟨"vm-a", 1, "3", false⟩, ⟨"vm-a", 0, "0-1", false⟩] := by
    decide +kernel
  obtain ⟨-, -, -, hsince, -⟩ := log_replays_to_pins "sim-1" 1 4 hcpu readded
  obtain ⟨pins, hpins, hlen, hholds⟩ := hsince "vm-a" (readded.take 2) 1 2 (readded.drop 3) rfl
    (by decide)
  have hlength : ((Machine.new "sim-1" 1 4).after (readded.take 2)).pinLog.length = 1 := by
    decide +kernel
  rw [hlength, hlog] at hholds
  exact ⟨hcpu, pins, hpins, hlen, hholds 0, hholds 1⟩

end VcpuPinning.Simulated
