import VcpuPinning.Hypervisor.Simulated
import VcpuPinning.Pinning

/-!
# Pinning on the simulated hypervisor

Whether the simulated hypervisor accepts a pin does not depend on the pins made before it
(`Machine.accepts_pin`), so pinning virtual CPUs one after the other has one outcome for each of
them, and the accepted ones hold the set in the end (`pinEach_eq`). `Served` ties a machine to the
pinner that was started for it.
-/

namespace VcpuPinning.Simulated

open Pinner

/-- A virtual CPU of a domain can be pinned. -/
def Domain.Pinnable (d : Domain) (vcpu : UInt32) : Prop :=
  d.stateCode = 1 ∧ vcpu.toNat < d.pins.length

instance (d : Domain) (vcpu : UInt32) : Decidable (d.Pinnable vcpu) :=
  inferInstanceAs (Decidable (_ ∧ _))

namespace Machine

/-- The hypervisor accepts the pin of a virtual CPU. -/
def accepts (m : Machine) (uuid : String) (set : CpuSet) (vcpu : UInt32) : Bool :=
  (m.pin uuid vcpu set).1.isOk

theorem accepts_eq (m : Machine) (uuid : String) (set : CpuSet) (vcpu : UInt32) :
    m.accepts uuid set vcpu = (m.pinTarget uuid vcpu set).isOk := by
  rw [accepts, pin]
  cases m.pinTarget uuid vcpu set <;> rfl

/-- A pin is made if no failure was injected, the set selects a CPU of the host, and the virtual CPU
is one of a domain that runs. -/
theorem pinTarget_eq_ok_iff {m : Machine} {uuid : String} {vcpu : UInt32} {set : CpuSet}
    {d : Domain} : m.pinTarget uuid vcpu set = .ok d ↔
    (uuid, vcpu) ∉ m.failingPins ∧ (set.width = m.maxCpu.toNat ∧ set.count ≠ 0) ∧
      m.domains.get? uuid = some d ∧ d.Pinnable vcpu := by
  unfold pinTarget Domain.Pinnable
  split
  · simp [*]
  split
  · rename_i h
    simp only [reduceCtorEq, false_iff]
    rintro ⟨-, ⟨hw, hc⟩, -⟩
    rcases h with h | h
    · exact h hw
    · exact hc h
  rename_i hf hs
  rw [not_or, Decidable.not_not] at hs
  cases hd : m.domains.get? uuid with
  | none => simp
  | some d' =>
    by_cases hr : d'.stateCode = 1
    · by_cases hv : vcpu.toNat < d'.pins.length
      · simp only [hr, hv, ne_eq, not_true_eq_false, ↓reduceIte, Except.ok.injEq,
          Option.some.injEq]
        constructor
        · rintro rfl
          exact ⟨hf, hs, rfl, hr, hv⟩
        · rintro ⟨-, -, rfl, -⟩
          rfl
      · simp only [hr, hv, ne_eq, not_true_eq_false, ↓reduceIte, reduceCtorEq, Option.some.injEq,
          false_iff]
        rintro ⟨-, -, rfl, -, h⟩
        exact hv h
    · simp only [hr, ne_eq, not_false_eq_true, ↓reduceIte, reduceCtorEq, Option.some.injEq,
        false_iff]
      rintro ⟨-, -, rfl, h, -⟩
      exact hr h

/-- The domain that a pin changes is the one with the identifier. -/
theorem get?_of_pinTarget {m : Machine} {uuid : String} {vcpu : UInt32} {set : CpuSet}
    {d : Domain} (h : m.pinTarget uuid vcpu set = .ok d) : m.domains.get? uuid = some d :=
  (pinTarget_eq_ok_iff.1 h).2.2.1

/-- What decides over a pin : the failures to come, the number of CPUs, and the state and the
number of virtual CPUs of the domain. -/
theorem accepts_congr {m m' : Machine} {uuid : String} (hf : m'.failingPins = m.failingPins)
    (hc : m'.maxCpu = m.maxCpu)
    (hd : (m'.domains.get? uuid).map (fun d => (d.stateCode, d.pins.length)) =
      (m.domains.get? uuid).map fun d => (d.stateCode, d.pins.length)) (set : CpuSet)
    (vcpu : UInt32) : m'.accepts uuid set vcpu = m.accepts uuid set vcpu := by
  rw [accepts_eq, accepts_eq, pinTarget, pinTarget, hf, hc]
  split
  · rfl
  split
  · rfl
  cases hm : m.domains.get? uuid with
  | none =>
    rw [hm, Option.map_none, Option.map_eq_none_iff] at hd
    rw [hd]
  | some d =>
    rw [hm, Option.map_some, Option.map_eq_some_iff] at hd
    obtain ⟨d', hd', hp⟩ := hd
    obtain ⟨hs, hl⟩ := Prod.mk.inj hp
    simp only [hd', hs, hl]
    split
    · rfl
    · split <;> rfl

/-! ## One pin -/

@[simp] theorem failingPins_pin (m : Machine) (uuid : String) (vcpu : UInt32) (set : CpuSet) :
    (m.pin uuid vcpu set).2.failingPins = m.failingPins := by
  unfold pin
  split <;> rfl

@[simp] theorem failingInfo_pin (m : Machine) (uuid : String) (vcpu : UInt32) (set : CpuSet) :
    (m.pin uuid vcpu set).2.failingInfo = m.failingInfo := by
  unfold pin
  split <;> rfl

@[simp] theorem maxCpu_pin (m : Machine) (uuid : String) (vcpu : UInt32) (set : CpuSet) :
    (m.pin uuid vcpu set).2.maxCpu = m.maxCpu := by
  unfold pin
  split <;> rfl

@[simp] theorem topology_pin (m : Machine) (uuid : String) (vcpu : UInt32) (set : CpuSet) :
    (m.pin uuid vcpu set).2.topology = m.topology := by
  unfold pin
  split <;> rfl

theorem pinLog_pin (m : Machine) (uuid : String) (vcpu : UInt32) (set : CpuSet) :
    (m.pin uuid vcpu set).2.pinLog =
      m.pinLog ++ [⟨uuid, vcpu, set.cpulist, m.accepts uuid set vcpu⟩] := by
  rw [accepts, pin]
  cases m.pinTarget uuid vcpu set <;> rfl

/-- A pin changes no other domain. -/
theorem get?_pin_of_ne (m : Machine) {uuid other : String} (h : other ≠ uuid) (vcpu : UInt32)
    (set : CpuSet) : (m.pin uuid vcpu set).2.domains.get? other = m.domains.get? other := by
  unfold pin
  split
  · rfl
  · exact SortedMap.get?_insert_of_ne h _

/-- An accepted pin changes one entry of its domain, a refused one changes none. -/
theorem get?_pin {m : Machine} {uuid : String} {d : Domain} (hd : m.domains.get? uuid = some d)
    (vcpu : UInt32) (set : CpuSet) :
    (m.pin uuid vcpu set).2.domains.get? uuid = some { d with
      pins := if m.accepts uuid set vcpu then d.pins.set vcpu.toNat set else d.pins } := by
  rw [accepts, pin]
  cases hp : m.pinTarget uuid vcpu set with
  | error e => exact hd
  | ok d' =>
    obtain rfl : d' = d := Option.some.inj ((get?_of_pinTarget hp).symm.trans hd)
    exact SortedMap.get?_insert_self _ _ _

theorem domains_pin_of_none {m : Machine} {uuid : String} (hd : m.domains.get? uuid = none)
    (vcpu : UInt32) (set : CpuSet) : (m.pin uuid vcpu set).2.domains = m.domains := by
  cases hp : m.pinTarget uuid vcpu set with
  | error e => exact domains_pin_of_error hp
  | ok d =>
    rw [get?_of_pinTarget hp] at hd
    exact nomatch hd

/-- A pin has no influence on whether others are accepted. -/
theorem accepts_pin (m : Machine) (uuid : String) (vcpu : UInt32) (set : CpuSet) (v : UInt32) :
    (m.pin uuid vcpu set).2.accepts uuid set v = m.accepts uuid set v := by
  refine accepts_congr (failingPins_pin ..) (maxCpu_pin ..) ?_ set v
  cases hd : m.domains.get? uuid with
  | some d =>
    rw [get?_pin hd]
    simp only [Option.map_some]
    split <;> simp
  | none => rw [domains_pin_of_none hd, hd]

end Machine

/-! ## One pin after the other -/

/-- The pins of a domain after virtual CPUs were to be pinned to a set. -/
def pinsAfter (accepts : UInt32 → Bool) (set : CpuSet) (vcpus : List UInt32)
    (pins : List CpuSet) : List CpuSet :=
  pins.mapIdx fun i former =>
    if vcpus.any fun v => v.toNat == i && accepts v then set else former

theorem getElem?_pinsAfter (accepts : UInt32 → Bool) (set : CpuSet) (vcpus : List UInt32)
    (pins : List CpuSet) (i : Nat) : (pinsAfter accepts set vcpus pins)[i]? =
      pins[i]?.map fun former =>
        if vcpus.any fun v => v.toNat == i && accepts v then set else former := by
  simp [pinsAfter]

theorem pinsAfter_nil (accepts : UInt32 → Bool) (set : CpuSet) (pins : List CpuSet) :
    pinsAfter accepts set [] pins = pins := by
  ext i : 1
  simp [getElem?_pinsAfter]

theorem pinsAfter_cons (accepts : UInt32 → Bool) (set : CpuSet) (v : UInt32)
    (vcpus : List UInt32) (pins : List CpuSet) :
    pinsAfter accepts set (v :: vcpus) pins =
      pinsAfter accepts set vcpus (if accepts v then pins.set v.toNat set else pins) := by
  ext i : 1
  simp only [getElem?_pinsAfter, List.any_cons]
  by_cases ha : accepts v = true
  · by_cases hi : v.toNat = i
    · subst hi
      simp only [ha, beq_self_eq_true, Bool.and_self, Bool.true_or, ↓reduceIte]
      rw [List.getElem?_set_self']
      cases pins[v.toNat]? <;> simp
    · simp [ha, hi, List.getElem?_set_ne hi]
  · simp [ha]

/-- The machine after virtual CPUs of a domain were to be pinned to a set. -/
structure Pinned (m m' : Machine) (uuid : String) (set : CpuSet) (vcpus : List UInt32)
    (d : Domain) : Prop where
  domain : m'.domains.get? uuid =
    some { d with pins := pinsAfter (m.accepts uuid set) set vcpus d.pins }
  others : ∀ other ≠ uuid, m'.domains.get? other = m.domains.get? other
  log : m'.pinLog = m.pinLog ++
    vcpus.map fun v => ⟨uuid, v, set.cpulist, m.accepts uuid set v⟩

/-- Each virtual CPU has the result that it would have alone. -/
theorem pinEach_eq {uuid : String} (set : CpuSet) (vcpus : List UInt32) {m : Machine}
    {d : Domain} (hd : m.domains.get? uuid = some d) :
    ∃ m', (pinEach hypervisor uuid set vcpus).run m =
        (vcpus.map (m.accepts uuid set), m') ∧ Pinned m m' uuid set vcpus d := by
  induction vcpus generalizing m d with
  | nil => exact ⟨m, rfl, by rw [pinsAfter_nil]; exact hd, fun _ _ => rfl, by simp⟩
  | cons v vcpus ih =>
    have ha : (m.pin uuid v set).2.accepts uuid set = m.accepts uuid set := by
      funext w
      exact m.accepts_pin uuid v set w
    obtain ⟨m', hr, hp⟩ := ih (m.get?_pin hd v set)
    rw [ha] at hr
    refine ⟨m', ?_, ?_, fun other ho => ?_, ?_⟩
    · have hcons : (pinEach hypervisor uuid set (v :: vcpus)).run m =
          ((m.pin uuid v set).1.isOk ::
              ((pinEach hypervisor uuid set vcpus).run (m.pin uuid v set).2).1,
            ((pinEach hypervisor uuid set vcpus).run (m.pin uuid v set).2).2) := rfl
      rw [hcons, hr]
      rfl
    · rw [pinsAfter_cons, hp.domain, ha]
    · rw [hp.others other ho, m.get?_pin_of_ne ho]
    · rw [hp.log, m.pinLog_pin, ha, List.map_cons, List.append_assoc, List.singleton_append]

/-! ## All virtual CPUs of a domain -/

theorem vcpusOf_ofNat {n : Nat} (h : n < UInt32.size) :
    vcpusOf (.ofNat n) = (List.range n).map .ofNat := by
  rw [vcpusOf, UInt32.toNat_ofNat_of_lt' h]

/-- After all of them were to be pinned, the accepted ones hold the set and the others what they
held before. -/
theorem pinsAfter_vcpusOf (accepts : UInt32 → Bool) (set : CpuSet) {pins : List CpuSet}
    (h : pins.length < UInt32.size) : pinsAfter accepts set (vcpusOf (.ofNat pins.length)) pins =
      pins.mapIdx fun i former => if accepts (.ofNat i) then set else former := by
  ext i : 1
  rw [getElem?_pinsAfter, List.getElem?_mapIdx, vcpusOf_ofNat h]
  rcases Nat.lt_or_ge i pins.length with hi | hi
  · have hany : ((List.range pins.length).map UInt32.ofNat).any
        (fun v => v.toNat == i && accepts v) = accepts (.ofNat i) := by
      rw [Bool.eq_iff_iff, List.any_eq_true]
      constructor
      · rintro ⟨v, -, hv⟩
        obtain ⟨rfl, ha⟩ := by simpa using hv
        simpa using ha
      · intro ha
        refine ⟨.ofNat i, List.mem_map_of_mem (List.mem_range.2 hi), ?_⟩
        rw [UInt32.toNat_ofNat_of_lt' (Nat.lt_trans hi h), ha]
        simp
    simp only [hany]
  · rw [List.getElem?_eq_none hi]
    rfl

theorem mapIdx_eq_replicate {α : Type} {f : Nat → α → α} {a : α} {as : List α}
    (h : ∀ i < as.length, ∀ b, f i b = a) : as.mapIdx f = List.replicate as.length a := by
  ext i : 1
  rw [List.getElem?_mapIdx, List.getElem?_replicate]
  rcases Nat.lt_or_ge i as.length with hi | hi
  · rw [List.getElem?_eq_getElem hi, if_pos hi, Option.map_some, h i hi]
  · rw [List.getElem?_eq_none hi, if_neg (Nat.not_lt.2 hi), Option.map_none]

theorem failedFrom_map (f : Nat → Bool) (i n : Nat) :
    PinOutcome.failedFrom i ((List.range' i n).map f) =
      (List.range' i n).filter fun j => !f j := by
  induction n generalizing i with
  | zero => rfl
  | succ n ih =>
    rw [List.range'_succ, List.map_cons, List.filter_cons]
    cases f i with
    | true => exact ih (i + 1)
    | false => exact congrArg (i :: ·) (ih (i + 1))

/-- The refused virtual CPUs, ascending. -/
theorem failedVcpus_vcpusOf (accepts : UInt32 → Bool) {n : Nat} (h : n < UInt32.size) :
    PinOutcome.failedVcpus ⟨(vcpusOf (.ofNat n)).map accepts⟩ =
      (List.range n).filter fun i => !accepts (.ofNat i) := by
  rw [vcpusOf_ofNat h, List.map_map, List.range_eq_range']
  exact failedFrom_map (accepts ∘ UInt32.ofNat) 0 n

theorem applied_vcpusOf (accepts : UInt32 → Bool) {n : Nat} (h : n < UInt32.size) :
    PinOutcome.applied ⟨(vcpusOf (.ofNat n)).map accepts⟩ ↔
      ∀ i < n, accepts (.ofNat i) := by
  rw [vcpusOf_ofNat h]
  simp [PinOutcome.applied]

/-! ## Machines that a pinner serves -/

/-- A machine that the pinner was started for, after whatever happened to it since. -/
inductive Served (p : Pinner Machine) : Machine → Prop
  | new {hostname : String} {cells perCell : Nat}
      (started : (Pinner.start hypervisor).run.run (.new hostname cells perCell) =
        (.ok p, .new hostname cells perCell)) : Served p (.new hostname cells perCell)
  | addDomain {m : Machine} (uuid : String) (stateCode : Nat) (vcpus : UInt32) :
      Served p m → Served p (m.addDomain uuid stateCode vcpus.toNat)
  | failPin {m : Machine} (uuid : String) (vcpu : UInt32) :
      Served p m → Served p (m.failPin uuid vcpu)
  | failInfo {m : Machine} (uuid : String) : Served p m → Served p (m.failInfo uuid)
  | clearFailures {m : Machine} : Served p m → Served p m.clearFailures
  | pin {m : Machine} (uuid : String) (vcpu : UInt32) (set : CpuSet) :
      Served p m → Served p (m.pin uuid vcpu set).2

namespace Served

variable {p : Pinner Machine} {m : Machine}

/-- The pinner knows the machine and its number of CPUs. -/
theorem pinner_eq (h : Served p m) : p = ⟨hypervisor, m.maxCpu⟩ := by
  induction h with
  | new started => exact (Except.ok.inj (congrArg Prod.fst started)).symm
  | addDomain | failPin | failInfo | clearFailures => assumption
  | pin uuid vcpu set _ ih => rw [Machine.maxCpu_pin]; exact ih

/-- A domain has no more virtual CPUs than can be numbered. -/
theorem length_pins_lt (h : Served p m) {uuid : String} {d : Domain}
    (hd : m.domains.get? uuid = some d) : d.pins.length < UInt32.size := by
  induction h generalizing uuid d with
  | new => simp [Machine.new] at hd
  | @addDomain m u stateCode vcpus _ ih =>
    by_cases hu : uuid = u
    · subst hu
      rw [Machine.addDomain, SortedMap.get?_insert_self] at hd
      obtain rfl := Option.some.inj hd
      simpa using vcpus.toNat_lt
    · rw [Machine.addDomain, SortedMap.get?_insert_of_ne hu] at hd
      exact ih hd
  | failPin _ _ _ ih => exact ih hd
  | failInfo _ _ ih => exact ih hd
  | clearFailures _ ih => exact ih hd
  | @pin m u vcpu set _ ih =>
    by_cases hu : uuid = u
    · subst hu
      cases hm : m.domains.get? uuid with
      | none =>
        rw [Machine.domains_pin_of_none hm, hm] at hd
        exact nomatch hd
      | some d' =>
        rw [Machine.get?_pin hm] at hd
        obtain rfl := Option.some.inj hd
        have hl := ih hm
        simp only
        split
        · rwa [List.length_set]
        · exact hl
    · rw [Machine.get?_pin_of_ne m hu] at hd
      exact ih hd

end Served

/-! ## Applying a specification -/

section Apply

variable {p : Pinner Machine} {m : Machine} {uuid spec : String}

theorem get?_of_domain {d : Domain} (h : m.domain uuid = .ok d) :
    m.domains.get? uuid = some d := by
  rw [Machine.domain] at h
  split at h
  · exact nomatch h
  split at h
  · rename_i d' hd
    rw [hd, Except.ok.inj h]
  · exact nomatch h

/-- The pinner reads a domain off its machine. -/
theorem Served.domainInfo (hp : Served p m) (uuid : String) :
    p.hypervisor.domainInfo uuid m =
      ((m.domain uuid).map fun d => ⟨uuid, d.stateCode, .ofNat d.pins.length⟩, m) := by
  rw [hp.pinner_eq]
  rfl

theorem apply_of_unreadable (hp : Served p m) {e : HypervisorError}
    (h : m.domain uuid = .error e) :
    (p.apply uuid spec).run m = (.error (.hypervisor e), m) := by
  have hi := hp.domainInfo uuid
  rw [h, Except.map] at hi
  exact apply_of_domainInfo_error hi

/-- A specification that does not compile stops the pinner before the first pin. -/
theorem apply_of_refused (hp : Served p m) {d : Domain} (h : m.domain uuid = .ok d)
    {e : SpecError} (hc : CpuSpec.compile spec p.maxCpu.toNat = .error e) :
    (p.apply uuid spec).run m = (.error (.spec e), m) := by
  have hi := hp.domainInfo uuid
  rw [h, Except.map] at hi
  exact apply_of_compile_error hi hc

theorem apply_of_compiled (hp : Served p m) {d : Domain} (h : m.domain uuid = .ok d)
    {set : CpuSet} (hc : CpuSpec.compile spec p.maxCpu.toNat = .ok set) :
    ∃ m', (p.apply uuid spec).run m =
        (.ok ⟨(vcpusOf (.ofNat d.pins.length)).map (m.accepts uuid set)⟩, m') ∧
      Pinned m m' uuid set (vcpusOf (.ofNat d.pins.length)) d := by
  have hi := hp.domainInfo uuid
  rw [h, Except.map] at hi
  have hh : p.hypervisor = hypervisor := congrArg Pinner.hypervisor hp.pinner_eq
  obtain ⟨m', hr, hpin⟩ := pinEach_eq set (vcpusOf (.ofNat d.pins.length)) (get?_of_domain h)
  refine ⟨m', ?_, hpin⟩
  rw [apply_of_compile_ok hi hc, hh, hr]

end Apply

end VcpuPinning.Simulated
