import Mathlib.Data.List.Induction
import VcpuPinning.Proofs.Hypervisor.Simulated

/-!
# Attempts on one domain

`Attempted` tells what attempts to pin the virtual CPUs of a domain, to any sets, make of a machine,
whatever is attempted on other domains in between. None of them changes what the others meet
(`Attempted.accepts_eq`, `Attempted.info_eq`). Where every virtual CPU was to be pinned to one set
after the other, each holds the last set that was accepted for it (`pinsAfterAll_attemptsWith`).
-/

namespace VcpuPinning.Simulated

open Pinner

/-- The attempts on a domain in a log. -/
def logOf (uuid : String) (log : List PinAttempt) : List PinAttempt :=
  log.filter fun a => a.uuid = uuid

namespace Machine

/-- How an attempt is written down. -/
def entry (m : Machine) (uuid : String) (a : UInt32 × CpuSet) : PinAttempt :=
  ⟨uuid, a.1, a.2.cpulist, m.accepts uuid a.2 a.1⟩

/-- The pins of a domain after one attempt more. -/
def pinsAfterOne (m : Machine) (uuid : String) (pins : List CpuSet) (a : UInt32 × CpuSet) :
    List CpuSet :=
  if m.accepts uuid a.2 a.1 then pins.set a.1.toNat a.2 else pins

/-- The pins of a domain after attempts. -/
def pinsAfterAll (m : Machine) (uuid : String) (attempts : List (UInt32 × CpuSet))
    (pins : List CpuSet) : List CpuSet :=
  attempts.foldl (m.pinsAfterOne uuid) pins

/-- The number of virtual CPUs of a domain. -/
def vcpuCount (m : Machine) (uuid : String) : Nat :=
  ((m.pins uuid).getD []).length

/-- The attempts to pin every virtual CPU of a domain to a set. -/
def attemptsWith (m : Machine) (uuid : String) (set : CpuSet) : List (UInt32 × CpuSet) :=
  (vcpusOf (.ofNat (m.vcpuCount uuid))).map (·, set)

/-- The machine after an attempt on a domain, if there is one. -/
def attempt (m : Machine) (uuid : String) : Option (UInt32 × CpuSet) → Machine
  | some a => (m.pin uuid a.1 a.2).2
  | none => m

/-- What is read of a domain. -/
def info (m : Machine) (uuid : String) : Except HypervisorError DomainInfo :=
  (m.domain uuid).map fun d => ⟨uuid, d.stateCode, .ofNat d.pins.length⟩

section Attempts

variable (m : Machine) (uuid : String)

theorem length_pinsAfterOne (pins : List CpuSet) (a : UInt32 × CpuSet) :
    (m.pinsAfterOne uuid pins a).length = pins.length := by
  rw [pinsAfterOne]
  split
  · exact List.length_set
  · rfl

theorem length_pinsAfterAll (attempts : List (UInt32 × CpuSet)) (pins : List CpuSet) :
    (m.pinsAfterAll uuid attempts pins).length = pins.length := by
  induction attempts generalizing pins with
  | nil => rfl
  | cons a attempts ih => exact (ih _).trans (m.length_pinsAfterOne uuid pins a)

theorem pinsAfterAll_append (attempts more : List (UInt32 × CpuSet)) (pins : List CpuSet) :
    m.pinsAfterAll uuid (attempts ++ more) pins =
      m.pinsAfterAll uuid more (m.pinsAfterAll uuid attempts pins) :=
  List.foldl_append

/-- Attempts with one set are those of `pinEach`. -/
theorem pinsAfterAll_map (set : CpuSet) (vcpus : List UInt32) (pins : List CpuSet) :
    m.pinsAfterAll uuid (vcpus.map (·, set)) pins =
      pinsAfter (m.accepts uuid set) set vcpus pins := by
  induction vcpus generalizing pins with
  | nil => exact (pinsAfter_nil ..).symm
  | cons v vcpus ih =>
    rw [pinsAfter_cons]
    exact ih _

/-- After one set, each virtual CPU holds it if it was accepted. -/
theorem pinsAfterAll_attemptsWith_one (set : CpuSet) {pins : List CpuSet}
    (hlen : pins.length < UInt32.size) (hcount : m.vcpuCount uuid = pins.length) :
    m.pinsAfterAll uuid (m.attemptsWith uuid set) pins =
      pins.mapIdx fun v former => if m.accepts uuid set (.ofNat v) then set else former := by
  rw [attemptsWith, pinsAfterAll_map, hcount, pinsAfter_vcpusOf (m.accepts uuid set) set hlen]

/-- Each virtual CPU holds the last of the sets that was accepted for it. -/
theorem pinsAfterAll_attemptsWith (sets : List CpuSet) {pins : List CpuSet}
    (hlen : pins.length < UInt32.size) (hcount : m.vcpuCount uuid = pins.length) :
    m.pinsAfterAll uuid (sets.flatMap (m.attemptsWith uuid)) pins =
      pins.mapIdx fun v former =>
        ((sets.filter fun set => m.accepts uuid set (.ofNat v)).getLast?).getD former := by
  induction sets using List.reverseRecOn with
  | nil =>
    ext v : 1
    simp [pinsAfterAll]
  | append_singleton sets set ih =>
    rw [List.flatMap_append, pinsAfterAll_append, ih, List.flatMap_singleton,
      pinsAfterAll_attemptsWith_one m uuid set (by rwa [List.length_mapIdx])
        (by rwa [List.length_mapIdx]), List.mapIdx_mapIdx]
    congr 1
    funext v former
    rw [List.filter_append]
    by_cases ha : m.accepts uuid set (.ofNat v) = true
    · simp [ha]
    · simp [ha]

end Attempts

/-- A set that fits is accepted for every virtual CPU of a running domain that is not made to
fail. -/
theorem accepts_of_running {m : Machine} {uuid : String} {d : Domain} {set : CpuSet} {v : UInt32}
    (hd : m.domains.get? uuid = some d) (running : d.stateCode = 1)
    (hfail : (uuid, v) ∉ m.failingPins) (hwidth : set.width = m.maxCpu.toNat)
    (hcount : set.count ≠ 0) (hv : v.toNat < d.pins.length) : m.accepts uuid set v = true := by
  rw [accepts_eq, pinTarget_eq_ok_iff.2 ⟨hfail, ⟨hwidth, hcount⟩, hd, running, hv⟩]
  rfl

end Machine

/-- The machine after attempts on a domain, with any attempts on other domains in between. -/
structure Attempted (m m' : Machine) (uuid : String) (attempts : List (UInt32 × CpuSet)) :
    Prop where
  failingPins : m'.failingPins = m.failingPins
  failingInfo : m'.failingInfo = m.failingInfo
  maxCpu : m'.maxCpu = m.maxCpu
  log : logOf uuid m'.pinLog = logOf uuid m.pinLog ++ attempts.map (m.entry uuid)
  domain : m'.domains.get? uuid = (m.domains.get? uuid).map fun d =>
    { d with pins := m.pinsAfterAll uuid attempts d.pins }

namespace Attempted

variable {m m' : Machine} {uuid : String} {attempts : List (UInt32 × CpuSet)}

theorem refl (m : Machine) (uuid : String) : Attempted m m uuid [] where
  failingPins := rfl
  failingInfo := rfl
  maxCpu := rfl
  log := (List.append_nil _).symm
  domain := Option.map_id'.symm

theorem pins_eq (h : Attempted m m' uuid attempts) :
    m'.pins uuid = (m.pins uuid).map (m.pinsAfterAll uuid attempts) := by
  rw [Machine.pins, h.domain, Option.map_map, Machine.pins, Option.map_map]
  rfl

/-- The pins do not decide over what is accepted. -/
theorem accepts_eq (h : Attempted m m' uuid attempts) :
    m'.accepts uuid = m.accepts uuid := by
  funext set v
  refine Machine.accepts_congr h.failingPins h.maxCpu ?_ set v
  rw [h.domain, Option.map_map]
  congr 1
  funext d
  exact congrArg (Prod.mk d.stateCode) (m.length_pinsAfterAll uuid attempts d.pins)

/-- Nor do they show in what is read. -/
theorem info_eq (h : Attempted m m' uuid attempts) : m'.info uuid = m.info uuid := by
  unfold Machine.info Machine.domain
  rw [h.failingInfo, h.domain]
  split
  · rfl
  · cases m.domains.get? uuid with
    | none => rfl
    | some d => simp only [Option.map_some, Except.map, m.length_pinsAfterAll]

theorem pin (h : Attempted m m' uuid attempts) (v : UInt32) (set : CpuSet) :
    Attempted m (m'.pin uuid v set).2 uuid (attempts ++ [(v, set)]) where
  failingPins := (m'.failingPins_pin ..).trans h.failingPins
  failingInfo := (m'.failingInfo_pin ..).trans h.failingInfo
  maxCpu := (m'.maxCpu_pin ..).trans h.maxCpu
  log := by
    rw [m'.pinLog_pin, logOf, List.filter_append, ← logOf, h.log, List.map_append, h.accepts_eq,
      List.append_assoc]
    simp [Machine.entry]
  domain := by
    cases hd : m.domains.get? uuid with
    | none =>
      have hd' := h.domain
      rw [hd] at hd'
      rw [Machine.domains_pin_of_none hd']
      exact hd'
    | some d =>
      have hd' := h.domain
      rw [hd] at hd'
      rw [Machine.get?_pin hd', h.accepts_eq, Option.map_some, m.pinsAfterAll_append]
      rfl

theorem pin_other (h : Attempted m m' uuid attempts) {other : String} (ho : uuid ≠ other)
    (v : UInt32) (set : CpuSet) : Attempted m (m'.pin other v set).2 uuid attempts where
  failingPins := (m'.failingPins_pin ..).trans h.failingPins
  failingInfo := (m'.failingInfo_pin ..).trans h.failingInfo
  maxCpu := (m'.maxCpu_pin ..).trans h.maxCpu
  log := by
    rw [m'.pinLog_pin, logOf, List.filter_append, ← logOf, h.log]
    simp [ho.symm]
  domain := (m'.get?_pin_of_ne ho v set).trans h.domain

/-- Attempts on the domain join the others, and those on other domains do not matter. -/
theorem attempt (h : Attempted m m' uuid attempts) (other : String)
    (a : Option (UInt32 × CpuSet)) : Attempted m (m'.attempt other a) uuid
      (attempts ++ (if other = uuid then a else none).toList) := by
  cases a with
  | none =>
    rw [ite_self, Option.toList_none, List.append_nil]
    exact h
  | some a =>
    split
    · rename_i ho
      subst ho
      exact h.pin a.1 a.2
    · rename_i ho
      rw [Option.toList_none, List.append_nil]
      exact h.pin_other (Ne.symm ho) a.1 a.2

end Attempted

end VcpuPinning.Simulated
