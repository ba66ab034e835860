import Mathlib.Data.Nat.Notation
import VcpuPinning.Proofs.Hypervisor.Simulated

/-!
# Simulated hosts in use

A machine is set up as a host without domains, whose CPUs can be numbered, and changes by what is
done to it (`Built`). On a machine with a CPU every virtual CPU is pinned to a set that selects a CPU
of the host (`Built.sets`), and the CPUs of a NUMA cell ascend (`Built.topology`). Without injected
failures a pin is refused because of its set (`pinTarget_of_empty`), or because of its domain, which
is missing (`pinTarget_of_none`) or has no such virtual CPU to pin (`pinTarget_of_refused`).
-/

namespace VcpuPinning.Simulated

open Machine

/-- A machine that was set up, after whatever happened to it since. -/
inductive Built : Machine → Prop
  | new (hostname : String) (cells perCell : UInt32)
      (fits : cells.toNat * perCell.toNat < UInt32.size) :
      Built (.new hostname cells.toNat perCell.toNat)
  | addDomain {m : Machine} (uuid : String) (stateCode : Nat) (vcpus : UInt32) :
      Built m → Built (m.addDomain uuid stateCode vcpus.toNat)
  | failPin {m : Machine} (uuid : String) (vcpu : UInt32) : Built m → Built (m.failPin uuid vcpu)
  | failInfo {m : Machine} (uuid : String) : Built m → Built (m.failInfo uuid)
  | clearFailures {m : Machine} : Built m → Built m.clearFailures
  | pin {m : Machine} (uuid : String) (vcpu : UInt32) (set : CpuSet) :
      Built m → Built (m.pin uuid vcpu set).2

/-- The domains that run, in the order of their names. -/
def running (domains : SortedMap String Domain) : List String :=
  (domains.entries.filter fun e => e.2.stateCode = 1).map (·.1)

/-- The domain with one virtual CPU pinned to a set. -/
def Domain.withPin (d : Domain) (vcpu : UInt32) (set : CpuSet) : Domain :=
  { d with pins := d.pins.set vcpu.toNat set }

/-! ## Attempts to pin -/

namespace Machine

variable {m : Machine} {uuid : String} {vcpu : UInt32} {set : CpuSet} {d : Domain}

theorem pinTarget_of_none (hf : (uuid, vcpu) ∉ m.failingPins) (hw : set.width = m.maxCpu.toNat)
    (hc : set.count ≠ 0) (hd : m.domains.get? uuid = none) :
    m.pinTarget uuid vcpu set = .error (.domainNotFound uuid) := by
  simp [pinTarget, hf, hw, hc, hd]

/-- A virtual CPU that cannot be pinned is not a missing domain. -/
theorem pinTarget_of_refused (hf : (uuid, vcpu) ∉ m.failingPins)
    (hd : m.domains.get? uuid = some d) (h : ¬ d.Pinnable vcpu) :
    ∃ detail, m.pinTarget uuid vcpu set = .error (.rejected detail) := by
  unfold pinTarget
  rw [if_neg hf]
  split
  · exact ⟨_, rfl⟩
  simp only [hd]
  split
  · exact ⟨_, rfl⟩
  rename_i hr
  rw [if_neg fun hv => h ⟨Decidable.not_not.1 hr, hv⟩]
  exact ⟨_, rfl⟩

/-- A set without a CPU is refused whether or not there is such a domain. -/
theorem pinTarget_of_empty (hf : (uuid, vcpu) ∉ m.failingPins) (hc : set.count = 0) :
    ∃ detail, m.pinTarget uuid vcpu set = .error (.rejected detail) := by
  unfold pinTarget
  rw [if_neg hf, if_pos (.inr hc)]
  exact ⟨_, rfl⟩

theorem pin_of_error {e : HypervisorError} (h : m.pinTarget uuid vcpu set = .error e) :
    (m.pin uuid vcpu set).1 = .error e ∧ (m.pin uuid vcpu set).2.domains = m.domains := by
  simp [pin, h]

theorem pin_of_ok (h : m.pinTarget uuid vcpu set = .ok d) : (m.pin uuid vcpu set).1 = .ok () ∧
    (m.pin uuid vcpu set).2.domains = m.domains.insert uuid (d.withPin vcpu set) := by
  simp [pin, h, Domain.withPin]

/-- What holds of all domains, and of a domain with a pin if it held without, still holds after an
attempt to pin. -/
theorem forall_get?_pin {p : String → Domain → Prop} (h : ∀ u d, m.domains.get? u = some d → p u d)
    (hpin : ∀ d, m.pinTarget uuid vcpu set = .ok d → p uuid d → p uuid (d.withPin vcpu set))
    (u : String) (d : Domain) (hd : (m.pin uuid vcpu set).2.domains.get? u = some d) : p u d := by
  cases ht : m.pinTarget uuid vcpu set with
  | error e =>
    rw [(pin_of_error ht).2] at hd
    exact h u d hd
  | ok d' =>
    rw [(pin_of_ok ht).2] at hd
    by_cases hu : u = uuid
    · subst hu
      rw [SortedMap.get?_insert_self] at hd
      obtain rfl := Option.some.inj hd
      exact hpin d' ht (h u d' (get?_of_pinTarget ht))
    · rw [SortedMap.get?_insert_of_ne hu] at hd
      exact h u d hd

end Machine

/-! ## What holds of every machine -/

namespace Built

variable {m : Machine}

/-- A pinner that is started for the host may go on with it. -/
theorem served (h : Built m) : Served ⟨hypervisor, m.maxCpu⟩ m := by
  induction h with
  | new => exact .new rfl
  | addDomain uuid stateCode vcpus _ ih => exact .addDomain uuid stateCode vcpus ih
  | failPin uuid vcpu _ ih => exact .failPin uuid vcpu ih
  | failInfo uuid _ ih => exact .failInfo uuid ih
  | clearFailures _ ih => exact .clearFailures ih
  | pin uuid vcpu set _ ih =>
    rw [maxCpu_pin]
    exact .pin uuid vcpu set ih

/-- Every virtual CPU is pinned to a set that selects a CPU of the host. -/
theorem sets (h : Built m) (hm : m.maxCpu ≠ 0) : ∀ uuid d, m.domains.get? uuid = some d →
    ∀ set ∈ d.pins, set.width = m.maxCpu.toNat ∧ set.count ≠ 0 := by
  induction h with
  | new => exact fun uuid d hd => nomatch hd
  | @addDomain m u stateCode vcpus _ ih =>
    intro uuid d hd set hset
    by_cases hu : uuid = u
    · subst hu
      rw [Machine.addDomain, SortedMap.get?_insert_self] at hd
      obtain rfl := Option.some.inj hd
      obtain rfl := List.eq_of_mem_replicate hset
      refine ⟨CpuSet.width_full _, fun hc => hm ?_⟩
      rw [CpuSet.count, CpuSet.full, List.count_replicate_self] at hc
      exact UInt32.toNat_inj.1 hc
    · rw [Machine.addDomain, SortedMap.get?_insert_of_ne hu] at hd
      exact ih hm uuid d hd set hset
  | failPin _ _ _ ih => exact ih hm
  | failInfo _ _ ih => exact ih hm
  | clearFailures _ ih => exact ih hm
  | @pin m u vcpu set _ ih =>
    rw [maxCpu_pin] at hm ⊢
    refine forall_get?_pin (ih hm) fun d hd hold former hformer => ?_
    rcases List.mem_or_eq_of_mem_set hformer with hformer | rfl
    · exact hold former hformer
    · exact (pinTarget_eq_ok_iff.1 hd).2.1

/-- The CPUs of a cell are numbered one after the other. -/
theorem topology (h : Built m) : ∀ e ∈ m.topology.entries, e.2.Pairwise (· ≤ ·) := by
  induction h with
  | new hostname cells perCell fits =>
    intro e he
    obtain ⟨cell, hcell, rfl⟩ := List.mem_map.1 (SortedMap.mem_of_mem_ofList he)
    rw [List.mem_range] at hcell
    have hbound {i : ℕ} (hi : i ∈ List.range perCell.toNat) :
        cell * perCell.toNat + i < UInt32.size := by
      rw [List.mem_range] at hi
      calc cell * perCell.toNat + i < (cell + 1) * perCell.toNat := by
            rw [Nat.add_mul, Nat.one_mul]
            exact Nat.add_lt_add_left hi _
        _ ≤ cells.toNat * perCell.toNat := Nat.mul_le_mul_right _ hcell
        _ < UInt32.size := fits
    rw [List.pairwise_map]
    refine List.pairwise_lt_range.imp_of_mem fun hi hj hij => ?_
    rw [UInt32.le_iff_toNat_le, UInt32.toNat_ofNat_of_lt' (hbound hi),
      UInt32.toNat_ofNat_of_lt' (hbound hj)]
    exact Nat.add_le_add_left (Nat.le_of_lt hij) _
  | addDomain _ _ _ _ ih => exact ih
  | failPin _ _ _ ih => exact ih
  | failInfo _ _ ih => exact ih
  | clearFailures _ ih => exact ih
  | pin uuid vcpu set _ ih =>
    rw [topology_pin]
    exact ih

end Built

end VcpuPinning.Simulated
