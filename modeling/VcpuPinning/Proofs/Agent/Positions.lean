import Mathlib.Data.List.Perm.Subperm
import Mathlib.Data.Nat.Notation
import VcpuPinning.Agent.Reporter

/-!
# Numbers by position

`pinsByVcpu` puts the first set of a list under zero, the next one under one, and so on
(`get?_pinsByVcpu`). From the sets of a map, without their numbers, it restores the map exactly if
the numbers were those from zero on, without a gap (`pinsByVcpu_values_eq_iff`).
-/

namespace VcpuPinning.Agent.Reporter

theorem entries_pinsByVcpu {pins : List CpuSet} (h : pins.length ≤ UInt32.size) :
    (pinsByVcpu pins).entries = pins.zipIdx.map fun e => (.ofNat e.2, e.1) := by
  have hsorted : (pins.zipIdx.map fun e => (UInt32.ofNat e.2, e.1)).Pairwise
      fun a b => compare a.1 b.1 = .lt := by
    rw [List.pairwise_map, List.pairwise_iff_getElem]
    intro i j hi hj hij
    rw [List.length_zipIdx] at hi hj
    simp only [List.getElem_zipIdx, Nat.zero_add, Std.compare_eq_lt, UInt32.lt_iff_toNat_lt]
    rwa [UInt32.toNat_ofNat_of_lt' (Nat.lt_of_lt_of_le hi h),
      UInt32.toNat_ofNat_of_lt' (Nat.lt_of_lt_of_le hj h)]
  exact congrArg SortedMap.entries (SortedMap.ofList_entries ⟨_, hsorted⟩)

/-- Under the number of each virtual CPU there are its pins, and there is no other number. -/
theorem get?_pinsByVcpu {pins : List CpuSet} (h : pins.length ≤ UInt32.size) (v : UInt32) :
    (pinsByVcpu pins).get? v = pins[v.toNat]? := by
  refine Option.ext fun set => ?_
  rw [← SortedMap.mem_entries_iff, entries_pinsByVcpu h, List.mem_map]
  constructor
  · rintro ⟨⟨former, i⟩, hm, he⟩
    obtain ⟨hv, rfl⟩ := Prod.mk.inj he
    have hi := List.mk_mem_zipIdx_iff_getElem?.1 hm
    have hlt : i < UInt32.size := Nat.lt_of_lt_of_le (List.getElem?_eq_some_iff.1 hi).1 h
    rwa [← hv, UInt32.toNat_ofNat_of_lt' hlt]
  · intro hv
    exact ⟨(set, v.toNat), List.mk_mem_zipIdx_iff_getElem?.2 hv, by rw [UInt32.ofNat_toNat]⟩

/-- The sets are kept in order. -/
theorem values_pinsByVcpu {pins : List CpuSet} (h : pins.length ≤ UInt32.size) :
    (pinsByVcpu pins).values = pins := by
  rw [SortedMap.values, entries_pinsByVcpu h, List.map_map]
  exact List.zipIdx_map_fst 0 pins

theorem keys_pinsByVcpu {pins : List CpuSet} (h : pins.length ≤ UInt32.size) :
    (pinsByVcpu pins).keys = (List.range pins.length).map .ofNat := by
  rw [SortedMap.keys, entries_pinsByVcpu h, List.map_map, List.range_eq_range',
    ← List.zipIdx_map_snd 0 pins, List.map_map]
  rfl

/-- The numbers below a length, ascending. -/
theorem pairwise_map_range {n : ℕ} (h : n ≤ UInt32.size) :
    ((List.range n).map UInt32.ofNat).Pairwise (· < ·) := by
  rw [List.pairwise_map]
  refine List.pairwise_lt_range.imp_of_mem fun {i j} hi hj hij => ?_
  rw [List.mem_range] at hi hj
  rw [UInt32.lt_iff_toNat_lt, UInt32.toNat_ofNat_of_lt' (Nat.lt_of_lt_of_le hi h),
    UInt32.toNat_ofNat_of_lt' (Nat.lt_of_lt_of_le hj h)]
  exact hij

theorem mem_map_range_iff {n : ℕ} (h : n ≤ UInt32.size) {v : UInt32} :
    v ∈ (List.range n).map UInt32.ofNat ↔ v.toNat < n := by
  rw [List.mem_map]
  constructor
  · rintro ⟨i, hi, rfl⟩
    rw [List.mem_range] at hi
    rwa [UInt32.toNat_ofNat_of_lt' (Nat.lt_of_lt_of_le hi h)]
  · intro hv
    exact ⟨v.toNat, List.mem_range.2 hv, UInt32.ofNat_toNat⟩

section Pins

variable (pins : SortedMap UInt32 CpuSet)

theorem pairwise_keys : pins.keys.Pairwise (· < ·) := by
  rw [SortedMap.keys, List.pairwise_map]
  exact pins.sorted.imp Std.compare_eq_lt.1

/-- There are no more entries than numbers of 32 bits. -/
theorem length_values_le : pins.values.length ≤ UInt32.size := by
  have hnodup : (pins.keys.map UInt32.toNat).Nodup := by
    rw [List.Nodup, List.pairwise_map]
    exact (pairwise_keys pins).imp fun h => Nat.ne_of_lt (UInt32.lt_iff_toNat_lt.1 h)
  have hsub : pins.keys.map UInt32.toNat ⊆ List.range UInt32.size := by
    intro n hn
    obtain ⟨v, -, rfl⟩ := List.mem_map.1 hn
    exact List.mem_range.2 v.toNat_lt
  have hlen := (List.subperm_of_subset hnodup hsub).length_le
  simpa [SortedMap.keys, SortedMap.values] using hlen

/-- Numbering the sets of a map anew gives the map exactly if its numbers are those from zero on,
without a gap. -/
theorem pinsByVcpu_values_eq_iff :
    pinsByVcpu pins.values = pins ↔ ∀ v, v ∈ pins.keys ↔ v.toNat < pins.values.length := by
  have hlen := length_values_le pins
  have hkeys := keys_pinsByVcpu hlen
  constructor
  · intro h v
    rw [h] at hkeys
    rw [hkeys, mem_map_range_iff hlen]
  · intro h
    have hsame : pins.keys = (pinsByVcpu pins.values).keys := by
      have hrange := pairwise_map_range hlen
      rw [hkeys]
      refine List.Perm.eq_of_pairwise (fun a b _ _ hab hba => ?_) (pairwise_keys pins) hrange ?_
      · exact absurd (UInt32.lt_trans hab hba) (UInt32.lt_irrefl a)
      · refine (List.perm_ext_iff_of_nodup ((pairwise_keys pins).imp UInt32.ne_of_lt)
          (hrange.imp UInt32.ne_of_lt)).2 fun v => ?_
        rw [h v, mem_map_range_iff hlen]
    have hentries : (pinsByVcpu pins.values).entries = pins.entries := by
      rw [List.zip_of_prod hsame.symm (values_pinsByVcpu hlen)]
      exact (List.zip_of_prod rfl rfl).symm
    rw [← SortedMap.ofList_entries (pinsByVcpu pins.values), hentries, SortedMap.ofList_entries]

end Pins

end VcpuPinning.Agent.Reporter
