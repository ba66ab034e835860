/-!
# Outcomes of pinning

What became of the virtual CPUs of a domain after each of them was to be pinned.
-/

namespace VcpuPinning

/-- Whether each virtual CPU was pinned, CPU 0 first. -/
structure PinOutcome where
  vcpuResults : List Bool
  deriving DecidableEq, Repr

namespace PinOutcome

/-- Every virtual CPU was pinned. -/
def applied (o : PinOutcome) : Bool :=
  o.vcpuResults.all id

/-- The positions of the false entries, counted from `i`. -/
def failedFrom (i : Nat) : List Bool → List Nat
  | [] => []
  | true :: rs => failedFrom (i + 1) rs
  | false :: rs => i :: failedFrom (i + 1) rs

/-- The virtual CPUs that were not pinned, ascending. -/
def failedVcpus (o : PinOutcome) : List Nat :=
  failedFrom 0 o.vcpuResults

theorem mem_failedFrom {i n : Nat} {rs : List Bool} :
    n ∈ failedFrom i rs ↔ i ≤ n ∧ rs[n - i]? = some false := by
  induction rs generalizing i with
  | nil => simp [failedFrom]
  | cons r rs ih =>
    rcases Nat.lt_trichotomy n i with h | rfl | h
    · cases r <;> simp only [failedFrom, List.mem_cons, ih] <;> omega
    · have hn : ¬ n + 1 ≤ n := Nat.not_succ_le_self n
      cases r <;> simp [failedFrom, ih, hn]
    · have hs : (r :: rs)[n - i]? = rs[n - (i + 1)]? := by
        rw [show n - i = (n - (i + 1)) + 1 by omega, List.getElem?_cons_succ]
      cases r <;> simp only [failedFrom, List.mem_cons, ih, hs] <;> grind

theorem mem_failedVcpus {o : PinOutcome} {vcpu : Nat} :
    vcpu ∈ o.failedVcpus ↔ o.vcpuResults[vcpu]? = some false := by
  simp [failedVcpus, mem_failedFrom]

theorem pairwise_failedFrom (i : Nat) (rs : List Bool) : (failedFrom i rs).Pairwise (· < ·) := by
  induction rs generalizing i with
  | nil => exact .nil
  | cons r rs ih =>
    cases r with
    | true => exact ih (i + 1)
    | false => exact List.pairwise_cons.2 ⟨fun n hn => (mem_failedFrom.1 hn).1, ih (i + 1)⟩

theorem pairwise_failedVcpus (o : PinOutcome) : o.failedVcpus.Pairwise (· < ·) :=
  pairwise_failedFrom 0 o.vcpuResults

/-- Nothing failed exactly when everything was applied. -/
theorem failedVcpus_eq_nil_iff {o : PinOutcome} : o.failedVcpus = [] ↔ o.applied := by
  rw [List.eq_nil_iff_forall_not_mem, applied, List.all_eq_true]
  simp only [mem_failedVcpus, id_eq]
  constructor
  · intro h b hb
    obtain ⟨i, hi⟩ := List.mem_iff_getElem?.1 hb
    cases b
    · exact absurd hi (h i)
    · rfl
  · intro h i hi
    exact absurd (h false (List.mem_iff_getElem?.2 ⟨i, hi⟩)) (by simp)

end PinOutcome

end VcpuPinning
