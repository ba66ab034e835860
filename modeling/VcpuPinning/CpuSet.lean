import VcpuPinning.Text.Numeral

/-!
# Sets of host CPUs

A `CpuSet` is a bitmap with one entry per CPU of a host, CPU 0 first. Its `selected` CPUs form
`runs` of neighbours, and its `cpulist` is the list of these runs, such as `0-2,5`. The letters of
a set are one `T` or `F` per CPU.
-/

namespace VcpuPinning

/-- A set of CPUs of a host with `bits.length` CPUs. -/
structure CpuSet where
  /-- Entry `i` tells whether CPU `i` is selected. -/
  bits : List Bool
  deriving DecidableEq, Repr

namespace CpuSet

/-- No CPU of a host with `total` CPUs. -/
def cleared (total : Nat) : CpuSet :=
  ⟨List.replicate total false⟩

/-- Every CPU of a host with `total` CPUs. -/
def full (total : Nat) : CpuSet :=
  ⟨List.replicate total true⟩

/-- The number of CPUs of the host. -/
def width (s : CpuSet) : Nat :=
  s.bits.length

/-- The positions of the true entries, counted from `i`. -/
def selectedFrom (i : Nat) : List Bool → List Nat
  | [] => []
  | true :: bs => i :: selectedFrom (i + 1) bs
  | false :: bs => selectedFrom (i + 1) bs

/-- The selected CPUs, ascending. -/
def selected (s : CpuSet) : List Nat :=
  selectedFrom 0 s.bits

/-- The number of selected CPUs. -/
def count (s : CpuSet) : Nat :=
  s.bits.count true

/-- The set with the CPUs `lo` to `hi` selected or not, and every other CPU as it was. -/
def assign (s : CpuSet) (lo hi : Nat) (value : Bool) : CpuSet :=
  ⟨s.bits.mapIdx fun i prev => if lo ≤ i ∧ i ≤ hi then value else prev⟩

/-- The maximal runs of neighbours in an ascending list of numbers. -/
def runsOf : List Nat → List (Nat × Nat)
  | [] => []
  | n :: ns =>
    match runsOf ns with
    | [] => [(n, n)]
    | (lo, hi) :: rs => if n + 1 = lo then (n, hi) :: rs else (n, n) :: (lo, hi) :: rs

/-- A run as text: `n` for a single CPU, `lo-hi` for more. -/
def runText (run : Nat × Nat) : List Char :=
  if run.1 = run.2 then Text.Numeral.text run.1
  else Text.Numeral.text run.1 ++ '-' :: Text.Numeral.text run.2

/-- The selected runs, separated by commas; empty for a set that selects nothing. -/
def cpulist (s : CpuSet) : String :=
  String.ofList (List.intercalate [','] ((runsOf s.selected).map runText))

/-- One letter per CPU, `T` for a selected one. -/
def letters (s : CpuSet) : String :=
  String.ofList (s.bits.map fun b => if b then 'T' else 'F')

@[simp] theorem width_cleared (total : Nat) : (cleared total).width = total := by
  simp [cleared, width]

@[simp] theorem width_full (total : Nat) : (full total).width = total := by
  simp [full, width]

@[simp] theorem width_assign (s : CpuSet) (lo hi : Nat) (value : Bool) :
    (s.assign lo hi value).width = s.width := by
  simp [assign, width]

/-- Only the entries from `lo` to `hi` take the new value. -/
theorem getElem?_assign (s : CpuSet) (lo hi : Nat) (value : Bool) (i : Nat) :
    (s.assign lo hi value).bits[i]? =
      s.bits[i]?.map fun prev => if lo ≤ i ∧ i ≤ hi then value else prev := by
  simp [assign]

theorem mem_selectedFrom {i n : Nat} {bs : List Bool} :
    n ∈ selectedFrom i bs ↔ i ≤ n ∧ bs[n - i]? = some true := by
  induction bs generalizing i with
  | nil => simp [selectedFrom]
  | cons b bs ih =>
    have hs : ∀ m, i + 1 ≤ m → (b :: bs)[m - i]? = bs[m - (i + 1)]? := by
      intro m hm
      rw [show m - i = (m - (i + 1)) + 1 by omega, List.getElem?_cons_succ]
    cases b with
    | false =>
      simp only [selectedFrom, ih]
      constructor
      · rintro ⟨h, hb⟩
        exact ⟨by omega, by rw [hs n h]; exact hb⟩
      · rintro ⟨h, hb⟩
        rcases Nat.eq_or_lt_of_le h with rfl | h
        · simp at hb
        · exact ⟨h, by rw [← hs n h]; exact hb⟩
    | true =>
      simp only [selectedFrom, List.mem_cons, ih]
      constructor
      · rintro (rfl | ⟨h, hb⟩)
        · simp
        · exact ⟨by omega, by rw [hs n h]; exact hb⟩
      · rintro ⟨h, hb⟩
        rcases Nat.eq_or_lt_of_le h with rfl | h
        · exact Or.inl rfl
        · exact Or.inr ⟨h, by rw [← hs n h]; exact hb⟩

/-- The selected CPUs are those whose entry is true. -/
theorem mem_selected {s : CpuSet} {n : Nat} : n ∈ s.selected ↔ s.bits[n]? = some true := by
  simp [selected, mem_selectedFrom]

theorem length_selectedFrom (i : Nat) (bs : List Bool) :
    (selectedFrom i bs).length = bs.count true := by
  induction bs generalizing i with
  | nil => rfl
  | cons b bs ih => cases b <;> simp [selectedFrom, ih]

theorem length_selected (s : CpuSet) : s.selected.length = s.count :=
  length_selectedFrom 0 s.bits

/-- A set counts nothing exactly when it selects nothing. -/
theorem count_eq_zero_iff {s : CpuSet} : s.count = 0 ↔ s.selected = [] := by
  rw [← length_selected, List.length_eq_zero_iff]

end CpuSet

end VcpuPinning
