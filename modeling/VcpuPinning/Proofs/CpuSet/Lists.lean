import Mathlib.Data.List.Pairwise
import VcpuPinning.Proofs.CpuSpec.Meaning

/-!
# Lists of CPUs

The list of a set names the maximal runs of its CPUs, from the lowest to the highest
(`mem_runsOf_selected_iff`), and as a specification it denotes the set (`compile_cpulist`). So a set
is known from its width and its list. The main statement, `cpulist_canonical`, says both.

`runsOf` puts one number after the other in front of the runs of the numbers above it, so that what
it does follows by induction from the end of an ascending list (`runsOf_spec`).
-/

namespace VcpuPinning

namespace CpuSet

/-! ## Runs -/

/-- The CPUs from `lo` to `hi` are selected, and the CPUs next to them are not. -/
structure MaximalRun (s : CpuSet) (lo hi : ℕ) : Prop where
  le : lo ≤ hi
  selected : ∀ i, lo ≤ i → i ≤ hi → s.bits[i]? = some true
  before : ∀ i, i + 1 = lo → s.bits[i]? ≠ some true
  after : s.bits[hi + 1]? ≠ some true

/-- A number is in one of the runs. -/
def Covers (runs : List (ℕ × ℕ)) (n : ℕ) : Prop :=
  ∃ r ∈ runs, r.1 ≤ n ∧ n ≤ r.2

/-- Ascending runs, with a number between each of them and the next. -/
structure Separated (runs : List (ℕ × ℕ)) : Prop where
  le : ∀ r ∈ runs, r.1 ≤ r.2
  gaps : runs.Pairwise fun r r' => r.2 + 1 < r'.1

/-- Of two separated runs one ends before the other starts, with a number between them. -/
theorem Separated.eq_or_lt {runs : List (ℕ × ℕ)} (h : Separated runs) {r r' : ℕ × ℕ}
    (hr : r ∈ runs) (hr' : r' ∈ runs) : r = r' ∨ r.2 + 1 < r'.1 ∨ r'.2 + 1 < r.1 := by
  have hsymm : Std.Symm fun r r' : ℕ × ℕ => r.2 + 1 < r'.1 ∨ r'.2 + 1 < r.1 := ⟨fun _ _ => Or.symm⟩
  have hapart : runs.Pairwise fun r r' => r.2 + 1 < r'.1 ∨ r'.2 + 1 < r.1 := h.gaps.imp Or.inl
  by_cases he : r = r'
  · exact .inl he
  · exact .inr (hapart.forall hr hr' he)

theorem covers_cons {r : ℕ × ℕ} {runs : List (ℕ × ℕ)} {n : ℕ} :
    Covers (r :: runs) n ↔ r.1 ≤ n ∧ n ≤ r.2 ∨ Covers runs n := by
  simp [Covers]

/-- The runs of ascending numbers are separated, and the numbers are those in the runs. -/
theorem runsOf_spec {ns : List ℕ} (h : ns.Pairwise (· < ·)) :
    Separated (runsOf ns) ∧ ∀ n, n ∈ ns ↔ Covers (runsOf ns) n := by
  induction ns with
  | nil => exact ⟨⟨by simp [runsOf], by simp [runsOf]⟩, by simp [runsOf, Covers]⟩
  | cons m ns ih =>
    obtain ⟨hm, hns⟩ := List.pairwise_cons.1 h
    obtain ⟨hsep, hcov⟩ := ih hns
    simp only [List.mem_cons, hcov, runsOf]
    cases hr : runsOf ns with
    | nil =>
      refine ⟨⟨by simp, by simp⟩, fun n => ?_⟩
      rw [covers_cons]
      exact or_congr_left (by simp only; omega)
    | cons r runs =>
      obtain ⟨lo, hi⟩ := r
      rw [hr] at hsep hcov
      obtain ⟨hle, hles⟩ := List.forall_mem_cons.1 hsep.le
      obtain ⟨hgap, hgaps⟩ := List.pairwise_cons.1 hsep.gaps
      have hlo : m < lo := hm lo ((hcov lo).2 (covers_cons.2 (.inl ⟨Nat.le_refl lo, hle⟩)))
      simp only at hle hgap ⊢
      split
      · -- `m` prolongs the lowest run downwards
        refine ⟨⟨List.forall_mem_cons.2 ⟨by simp only; omega, hles⟩,
          List.pairwise_cons.2 ⟨hgap, hgaps⟩⟩, fun n => ?_⟩
        rw [covers_cons, covers_cons, ← or_assoc]
        exact or_congr_left (by simp only; omega)
      · -- `m` is a run of its own
        refine ⟨⟨List.forall_mem_cons.2 ⟨Nat.le_refl m, hsep.le⟩, List.pairwise_cons.2
          ⟨List.forall_mem_cons.2 ⟨by simp only; omega, fun r' hr' => ?_⟩, hsep.gaps⟩⟩,
          fun n => ?_⟩
        · have := hgap r' hr'
          simp only
          omega
        · rw [covers_cons (r := (m, m))]
          exact or_congr_left (by simp only; omega)

theorem pairwise_selectedFrom (i : ℕ) (bs : List Bool) :
    (selectedFrom i bs).Pairwise (· < ·) := by
  induction bs generalizing i with
  | nil => exact .nil
  | cons b bs ih =>
    cases b with
    | false => exact ih (i + 1)
    | true => exact List.pairwise_cons.2 ⟨fun n hn => (mem_selectedFrom.1 hn).1, ih (i + 1)⟩

theorem separated_runs (s : CpuSet) : Separated (runsOf s.selected) :=
  (runsOf_spec (pairwise_selectedFrom 0 s.bits)).1

/-- A CPU is selected exactly if it is in a run. -/
theorem covers_runs_iff {s : CpuSet} {i : ℕ} :
    Covers (runsOf s.selected) i ↔ s.bits[i]? = some true :=
  ((runsOf_spec (pairwise_selectedFrom 0 s.bits)).2 i).symm.trans mem_selected

/-- The runs of a set are its maximal runs. -/
theorem mem_runsOf_selected_iff {s : CpuSet} {lo hi : ℕ} :
    (lo, hi) ∈ runsOf s.selected ↔ s.MaximalRun lo hi := by
  have hsep := s.separated_runs
  constructor
  · intro hr
    have hle := hsep.le _ hr
    refine ⟨hle, fun i h h' => covers_runs_iff.1 ⟨_, hr, h, h'⟩, fun i hi' hsel => ?_, fun hsel => ?_⟩
    · obtain ⟨r, hr', h, h'⟩ := covers_runs_iff.2 hsel
      obtain rfl | hlt | hlt := hsep.eq_or_lt hr hr' <;> simp only at * <;> omega
    · obtain ⟨r, hr', h, h'⟩ := covers_runs_iff.2 hsel
      obtain rfl | hlt | hlt := hsep.eq_or_lt hr hr' <;> simp only at * <;> omega
  · intro h
    have hle := h.le
    obtain ⟨r, hr, h1, h2⟩ := covers_runs_iff.2 (h.selected lo (Nat.le_refl lo) h.le)
    have hlo : ¬ r.1 < lo := by
      intro hlt
      exact h.before (lo - 1) (by omega) (covers_runs_iff.1 ⟨r, hr, by omega, by omega⟩)
    have hhi : ¬ hi < r.2 := fun hlt => h.after (covers_runs_iff.1 ⟨r, hr, by omega, hlt⟩)
    have hhi' : ¬ r.2 < hi := by
      intro hlt
      obtain ⟨r', hr', h1', h2'⟩ := covers_runs_iff.2 (h.selected (r.2 + 1) (by omega) hlt)
      obtain rfl | hgap | hgap := hsep.eq_or_lt hr hr' <;> omega
    have he : r = (lo, hi) := Prod.ext (by simp only; omega) (by simp only; omega)
    exact he ▸ hr

theorem runsOf_selected_eq_nil_iff {s : CpuSet} : runsOf s.selected = [] ↔ s.count = 0 := by
  rw [count_eq_zero_iff]
  constructor
  · intro h
    refine List.eq_nil_iff_forall_not_mem.2 fun i hi => ?_
    obtain ⟨r, hr, -⟩ := covers_runs_iff.2 (mem_selected.1 hi)
    rw [h] at hr
    exact nomatch hr
  · intro h
    rw [h, runsOf]

/-- A set is known from its width and its CPUs. -/
theorem ext_selected {s t : CpuSet} (hw : s.width = t.width)
    (h : ∀ i : ℕ, s.bits[i]? = some true ↔ t.bits[i]? = some true) : s = t := by
  have hb : s.bits = t.bits := by
    refine List.ext_getElem hw fun i hs ht => ?_
    have hi := h i
    rw [List.getElem?_eq_getElem hs, List.getElem?_eq_getElem ht] at hi
    rw [Option.some_inj, Option.some_inj] at hi
    exact Bool.eq_iff_iff.2 hi
  cases s
  cases t
  cases hb
  rfl

end CpuSet

namespace CpuSpec

open CpuSet (runsOf runText)

/-! ## Lists as specifications -/

/-- The clause that a run is written as. -/
def clauseOf (run : ℕ × ℕ) : Clause :=
  if run.1 = run.2 then .select run.1 else .range run.1 run.2

theorem numeral_text (n : ℕ) : Numeral (Text.Numeral.text n) n :=
  ⟨[], _, [], by simp, by simp, by simp, Text.Numeral.text_ne_nil n,
    fun _ => Text.Numeral.isDigit_of_mem_text, Nat.ofDigitChars_toDigits (by decide) (by decide)⟩

theorem spells_runText (run : ℕ × ℕ) : Spells (runText run) (clauseOf run) := by
  unfold runText clauseOf
  split
  · exact .select (numeral_text run.1)
  · exact .range (numeral_text run.1) (numeral_text run.2)

/-- A run is written with digits and a hyphen. -/
theorem isDigit_or_of_mem_runText {run : ℕ × ℕ} {c : Char} (h : c ∈ runText run) :
    c.isDigit ∨ c = '-' := by
  unfold runText at h
  split at h
  · exact .inl (Text.Numeral.isDigit_of_mem_text h)
  · rw [List.mem_append, List.mem_cons] at h
    rcases h with h | h | h
    · exact .inl (Text.Numeral.isDigit_of_mem_text h)
    · exact .inr h
    · exact .inl (Text.Numeral.isDigit_of_mem_text h)

theorem comma_not_mem_runText (run : ℕ × ℕ) : ',' ∉ runText run := by
  intro h
  rcases isDigit_or_of_mem_runText h with h | h <;> exact absurd h (by decide)

theorem trim_runText (run : ℕ × ℕ) : Text.trim (runText run) = runText run := by
  have hblank : ∀ c ∈ runText run, Text.isBlank c = false := by
    intro c hc
    rcases isDigit_or_of_mem_runText hc with h | rfl
    · exact isBlank_of_isDigit h
    · rfl
  have h := Text.trim_of_no_blank (List.forall_mem_nil _) hblank (List.forall_mem_nil _)
  simpa using h

/-- The clauses of a list are those of the runs. -/
theorem reads_cpulist {s : CpuSet} (h : s.count ≠ 0) :
    Reads s.cpulist ((runsOf s.selected).map clauseOf) := by
  have hne : (runsOf s.selected).map runText ≠ [] := by
    rwa [ne_eq, List.map_eq_nil_iff, CpuSet.runsOf_selected_eq_nil_iff]
  have hcomma : ∀ p ∈ (runsOf s.selected).map runText, ',' ∉ p := by
    intro p hp
    obtain ⟨run, -, rfl⟩ := List.mem_map.1 hp
    exact comma_not_mem_runText run
  rw [Reads, CpuSet.cpulist, String.toList_ofList, List.splitOn_intercalate ',' hcomma hne,
    List.forall₂_map_left_iff, List.forall₂_map_right_iff, List.forall₂_same]
  intro run _
  rw [trim_runText]
  exact spells_runText run

theorem addresses_clauseOf {run : ℕ × ℕ} {i : ℕ} :
    (clauseOf run).Addresses i ↔ run.1 ≤ i ∧ i ≤ run.2 := by
  unfold clauseOf
  split
  · simp only [Clause.Addresses]
    omega
  · exact Iff.rfl

/-- Runs select what they cover. -/
theorem selects_clauseOf {runs : List (ℕ × ℕ)} {i : ℕ} :
    Selects (runs.map clauseOf) i ↔ CpuSet.Covers runs i := by
  have hsel (run : ℕ × ℕ) : (clauseOf run).selects := by
    unfold clauseOf
    split <;> rfl
  induction runs using List.reverseRecOn with
  | nil => simp [Selects, CpuSet.Covers]
  | append_singleton runs run ih =>
    have hcov : CpuSet.Covers (runs ++ [run]) i ↔
        CpuSet.Covers runs i ∨ run.1 ≤ i ∧ i ≤ run.2 := by
      simp [CpuSet.Covers, or_and_right, exists_or]
    rw [List.map_append, List.map_singleton, selects_concat, hcov, addresses_clauseOf]
    simp only [hsel run, and_true, ih]
    tauto

/-- The list of a set denotes the set. -/
theorem compile_cpulist {s : CpuSet} (hw : s.width ≤ Text.Numeral.max64) (h : s.count ≠ 0) :
    compile s.cpulist s.width = .ok s := by
  have hsel (i : ℕ) : Selects ((runsOf s.selected).map clauseOf) i ↔ s.bits[i]? = some true :=
    selects_clauseOf.trans CpuSet.covers_runs_iff
  have hfits : ∀ c ∈ (runsOf s.selected).map clauseOf, c.Fits s.width := by
    intro c hc
    obtain ⟨run, hrun, rfl⟩ := List.mem_map.1 hc
    have hle := s.separated_runs.le run hrun
    have hlt : run.2 < s.width := by
      obtain ⟨hb, -⟩ := List.getElem?_eq_some_iff.1
        (CpuSet.covers_runs_iff.1 ⟨run, hrun, hle, Nat.le_refl run.2⟩)
      exact hb
    unfold clauseOf
    split
    · exact Nat.lt_of_le_of_lt hle hlt
    · exact ⟨Nat.lt_of_le_of_lt hle hlt, hlt, hle⟩
  refine (compile_eq_ok_iff hw).2 ⟨_, reads_cpulist h, hfits, ?_, ?_⟩
  · obtain ⟨i, hi⟩ := count_ne_zero_iff.1 h
    exact ⟨i, (hsel i).2 hi⟩
  · refine CpuSet.ext_selected ?_ fun i => ?_
    · rw [width_applyAll, CpuSet.width_cleared]
    · rw [getElem?_applyAll_cleared hfits, hsel]

end CpuSpec

namespace CpuSet

/-! ## Lists as texts -/

/-- A run as a text : its number, or its two ends. -/
def runLabel (run : ℕ × ℕ) : String :=
  if run.1 = run.2 then toString run.1 else toString run.1 ++ "-" ++ toString run.2

theorem toList_runLabel (run : ℕ × ℕ) : (runLabel run).toList = runText run := by
  unfold runLabel runText
  split <;> simp [Text.Numeral.text]

theorem cpulist_eq (s : CpuSet) :
    s.cpulist = ",".intercalate ((runsOf s.selected).map runLabel) := by
  rw [← String.toList_inj, cpulist, String.toList_ofList, String.toList_intercalate, List.map_map]
  simp [Function.comp_def, toList_runLabel]

/-- Only a set that selects nothing has an empty list. -/
theorem cpulist_eq_empty_iff {s : CpuSet} : s.cpulist = "" ↔ s.count = 0 := by
  constructor
  · intro h
    by_contra hc
    have hreads := CpuSpec.reads_cpulist hc
    rw [h] at hreads
    -- the empty text has one piece, which spells no clause
    obtain ⟨c, cs, hspells, -⟩ := List.forall₂_cons_left_iff.1 hreads
    have hread := CpuSpec.read_eq_some_iff.2 ⟨c, hspells, rfl⟩
    exact nomatch hread
  · intro h
    rw [cpulist, runsOf_selected_eq_nil_iff.2 h]
    rfl

/-- Of the sets of one width, each has a list of its own. -/
theorem cpulist_inj {s t : CpuSet} (hs : s.width ≤ Text.Numeral.max64) (hw : t.width = s.width) :
    t.cpulist = s.cpulist ↔ t = s := by
  refine ⟨fun h => ?_, fun h => by rw [h]⟩
  have hcount : t.count = 0 ↔ s.count = 0 := by
    rw [← cpulist_eq_empty_iff, h, cpulist_eq_empty_iff]
  by_cases hc : s.count = 0
  · refine ext_selected hw fun i => ?_
    have hnone {u : CpuSet} (hu : u.count = 0) : ¬ u.bits[i]? = some true := fun hi =>
      CpuSpec.count_ne_zero_iff.2 ⟨i, hi⟩ hu
    exact iff_of_false (hnone (hcount.2 hc)) (hnone hc)
  · have ht := CpuSpec.compile_cpulist (hw ▸ hs) (mt hcount.1 hc)
    rw [hw, h, CpuSpec.compile_cpulist hs hc] at ht
    exact (Except.ok.inj ht).symm

/-- The list of a set that selects a CPU denotes the set. It names the maximal runs of the set in
ascending order, each by its number or by its two ends, with a number that is not selected between
one run and the next. It is empty exactly if the set selects nothing, and of the sets of one width
each has a list of its own. -/
theorem cpulist_canonical (s : CpuSet) (fits : s.width < UInt64.size) :
    (s.count ≠ 0 → CpuSpec.compile s.cpulist s.width = .ok s) ∧
    (∃ runs : List (ℕ × ℕ), s.cpulist = ",".intercalate (runs.map runLabel) ∧
      runs.Pairwise (fun r r' => r.2 + 1 < r'.1) ∧
      ∀ lo hi, (lo, hi) ∈ runs ↔ s.MaximalRun lo hi) ∧
    (s.cpulist = "" ↔ ∀ i : ℕ, s.bits[i]? ≠ some true) ∧
    ∀ t : CpuSet, t.width = s.width → (t.cpulist = s.cpulist ↔ t = s) := by
  have hw : s.width ≤ Text.Numeral.max64 := Nat.le_sub_one_of_lt fits
  refine ⟨CpuSpec.compile_cpulist hw, ⟨runsOf s.selected, s.cpulist_eq, s.separated_runs.gaps,
    fun _ _ => mem_runsOf_selected_iff⟩, ?_, fun t => cpulist_inj hw⟩
  rw [cpulist_eq_empty_iff, ← not_iff_not, ← ne_eq, CpuSpec.count_ne_zero_iff]
  simp

/-- Two runs, the second of a single CPU. -/
theorem cpulist_canonical_of_two_runs :
    (⟨[true, true, false, true]⟩ : CpuSet).width < UInt64.size ∧
      CpuSpec.compile "0-1,3" 4 = .ok ⟨[true, true, false, true]⟩ := by
  have hfits : (⟨[true, true, false, true]⟩ : CpuSet).width < UInt64.size := by decide
  have hlist : (⟨[true, true, false, true]⟩ : CpuSet).cpulist = "0-1,3" := by decide +kernel
  have h := (cpulist_canonical ⟨[true, true, false, true]⟩ hfits).1 (by decide)
  rw [hlist] at h
  exact ⟨hfits, h⟩

end CpuSet

end VcpuPinning
