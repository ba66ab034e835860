import Mathlib.Data.List.Forall2
import Mathlib.Data.List.Induction
import VcpuPinning.CpuSpec

/-!
# What specifications mean

`Spells` is the grammar of clauses, over numerals of any size, and `Selects` says what a list of
clauses means : a CPU is selected by the last clause that addresses it. The main statement,
`compile_meaning`, is that `compile` accepts exactly the specifications of the grammar whose
clauses fit the host and select a CPU, and that the set it returns is what the clauses mean.

`compile` counts a numeral above 64 bits as the largest number of 64 bits. On a host whose number
of CPUs has 64 bits such a numeral is out of range either way, so the clauses that can be carried
out are spelled exactly (`judge_fault_eq_ok_iff`).
-/

namespace VcpuPinning

namespace Text

/-! ## Blanks and pieces -/

theorem trimStart_append_of_blank {a : List Char} (h : ∀ c ∈ a, isBlank c) (cs : List Char) :
    trimStart (a ++ cs) = trimStart cs :=
  List.dropWhile_append_of_pos h

theorem trimEnd_append_of_blank {b : List Char} (h : ∀ c ∈ b, isBlank c) (cs : List Char) :
    trimEnd (cs ++ b) = trimEnd cs := by
  induction cs with
  | nil => rw [List.nil_append, trimEnd_eq_nil_iff.2 h, trimEnd]
  | cons c cs ih => rw [List.cons_append, trimEnd, trimEnd, ih]

theorem exists_trimEnd_append (cs : List Char) :
    ∃ b, cs = trimEnd cs ++ b ∧ ∀ c ∈ b, isBlank c := by
  induction cs with
  | nil => exact ⟨[], rfl, by simp⟩
  | cons c cs ih =>
    obtain ⟨b, hb, hblank⟩ := ih
    cases ht : trimEnd cs with
    | nil =>
      by_cases hc : isBlank c
      · refine ⟨c :: cs, by simp [trimEnd, ht, hc], ?_⟩
        exact List.forall_mem_cons.2 ⟨hc, trimEnd_eq_nil_iff.1 ht⟩
      · refine ⟨cs, by simp [trimEnd, ht, hc], trimEnd_eq_nil_iff.1 ht⟩
    | cons d ds =>
      rw [ht] at hb
      exact ⟨b, by simp only [trimEnd, ht]; rw [List.cons_append, ← hb], hblank⟩

/-- A text is its trimmed part between blanks. -/
theorem exists_append_trim_append (cs : List Char) :
    ∃ a b, cs = a ++ trim cs ++ b ∧ (∀ c ∈ a, isBlank c) ∧ ∀ c ∈ b, isBlank c := by
  obtain ⟨b, hb, hblank⟩ := exists_trimEnd_append (trimStart cs)
  refine ⟨cs.takeWhile isBlank, b, ?_, List.all_eq_true.1 List.all_takeWhile, hblank⟩
  rw [List.append_assoc, trim, ← hb]
  exact List.takeWhile_append_dropWhile.symm

/-- Trimming takes off the blanks around a text without any. -/
theorem trim_of_no_blank {a cs b : List Char} (ha : ∀ c ∈ a, isBlank c)
    (hcs : ∀ c ∈ cs, isBlank c = false) (hb : ∀ c ∈ b, isBlank c) :
    trim (a ++ cs ++ b) = cs := by
  have hend : trimEnd cs = cs := trimEnd_of_getLast fun c hc => hcs c (List.mem_of_getLast? hc)
  rw [trim, List.append_assoc, trimStart_append_of_blank ha]
  cases cs with
  | nil =>
    rw [List.nil_append, trimEnd_eq_nil_iff]
    exact fun c hc => hb c ((List.dropWhile_sublist _).subset hc)
  | cons c cs =>
    rw [trimStart_of_head fun d hd => hcs d (by simp_all), trimEnd_append_of_blank hb, hend]

/-- The pieces of a text are what it is split into. -/
theorem pieces_eq_splitOn (sep : Char) (cs : List Char) : pieces sep cs = cs.splitOn sep := by
  have hmem : ∀ p ∈ pieces sep cs, sep ∉ p := by
    induction cs with
    | nil => simp [pieces]
    | cons c cs ih =>
      by_cases hc : c = sep
      · simpa [pieces, hc] using ih
      · cases hp : pieces sep cs with
        | nil => exact absurd hp (pieces_ne_nil sep cs)
        | cons p ps =>
          rw [hp] at ih
          simp only [pieces, hc, ↓reduceIte, hp, List.forall_mem_cons] at ih ⊢
          exact ⟨by simp [Ne.symm hc, ih.1], ih.2⟩
  have hcat : [sep].intercalate (pieces sep cs) = cs := by
    clear hmem
    induction cs with
    | nil => rfl
    | cons c cs ih =>
      cases hp : pieces sep cs with
      | nil => exact absurd hp (pieces_ne_nil sep cs)
      | cons p ps =>
        rw [hp] at ih
        by_cases hc : c = sep
        · simp [pieces, hc, hp, List.intercalate_cons_cons, ih]
        · cases ps with
          | nil => simpa [pieces, hc, hp] using ih
          | cons q ps =>
            simp [pieces, hc, hp, List.intercalate_cons_cons] at ih ⊢
            exact ih
  conv_rhs => rw [← hcat]
  exact (List.splitOn_intercalate sep hmem (pieces_ne_nil sep cs)).symm

end Text

namespace CpuSpec

/-! ## The grammar of clauses -/

/-- A numeral and its value : one or more ASCII digits, with any blanks around them. -/
def Numeral (cs : List Char) (n : ℕ) : Prop :=
  ∃ before ds after, cs = before ++ ds ++ after ∧ (∀ c ∈ before, Text.isBlank c) ∧
    (∀ c ∈ after, Text.isBlank c) ∧ ds ≠ [] ∧ (∀ c ∈ ds, c.isDigit) ∧
    Nat.ofDigitChars 10 ds 0 = n

/-- The texts of the clauses. -/
inductive Spells : List Char → Clause → Prop
  | select {cs : List Char} {cpu : ℕ} (numeral : Numeral cs cpu) : Spells cs (.select cpu)
  | range {cs ds : List Char} {lo hi : ℕ} (lower : Numeral cs lo) (upper : Numeral ds hi) :
      Spells (cs ++ '-' :: ds) (.range lo hi)
  | deselect {cs : List Char} {cpu : ℕ} (numeral : Numeral cs cpu) :
      Spells ('^' :: cs) (.deselect cpu)

/-- The clauses of a specification, one for each piece between commas. -/
def Reads (spec : String) (cs : List Clause) : Prop :=
  List.Forall₂ (fun piece c => Spells (Text.trim piece) c) (spec.toList.splitOn ',') cs

namespace Clause

/-- Every number of the clause is a CPU of a host with `total` CPUs, and a range is not
reversed. -/
def Fits (total : ℕ) : Clause → Prop
  | .select cpu => cpu < total
  | .range lo hi => lo < total ∧ hi < total ∧ lo ≤ hi
  | .deselect cpu => cpu < total

/-- The clause is about a CPU. -/
def Addresses (i : ℕ) : Clause → Prop
  | .select cpu => cpu = i
  | .range lo hi => lo ≤ i ∧ i ≤ hi
  | .deselect cpu => cpu = i

/-- The clause selects the CPUs that it is about. -/
def selects : Clause → Bool
  | .deselect _ => false
  | _ => true

/-- The clause with its numbers counted as at most the largest number of 64 bits. -/
def capped : Clause → Clause
  | .select cpu => .select (min Text.Numeral.max64 cpu)
  | .range lo hi => .range (min Text.Numeral.max64 lo) (min Text.Numeral.max64 hi)
  | .deselect cpu => .deselect (min Text.Numeral.max64 cpu)

end Clause

/-- The last of the clauses that are about a CPU selects it. -/
def Selects (cs : List Clause) (i : ℕ) : Prop :=
  ∃ before c after, cs = before ++ c :: after ∧ c.Addresses i ∧ c.selects ∧
    ∀ d ∈ after, ¬ d.Addresses i

/-! ## Reading -/

theorem isBlank_of_isDigit {c : Char} (h : c.isDigit) : Text.isBlank c = false := by
  have h0 : 48 ≤ c.toNat ∧ c.toNat ≤ 57 := by
    simpa [Char.isDigit, UInt32.le_iff_toNat_le] using h
  simp only [Text.isBlank, Bool.or_eq_false_iff, Bool.and_eq_false_iff, decide_eq_false_iff_not,
    beq_eq_false_iff_ne]
  omega

/-- What is neither a blank nor a digit is in no numeral. -/
theorem Numeral.not_mem {cs : List Char} {n : ℕ} (h : Numeral cs n) {c : Char}
    (hb : Text.isBlank c = false) (hd : c.isDigit = false) : c ∉ cs := by
  obtain ⟨before, ds, after, rfl, hbefore, hafter, -, hds, -⟩ := h
  intro hc
  rcases List.mem_append.1 hc with hc | hc
  · rcases List.mem_append.1 hc with hc | hc
    · exact Bool.false_ne_true (hb.symm.trans (hbefore c hc))
    · exact Bool.false_ne_true (hd.symm.trans (hds c hc))
  · exact Bool.false_ne_true (hb.symm.trans (hafter c hc))

theorem digits_trim_of_numeral {cs : List Char} {n : ℕ} (h : Numeral cs n) :
    Text.Numeral.digits (Text.trim cs) = some n := by
  obtain ⟨a, ds, b, rfl, ha, hb, hne, hds, hval⟩ := h
  rw [Text.trim_of_no_blank ha (fun c hc => isBlank_of_isDigit (hds c hc)) hb]
  exact Text.Numeral.digits_eq_some_iff.2 ⟨hne, hds, hval⟩

theorem Numeral.unique {cs : List Char} {n m : ℕ} (hn : Numeral cs n) (hm : Numeral cs m) :
    n = m :=
  Option.some.inj ((digits_trim_of_numeral hn).symm.trans (digits_trim_of_numeral hm))

theorem index?_eq_some_iff {cs : List Char} {k : ℕ} :
    index? cs = some k ↔ ∃ n, Numeral cs n ∧ k = min Text.Numeral.max64 n := by
  rw [index?, Option.map_eq_some_iff]
  constructor
  · rintro ⟨n, hn, rfl⟩
    obtain ⟨hne, hds, hval⟩ := Text.Numeral.digits_eq_some_iff.1 hn
    obtain ⟨a, b, hcs, ha, hb⟩ := Text.exists_append_trim_append cs
    exact ⟨n, ⟨a, Text.trim cs, b, hcs, ha, hb, hne, hds, hval⟩, rfl⟩
  · rintro ⟨n, hn, rfl⟩
    exact ⟨n, digits_trim_of_numeral hn, rfl⟩

theorem Numeral.caret_not_mem {cs : List Char} {n : ℕ} (h : Numeral cs n) : '^' ∉ cs :=
  h.not_mem rfl rfl

theorem Numeral.caret_not_mem_range {cs ds : List Char} {lo hi : ℕ} (h : Numeral cs lo)
    (h' : Numeral ds hi) : '^' ∉ cs ++ '-' :: ds := by
  simp [h.caret_not_mem, h'.caret_not_mem]

/-- The hyphen of a range is the only one in it. -/
theorem Numeral.cut_append {cs : List Char} {n : ℕ} (h : Numeral cs n) (ds : List Char) :
    Text.cut (· == '-') (cs ++ '-' :: ds) = some (cs, ds) := by
  have hmem : '-' ∉ cs := h.not_mem rfl rfl
  exact Text.cut_eq_some_iff.2 ⟨fun c hc => by simpa using fun he : c = '-' => hmem (he ▸ hc),
    '-', rfl, rfl⟩

theorem Numeral.cut_eq_none {cs : List Char} {n : ℕ} (h : Numeral cs n) :
    Text.cut (· == '-') cs = none := by
  have hmem : '-' ∉ cs := h.not_mem rfl rfl
  exact Text.cut_eq_none_iff.2 fun c hc => by simpa using fun he : c = '-' => hmem (he ▸ hc)

/-- A text spells one clause at most. -/
theorem Spells.unique {text : List Char} {c c' : Clause} (h : Spells text c)
    (h' : Spells text c') : c = c' := by
  cases h with
  | select hn =>
    cases h' with
    | select hm => rw [hn.unique hm]
    | range hl hu => exact nomatch hn.cut_eq_none.symm.trans (hl.cut_append _)
    | deselect hm => exact absurd (List.mem_cons_self ..) hn.caret_not_mem
  | @range cs ds lo hi hl hu =>
    generalize ht : cs ++ '-' :: ds = text at h'
    cases h' with
    | select hm => exact nomatch (ht ▸ hl.cut_append ds).symm.trans hm.cut_eq_none
    | range hl' hu' =>
      have hcut := hl.cut_append ds
      rw [ht, hl'.cut_append] at hcut
      obtain ⟨rfl, rfl⟩ := Prod.mk.inj (Option.some.inj hcut)
      rw [hl.unique hl', hu.unique hu']
    | deselect hm => exact absurd (ht ▸ List.mem_cons_self ..) (hl.caret_not_mem_range hu)
  | @deselect cs n hn =>
    generalize ht : '^' :: cs = text at h'
    cases h' with
    | select hm => exact absurd (ht ▸ List.mem_cons_self ..) hm.caret_not_mem
    | range hl hu => exact absurd (ht ▸ List.mem_cons_self ..) (hl.caret_not_mem_range hu)
    | deselect hm =>
      obtain rfl := (List.cons.inj ht).2
      rw [hn.unique hm]

theorem reads_iff {spec : String} {cs : List Clause} :
    Reads spec cs ↔ List.Forall₂ Spells (clauses spec) cs := by
  rw [Reads, clauses, Text.pieces_eq_splitOn, List.forall₂_map_left_iff]

/-- A specification has one list of clauses at most. -/
theorem Reads.unique {spec : String} {cs cs' : List Clause} (h : Reads spec cs)
    (h' : Reads spec cs') : cs = cs' := by
  have hunique : Relator.RightUnique Spells := fun _ _ _ => Spells.unique
  exact hunique.forall₂ (reads_iff.1 h) (reads_iff.1 h')

/-- A clause is read, with its numbers capped, from the texts that spell it. -/
theorem read_eq_some_iff {text : List Char} {c : Clause} :
    Clause.read text = some c ↔ ∃ c', Spells text c' ∧ c = c'.capped := by
  constructor
  · intro h
    unfold Clause.read at h
    split at h
    · obtain ⟨k, hk, rfl⟩ := Option.map_eq_some_iff.1 h
      obtain ⟨n, hn, rfl⟩ := index?_eq_some_iff.1 hk
      exact ⟨.deselect n, .deselect hn, rfl⟩
    · split at h
      · rename_i lo hi hcut
        obtain ⟨-, d, hd, rfl⟩ := Text.cut_eq_some_iff.1 hcut
        obtain rfl : d = '-' := by simpa using hd
        split at h
        · rename_i l u hl hu
          obtain ⟨n, hn, rfl⟩ := index?_eq_some_iff.1 hl
          obtain ⟨m, hm, rfl⟩ := index?_eq_some_iff.1 hu
          exact ⟨.range n m, .range hn hm, (Option.some.inj h).symm⟩
        · exact nomatch h
      · obtain ⟨k, hk, rfl⟩ := Option.map_eq_some_iff.1 h
        obtain ⟨n, hn, rfl⟩ := index?_eq_some_iff.1 hk
        exact ⟨.select n, .select hn, rfl⟩
  · rintro ⟨c', hc', rfl⟩
    cases hc' with
    | @select cs n hn =>
      unfold Clause.read
      split
      · exact absurd (List.mem_cons_self ..) hn.caret_not_mem
      · rw [hn.cut_eq_none]
        simp [index?_eq_some_iff.2 ⟨n, hn, rfl⟩, Clause.capped]
    | @range cs ds lo hi hlo hhi =>
      unfold Clause.read
      split
      · rename_i rest he
        exact absurd (he ▸ List.mem_cons_self ..) (hlo.caret_not_mem_range hhi)
      · rw [hlo.cut_append]
        simp [index?_eq_some_iff.2 ⟨lo, hlo, rfl⟩, index?_eq_some_iff.2 ⟨hi, hhi, rfl⟩,
          Clause.capped]
    | @deselect cs n hn =>
      simp [Clause.read, index?_eq_some_iff.2 ⟨n, hn, rfl⟩, Clause.capped]

theorem Clause.fault_eq_none_iff {c : Clause} {total : ℕ} :
    c.fault total = none ↔ c.Fits total := by
  cases c with
  | select cpu => simp [fault, Fits]
  | range lo hi =>
    by_cases h : lo < total ∧ hi < total
    · simp [fault, Fits, h]
    · simp only [fault, Fits, h, ↓reduceIte, reduceCtorEq, false_iff]
      exact fun hfits => h ⟨hfits.1, hfits.2.1⟩
  | deselect cpu => simp [fault, Fits]

/-- A number above 64 bits is no CPU of a host whose number of CPUs has 64 bits, capped or not. -/
theorem Clause.fault_capped {total : ℕ} (ht : total ≤ Text.Numeral.max64) (c : Clause) :
    c.capped.fault total = c.fault total := by
  have hlt (n : ℕ) : min Text.Numeral.max64 n < total ↔ n < total := by omega
  cases c with
  | select cpu => simp only [capped, fault, hlt]
  | range lo hi =>
    simp only [capped, fault, hlt]
    split
    · rename_i h
      rw [Nat.min_eq_right (by omega), Nat.min_eq_right (by omega)]
    · rfl
  | deselect cpu => simp only [capped, fault, hlt]

theorem Clause.Fits.capped_eq {total : ℕ} (ht : total ≤ Text.Numeral.max64) {c : Clause}
    (h : c.Fits total) : c.capped = c := by
  have hmin {n : ℕ} (hn : n < total) : min Text.Numeral.max64 n = n := by omega
  cases c with
  | select cpu => rw [capped, hmin h]
  | range lo hi => rw [capped, hmin h.1, hmin h.2.1]
  | deselect cpu => rw [capped, hmin h]

theorem judge_eq_ok_iff {rule : Clause → Option SpecError.Reason} {text : List Char}
    {c : Clause} : judge rule text = .ok c ↔ Clause.read text = some c ∧ rule c = none := by
  unfold judge
  cases Clause.read text with
  | none => simp
  | some clause => cases hrule : rule clause <;> grind

/-- On a host whose number of CPUs has 64 bits, the clauses that can be carried out are spelled
exactly. -/
theorem judge_fault_eq_ok_iff {total : ℕ} (ht : total ≤ Text.Numeral.max64) {text : List Char}
    {c : Clause} :
    judge (Clause.fault total) text = .ok c ↔ Spells text c ∧ c.Fits total := by
  rw [judge_eq_ok_iff, read_eq_some_iff]
  constructor
  · rintro ⟨⟨c', hc', rfl⟩, hfault⟩
    rw [Clause.fault_capped ht, Clause.fault_eq_none_iff] at hfault
    rw [hfault.capped_eq ht]
    exact ⟨hc', hfault⟩
  · rintro ⟨hc, hfits⟩
    exact ⟨⟨c, hc, (hfits.capped_eq ht).symm⟩, Clause.fault_eq_none_iff.2 hfits⟩

/-! ## Carrying out -/

/-- The set after clauses. -/
def applyAll (cs : List Clause) (s : CpuSet) : CpuSet :=
  cs.foldl (fun s c => c.apply s) s

theorem carryOut_eq_ok_iff {total : ℕ} (ht : total ≤ Text.Numeral.max64)
    {texts : List (List Char)} {s s' : CpuSet} :
    carryOut total s texts = .ok s' ↔
      ∃ cs, List.Forall₂ Spells texts cs ∧ (∀ c ∈ cs, c.Fits total) ∧ s' = applyAll cs s := by
  induction texts generalizing s with
  | nil => simp [carryOut, applyAll, eq_comm]
  | cons text texts ih =>
    constructor
    · intro h
      unfold carryOut at h
      split at h
      · cases h
      · rename_i c hc
        obtain ⟨hspells, hfits⟩ := (judge_fault_eq_ok_iff ht).1 hc
        obtain ⟨cs, hcs, hall, rfl⟩ := ih.1 h
        exact ⟨c :: cs, .cons hspells hcs, List.forall_mem_cons.2 ⟨hfits, hall⟩, rfl⟩
    · rintro ⟨_, hall₂, hall, rfl⟩
      obtain ⟨c, cs, hspells, hcs, rfl⟩ := List.forall₂_cons_left_iff.1 hall₂
      obtain ⟨hfits, hall⟩ := List.forall_mem_cons.1 hall
      rw [carryOut, (judge_fault_eq_ok_iff ht).2 ⟨hspells, hfits⟩]
      exact ih.2 ⟨cs, hcs, hall, rfl⟩

theorem Clause.getElem?_apply_of_addresses {c : Clause} {i : ℕ} (h : c.Addresses i) (s : CpuSet) :
    (c.apply s).bits[i]? = s.bits[i]?.map fun _ => c.selects := by
  cases c <;> simp only [Addresses, Nat.le_antisymm_iff] at h <;>
    simp [apply, CpuSet.getElem?_assign, selects, h]

theorem Clause.getElem?_apply_of_not_addresses {c : Clause} {i : ℕ} (h : ¬ c.Addresses i)
    (s : CpuSet) : (c.apply s).bits[i]? = s.bits[i]? := by
  cases c <;> simp only [Addresses, Nat.le_antisymm_iff] at h <;>
    simp [apply, CpuSet.getElem?_assign, h]

theorem selects_concat {cs : List Clause} {c : Clause} {i : ℕ} :
    Selects (cs ++ [c]) i ↔
      c.Addresses i ∧ c.selects ∨ ¬ c.Addresses i ∧ Selects cs i := by
  constructor
  · rintro ⟨before, d, after, h, hd, hsel, hafter⟩
    rcases List.eq_nil_or_concat after with rfl | ⟨after, e, rfl⟩
    · obtain ⟨-, he⟩ := List.append_inj' h rfl
      obtain rfl := List.singleton_inj.1 he
      exact Or.inl ⟨hd, hsel⟩
    · have h' : cs ++ [c] = (before ++ d :: after) ++ [e] := by simpa using h
      obtain ⟨hcs, he⟩ := List.append_inj' h' rfl
      obtain rfl := List.singleton_inj.1 he
      exact Or.inr ⟨hafter c (by simp), before, d, after, hcs, hd, hsel,
        fun x hx => hafter x (by simp [hx])⟩
  · rintro (⟨hc, hsel⟩ | ⟨hc, before, d, after, rfl, hd, hsel, hafter⟩)
    · exact ⟨cs, c, [], rfl, hc, hsel, by simp⟩
    · refine ⟨before, d, after ++ [c], by simp, hd, hsel, fun x hx => ?_⟩
      rcases List.mem_append.1 hx with hx | hx
      · exact hafter x hx
      · rwa [List.mem_singleton.1 hx]

theorem width_applyAll (cs : List Clause) (s : CpuSet) : (applyAll cs s).width = s.width := by
  induction cs generalizing s with
  | nil => rfl
  | cons c cs ih => exact (ih (c.apply s)).trans (width_apply s c)

/-- What clauses select of a host's CPUs, starting with none. The induction is on the last clause,
which alone decides about the CPUs that it addresses. -/
theorem getElem?_applyAll_of_lt {total i : ℕ} (hi : i < total) (cs : List Clause) :
    (applyAll cs (.cleared total)).bits[i]? = some true ↔ Selects cs i := by
  induction cs using List.reverseRecOn with
  | nil => simp [applyAll, CpuSet.cleared, Selects, hi]
  | append_singleton cs c ih =>
    have hstep : applyAll (cs ++ [c]) (.cleared total) = c.apply (applyAll cs (.cleared total)) := by
      simp [applyAll]
    rw [hstep, selects_concat]
    by_cases hc : c.Addresses i
    · have hlen : i < (applyAll cs (.cleared total)).bits.length := by
        rwa [← CpuSet.width, width_applyAll, CpuSet.width_cleared]
      rw [Clause.getElem?_apply_of_addresses hc, List.getElem?_eq_getElem hlen]
      simp [hc]
    · rw [Clause.getElem?_apply_of_not_addresses hc, ih]
      simp [hc]

/-- Clauses that fit a host select none but its CPUs. -/
theorem Selects.lt {cs : List Clause} {total i : ℕ} (h : Selects cs i)
    (hfits : ∀ c ∈ cs, c.Fits total) : i < total := by
  obtain ⟨before, c, after, rfl, hc, -, -⟩ := h
  have hf := hfits c (by simp)
  cases c with
  | select cpu => exact hc ▸ hf
  | range lo hi => exact Nat.lt_of_le_of_lt hc.2 hf.2.1
  | deselect cpu => exact hc ▸ hf

theorem getElem?_applyAll_cleared {total : ℕ} {cs : List Clause} (hfits : ∀ c ∈ cs, c.Fits total)
    (i : ℕ) : (applyAll cs (.cleared total)).bits[i]? = some true ↔ Selects cs i := by
  by_cases hi : i < total
  · exact getElem?_applyAll_of_lt hi cs
  · have hlen : (applyAll cs (.cleared total)).bits.length ≤ i := by
      rw [← CpuSet.width, width_applyAll, CpuSet.width_cleared]
      exact Nat.le_of_not_lt hi
    rw [List.getElem?_eq_none hlen]
    simpa using fun h : Selects cs i => hi (h.lt hfits)

theorem count_ne_zero_iff {s : CpuSet} : s.count ≠ 0 ↔ ∃ i : ℕ, s.bits[i]? = some true := by
  rw [CpuSet.count, ne_eq, List.count_eq_zero, not_not, List.mem_iff_getElem?]

theorem count_applyAll_ne_zero_iff {total : ℕ} {cs : List Clause}
    (hfits : ∀ c ∈ cs, c.Fits total) :
    (applyAll cs (.cleared total)).count ≠ 0 ↔ ∃ i, Selects cs i := by
  rw [count_ne_zero_iff]
  exact exists_congr (getElem?_applyAll_cleared hfits)

/-! ## Compiling -/

theorem compile_eq_ok_iff_carryOut {spec : String} {total : ℕ} {s : CpuSet} :
    compile spec total = .ok s ↔
      carryOut total (.cleared total) (clauses spec) = .ok s ∧ s.count ≠ 0 := by
  rw [compile]
  cases carryOut total (.cleared total) (clauses spec) with
  | error e => simp
  | ok s' => by_cases hc : s'.count = 0 <;> grind

/-- A specification compiles to the set that its clauses make, if that selects a CPU. -/
theorem compile_eq_ok_iff {total : ℕ} (ht : total ≤ Text.Numeral.max64) {spec : String}
    {s : CpuSet} :
    compile spec total = .ok s ↔ ∃ cs, Reads spec cs ∧ (∀ c ∈ cs, c.Fits total) ∧
      (∃ i, Selects cs i) ∧ s = applyAll cs (.cleared total) := by
  rw [compile_eq_ok_iff_carryOut, carryOut_eq_ok_iff ht]
  constructor
  · rintro ⟨⟨cs, hcs, hfits, rfl⟩, hne⟩
    exact ⟨cs, reads_iff.2 hcs, hfits, (count_applyAll_ne_zero_iff hfits).1 hne, rfl⟩
  · rintro ⟨cs, hcs, hfits, hsel, rfl⟩
    exact ⟨⟨cs, reads_iff.1 hcs, hfits, rfl⟩, (count_applyAll_ne_zero_iff hfits).2 hsel⟩

/-- A specification is accepted exactly if each piece between commas spells a clause, every clause
fits the host, and a CPU is selected in the end. The set has one entry for each CPU of the host,
which is true exactly if the last clause about the CPU selects it. -/
theorem compile_meaning (spec : String) (total : UInt64) :
    ((∃ s, compile spec total.toNat = .ok s) ↔
      ∃ cs, Reads spec cs ∧ (∀ c ∈ cs, c.Fits total.toNat) ∧ ∃ i, Selects cs i) ∧
    ∀ s cs, compile spec total.toNat = .ok s → Reads spec cs →
      s.width = total.toNat ∧ ∀ i, s.bits[i]? = some true ↔ Selects cs i := by
  have ht : total.toNat ≤ Text.Numeral.max64 := Nat.le_sub_one_of_lt total.toNat_lt
  refine ⟨⟨fun ⟨s, hs⟩ => ?_, fun ⟨cs, hcs, hfits, hsel⟩ => ?_⟩, fun s cs hs hcs => ?_⟩
  · obtain ⟨cs, hcs, hfits, hsel, -⟩ := (compile_eq_ok_iff ht).1 hs
    exact ⟨cs, hcs, hfits, hsel⟩
  · exact ⟨_, (compile_eq_ok_iff ht).2 ⟨cs, hcs, hfits, hsel, rfl⟩⟩
  · obtain ⟨cs', hcs', hfits, -, rfl⟩ := (compile_eq_ok_iff ht).1 hs
    obtain rfl := hcs.unique hcs'
    exact ⟨(width_of_compile hs).1, fun i => getElem?_applyAll_cleared hfits i⟩

/-- A later clause prevails over an earlier one. -/
example : compile "0-2,^1" 4 = .ok ⟨[true, false, true, false]⟩ := by decide +kernel

end CpuSpec

end VcpuPinning
