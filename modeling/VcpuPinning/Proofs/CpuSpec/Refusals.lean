import VcpuPinning.Proofs.CpuSpec.Meaning

/-!
# Why specifications are refused

A text between commas has a `Defect` on a host that cannot carry it out : it spells no clause, or a
number of the clause is no CPU of the host, or the clause is a range that runs downwards. The main
statement, `refusal_names_first_defect`, is that the error of `compile` is about the first text with
a defect, and about the whole specification if no text has one and no CPU remains selected.

`compile` and `validate` both stop at the first text that a rule refuses (`FirstRefused`). They
differ in the rule.
-/

namespace VcpuPinning

namespace CpuSpec

/-! ## What can be wrong with a clause -/

/-- The numbers of a clause. -/
def Clause.numbers : Clause → List ℕ
  | .select cpu => [cpu]
  | .range lo hi => [lo, hi]
  | .deselect cpu => [cpu]

/-- What is wrong with a text between commas, on a host with `total` CPUs. -/
inductive Defect (total : ℕ) (text : List Char) : SpecError.Reason → Prop
  /-- The text spells no clause. -/
  | malformed (unspelled : ∀ c, ¬ Spells text c) : Defect total text .malformed
  /-- A number of the clause is no CPU of the host. -/
  | outOfRange {c : Clause} {n : ℕ} (spells : Spells text c) (number : n ∈ c.numbers)
      (le : total ≤ n) : Defect total text .outOfRange
  /-- The clause is a range between CPUs of the host that runs downwards. -/
  | reversedRange {lo hi : ℕ} (spells : Spells text (.range lo hi)) (lower : lo < total)
      (upper : hi < total) (lt : hi < lo) : Defect total text .reversedRange

/-- The trimmed texts between the commas of a specification. -/
def texts (spec : String) : List (List Char) :=
  (spec.toList.splitOn ',').map Text.trim

/-- Text number `k` of a specification is the first that a host with `total` CPUs cannot carry out,
and the error says what is wrong with it. -/
structure FirstDefect (total : ℕ) (spec : String) (k : ℕ) (e : SpecError) : Prop where
  text : (texts spec)[k]? = some e.clause.toList
  defect : Defect total e.clause.toList e.reason
  before : ∀ text ∈ (texts spec).take k, ∃ c, Spells text c ∧ c.Fits total

theorem clauses_eq_texts (spec : String) : clauses spec = texts spec := by
  rw [clauses, texts, Text.pieces_eq_splitOn]

theorem read_eq_none_iff {text : List Char} :
    Clause.read text = none ↔ ∀ c, ¬ Spells text c := by
  rw [Option.eq_none_iff_forall_ne_some]
  constructor
  · intro h c hc
    exact h _ (read_eq_some_iff.2 ⟨c, hc, rfl⟩)
  · intro h c hc
    obtain ⟨c', hc', -⟩ := read_eq_some_iff.1 hc
    exact h c' hc'

theorem Clause.fault_eq_some_iff {c : Clause} {total : ℕ} {r : SpecError.Reason} :
    c.fault total = some r ↔ r = .outOfRange ∧ (∃ n ∈ c.numbers, total ≤ n) ∨
      r = .reversedRange ∧ ∃ lo hi, c = .range lo hi ∧ lo < total ∧ hi < total ∧ hi < lo := by
  cases c with
  | select cpu => simp [fault, numbers, and_comm, eq_comm]
  | deselect cpu => simp [fault, numbers, and_comm, eq_comm]
  | range lo hi =>
    have hout : (∃ n ∈ numbers (.range lo hi), total ≤ n) ↔ ¬ (lo < total ∧ hi < total) := by
      simp [numbers]
      omega
    have hrev : (∃ l h, range lo hi = range l h ∧ l < total ∧ h < total ∧ h < l) ↔
        (lo < total ∧ hi < total) ∧ hi < lo := by
      simp [and_assoc]
    rw [fault, hout, hrev]
    by_cases hin : lo < total ∧ hi < total
    · simp [hin, and_comm, eq_comm]
    · simp [hin, eq_comm]

/-- What is wrong with a text that spells a clause is the fault of the clause. -/
theorem Spells.defect_iff {text : List Char} {c : Clause} (h : Spells text c) {total : ℕ}
    {r : SpecError.Reason} : Defect total text r ↔ c.fault total = some r := by
  rw [Clause.fault_eq_some_iff]
  constructor
  · intro hd
    cases hd with
    | malformed unspelled => exact absurd h (unspelled c)
    | outOfRange spells number le =>
      obtain rfl := h.unique spells
      exact .inl ⟨rfl, _, number, le⟩
    | reversedRange spells lower upper lt =>
      obtain rfl := h.unique spells
      exact .inr ⟨rfl, _, _, rfl, lower, upper, lt⟩
  · rintro (⟨rfl, n, number, le⟩ | ⟨rfl, lo, hi, rfl, lower, upper, lt⟩)
    · exact .outOfRange h number le
    · exact .reversedRange h lower upper lt

theorem judge_eq_error_iff {rule : Clause → Option SpecError.Reason} {text : List Char}
    {e : SpecError} : judge rule text = .error e ↔ text = e.clause.toList ∧
      (Clause.read text = none ∧ e.reason = .malformed ∨
        ∃ c, Clause.read text = some c ∧ rule c = some e.reason) := by
  obtain ⟨clause, reason⟩ := e
  have hclause : String.ofList text = clause ↔ text = clause.toList := by
    rw [← String.toList_inj, String.toList_ofList]
  unfold judge
  cases Clause.read text with
  | none => simp [hclause, eq_comm (a := reason)]
  | some c => cases hrule : rule c <;> simp [hclause, hrule]

/-- A host whose number of CPUs has 64 bits refuses a text for what is wrong with it. -/
theorem judge_fault_eq_error_iff {total : ℕ} (ht : total ≤ Text.Numeral.max64) {text : List Char}
    {e : SpecError} : judge (Clause.fault total) text = .error e ↔
      text = e.clause.toList ∧ Defect total text e.reason := by
  obtain ⟨clause, reason⟩ := e
  rw [judge_eq_error_iff]
  refine and_congr_right fun _ => ?_
  cases hread : Clause.read text with
  | none =>
    have hnone := read_eq_none_iff.1 hread
    simp only [true_and, reduceCtorEq, false_and, exists_false, or_false]
    constructor
    · intro hr
      exact hr ▸ .malformed hnone
    · intro hd
      cases hd with
      | malformed => rfl
      | outOfRange spells => exact absurd spells (hnone _)
      | reversedRange spells => exact absurd spells (hnone _)
  | some c =>
    obtain ⟨c', hc', rfl⟩ := read_eq_some_iff.1 hread
    rw [hc'.defect_iff, ← Clause.fault_capped ht c']
    simp

/-! ## The first text that is refused -/

/-- Text number `k` is the first that a rule refuses. -/
structure FirstRefused (rule : Clause → Option SpecError.Reason) (texts : List (List Char)) (k : ℕ)
    (e : SpecError) : Prop where
  refused : ∃ text, texts[k]? = some text ∧ judge rule text = .error e
  before : ∀ text ∈ texts.take k, ∃ c, judge rule text = .ok c

section FirstRefused

variable {rule : Clause → Option SpecError.Reason} {text : List Char} {texts : List (List Char)}
  {k : ℕ} {e : SpecError}

theorem firstRefused_zero_iff :
    FirstRefused rule (text :: texts) 0 e ↔ judge rule text = .error e :=
  ⟨fun h => by simpa using h.refused, fun h => ⟨by simpa using h, by simp⟩⟩

theorem firstRefused_succ_iff : FirstRefused rule (text :: texts) (k + 1) e ↔
    (∃ c, judge rule text = .ok c) ∧ FirstRefused rule texts k e := by
  constructor
  · intro h
    obtain ⟨htext, hbefore⟩ := List.forall_mem_cons.1 h.before
    exact ⟨htext, h.refused, hbefore⟩
  · rintro ⟨htext, h⟩
    exact ⟨h.refused, List.forall_mem_cons.2 ⟨htext, h.before⟩⟩

theorem exists_firstRefused_cons_iff : (∃ k, FirstRefused rule (text :: texts) k e) ↔
    judge rule text = .error e ∨
      (∃ c, judge rule text = .ok c) ∧ ∃ k, FirstRefused rule texts k e := by
  constructor
  · rintro ⟨k, h⟩
    cases k with
    | zero => exact .inl (firstRefused_zero_iff.1 h)
    | succ k =>
      obtain ⟨htext, h⟩ := firstRefused_succ_iff.1 h
      exact .inr ⟨htext, k, h⟩
  · rintro (h | ⟨htext, k, h⟩)
    · exact ⟨0, firstRefused_zero_iff.2 h⟩
    · exact ⟨k + 1, firstRefused_succ_iff.2 ⟨htext, h⟩⟩

theorem not_firstRefused_nil : ¬ FirstRefused rule [] k e := by
  intro h
  simpa using h.refused

end FirstRefused

theorem carryOut_eq_error_iff {total : ℕ} {texts : List (List Char)} {s : CpuSet} {e : SpecError} :
    carryOut total s texts = .error e ↔ ∃ k, FirstRefused (Clause.fault total) texts k e := by
  induction texts generalizing s with
  | nil => simp [carryOut, not_firstRefused_nil]
  | cons text texts ih =>
    rw [exists_firstRefused_cons_iff, carryOut]
    cases judge (Clause.fault total) text with
    | error e' => simp
    | ok c => simp [ih]

theorem compile_eq_error_iff {spec : String} {total : ℕ} {e : SpecError} :
    compile spec total = .error e ↔ (∃ k, FirstRefused (Clause.fault total) (clauses spec) k e) ∨
      ∃ s, carryOut total (.cleared total) (clauses spec) = .ok s ∧ s.count = 0 ∧
        e = ⟨String.ofList (Text.trim spec.toList), .empty⟩ := by
  rw [← carryOut_eq_error_iff (s := .cleared total), compile]
  cases hs : carryOut total (.cleared total) (clauses spec) with
  | error e' => simp
  | ok s =>
    by_cases hc : s.count = 0
    · simp [hc, eq_comm]
    · simp [hc]

/-- On a host whose number of CPUs has 64 bits, the first text that is refused is the first with a
defect. -/
theorem firstDefect_iff {total : ℕ} (ht : total ≤ Text.Numeral.max64) {spec : String} {k : ℕ}
    {e : SpecError} :
    FirstDefect total spec k e ↔ FirstRefused (Clause.fault total) (clauses spec) k e := by
  rw [clauses_eq_texts]
  constructor
  · intro h
    refine ⟨⟨_, h.text, (judge_fault_eq_error_iff ht).2 ⟨rfl, h.defect⟩⟩, fun text htext => ?_⟩
    obtain ⟨c, hc⟩ := h.before text htext
    exact ⟨c, (judge_fault_eq_ok_iff ht).2 hc⟩
  · rintro ⟨⟨text, htext, hjudge⟩, hbefore⟩
    obtain ⟨rfl, hdefect⟩ := (judge_fault_eq_error_iff ht).1 hjudge
    refine ⟨htext, hdefect, fun text htext => ?_⟩
    obtain ⟨c, hc⟩ := hbefore text htext
    exact ⟨c, (judge_fault_eq_ok_iff ht).1 hc⟩

/-- The error of a refused specification names the first text that the host cannot carry out, and
says what is wrong with it. Where the host can carry out every text, no CPU remains selected, and
the error names the whole specification. -/
theorem refusal_names_first_defect (spec : String) (total : UInt64) (e : SpecError) :
    compile spec total.toNat = .error e ↔ (∃ k, FirstDefect total.toNat spec k e) ∨
      (∃ cs, Reads spec cs ∧ (∀ c ∈ cs, c.Fits total.toNat) ∧ ∀ i, ¬ Selects cs i) ∧
        e = ⟨String.ofList (Text.trim spec.toList), .empty⟩ := by
  have ht : total.toNat ≤ Text.Numeral.max64 := Nat.le_sub_one_of_lt total.toNat_lt
  rw [compile_eq_error_iff]
  refine or_congr (exists_congr fun k => (firstDefect_iff ht).symm) ?_
  constructor
  · rintro ⟨s, hs, hcount, rfl⟩
    obtain ⟨cs, hcs, hfits, rfl⟩ := (carryOut_eq_ok_iff ht).1 hs
    exact ⟨⟨cs, reads_iff.2 hcs, hfits,
      fun i hi => (count_applyAll_ne_zero_iff hfits).2 ⟨i, hi⟩ hcount⟩, rfl⟩
  · rintro ⟨⟨cs, hcs, hfits, hnone⟩, rfl⟩
    refine ⟨_, (carryOut_eq_ok_iff ht).2 ⟨cs, reads_iff.1 hcs, hfits, rfl⟩, ?_, rfl⟩
    by_contra hcount
    obtain ⟨i, hi⟩ := (count_applyAll_ne_zero_iff hfits).1 hcount
    exact hnone i hi

/-- The second text has two defects, the third another one. -/
example : compile "1,5-2,x" 4 = .error ⟨"5-2", .outOfRange⟩ := by decide +kernel

end CpuSpec

end VcpuPinning
