import VcpuPinning.Proofs.CpuSpec.Refusals

/-!
# One specification, several hosts

What a host finds wrong with a clause is wrong with it on every host, unless a number is out of
range, and what one host can carry out a host with more CPUs can carry out too. So the rule of a host
compares with that of a larger host, and with that of `validate`, which knows no host (`Laxer`) : a
laxer rule refuses first what the stricter one refuses first, or else the stricter one found a
number out of range no later (`FirstRefused.of_laxer`, `FirstRefused.exists_of_laxer`).

The main statements are `validate_foretells_compile`, about no host and any host, and
`wider_host_keeps_set`, about two hosts.
-/

namespace VcpuPinning

namespace CpuSpec

/-! ## Laxer rules -/

/-- The second rule passes what the first one passes, and refuses what the first one refuses, for
the same reason, unless a number was out of range. -/
structure Laxer (rule rule' : Clause → Option SpecError.Reason) : Prop where
  passes : ∀ c, rule c = none → rule' c = none
  refuses : ∀ c r, rule c = some r → r ≠ .outOfRange → rule' c = some r

theorem Clause.Fits.mono {c : Clause} {t t' : ℕ} (h : c.Fits t) (ht : t ≤ t') : c.Fits t' := by
  cases c with
  | select cpu => exact Nat.lt_of_lt_of_le h ht
  | range lo hi => exact ⟨Nat.lt_of_lt_of_le h.1 ht, Nat.lt_of_lt_of_le h.2.1 ht, h.2.2⟩
  | deselect cpu => exact Nat.lt_of_lt_of_le h ht

theorem laxer_fault {t t' : ℕ} (ht : t ≤ t') : Laxer (Clause.fault t) (Clause.fault t') where
  passes c h := Clause.fault_eq_none_iff.2 ((Clause.fault_eq_none_iff.1 h).mono ht)
  refuses c r h hr := by
    rcases Clause.fault_eq_some_iff.1 h with ⟨hout, -⟩ | ⟨hrev, lo, hi, hc, hlo, hhi, hlt⟩
    · exact absurd hout hr
    · exact Clause.fault_eq_some_iff.2
        (.inr ⟨hrev, lo, hi, hc, Nat.lt_of_lt_of_le hlo ht, Nat.lt_of_lt_of_le hhi ht, hlt⟩)

theorem laxer_shapeFault (total : ℕ) : Laxer (Clause.fault total) Clause.shapeFault where
  passes c h := by
    have hfits := Clause.fault_eq_none_iff.1 h
    cases c with
    | range lo hi => exact if_neg (Nat.not_lt.2 hfits.2.2)
    | _ => rfl
  refuses c r h hr := by
    rcases Clause.fault_eq_some_iff.1 h with ⟨hout, -⟩ | ⟨rfl, lo, hi, rfl, -, -, hlt⟩
    · exact absurd hout hr
    · exact if_pos hlt

section Laxer

variable {rule rule' : Clause → Option SpecError.Reason} {text : List Char}
  {texts : List (List Char)} {k : ℕ} {e : SpecError}

theorem Laxer.judge_eq_ok (h : Laxer rule rule') {c : Clause} (hj : judge rule text = .ok c) :
    judge rule' text = .ok c := by
  obtain ⟨hread, hrule⟩ := judge_eq_ok_iff.1 hj
  exact judge_eq_ok_iff.2 ⟨hread, h.passes c hrule⟩

theorem Laxer.judge_eq_error (h : Laxer rule rule') (hj : judge rule text = .error e)
    (he : e.reason ≠ .outOfRange) : judge rule' text = .error e := by
  obtain ⟨htext, hread⟩ := judge_eq_error_iff.1 hj
  refine judge_eq_error_iff.2 ⟨htext, hread.imp_right ?_⟩
  rintro ⟨c, hc, hrule⟩
  exact ⟨c, hc, h.refuses c _ hrule he⟩

/-- Only one text is the first that is refused. -/
theorem FirstRefused.unique (h : FirstRefused rule texts k e) {k' : ℕ} {e' : SpecError}
    (h' : FirstRefused rule texts k' e') : k = k' ∧ e = e' := by
  have hle : ∀ {i j : ℕ} {d d' : SpecError}, FirstRefused rule texts i d →
      FirstRefused rule texts j d' → j ≤ i := by
    intro i j d d' hi hj
    by_contra hlt
    obtain ⟨text, htext, hd⟩ := hi.refused
    have hmem : text ∈ texts.take j :=
      List.mem_of_getElem? ((List.getElem?_take_of_lt (by omega)).trans htext)
    obtain ⟨c, hc⟩ := hj.before text hmem
    exact nomatch hd.symm.trans hc
  obtain rfl := Nat.le_antisymm (hle h' h) (hle h h')
  obtain ⟨text, htext, hd⟩ := h.refused
  obtain ⟨text', htext', hd'⟩ := h'.refused
  obtain rfl := Option.some.inj (htext.symm.trans htext')
  exact ⟨rfl, Except.error.inj (hd.symm.trans hd')⟩

/-- Up to a text that is refused there is one that is the first. -/
theorem exists_firstRefused_le (htext : texts[k]? = some text) (hj : judge rule text = .error e) :
    ∃ j ≤ k, ∃ e', FirstRefused rule texts j e' := by
  induction texts generalizing k with
  | nil => exact nomatch htext
  | cons t ts ih =>
    cases ht : judge rule t with
    | error e' => exact ⟨0, Nat.zero_le k, e', firstRefused_zero_iff.2 ht⟩
    | ok c =>
      cases k with
      | zero =>
        obtain rfl := Option.some.inj htext
        exact nomatch ht.symm.trans hj
      | succ k =>
        obtain ⟨j, hjk, e', h⟩ := ih htext
        exact ⟨j + 1, Nat.succ_le_succ hjk, e', firstRefused_succ_iff.2 ⟨⟨c, ht⟩, h⟩⟩

/-- A laxer rule refuses the same text first, unless the number of CPUs was the reason. -/
theorem FirstRefused.of_laxer (hf : FirstRefused rule texts k e) (h : Laxer rule rule')
    (he : e.reason ≠ .outOfRange) : FirstRefused rule' texts k e := by
  obtain ⟨text, htext, hj⟩ := hf.refused
  refine ⟨⟨text, htext, h.judge_eq_error hj he⟩, fun t ht => ?_⟩
  obtain ⟨c, hc⟩ := hf.before t ht
  exact ⟨c, h.judge_eq_ok hc⟩

/-- A stricter rule refuses no later text first, and finds a number out of range if the laxer one
does. -/
theorem FirstRefused.exists_of_laxer (hf : FirstRefused rule' texts k e) (h : Laxer rule rule') :
    ∃ j ≤ k, ∃ e', FirstRefused rule texts j e' ∧
      (e.reason = .outOfRange → e'.reason = .outOfRange) := by
  obtain ⟨text, htext, hj'⟩ := hf.refused
  cases hj : judge rule text with
  | ok c => exact nomatch (h.judge_eq_ok hj).symm.trans hj'
  | error d =>
    obtain ⟨j, hjk, e', hf'⟩ := exists_firstRefused_le htext hj
    refine ⟨j, hjk, e', hf', fun he => ?_⟩
    -- for any other reason the laxer rule would have refused the text as well
    by_contra he'
    obtain ⟨-, rfl⟩ := (hf'.of_laxer h he').unique hf
    exact he' he

end Laxer

/-! ## Any host and none -/

theorem checkAll_eq_error_iff {texts : List (List Char)} {e : SpecError} :
    checkAll texts = .error e ↔ ∃ k, FirstRefused Clause.shapeFault texts k e := by
  induction texts with
  | nil => simp [checkAll, not_firstRefused_nil]
  | cons text texts ih =>
    rw [exists_firstRefused_cons_iff, checkAll]
    cases judge Clause.shapeFault text with
    | error e' => simp
    | ok c => simp [ih]

theorem FirstRefused.reason_ne_empty {total : ℕ} {texts : List (List Char)} {k : ℕ} {e : SpecError}
    (hf : FirstRefused (Clause.fault total) texts k e) : e.reason ≠ .empty := by
  obtain ⟨text, -, hj⟩ := hf.refused
  intro he
  rcases judge_eq_error_iff.1 hj with ⟨-, ⟨-, hr⟩ | ⟨c, -, hr⟩⟩
  · exact nomatch he.symm.trans hr
  · rw [he] at hr
    simpa using Clause.fault_eq_some_iff.1 hr

theorem validate_eq_error {spec : String} {total : ℕ} {e : SpecError}
    (h : compile spec total = .error e) (hout : e.reason ≠ .outOfRange)
    (hempty : e.reason ≠ .empty) : validate spec = .error e := by
  rcases compile_eq_error_iff.1 h with ⟨k, hk⟩ | ⟨s, -, -, rfl⟩
  · exact checkAll_eq_error_iff.2 ⟨k, hk.of_laxer (laxer_shapeFault total) hout⟩
  · exact absurd rfl hempty

/-- A specification that `validate` refuses is refused on every host, for one of its clauses. -/
theorem exists_compile_eq_error {spec : String} {e : SpecError} (h : validate spec = .error e)
    (total : ℕ) : ∃ e', compile spec total = .error e' ∧ e'.reason ≠ .empty := by
  obtain ⟨k, hk⟩ := checkAll_eq_error_iff.1 h
  obtain ⟨j, -, e', hj, -⟩ := hk.exists_of_laxer (laxer_shapeFault total)
  exact ⟨e', compile_eq_error_iff.2 (.inl ⟨j, hj⟩), hj.reason_ne_empty⟩

/-- `validate` refuses a specification with the error that a host refuses it with, and accepts it if
a host compiles it or finds it empty, whatever the number of CPUs of the host, unless a number is out
of range. So what it refuses compiles on no host, and what it accepts can only be out of range or
empty. -/
theorem validate_foretells_compile (spec : String) :
    (∀ total e, compile spec total = .error e →
      e.reason = .malformed ∨ e.reason = .reversedRange → validate spec = .error e) ∧
    (∀ total, ((∃ s, compile spec total = .ok s) ∨
      ∃ e, compile spec total = .error e ∧ e.reason = .empty) → validate spec = .ok ()) ∧
    (∀ e, validate spec = .error e → ∀ total s, compile spec total ≠ .ok s) ∧
    (validate spec = .ok () → ∀ total e, compile spec total = .error e →
      e.reason = .outOfRange ∨ e.reason = .empty) := by
  refine ⟨fun total e h hr => ?same, fun total h => ?accepted, fun e h total s hs => ?never,
    fun h total e he => ?only⟩
  case same => rcases hr with hr | hr <;> exact validate_eq_error h (by simp [hr]) (by simp [hr])
  case accepted =>
    cases hv : validate spec with
    | ok => rfl
    | error e =>
      obtain ⟨e', he', hne⟩ := exists_compile_eq_error hv total
      rcases h with ⟨s, hs⟩ | ⟨d, hd, hempty⟩
      · exact nomatch hs.symm.trans he'
      · obtain rfl := Except.error.inj (hd.symm.trans he')
        exact absurd hempty hne
  case never =>
    obtain ⟨e', he', -⟩ := exists_compile_eq_error h total
    exact nomatch hs.symm.trans he'
  case only =>
    by_contra hr
    rw [not_or] at hr
    exact nomatch h.symm.trans (validate_eq_error he hr.1 hr.2)

/-! ## Two hosts -/

end CpuSpec

namespace CpuSet

/-- The set on a host that has more CPUs, of which none is selected. -/
def widen (s : CpuSet) (extra : ℕ) : CpuSet :=
  ⟨s.bits ++ List.replicate extra false⟩

theorem widen_cleared (total extra : ℕ) :
    (cleared total).widen extra = cleared (total + extra) := by
  simp [widen, cleared]

theorem count_widen (s : CpuSet) (extra : ℕ) : (s.widen extra).count = s.count := by
  simp [widen, count, List.count_replicate]

theorem assign_widen {s : CpuSet} {lo hi : ℕ} (h : hi < s.width) (value : Bool) (extra : ℕ) :
    (s.widen extra).assign lo hi value = (s.assign lo hi value).widen extra := by
  have hpad : (List.replicate extra false).mapIdx (fun i prev =>
      if lo ≤ i + s.bits.length ∧ i + s.bits.length ≤ hi then value else prev) =
        List.replicate extra false := by
    rw [width] at h
    refine List.ext_getElem (by simp) fun i _ _ => ?_
    rw [List.getElem_mapIdx, if_neg (by omega)]
  rw [assign, widen, List.mapIdx_append, hpad, widen, assign]

end CpuSet

namespace CpuSpec

theorem Clause.apply_widen {c : Clause} {s : CpuSet} (h : c.Fits s.width) (extra : ℕ) :
    c.apply (s.widen extra) = (c.apply s).widen extra := by
  cases c with
  | select cpu => exact CpuSet.assign_widen h true extra
  | range lo hi => exact CpuSet.assign_widen h.2.1 true extra
  | deselect cpu => exact CpuSet.assign_widen h false extra

theorem carryOut_widen {total : ℕ} {texts : List (List Char)} {s s' : CpuSet}
    (h : carryOut total s texts = .ok s') (hs : s.width = total) (extra : ℕ) :
    carryOut (total + extra) (s.widen extra) texts = .ok (s'.widen extra) := by
  induction texts generalizing s with
  | nil =>
    obtain rfl := Except.ok.inj h
    rfl
  | cons text texts ih =>
    cases hc : judge (Clause.fault total) text with
    | error e => simp [carryOut, hc] at h
    | ok c =>
      rw [carryOut, hc] at h
      have hfits : c.Fits s.width := by
        rw [hs]
        exact Clause.fault_eq_none_iff.1 (judge_eq_ok_iff.1 hc).2
      rw [carryOut, (laxer_fault (Nat.le_add_right total extra)).judge_eq_ok hc]
      simp only [Clause.apply_widen hfits]
      exact ih h ((width_apply s c).trans hs)

theorem compile_widen {spec : String} {total : ℕ} {s : CpuSet} (h : compile spec total = .ok s)
    (extra : ℕ) : compile spec (total + extra) = .ok (s.widen extra) := by
  obtain ⟨hs, hcount⟩ := compile_eq_ok_iff_carryOut.1 h
  have hs' := carryOut_widen hs (CpuSet.width_cleared total) extra
  rw [CpuSet.widen_cleared] at hs'
  exact compile_eq_ok_iff_carryOut.2 ⟨hs', by rwa [CpuSet.count_widen]⟩

/-- Whatever is wrong with a specification but a number out of range is wrong with it on every host
with more CPUs. -/
theorem compile_eq_error_of_le {spec : String} {t t' : ℕ} (ht : t ≤ t') {e : SpecError}
    (h : compile spec t = .error e) (he : e.reason ≠ .outOfRange) :
    compile spec t' = .error e := by
  obtain ⟨extra, rfl⟩ := Nat.exists_eq_add_of_le ht
  rcases compile_eq_error_iff.1 h with ⟨k, hk⟩ | ⟨s, hs, hcount, rfl⟩
  · exact compile_eq_error_iff.2 (.inl ⟨k, hk.of_laxer (laxer_fault ht) he⟩)
  · have hs' := carryOut_widen hs (CpuSet.width_cleared t) extra
    rw [CpuSet.widen_cleared] at hs'
    exact compile_eq_error_iff.2 (.inr ⟨_, hs', by rwa [CpuSet.count_widen], rfl⟩)

/-- A specification denotes the same CPUs on a host with more of them, and has the same error there
unless a number is out of range. Where a number is out of range on the larger host, one is on the
smaller host, in the same clause or before it. -/
theorem wider_host_keeps_set (spec : String) {t t' : UInt64} (ht : t ≤ t') :
    (∀ s, compile spec t.toNat = .ok s →
      compile spec t'.toNat = .ok ⟨s.bits ++ List.replicate (t'.toNat - t.toNat) false⟩) ∧
    (∀ e, compile spec t.toNat = .error e → e.reason ≠ .outOfRange →
      compile spec t'.toNat = .error e) ∧
    ∀ e', compile spec t'.toNat = .error e' → e'.reason = .outOfRange →
      ∃ e, compile spec t.toNat = .error e ∧ e.reason = .outOfRange ∧
        ∃ j k, j ≤ k ∧ FirstDefect t.toNat spec j e ∧ FirstDefect t'.toNat spec k e' := by
  have hle : t.toNat ≤ t'.toNat := UInt64.le_iff_toNat_le.1 ht
  have hfits (total : UInt64) : total.toNat ≤ Text.Numeral.max64 :=
    Nat.le_sub_one_of_lt total.toNat_lt
  refine ⟨fun s h => ?_, fun e => compile_eq_error_of_le hle, fun e' h he' => ?_⟩
  · have hs := compile_widen h (t'.toNat - t.toNat)
    rwa [Nat.add_sub_cancel' hle] at hs
  · rcases compile_eq_error_iff.1 h with ⟨k, hk⟩ | ⟨s, -, -, rfl⟩
    · obtain ⟨j, hjk, e, hj, he⟩ := hk.exists_of_laxer (laxer_fault hle)
      exact ⟨e, compile_eq_error_iff.2 (.inl ⟨j, hj⟩), he he', j, k, hjk,
        (firstDefect_iff (hfits t)).2 hj, (firstDefect_iff (hfits t')).2 hk⟩
    · exact nomatch he'

/-- Two CPUs more. The first clause of the second specification becomes possible, the second does
not. -/
theorem wider_host_keeps_set_of_two_more :
    (4 : UInt64) ≤ 6 ∧ compile "0-2,^1" 6 = .ok ⟨[true, false, true, false, false, false]⟩ ∧
      ∃ j k, j ≤ k ∧ FirstDefect 4 "5,9" j ⟨"5", .outOfRange⟩ ∧
        FirstDefect 6 "5,9" k ⟨"9", .outOfRange⟩ := by
  have ht : (4 : UInt64) ≤ 6 := by decide
  have hset : compile "0-2,^1" 4 = .ok ⟨[true, false, true, false]⟩ := by decide +kernel
  have hfour : compile "5,9" 4 = .error ⟨"5", .outOfRange⟩ := by decide +kernel
  have hsix : compile "5,9" 6 = .error ⟨"9", .outOfRange⟩ := by decide +kernel
  obtain ⟨e, he, -, hdefects⟩ := (wider_host_keeps_set "5,9" ht).2.2 _ hsix rfl
  obtain rfl := Except.error.inj (hfour.symm.trans he)
  exact ⟨ht, (wider_host_keeps_set "0-2,^1" ht).1 _ hset, hdefects⟩

end CpuSpec

end VcpuPinning
