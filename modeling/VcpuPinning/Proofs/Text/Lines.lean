import VcpuPinning.Proofs.CpuSpec.Meaning
import VcpuPinning.Text.Lines

/-!
# Lines, trimmed texts and occurrences

`lines_unlines` : lines that were written are read back. A text that is trimmed may stand between
blanks (`trim_append_append`), and a text that neither starts nor ends with a blank occurs in a
trimmed text if it occurs in the text (`infix_trim`). `after` finds the first occurrence.
-/

namespace VcpuPinning.Text

/-! ## Lines -/

/-- The text of lines, each with its end. -/
def unlines (ls : List (List Char)) : List Char :=
  ls.flatMap (· ++ ['\n'])

/-- A line may be written: no line feed ends it early, and it keeps its last character. -/
def IsLine (l : List Char) : Prop :=
  '\n' ∉ l ∧ l.getLast? ≠ some '\r'

instance (l : List Char) : Decidable (IsLine l) :=
  inferInstanceAs (Decidable (_ ∧ _))

theorem isLine_of_trim {l : List Char} (h : trim l = l) (hn : '\n' ∉ l) : IsLine l := by
  refine ⟨hn, fun hl => ?_⟩
  rw [← h] at hl
  exact absurd (getLast_trimEnd hl) (by decide)

theorem isLine_of_no_blank {l : List Char} (h : ∀ c ∈ l, isBlank c = false) : IsLine l :=
  ⟨fun hm => absurd (h _ hm) (by decide),
    fun hl => absurd (h _ (List.mem_of_getLast? hl)) (by decide)⟩

theorem IsLine.append {a l : List Char} (hl : IsLine l) (hne : l ≠ []) (ha : '\n' ∉ a) :
    IsLine (a ++ l) := by
  refine ⟨?_, ?_⟩
  · rw [List.mem_append, not_or]
    exact ⟨ha, hl.1⟩
  · rw [List.getLast?_append_of_ne_nil a hne]
    exact hl.2

theorem lines_append {l : List Char} (h : IsLine l) (cs : List Char) :
    lines (l ++ '\n' :: cs) = l :: lines cs := by
  induction l with
  | nil => rw [List.nil_append, lines, if_pos rfl]; exact nofun
  | cons c l ih =>
    obtain ⟨hn, hr⟩ := h
    rw [List.mem_cons, not_or] at hn
    have hl : IsLine l := by
      refine ⟨hn.2, fun hl => hr ?_⟩
      rw [List.getLast?_cons, hl]
      rfl
    rw [List.cons_append, lines, if_neg (Ne.symm hn.1), ih hl]
    -- a carriage return ends the line only in front of a line feed, and would be its last character
    intro cs' hc hcs
    cases l with
    | nil => exact hr (by rw [hc]; rfl)
    | cons d l => exact hn.2 (by rw [(List.cons.inj hcs).1]; exact List.mem_cons_self)

/-- Lines that were written are read back. -/
theorem lines_unlines {ls : List (List Char)} (h : ∀ l ∈ ls, IsLine l) :
    lines (unlines ls) = ls := by
  induction ls with
  | nil => rfl
  | cons l ls ih =>
    obtain ⟨hl, hls⟩ := List.forall_mem_cons.1 h
    rw [unlines, List.flatMap_cons, List.append_assoc, List.singleton_append, lines_append hl,
      ← unlines, ih hls]

/-! ## Trimmed texts -/

theorem trim_cons_of_not_blank {c : Char} (h : isBlank c = false) (cs : List Char) :
    trim (c :: cs) = c :: trimEnd cs := by
  rw [trim, trimStart_of_head (by rintro d ⟨⟩; exact h), trimEnd]
  cases trimEnd cs <;> simp [h]

theorem head_trim {cs : List Char} {c : Char} (h : (trim cs).head? = some c) :
    isBlank c = false := by
  obtain ⟨b, hb, -⟩ := exists_trimEnd_append (trimStart cs)
  have hs : (trimStart cs).head? = some c := by
    rw [hb, List.head?_append, ← trim, h]
    rfl
  exact head_trimStart hs

theorem trim_of_ends {cs : List Char} (hh : ∀ c, cs.head? = some c → isBlank c = false)
    (hl : ∀ c, cs.getLast? = some c → isBlank c = false) : trim cs = cs := by
  rw [trim, trimStart_of_head hh, trimEnd_of_getLast hl]

/-- A text that is trimmed is what remains of it between blanks. -/
theorem trim_append_append {a t b : List Char} (ha : ∀ c ∈ a, isBlank c) (ht : trim t = t)
    (hb : ∀ c ∈ b, isBlank c) : trim (a ++ t ++ b) = t := by
  have hab : trim (a ++ t ++ b) = trim (t ++ b) := by
    rw [trim, List.append_assoc, trimStart_append_of_blank ha, ← trim]
  cases t with
  | nil =>
    rw [hab, List.nil_append, trim, trimEnd_eq_nil_iff]
    exact fun c hc => hb c ((List.dropWhile_sublist _).subset hc)
  | cons c t =>
    have hc : isBlank c = false := by
      have hh : (trim (c :: t)).head? = some c := by rw [ht]; rfl
      exact head_trim hh
    rw [trim_cons_of_not_blank hc] at ht
    rw [hab, List.cons_append, trim_cons_of_not_blank hc, trimEnd_append_of_blank hb, ht]

theorem exists_trimStart_append {ds : List Char}
    (h : ∀ c, ds.head? = some c → isBlank c = false) (cs : List Char) :
    ∃ cs', trimStart (cs ++ ds) = cs' ++ ds := by
  unfold trimStart
  rw [List.dropWhile_append]
  split
  · exact ⟨[], trimStart_of_head h⟩
  · exact ⟨_, rfl⟩

theorem trimEnd_append_of_getLast {cs : List Char}
    (h : ∀ c, cs.getLast? = some c → isBlank c = false) (ds : List Char) :
    trimEnd (cs ++ ds) = cs ++ trimEnd ds := by
  obtain ⟨b, hb, hblank⟩ := exists_trimEnd_append ds
  have hlast : ∀ c, (cs ++ trimEnd ds).getLast? = some c → isBlank c = false := by
    intro c hc
    rw [List.getLast?_append] at hc
    cases hd : (trimEnd ds).getLast? with
    | none => exact h c (by simpa [hd] using hc)
    | some d =>
      obtain rfl : d = c := by simpa [hd] using hc
      exact getLast_trimEnd hd
  conv_lhs => rw [hb, ← List.append_assoc, trimEnd_append_of_blank hblank, trimEnd_of_getLast hlast]

theorem trim_infix (cs : List Char) : trim cs <:+: cs := by
  obtain ⟨a, b, h, -⟩ := exists_append_trim_append cs
  exact ⟨a, b, h.symm⟩

/-- What neither starts nor ends with a blank is not touched by trimming. -/
theorem infix_trim {needle cs : List Char} (hne : needle ≠ [])
    (hh : ∀ c, needle.head? = some c → isBlank c = false)
    (hl : ∀ c, needle.getLast? = some c → isBlank c = false) (h : needle <:+: cs) :
    needle <:+: trim cs := by
  obtain ⟨p, q, rfl⟩ := h
  have hq : ∀ c, (needle ++ q).head? = some c → isBlank c = false := by
    intro c hc
    rw [List.head?_append_of_ne_nil _ hne] at hc
    exact hh c hc
  obtain ⟨p', hp⟩ := exists_trimStart_append hq p
  have hlast : ∀ c, (p' ++ needle).getLast? = some c → isBlank c = false := by
    intro c hc
    rw [List.getLast?_append_of_ne_nil _ hne] at hc
    exact hl c hc
  refine ⟨p', trimEnd q, ?_⟩
  rw [trim, List.append_assoc p, hp, ← List.append_assoc, trimEnd_append_of_getLast hlast]

/-! ## Cuts at a character -/

theorem cut_beq_eq_some_iff {q : Char} {cs a b : List Char} :
    cut (· == q) cs = some (a, b) ↔ q ∉ a ∧ cs = a ++ q :: b := by
  rw [cut_eq_some_iff]
  constructor
  · rintro ⟨ha, c, hc, rfl⟩
    obtain rfl := eq_of_beq hc
    exact ⟨fun hm => by simpa using ha _ hm, rfl⟩
  · rintro ⟨ha, rfl⟩
    refine ⟨fun c hc => beq_eq_false_iff_ne.2 ?_, q, beq_self_eq_true q, rfl⟩
    rintro rfl
    exact ha hc

theorem cut_beq_eq_none_iff {q : Char} {cs : List Char} : cut (· == q) cs = none ↔ q ∉ cs := by
  simp only [cut_eq_none_iff, beq_eq_false_iff_ne]
  exact ⟨fun h hq => h q hq rfl, fun h c hc hcq => h (hcq ▸ hc)⟩

/-! ## Occurrences -/

theorem mem_of_mem_intercalate {α : Type} {sep : List α} {as : List (List α)} {a : α}
    (h : a ∈ sep.intercalate as) : a ∈ sep ∨ ∃ l ∈ as, a ∈ l := by
  induction as with
  | nil => simp at h
  | cons l as ih =>
    cases as with
    | nil => exact .inr ⟨l, List.mem_cons_self, by simpa using h⟩
    | cons k as =>
      rw [List.intercalate_cons_cons, List.mem_append, List.mem_append] at h
      rcases h with (h | h) | h
      · exact .inr ⟨l, List.mem_cons_self, h⟩
      · exact .inl h
      · rcases ih h with h | ⟨m, hm, ha⟩
        · exact .inl h
        · exact .inr ⟨m, List.mem_cons_of_mem _ hm, ha⟩

theorem isSome_after_iff {needle cs : List Char} : (after needle cs).isSome ↔ needle <:+: cs := by
  induction cs with
  | nil => cases needle <;> simp [after]
  | cons c cs ih =>
    rw [after, List.infix_cons_iff, ← ih, ← List.isPrefixOf_iff_prefix]
    split
    · simp [*]
    · simp [*]

/-- The first occurrence of a text is behind characters other than its first one. -/
theorem after_append {c : Char} {needle front : List Char} (h : c ∉ front) (cs : List Char) :
    after (c :: needle) (front ++ (c :: needle) ++ cs) = some cs := by
  induction front with
  | nil => simp [after]
  | cons d front ih =>
    rw [List.mem_cons, not_or] at h
    have hd : ¬ (c :: needle).isPrefixOf (d :: (front ++ (c :: needle) ++ cs)) := by
      simp [List.isPrefixOf, h.1]
    rw [List.cons_append, List.cons_append, after, if_neg hd, ih h.2]

/-- A text stands behind the first occurrence of another. -/
def Follows (needle cs rest : List Char) : Prop :=
  ∃ front, cs = front ++ needle ++ rest ∧
    ∀ front' rest', cs = front' ++ needle ++ rest' → front.length ≤ front'.length

theorem after_eq_none_iff {needle cs : List Char} : after needle cs = none ↔ ¬ needle <:+: cs := by
  rw [← isSome_after_iff, Option.not_isSome_iff_eq_none]

theorem follows_of_after {needle cs rest : List Char} (h : after needle cs = some rest) :
    Follows needle cs rest := by
  induction cs with
  | nil =>
    obtain ⟨hn, he⟩ := Option.ite_none_right_eq_some.1 h
    cases he
    exact ⟨[], by simpa using hn, fun _ _ _ => Nat.zero_le _⟩
  | cons c cs ih =>
    rw [after] at h
    split at h
    · rename_i hp
      obtain ⟨t, ht⟩ := List.isPrefixOf_iff_prefix.1 hp
      obtain rfl : t = rest := by simpa [← ht] using h
      exact ⟨[], by simpa using ht.symm, fun _ _ _ => Nat.zero_le _⟩
    · rename_i hp
      obtain ⟨front, rfl, hfirst⟩ := ih h
      refine ⟨c :: front, rfl, fun front' rest' he => ?_⟩
      -- the text starts with no occurrence, so another one is in its tail
      cases front' with
      | nil => exact absurd (List.isPrefixOf_iff_prefix.2 ⟨rest', he.symm⟩) hp
      | cons d front' => exact Nat.succ_le_succ (hfirst front' rest' (List.cons.inj he).2)

theorem Follows.unique {needle cs rest rest' : List Char} (h : Follows needle cs rest)
    (h' : Follows needle cs rest') : rest = rest' := by
  obtain ⟨front, hcs, hfirst⟩ := h
  obtain ⟨front', hcs', hfirst'⟩ := h'
  have hlen : front.length = front'.length :=
    Nat.le_antisymm (hfirst _ _ hcs') (hfirst' _ _ hcs)
  have he := hcs.symm.trans hcs'
  rw [List.append_assoc, List.append_assoc] at he
  exact List.append_cancel_left (List.append_inj he hlen).2

theorem after_eq_some_iff {needle cs rest : List Char} :
    after needle cs = some rest ↔ Follows needle cs rest := by
  refine ⟨follows_of_after, fun h => ?_⟩
  cases hafter : after needle cs with
  | none =>
    obtain ⟨front, hcs, -⟩ := h
    exact absurd ⟨front, rest, hcs.symm⟩ (after_eq_none_iff.1 hafter)
  | some rest' => rw [(follows_of_after hafter).unique h]

end VcpuPinning.Text
