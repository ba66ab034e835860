import Mathlib.Data.List.TakeDrop
import Mathlib.Tactic.SplitIfs
import VcpuPinning.Json.Reader

/-!
# Reading what was written

`parse?_toText` : reading a written document gives the document back, provided that it is
`Spelled`, that is, that its strings are escaped texts and its numbers decimal numerals. Every
document that the service writes is.

A string is read up to its closing quote whatever follows (`readString_escape`), a number up to a
comma, a bracket or the end (`readNumber_text`). A value takes at most two units of fuel for each
of its characters, which is what `parse?` provides.
-/

namespace VcpuPinning.Json

/-! ## Strings -/

/-- A character is spelled by an escape of one letter, by its number, or by itself. -/
theorem escapeChar_cases (c : Char) :
    (∃ e, escapeChar c = ['\\', e] ∧ e ≠ 'u' ∧ shortEscape? e = some c) ∨
    (c.toNat < 0x20 ∧
      escapeChar c = ['\\', 'u', '0', '0', hexChar (c.toNat / 16), hexChar (c.toNat % 16)]) ∨
    (0x20 ≤ c.toNat ∧ c ≠ '"' ∧ c ≠ '\\' ∧ escapeChar c = [c]) := by
  unfold escapeChar
  split_ifs with hq hb h8 hc hn hr ht hx
  · exact Or.inl ⟨_, rfl, by decide, by subst hq; rfl⟩
  · exact Or.inl ⟨_, rfl, by decide, by subst hb; rfl⟩
  · exact Or.inl ⟨_, rfl, by decide, by subst h8; rfl⟩
  · exact Or.inl ⟨_, rfl, by decide, by subst hc; rfl⟩
  · exact Or.inl ⟨_, rfl, by decide, by subst hn; rfl⟩
  · exact Or.inl ⟨_, rfl, by decide, by subst hr; rfl⟩
  · exact Or.inl ⟨_, rfl, by decide, by subst ht; rfl⟩
  · exact Or.inr (Or.inl ⟨hx, rfl⟩)
  · exact Or.inr (Or.inr ⟨Nat.le_of_not_lt hx, hq, hb, rfl⟩)

theorem hexQuad?_control : ∀ n, n < 0x20 →
    hexQuad? '0' '0' (hexChar (n / 16)) (hexChar (n % 16)) = some n := by
  decide

theorem readString_escapeChar (c : Char) (cs : List Char) :
    readString (escapeChar c ++ cs) =
      (readString cs).map fun p => (escapeChar c ++ p.1, p.2) := by
  rcases escapeChar_cases c with ⟨e, he, hu, hs⟩ | ⟨hx, he⟩ | ⟨hx, hq, hb, he⟩
  · rw [he, List.cons_append, List.singleton_append,
      readString.eq_4 _ _ (fun _ _ _ _ _ h _ => hu h)]
    simp [hs]
  · rw [he]
    simp [readString, hexQuad?_control _ hx]
  · rw [he, List.singleton_append, readString.eq_5 _ _ hq (fun _ _ _ _ _ h _ => hb h)
      (fun _ _ h _ => hb h)]
    simp [Nat.not_lt.2 hx]

/-- An escaped text is read up to the quote after it. -/
theorem readString_escape (cs rest : List Char) :
    readString (escape cs ++ '"' :: rest) = some (escape cs, rest) := by
  induction cs with
  | nil => simp [escape, readString]
  | cons c cs ih =>
    have hc : escape (c :: cs) = escapeChar c ++ escape cs := by simp [escape]
    rw [hc, List.append_assoc, readString_escapeChar, ih]
    rfl

/-- An escaped text that starts with an escape by number starts with one of a control. -/
theorem hexQuad?_of_escape {cs rest : List Char} {a b c d : Char}
    (h : escape cs = '\\' :: 'u' :: a :: b :: c :: d :: rest) :
    ∃ n, n < 0x20 ∧ hexQuad? a b c d = some n := by
  cases cs with
  | nil => simp [escape] at h
  | cons e cs =>
    have hc : escape (e :: cs) = escapeChar e ++ escape cs := by simp [escape]
    rw [hc] at h
    rcases escapeChar_cases e with ⟨f, he, hu, -⟩ | ⟨hx, he⟩ | ⟨-, -, hb, he⟩
    · rw [he] at h
      simp [hu] at h
    · rw [he] at h
      simp only [List.cons_append, List.nil_append, List.cons.injEq, true_and] at h
      obtain ⟨rfl, rfl, rfl, rfl, -⟩ := h
      exact ⟨_, hx, hexQuad?_control _ hx⟩
    · rw [he] at h
      simp [hb] at h

theorem unescape_escapeChar (c : Char) (cs : List Char) :
    unescape (escapeChar c ++ escape cs) = (unescape (escape cs)).map (c :: ·) := by
  rcases escapeChar_cases c with ⟨e, he, hu, hs⟩ | ⟨hx, he⟩ | ⟨hx, hq, hb, he⟩
  · rw [he, List.cons_append, List.singleton_append, unescape.eq_4 _ _
      (fun _ _ _ _ _ _ _ _ _ h _ => hu h) (fun _ _ _ _ _ h _ => hu h), hs]
  · have hl : isLeading c.toNat = false := by simp [isLeading]; omega
    have ht : isTrailing c.toNat = false := by simp [isTrailing]; omega
    rw [he]
    by_cases hp : ∃ a b c' d rest, escape cs = '\\' :: 'u' :: a :: b :: c' :: d :: rest
    · -- two escapes by number in a row: neither is a unit of a pair
      obtain ⟨a, b, c', d, rest, hr⟩ := hp
      obtain ⟨m, -, hm⟩ := hexQuad?_of_escape hr
      rw [hr]
      simp only [List.cons_append, List.nil_append]
      rw [unescape.eq_2, hexQuad?_control _ hx, hm]
      simp [hl, ht, Char.ofNat_toNat]
    · simp only [List.cons_append, List.nil_append]
      rw [unescape.eq_3 _ _ _ _ _ (fun a b c' d rest h => hp ⟨a, b, c', d, rest, h⟩),
        hexQuad?_control _ hx]
      simp [hl, ht, Char.ofNat_toNat]
  · rw [he, List.singleton_append, unescape.eq_5 _ _ (fun _ _ _ _ _ _ _ _ _ h _ => hb h)
      (fun _ _ _ _ _ h _ => hb h) (fun _ _ h _ => hb h)]

/-- Spelling a text loses nothing. -/
@[simp] theorem unescape_escape (cs : List Char) : unescape (escape cs) = some cs := by
  induction cs with
  | nil => rfl
  | cons c cs ih =>
    have hc : escape (c :: cs) = escapeChar c ++ escape cs := by simp [escape]
    rw [hc, unescape_escapeChar, ih]
    rfl

/-! ## Numbers -/

/-- The text after a value in a document. -/
def Ends (rest : List Char) : Prop :=
  ∀ c, rest.head? = some c → c = ',' ∨ c = ']' ∨ c = '\x7d'

theorem Ends.nil : Ends [] := by
  simp [Ends]

theorem Ends.cons {c : Char} (h : c = ',' ∨ c = ']' ∨ c = '\x7d') (rest : List Char) :
    Ends (c :: rest) := by
  rintro d hd
  obtain rfl : c = d := by simpa using hd
  exact h

theorem Ends.not_isDigit {rest : List Char} (h : Ends rest) {c : Char}
    (hc : rest.head? = some c) : c.isDigit = false := by
  rcases h c hc with rfl | rfl | rfl <;> decide

/-- Only zero is written with a leading zero. -/
theorem head?_text_ne_zero {n : Nat} (h : 0 < n) : (Text.Numeral.text n).head? ≠ some '0' := by
  induction n using Nat.strongRecOn with
  | _ n ih =>
    unfold Text.Numeral.text at ih ⊢
    by_cases hn : n < 10
    · rw [Nat.toDigits_of_lt_base hn]
      have hd : ∀ m, m < 10 → 0 < m → m.digitChar ≠ '0' := by decide
      simpa using hd n hn h
    · have hq := ih (n / 10) (by omega) (by omega)
      rw [Nat.toDigits_of_base_le (by decide) (Nat.le_of_not_lt hn), List.head?_append]
      cases ht : Nat.toDigits 10 (n / 10) with
      | nil => exact absurd ht Nat.toDigits_ne_nil
      | cons d ds => simpa [ht] using hq

theorem readDigits_append {ds rest : List Char} (hne : ds ≠ []) (hds : ∀ c ∈ ds, c.isDigit)
    (hr : Ends rest) : readDigits (ds ++ rest) = some (ds, rest) := by
  have ht : rest.takeWhile Char.isDigit = [] := by
    cases rest with
    | nil => rfl
    | cons c rest => simp [hr.not_isDigit rfl]
  have hd : rest.dropWhile Char.isDigit = rest := by
    cases rest with
    | nil => rfl
    | cons c rest => simp [hr.not_isDigit rfl]
  rw [readDigits, List.span_eq_takeWhile_dropWhile, List.takeWhile_append_of_pos hds,
    List.dropWhile_append_of_pos hds, ht, hd, List.append_nil]
  cases ds with
  | nil => exact absurd rfl hne
  | cons d ds => rfl

theorem readWhole_text (n : Nat) {rest : List Char} (hr : Ends rest) :
    readWhole (Text.Numeral.text n ++ rest) = some (Text.Numeral.text n, rest) := by
  rcases Nat.eq_zero_or_pos n with rfl | hn
  · cases rest with
    | nil => rfl
    | cons c rest => simp [Text.Numeral.text, readWhole, hr.not_isDigit rfl]
  · have hd := readDigits_append (Text.Numeral.text_ne_nil n)
      (fun _ => Text.Numeral.isDigit_of_mem_text) hr
    have hz := head?_text_ne_zero hn
    cases ht : Text.Numeral.text n with
    | nil => exact absurd ht (Text.Numeral.text_ne_nil n)
    | cons d ds =>
      rw [ht] at hd hz
      rw [List.cons_append] at hd ⊢
      have hz' : d ≠ '0' := by simpa using hz
      simp [readWhole, hz', hd]

theorem readFraction_of_ends {rest : List Char} (hr : Ends rest) :
    readFraction rest = some ([], rest) := by
  cases rest with
  | nil => rfl
  | cons c rest => rcases hr c rfl with rfl | rfl | rfl <;> rfl

theorem readExponent_of_ends {rest : List Char} (hr : Ends rest) :
    readExponent rest = some ([], rest) := by
  cases rest with
  | nil => rfl
  | cons c rest => rcases hr c rfl with rfl | rfl | rfl <;> rfl

/-- A numeral is read up to the end of the value. -/
theorem readNumber_text (n : Nat) {rest : List Char} (hr : Ends rest) :
    readNumber (Text.Numeral.text n ++ rest) = some (Text.Numeral.text n, rest) := by
  have hu : readUnsigned (Text.Numeral.text n ++ rest) = some (Text.Numeral.text n, rest) := by
    simp [readUnsigned, readWhole_text n hr, readFraction_of_ends hr, readExponent_of_ends hr]
  cases ht : Text.Numeral.text n with
  | nil => exact absurd ht (Text.Numeral.text_ne_nil n)
  | cons d ds =>
    have hd : d.isDigit := Text.Numeral.isDigit_of_mem_text (n := n) (by simp [ht])
    have hm : d ≠ '-' := by
      rintro rfl
      exact absurd hd (by decide)
    rw [ht, List.cons_append] at hu
    rw [List.cons_append]
    simpa [readNumber, hm] using hu

/-! ## Documents -/

/-- A document whose strings are escaped texts and whose numbers are decimal numerals. -/
inductive Spelled : Json → Prop where
  | null : Spelled .null
  | bool (b : Bool) : Spelled (.bool b)
  | number (n : Nat) : Spelled (.number (Text.Numeral.text n))
  | string (cs : List Char) : Spelled (.string (escape cs))
  | array {js : List Json} (items : ∀ j ∈ js, Spelled j) : Spelled (.array js)
  | object {ms : List (List Char × Json)} (names : ∀ m ∈ ms, ∃ cs, m.1 = escape cs)
      (values : ∀ m ∈ ms, Spelled m.2) : Spelled (.object ms)

theorem skip_of_not_isBlank {c : Char} (h : isBlank c = false) (cs : List Char) :
    skip (c :: cs) = c :: cs := by
  simp [skip, h]

/-- A value starts with no blank and no closing bracket. -/
theorem Spelled.render_eq_cons {j : Json} (h : Spelled j) :
    ∃ c cs, render j = c :: cs ∧ isBlank c = false ∧ c ≠ ']' := by
  cases h with
  | null => exact ⟨_, _, rfl, rfl, by decide⟩
  | bool b => cases b <;> exact ⟨_, _, rfl, rfl, by decide⟩
  | number n =>
    cases ht : Text.Numeral.text n with
    | nil => exact absurd ht (Text.Numeral.text_ne_nil n)
    | cons d ds =>
      have hd : d.isDigit := Text.Numeral.isDigit_of_mem_text (n := n) (by simp [ht])
      refine ⟨d, ds, by rw [render], ?_⟩
      simp only [isBlank, Bool.or_eq_false_iff, beq_eq_false_iff_ne]
      refine ⟨⟨⟨⟨?_, ?_⟩, ?_⟩, ?_⟩, ?_⟩ <;> rintro rfl <;> exact absurd hd (by decide)
  | string cs => exact ⟨_, _, rfl, rfl, by decide⟩
  | @array js _ => cases js <;> exact ⟨_, _, by rw [render], rfl, by decide⟩
  | @object ms _ _ => cases ms <;> exact ⟨_, _, by rw [render], rfl, by decide⟩

theorem Spelled.skip_render {j : Json} (h : Spelled j) (rest : List Char) :
    skip (render j ++ rest) = render j ++ rest := by
  obtain ⟨c, cs, hr, hb, -⟩ := h.render_eq_cons
  rw [hr, List.cons_append, skip_of_not_isBlank hb]

theorem ends_renderItems (js : List Json) (rest : List Char) : Ends (renderItems js ++ rest) := by
  cases js <;> exact .cons (by simp) _

theorem readValue_number (n fuel : Nat) {rest : List Char} (hr : Ends rest) :
    readValue (fuel + 1) (Text.Numeral.text n ++ rest) =
      some (.number (Text.Numeral.text n), rest) := by
  have hn := readNumber_text n hr
  have hs := (Spelled.number n).skip_render rest
  simp only [render] at hs
  rw [readValue, hs]
  have hd : ∀ c cs, Text.Numeral.text n ++ rest = c :: cs → c.isDigit := by
    intro c cs hc
    cases ht : Text.Numeral.text n with
    | nil => exact absurd ht (Text.Numeral.text_ne_nil n)
    | cons d ds =>
      rw [ht, List.cons_append, List.cons.injEq] at hc
      exact hc.1 ▸ Text.Numeral.isDigit_of_mem_text (n := n) (by simp [ht])
  split
  case h_7 =>
    rw [hn]
    rfl
  all_goals exact absurd (hd _ _ ‹_›) (by decide)

/-- What `readValue` is to do with a document, whatever follows. -/
def ReadsBack (j : Json) : Prop :=
  ∀ fuel rest, 2 * (render j).length ≤ fuel → Ends rest →
    readValue fuel (render j ++ rest) = some (j, rest)

theorem readItems_render {js : List Json} : ∀ {j : Json}, (∀ i ∈ j :: js, ReadsBack i) →
    ∀ fuel rest, 2 * (render j ++ renderItems js).length + 1 ≤ fuel →
      readItems fuel (render j ++ (renderItems js ++ rest)) = some (j :: js, rest) := by
  induction js with
  | nil =>
    rintro j hj (_ | fuel) rest hf
    · omega
    · simp only [renderItems, List.length_append, List.length_singleton] at hf
      rw [readItems, hj j (by simp) fuel _ (by omega) (ends_renderItems [] rest)]
      rfl
  | cons i js ih =>
    rintro j hj (_ | fuel) rest hf
    · omega
    · simp only [renderItems, List.length_append, List.length_cons] at hf
      have hi := ih (fun k hk => hj k (List.mem_cons_of_mem _ hk)) fuel rest
        (by simp only [List.length_append]; omega)
      rw [readItems, hj j (by simp) fuel _ (by omega) (ends_renderItems _ rest)]
      simp only [renderItems, List.cons_append, List.append_assoc]
      rw [skip_of_not_isBlank (by rfl)]
      simp only [hi, Option.map_some]

theorem readMembers_last {k : List Char} (hk : ∃ cs, k = escape cs) {j : Json} (hj : ReadsBack j)
    {fuel : ℕ} (hf : 2 * (render j).length ≤ fuel) (rest : List Char) :
    readMembers (fuel + 1) (quote k ++ ':' :: (render j ++ '\x7d' :: rest)) =
      some ([(k, j)], rest) := by
  obtain ⟨cs, rfl⟩ := hk
  rw [readMembers, quote, List.cons_append, skip_of_not_isBlank (by rfl), List.append_assoc,
    List.singleton_append]
  simp only [readString_escape]
  rw [skip_of_not_isBlank (by rfl)]
  simp only [hj fuel _ hf (.cons (Or.inr (Or.inr rfl)) rest)]
  rw [skip_of_not_isBlank (by rfl)]
  rfl

theorem readMembers_next {k : List Char} (hk : ∃ cs, k = escape cs) {j : Json} (hj : ReadsBack j)
    {fuel : ℕ} (hf : 2 * (render j).length ≤ fuel) {cs rest : List Char}
    {ms : List (List Char × Json)} (hm : readMembers fuel cs = some (ms, rest)) :
    readMembers (fuel + 1) (quote k ++ ':' :: (render j ++ ',' :: cs)) =
      some ((k, j) :: ms, rest) := by
  obtain ⟨ks, rfl⟩ := hk
  rw [readMembers, quote, List.cons_append, skip_of_not_isBlank (by rfl), List.append_assoc,
    List.singleton_append]
  simp only [readString_escape]
  rw [skip_of_not_isBlank (by rfl)]
  simp only [hj fuel _ hf (.cons (Or.inl rfl) cs)]
  rw [skip_of_not_isBlank (by rfl)]
  simp only [hm, Option.map_some]

theorem readMembers_render {ms : List (List Char × Json)} : ∀ {k : List Char} {j : Json},
    (∀ m ∈ (k, j) :: ms, ∃ cs, m.1 = escape cs) → (∀ m ∈ (k, j) :: ms, ReadsBack m.2) →
    ∀ fuel rest, 2 * (quote k ++ ':' :: (render j ++ renderMembers ms)).length + 1 ≤ fuel →
      readMembers fuel (quote k ++ ':' :: (render j ++ (renderMembers ms ++ rest))) =
        some ((k, j) :: ms, rest) := by
  induction ms with
  | nil =>
    rintro k j hk hj (_ | fuel) rest hf
    · omega
    · have hj' : ReadsBack j := hj (k, j) (by simp)
      simp only [renderMembers, List.length_append, List.length_cons] at hf
      exact readMembers_last (hk (k, j) (by simp)) hj' (by omega) rest
  | cons m ms ih =>
    rintro k j hk hj (_ | fuel) rest hf
    · omega
    · have hj' : ReadsBack j := hj (k, j) (by simp)
      simp only [renderMembers, List.length_append, List.length_cons] at hf
      have hm := ih (fun i hi => hk i (List.mem_cons_of_mem _ hi))
        (fun i hi => hj i (List.mem_cons_of_mem _ hi)) fuel rest
        (by simp only [List.length_append, List.length_cons]; omega)
      simpa only [renderMembers, List.cons_append, List.append_assoc] using
        readMembers_next (hk (k, j) (by simp)) hj' (by omega) hm

/-- A document is read back whatever follows it. -/
theorem Spelled.readsBack {j : Json} (h : Spelled j) : ReadsBack j := by
  induction h with
  | null =>
    rintro (_ | fuel) rest hf -
    · simp [render] at hf
    · rfl
  | bool b =>
    rintro (_ | fuel) rest hf -
    · cases b <;> simp [render] at hf
    · cases b <;> rfl
  | number n =>
    rintro (_ | fuel) rest hf hr
    · have := List.length_pos_iff.2 (Text.Numeral.text_ne_nil n)
      rw [render] at hf
      omega
    · exact readValue_number n fuel hr
  | string cs =>
    rintro (_ | fuel) rest hf -
    · simp [render, quote] at hf
    · rw [render, quote, List.cons_append, readValue, skip_of_not_isBlank (by rfl),
        List.append_assoc, List.singleton_append]
      simp [readString_escape]
  | @array js items ih =>
    rintro (_ | fuel) rest hf hr
    · cases js <;> simp [render] at hf
    cases js with
    | nil => rfl
    | cons j js =>
      simp only [render, List.length_cons] at hf
      have hi := readItems_render ih fuel rest (by omega)
      have hs := (items j (by simp)).skip_render (renderItems js ++ rest)
      obtain ⟨c, cs, hc, -, hne⟩ := (items j (by simp)).render_eq_cons
      rw [render, List.cons_append, readValue, skip_of_not_isBlank (by rfl), List.append_assoc]
      simp only [hs]
      rw [hc, List.cons_append] at hi ⊢
      simp [hne, hi]
  | @object ms names values ih =>
    rintro (_ | fuel) rest hf hr
    · cases ms <;> simp [render] at hf
    cases ms with
    | nil => rfl
    | cons m ms =>
      simp only [render, List.length_cons] at hf
      have hm := readMembers_render names ih fuel rest (by omega)
      rw [render, List.cons_append, readValue, skip_of_not_isBlank (by rfl), List.append_assoc]
      simp only [quote, List.cons_append, List.append_assoc, List.nil_append] at hm ⊢
      rw [skip_of_not_isBlank (by rfl)]
      simp [hm]

/-- Reading a written document gives it back. -/
theorem parse?_toText {j : Json} (h : Spelled j) : parse? j.toText = some j := by
  have hr := h.readsBack (2 * (render j).length + 2) [] (by omega) .nil
  rw [List.append_nil] at hr
  simp [parse?, toText, hr, skip]

end VcpuPinning.Json
