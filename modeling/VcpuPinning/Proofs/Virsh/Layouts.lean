import VcpuPinning.Proofs.CpuSet.Lists
import VcpuPinning.Proofs.Text.Lines
import VcpuPinning.Virsh.Output

/-!
# Layouts of the virsh tool

What the lines of an output look like that shows a value under a label (`Shows`), names
(`Names`), NUMA cells (`Cells`) or the pins of virtual CPUs (`Pins`). Each layout leaves open what a
reader may not depend on : other lines, blanks, quotes, and the order of cells and rows. A reader
gives what its layout shows.
-/

namespace VcpuPinning.Virsh.Output

open Text (trim)

/-- A line as it is printed. -/
abbrev Line := List Char

variable {l : Line} {ls : List Line} {out : String}

/-! ## Numbers -/

@[simp] theorem toList_toString (n : UInt32) :
    (toString n).toList = Text.Numeral.text n.toNat := by
  rw [show toString n = String.ofList (Text.Numeral.text n.toNat) from rfl, String.toList_ofList]

@[simp] theorem number32?_text (n : UInt32) : number32? (Text.Numeral.text n.toNat) = some n := by
  have h : n.toNat ≤ Text.Numeral.max32 := Nat.le_sub_one_of_lt n.toNat_lt
  rw [number32?, Text.Numeral.unsigned_text h, Option.map_some, UInt32.ofNat_toNat]

theorem toNat_le_max64 (n : UInt32) : n.toNat ≤ Text.Numeral.max64 :=
  Nat.le_trans (Nat.le_sub_one_of_lt n.toNat_lt) (by decide)

/-- A numeral starts with a digit or a plus sign. -/
theorem number32?_of_head {cs : List Char}
    (h : ∀ c ∈ cs.head?, c.isDigit = false ∧ c ≠ '+') : number32? cs = none := by
  cases cs with
  | nil => rfl
  | cons c cs =>
    obtain ⟨hd, hp⟩ := h c rfl
    have hdigits : Text.Numeral.digits (c :: cs) = none := by simp [Text.Numeral.digits, hd]
    rw [number32?, Text.Numeral.unsigned, hdigits]
    · rfl
    · exact fun ds he => hp (List.cons.inj he).1

/-- A number is written in one or more digits, after a plus sign or without one. -/
def Number32 (cs : List Char) (n : UInt32) : Prop :=
  ∃ ds, (cs = ds ∨ cs = '+' :: ds) ∧ ds ≠ [] ∧ (∀ c ∈ ds, c.isDigit) ∧
    Nat.ofDigitChars 10 ds 0 = n.toNat

theorem number32?_eq_some_iff {cs : List Char} {n : UInt32} :
    number32? cs = some n ↔ Number32 cs n := by
  have hn : ∀ k, k ≤ Text.Numeral.max32 ∧ UInt32.ofNat k = n ↔ k = n.toNat := by
    intro k
    constructor
    · rintro ⟨hk, rfl⟩
      exact (UInt32.toNat_ofNat_of_lt' (Nat.lt_of_le_of_lt hk (by decide))).symm
    · rintro rfl
      exact ⟨Nat.le_sub_one_of_lt n.toNat_lt, UInt32.ofNat_toNat⟩
  rw [number32?, Option.map_eq_some_iff]
  simp only [Text.Numeral.unsigned_eq_some_iff, Text.Numeral.digits_eq_some_iff]
  constructor
  · rintro ⟨k, ⟨hk, ds, hcs, hne, hd, hv⟩, he⟩
    exact ⟨ds, hcs, hne, hd, hv.trans ((hn k).1 ⟨hk, he⟩)⟩
  · rintro ⟨ds, hcs, hne, hd, hv⟩
    obtain ⟨hk, he⟩ := (hn n.toNat).2 rfl
    exact ⟨n.toNat, ⟨hk, ds, hcs, hne, hd, hv⟩, he⟩

/-! ## Sorting -/

/-- Sorting gives the sorted list with the same items, if no two of them are equivalent. -/
theorem mergeSort_eq_of_perm {α : Type} {le : α → α → Bool}
    (trans : ∀ a b c, le a b → le b c → le a c) (total : ∀ a b, le a b || le b a) {as bs : List α}
    (h : as.Perm bs) (sorted : bs.Pairwise fun a b => le a b)
    (antisymm : ∀ a b, a ∈ bs → b ∈ bs → le a b → le b a → a = b) : as.mergeSort le = bs := by
  have hp : (as.mergeSort le).Perm bs := (List.mergeSort_perm as le).trans h
  exact hp.eq_of_pairwise (fun a b ha hb => antisymm a b (hp.subset ha) hb)
    (List.pairwise_mergeSort trans total as) sorted

/-! ## Values under labels -/

/-- The first line with a label has the value. -/
inductive Shows (label value : String) : List Line → Prop
  | here {key rest : Line} {ls : List Line} (colon : ':' ∉ key)
      (labelled : trim key = label.toList) (valued : trim rest = value.toList) :
      Shows label value ((key ++ ':' :: rest) :: ls)
  | later {l : Line} {ls : List Line}
      (other : ∀ key rest, l = key ++ ':' :: rest → ':' ∉ key → trim key ≠ label.toList)
      (shows : Shows label value ls) : Shows label value (l :: ls)

theorem cut_colon {key : Line} (h : ':' ∉ key) (rest : Line) :
    Text.cut (· == ':') (key ++ ':' :: rest) = some (key, rest) :=
  Text.cut_beq_eq_some_iff.2 ⟨h, rfl⟩

theorem Shows.of_cut {label value : String}
    (h : (Text.cut (· == ':') l).map (Prod.map trim trim) = some (label.toList, value.toList)) :
    Shows label value (l :: ls) := by
  obtain ⟨⟨key, rest⟩, hcut, hp⟩ := Option.map_eq_some_iff.1 h
  obtain ⟨colon, rfl⟩ := Text.cut_beq_eq_some_iff.1 hcut
  obtain ⟨labelled, valued⟩ := Prod.mk.inj hp
  exact .here colon labelled valued

/-- A line with another label, or without one, in front. -/
theorem Shows.skip {label value : String}
    (h : ∀ parts ∈ Text.cut (· == ':') l, trim parts.1 ≠ label.toList)
    (shows : Shows label value ls) : Shows label value (l :: ls) := by
  refine .later (fun key rest hl colon => ?_) shows
  subst hl
  exact h (key, rest) (cut_colon colon rest)

theorem fieldIn_of_shows {label value : String} (h : Shows label value ls) :
    fieldIn label ls = some value.toList := by
  induction h with
  | here colon labelled valued => simp only [fieldIn, cut_colon colon, labelled, valued, ↓reduceIte]
  | @later l ls other _ ih =>
    rw [fieldIn]
    split
    · rename_i key rest hcut
      obtain ⟨colon, rfl⟩ := Text.cut_beq_eq_some_iff.1 hcut
      rw [if_neg (other key rest rfl colon), ih]
    · exact ih

theorem cpuCount_of_shows {n : UInt32} (h : Shows "CPU(s)" (toString n) (linesOf out))
    (what : String) : cpuCount what out = .ok n := by
  rw [cpuCount, field, fieldIn_of_shows h, Option.bind_some, toList_toString, number32?_text]

theorem dominfo_of_shows {word : String} {n : UInt32} (hw : Shows "State" word (linesOf out))
    (hn : Shows "CPU(s)" (toString n) (linesOf out)) : dominfo out = .ok (stateCode word, n) := by
  rw [dominfo, field, fieldIn_of_shows hw]
  simp only [cpuCount_of_shows hn, Except.map, String.ofList_toList]

/-! ## Names -/

/-- Names, one per line, between blank lines. -/
inductive Names : List Line → List String → Prop
  | nil : Names [] []
  | blank {l : Line} {ls : List Line} {names : List String} (empty : trim l = [])
      (rest : Names ls names) : Names (l :: ls) names
  | name {l : Line} {ls : List Line} {name : String} {names : List String}
      (printed : trim l = name.toList) (nonempty : name ≠ "") (rest : Names ls names) :
      Names (l :: ls) (name :: names)

theorem uuidList_of_names {names : List String} (h : Names (linesOf out) names) :
    uuidList out = names := by
  unfold uuidList
  generalize linesOf out = ls at h
  induction h with
  | nil => rfl
  | blank empty _ ih => simpa [empty] using ih
  | name printed nonempty _ ih => simpa [printed, nonempty] using ih

/-! ## Cells -/

/-- A line that starts with a tag whose first attribute is a number. The number may be in quotes of
either kind. -/
def HasId (tag : String) (id : UInt32) (l : Line) : Prop :=
  ∃ quote rest, trim l = tag.toList ++ " id=".toList ++
      quote :: (Text.Numeral.text id.toNat ++ quote :: rest) ∧
    (quote = '\'' ∨ quote = '"' ∧ ¬ " id='".toList <:+: trim l)

/-- A line that starts with no tag of a cell or a CPU. -/
def IsOther (l : Line) : Prop :=
  ¬ "<cell ".toList <+: trim l ∧ ¬ "</cell>".toList <+: trim l ∧ ¬ "<cpu ".toList <+: trim l

instance : Decidable (IsOther l) :=
  inferInstanceAs (Decidable (_ ∧ _))

/-- The lines of a cell, with its CPUs. -/
inductive Cpus : List Line → List UInt32 → Prop
  | nil : Cpus [] []
  | other {l : Line} {ls : List Line} {cpus : List UInt32} (other : IsOther l)
      (rest : Cpus ls cpus) : Cpus (l :: ls) cpus
  | cpu {l : Line} {ls : List Line} {cpu : UInt32} {cpus : List UInt32} (tag : HasId "<cpu" cpu l)
      (rest : Cpus ls cpus) : Cpus (l :: ls) (cpu :: cpus)

/-- The lines of cells, with their CPUs. -/
inductive Cells : List Line → List (UInt32 × List UInt32) → Prop
  | nil : Cells [] []
  | other {l : Line} {ls : List Line} {cells : List (UInt32 × List UInt32)} (other : IsOther l)
      (rest : Cells ls cells) : Cells (l :: ls) cells
  | cell {first last : Line} {inner ls : List Line} {id : UInt32} {cpus : List UInt32}
      {cells : List (UInt32 × List UInt32)} (opened : HasId "<cell" id first)
      (inside : Cpus inner cpus) (closed : "</cell>".toList <+: trim last) (rest : Cells ls cells) :
      Cells (first :: (inner ++ last :: ls)) ((id, cpus) :: cells)

/-- The lines of all cells of a topology, in any order and each with its CPUs in any order. -/
def ShowsTopology (t : Topology) (ls : List Line) : Prop :=
  ∃ cells ordered, Cells ls cells ∧
    List.Forall₂ (fun e e' => e.1 = e'.1 ∧ e.2.Perm e'.2) cells ordered ∧ ordered.Perm t.entries

theorem cut_quote {quote : Char} (h : quote.isDigit = false) (n : ℕ) (rest : Line) :
    Text.cut (· == quote) (Text.Numeral.text n ++ quote :: rest) =
      some (Text.Numeral.text n, rest) := by
  refine Text.cut_beq_eq_some_iff.2 ⟨fun hc => ?_, rfl⟩
  exact absurd (h.symm.trans (Text.Numeral.isDigit_of_mem_text hc)) Bool.false_ne_true

theorem idNumber_of_hasId {tag : String} {id : UInt32} (ht : ' ' ∉ tag.toList)
    (h : HasId tag id l) : idNumber (trim l) = some id := by
  obtain ⟨quote, rest, hl, hq⟩ := h
  have hafter : Text.after (' ' :: ("id".toList ++ ['=', quote])) (trim l) =
      some (Text.Numeral.text id.toNat ++ quote :: rest) := by
    have hfirst : Text.after (' ' :: ("id".toList ++ ['=', quote]))
        (tag.toList ++ ' ' :: ("id".toList ++ ['=', quote]) ++
          (Text.Numeral.text id.toNat ++ quote :: rest)) = _ := Text.after_append ht _
    rw [hl, ← hfirst]
    simp
  rw [idNumber, attributeValue]
  rcases hq with rfl | ⟨rfl, hnot⟩
  · rw [quotedAttribute, hafter, Option.map_some, cut_quote (by decide)]
    exact number32?_text id
  · have hsingle : Text.after (' ' :: ("id".toList ++ ['=', '\''])) (trim l) = none := by
      rw [Text.after_eq_none_iff]
      exact hnot
    rw [quotedAttribute, hsingle, quotedAttribute, hafter, Option.map_some, cut_quote (by decide)]
    exact number32?_text id

/-- A tag starts a line in one way only. -/
theorem not_prefix_of_hasId {tag other : String} {id : UInt32} (h : HasId tag id l)
    (hne : ¬ other.toList <+: tag.toList ++ " id=".toList)
    (hlen : other.toList.length ≤ (tag.toList ++ " id=".toList).length) :
    ¬ other.toList <+: trim l := by
  obtain ⟨quote, rest, hl, -⟩ := h
  intro hp
  rw [hl] at hp
  exact hne (List.prefix_of_prefix_length_le hp (List.prefix_append _ _) hlen)

theorem line_of_isOther (h : IsOther l) (s : CellScan) : s.line (trim l) = s := by
  obtain ⟨hcell, hclose, hcpu⟩ := h
  simp only [CellScan.line, List.isPrefixOf_iff_prefix, hcell, hclose, hcpu, ↓reduceIte]

theorem line_of_cpu {id cpu : UInt32} (h : HasId "<cpu" cpu l) (t : Topology)
    (cpus : List UInt32) : CellScan.line ⟨some id, t.insert id cpus⟩ (trim l) =
      ⟨some id, t.insert id (cpus ++ [cpu])⟩ := by
  have hcell : ¬ "<cell ".toList <+: trim l := not_prefix_of_hasId h (by decide) (by decide)
  have hclose : ¬ "</cell>".toList <+: trim l := not_prefix_of_hasId h (by decide) (by decide)
  have hcpu : "<cpu ".toList <+: trim l := by
    obtain ⟨quote, rest, hl, -⟩ := h
    exact ⟨_, by rw [hl]; rfl⟩
  simp only [CellScan.line, List.isPrefixOf_iff_prefix, hcell, hclose, hcpu, ↓reduceIte,
    idNumber_of_hasId (by decide) h, SortedMap.get?_insert_self, Option.getD_some,
    SortedMap.insert_insert]

theorem line_of_cell {id : UInt32} (h : HasId "<cell" id l) {t : Topology}
    (hnew : t.get? id = none) : CellScan.line ⟨none, t⟩ (trim l) = ⟨some id, t.insert id []⟩ := by
  have hcell : "<cell ".toList <+: trim l := by
    obtain ⟨quote, rest, hl, -⟩ := h
    exact ⟨_, by rw [hl]; rfl⟩
  simp only [CellScan.line, List.isPrefixOf_iff_prefix, hcell, ↓reduceIte,
    idNumber_of_hasId (by decide) h, hnew, Option.getD_none]

theorem line_of_close (h : "</cell>".toList <+: l) (s : CellScan) :
    s.line l = ⟨none, s.topology⟩ := by
  have hcell : ¬ "<cell ".toList <+: l := by
    obtain ⟨rest, hl⟩ := h
    rw [← hl, ← List.isPrefixOf_iff_prefix]
    simp
  simp only [CellScan.line, List.isPrefixOf_iff_prefix, hcell, h, ↓reduceIte]

/-- The CPUs of a cell are read one after the other. -/
theorem foldl_line_of_cpus {cpus : List UInt32} (h : Cpus ls cpus) (id : UInt32) (t : Topology)
    (former : List UInt32) : (ls.map trim).foldl CellScan.line ⟨some id, t.insert id former⟩ =
      ⟨some id, t.insert id (former ++ cpus)⟩ := by
  induction h generalizing former with
  | nil => rw [List.append_nil]; rfl
  | other other _ ih => rw [List.map_cons, List.foldl_cons, line_of_isOther other, ih]
  | cpu tag _ ih =>
    rw [List.map_cons, List.foldl_cons, line_of_cpu tag, ih, List.append_assoc,
      List.singleton_append]

/-- The cells are read one after the other, if no two of them have the same number. -/
theorem foldl_line_of_cells {cells : List (UInt32 × List UInt32)} (h : Cells ls cells)
    (distinct : cells.Pairwise fun a b => a.1 ≠ b.1) {t : Topology}
    (hnew : ∀ e ∈ cells, t.get? e.1 = none) : (ls.map trim).foldl CellScan.line ⟨none, t⟩ =
      ⟨none, cells.foldl (fun m e => m.insert e.1 e.2) t⟩ := by
  induction h generalizing t with
  | nil => rfl
  | other other _ ih => rw [List.map_cons, List.foldl_cons, line_of_isOther other, ih distinct hnew]
  | @cell first last inner ls id cpus cells opened inside closed _ ih =>
    obtain ⟨hfirst, hrest⟩ := List.pairwise_cons.1 distinct
    have hnew' : ∀ e ∈ cells, (t.insert id cpus).get? e.1 = none := by
      intro e he
      rw [SortedMap.get?_insert_of_ne (Ne.symm (hfirst e he))]
      exact hnew e (List.mem_cons_of_mem _ he)
    rw [List.map_cons, List.foldl_cons, line_of_cell opened (hnew _ List.mem_cons_self),
      List.map_append, List.foldl_append, foldl_line_of_cpus inside, List.map_cons,
      List.foldl_cons, line_of_close closed, List.nil_append, ih hrest hnew', List.foldl_cons]

/-- The CPUs of each cell are put in order. -/
theorem capabilities_of_shows {t : Topology} (h : ShowsTopology t (linesOf out))
    (ascending : ∀ e ∈ t.entries, e.2.Pairwise (· ≤ ·)) : capabilities out = t := by
  obtain ⟨cells, ordered, hcells, hsame, hperm⟩ := h
  have hsort : cells.map (fun e => (e.1, e.2.mergeSort fun a b => a ≤ b)) = ordered := by
    have hord : ∀ e ∈ ordered, e.2.Pairwise (· ≤ ·) := fun e he => ascending e (hperm.subset he)
    clear hcells hperm
    induction hsame with
    | nil => rfl
    | @cons e e' cells ordered he _ ih =>
      obtain ⟨hhead, htail⟩ := List.forall_mem_cons.1 hord
      have hcpus : e.2.mergeSort (fun a b => a ≤ b) = e'.2 := by
        refine mergeSort_eq_of_perm ?_ ?_ he.2 ?_ ?_
        · simpa using fun a b c => UInt32.le_trans
        · simpa using UInt32.le_total
        · simpa using hhead
        · simpa using fun a b _ _ => UInt32.le_antisymm
      rw [List.map_cons, ih htail, hcpus, he.1]
  have hdistinct : cells.Pairwise fun a b => a.1 ≠ b.1 := by
    have ho : ordered.Pairwise fun a b => a.1 ≠ b.1 :=
      (hperm.pairwise_iff fun hne => Ne.symm hne).2 t.distinct_entries
    rw [← hsort, List.pairwise_map] at ho
    exact ho
  unfold capabilities
  rw [foldl_line_of_cells hcells hdistinct (by simp)]
  change (SortedMap.ofList cells).map _ = t
  rw [SortedMap.map_ofList, hsort, SortedMap.ofList_of_perm hperm]

/-! ## Pins -/

/-- A line that starts with something other than a number, such as a heading or a rule. -/
def IsHeading (l : Line) : Prop :=
  ∀ c ∈ (trim l).head?, c.isDigit = false ∧ c ≠ '+'

theorem isHeading_of_head {c : Char} (h : (trim l).head? = some c) (hd : c.isDigit = false)
    (hp : c ≠ '+') : IsHeading l := by
  intro c' hc
  rw [h] at hc
  obtain rfl := Option.some.inj hc
  exact ⟨hd, hp⟩

/-- The line of a virtual CPU and of the host CPUs on which it may run. The two are separated by a
colon between blanks, or by blanks only. -/
inductive IsRow (vcpu : UInt32) (set : CpuSet) (l : Line) : Prop
  | colon (b a : Line) (before : ∀ c ∈ b, Text.isBlank c) (after : ∀ c ∈ a, Text.isBlank c)
      (printed : trim l = Text.Numeral.text vcpu.toNat ++ b ++ ':' :: (a ++ set.cpulist.toList))
  | tabular (b : Line) (nonempty : b ≠ []) (between : ∀ c ∈ b, Text.isBlank c)
      (printed : trim l = Text.Numeral.text vcpu.toNat ++ b ++ set.cpulist.toList)

theorem isBlank_replicate (n : ℕ) : ∀ c ∈ List.replicate n ' ', Text.isBlank c := by
  intro c hc
  rw [List.eq_of_mem_replicate hc]
  rfl

/-- A row as it is printed without a blank in front of the colon, and with some behind it. -/
theorem isRow_colon {vcpu : UInt32} {set : CpuSet} (n : ℕ) (h : trim l =
    Text.Numeral.text vcpu.toNat ++ ':' :: (List.replicate n ' ' ++ set.cpulist.toList)) :
    IsRow vcpu set l :=
  .colon [] (List.replicate n ' ') (List.forall_mem_nil _) (isBlank_replicate n)
    (by rw [h, List.append_nil])

/-- A row as it is printed with blanks between its columns. -/
theorem isRow_tabular {vcpu : UInt32} {set : CpuSet} {n : ℕ} (hn : n ≠ 0) (h : trim l =
    Text.Numeral.text vcpu.toNat ++ List.replicate n ' ' ++ set.cpulist.toList) :
    IsRow vcpu set l :=
  .tabular (List.replicate n ' ') (by simpa using hn) (isBlank_replicate n) h

/-- The lines of a table of pins, with its rows in the order in which they are printed. -/
inductive Pins : List Line → List (UInt32 × CpuSet) → Prop
  | nil : Pins [] []
  | heading {l : Line} {ls : List Line} {rows : List (UInt32 × CpuSet)} (heading : IsHeading l)
      (rest : Pins ls rows) : Pins (l :: ls) rows
  | row {l : Line} {ls : List Line} {vcpu : UInt32} {set : CpuSet}
      {rows : List (UInt32 × CpuSet)} (row : IsRow vcpu set l) (rest : Pins ls rows) :
      Pins (l :: ls) ((vcpu, set) :: rows)

/-- The lines of a table of pins with a row for each entry of a map, in any order. -/
def ShowsPins (pins : SortedMap UInt32 CpuSet) (ls : List Line) : Prop :=
  ∃ rows, Pins ls rows ∧ rows.Perm pins.entries

theorem not_mem_of_isBlank {cs : List Char} (h : ∀ c ∈ cs, Text.isBlank c) : ':' ∉ cs :=
  fun hm => absurd (h ':' hm) (by decide)

theorem not_mem_text {c : Char} (h : ¬ c.isDigit) (n : ℕ) : c ∉ Text.Numeral.text n :=
  fun hm => h (Text.Numeral.isDigit_of_mem_text hm)

theorem isBlank_of_mem_text {n : ℕ} {c : Char} (h : c ∈ Text.Numeral.text n) :
    Text.isBlank c = false :=
  CpuSpec.isBlank_of_isDigit (Text.Numeral.isDigit_of_mem_text h)

/-- A list of CPUs is written with digits, hyphens and commas. -/
theorem isDigit_or_of_mem_cpulist {set : CpuSet} {c : Char} (h : c ∈ set.cpulist.toList) :
    c.isDigit ∨ c = '-' ∨ c = ',' := by
  rw [CpuSet.cpulist, String.toList_ofList] at h
  rcases Text.mem_of_mem_intercalate h with h | ⟨t, ht, hc⟩
  · exact .inr (.inr (List.mem_singleton.1 h))
  · obtain ⟨run, -, rfl⟩ := List.mem_map.1 ht
    exact (CpuSpec.isDigit_or_of_mem_runText hc).imp_right .inl

theorem isBlank_of_mem_cpulist {set : CpuSet} {c : Char} (h : c ∈ set.cpulist.toList) :
    Text.isBlank c = false := by
  rcases isDigit_or_of_mem_cpulist h with h | rfl | rfl
  · exact CpuSpec.isBlank_of_isDigit h
  · rfl
  · rfl

theorem not_mem_cpulist {c : Char} (h : ¬ (c.isDigit ∨ c = '-' ∨ c = ',')) (set : CpuSet) :
    c ∉ set.cpulist.toList :=
  fun hm => h (isDigit_or_of_mem_cpulist hm)

theorem pinRow_of_isHeading (h : IsHeading l) : pinRow (trim l) = none := by
  have hkey : ∀ p key rest, Text.cut p (trim l) = some (key, rest) →
      number32? (trim key) = none := by
    intro p key rest hcut
    obtain ⟨-, d, -, he⟩ := Text.cut_eq_some_iff.1 hcut
    cases key with
    | nil => rfl
    | cons c key =>
      have hc : c ∈ (trim l).head? := by rw [he]; rfl
      rw [Text.trim_cons_of_not_blank (Text.head_trim hc)]
      refine number32?_of_head ?_
      rintro _ ⟨⟩
      exact h c hc
  unfold pinRow
  cases hcolon : Text.cut (· == ':') (trim l) with
  | some parts =>
    obtain ⟨key, rest⟩ := parts
    simp only [Option.bind_some, hkey _ key rest hcolon, Option.map_none]
  | none =>
    cases hblank : Text.cut Text.isBlank (trim l) with
    | none => rfl
    | some parts =>
      obtain ⟨key, rest⟩ := parts
      simp only [Option.bind_some, hkey _ key rest hblank, Option.map_none]

theorem pinRow_of_isRow {vcpu : UInt32} {set : CpuSet} (h : IsRow vcpu set l) :
    pinRow (trim l) = some (vcpu, set.cpulist.toList) := by
  have hset {before : Line} (hb : ∀ c ∈ before, Text.isBlank c) :
      trim (before ++ set.cpulist.toList) = set.cpulist.toList := by
    have hc : ∀ c ∈ set.cpulist.toList, Text.isBlank c = false :=
      fun _ hc => isBlank_of_mem_cpulist hc
    have ht := Text.trim_of_no_blank hb hc (List.forall_mem_nil _)
    rwa [List.append_nil] at ht
  have hvcpu {after : Line} (ha : ∀ c ∈ after, Text.isBlank c) :
      number32? (trim (Text.Numeral.text vcpu.toNat ++ after)) = some vcpu := by
    have hc : ∀ c ∈ Text.Numeral.text vcpu.toNat, Text.isBlank c = false :=
      fun _ hc => isBlank_of_mem_text hc
    have ht := Text.trim_of_no_blank (List.forall_mem_nil _) hc ha
    rw [List.nil_append] at ht
    rw [ht, number32?_text]
  cases h with
  | colon b a hb ha printed =>
    have hkey : ':' ∉ Text.Numeral.text vcpu.toNat ++ b := by
      rw [List.mem_append, not_or]
      exact ⟨not_mem_text (by decide) _, not_mem_of_isBlank hb⟩
    simp only [pinRow, printed, cut_colon hkey, Option.bind_some, hvcpu hb, Option.map_some,
      hset ha]
  | tabular b hne hb printed =>
    have hcolon : Text.cut (· == ':') (trim l) = none := by
      refine Text.cut_beq_eq_none_iff.2 fun hc => ?_
      rw [printed, List.mem_append, List.mem_append] at hc
      rcases hc with (hc | hc) | hc
      · exact not_mem_text (by decide) _ hc
      · exact not_mem_of_isBlank hb hc
      · exact not_mem_cpulist (by decide) set hc
    obtain ⟨b, bs, rfl⟩ := List.exists_cons_of_ne_nil hne
    obtain ⟨hblank, hblanks⟩ := List.forall_mem_cons.1 hb
    have hcut : Text.cut Text.isBlank (trim l) =
        some (Text.Numeral.text vcpu.toNat, bs ++ set.cpulist.toList) := by
      refine Text.cut_eq_some_iff.2 ⟨fun c hc => isBlank_of_mem_text hc, b, hblank, ?_⟩
      rw [printed, List.append_assoc]
      rfl
    have hnumber := hvcpu (List.forall_mem_nil _)
    rw [List.append_nil] at hnumber
    simp only [pinRow, hcolon, hcut, Option.bind_some, hnumber, Option.map_some, hset hblanks]

theorem filterMap_pinRow {rows : List (UInt32 × CpuSet)} (h : Pins ls rows) :
    (ls.map trim).filterMap pinRow = rows.map fun e => (e.1, e.2.cpulist.toList) := by
  induction h with
  | nil => rfl
  | heading heading _ ih =>
    rw [List.map_cons, List.filterMap_cons_none (pinRow_of_isHeading heading), ih]
  | row row _ ih =>
    rw [List.map_cons, List.filterMap_cons_some (pinRow_of_isRow row), ih, List.map_cons]

/-- Sets that select a CPU of the host are read back from their lists. -/
theorem compileRows_of_rows {maxCpu : ℕ} (hmax : maxCpu ≤ Text.Numeral.max64)
    {rows : List (UInt32 × CpuSet)} (h : ∀ e ∈ rows, e.2.width = maxCpu ∧ e.2.count ≠ 0) :
    compileRows maxCpu (rows.map fun e => (e.1, e.2.cpulist.toList)) = .ok rows := by
  induction rows with
  | nil => rfl
  | cons e rows ih =>
    obtain ⟨⟨hw, hc⟩, hrows⟩ := List.forall_mem_cons.1 h
    have hset : CpuSpec.compile e.2.cpulist maxCpu = .ok e.2 := by
      subst hw
      exact CpuSpec.compile_cpulist hmax hc
    rw [List.map_cons, compileRows, String.ofList_toList, hset, ih hrows]

/-- The sets of a table of pins are read by ascending number, and the numbers are left out. -/
theorem vcpupin_of_shows {pins : SortedMap UInt32 CpuSet} {maxCpu : ℕ}
    (hmax : maxCpu ≤ Text.Numeral.max64) (h : ShowsPins pins (linesOf out))
    (hpins : ∀ set ∈ pins.values, set.width = maxCpu ∧ set.count ≠ 0) :
    vcpupin out maxCpu = .ok pins.values := by
  obtain ⟨rows, hrows, hperm⟩ := h
  have hsets : ∀ e ∈ rows, e.2.width = maxCpu ∧ e.2.count ≠ 0 :=
    fun e he => hpins e.2 (List.mem_map_of_mem (hperm.subset he))
  have hsort : rows.mergeSort (fun a b => a.1 ≤ b.1) = pins.entries := by
    refine mergeSort_eq_of_perm ?_ ?_ hperm ?_ ?_
    · simpa using fun a b c d e f => UInt32.le_trans
    · simpa using fun a b c d => UInt32.le_total a c
    · refine pins.sorted.imp fun h => ?_
      exact decide_eq_true (UInt32.le_of_lt (Std.compare_eq_lt.1 h))
    · intro a b ha hb hab hba
      have hkey : a.1 = b.1 := UInt32.le_antisymm (of_decide_eq_true hab) (of_decide_eq_true hba)
      have hget := SortedMap.mem_entries_iff.1 hb
      rw [← hkey, SortedMap.mem_entries_iff.1 ha] at hget
      exact Prod.ext hkey (Option.some.inj hget)
  unfold vcpupin
  rw [filterMap_pinRow hrows, compileRows_of_rows hmax hsets, Except.map, hsort]
  rfl

end VcpuPinning.Virsh.Output
