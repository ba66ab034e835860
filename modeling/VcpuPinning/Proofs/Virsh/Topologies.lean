import VcpuPinning.Proofs.Virsh.Layouts

/-!
# Any text as a topology

`Layouts` says what the cells of a host look like when they are printed well. Here the lines of any
text are read as a topology. A CPU belongs to the cell that the nearest line before it with a tag of
a cell starts (`Within`), and a scan keeps just that cell from line to line (`ScannedTo`).
-/

namespace VcpuPinning.Virsh.Output

open Text (trim)

variable {l : Line} {ls : List Line} {c n : UInt32} {i : ℕ}

/-! ## Numbers in tags -/

/-- How an attribute `id` in quotes of one kind starts. -/
def idStart (quote : Char) : Line :=
  ' ' :: ("id".toList ++ ['=', quote])

/-- The first attribute `id` in quotes of one kind is a number, up to the closing quote. -/
def QuotedId (quote : Char) (l : Line) (n : UInt32) : Prop :=
  ∃ value tail, Text.Follows (idStart quote) l (value ++ quote :: tail) ∧ quote ∉ value ∧
    Number32 value n

/-- A line has an id. It is in the first attribute in single quotes, and in the first in double
quotes only if none in single quotes starts anywhere. -/
def ReadsId (l : Line) (n : UInt32) : Prop :=
  QuotedId '\'' l n ∨ ¬ idStart '\'' <:+: l ∧ QuotedId '"' l n

theorem quotedAttribute_eq_none_iff {quote : Char} :
    quotedAttribute quote "id".toList l = none ↔ ¬ idStart quote <:+: l := by
  rw [quotedAttribute, Option.map_eq_none_iff]
  exact Text.after_eq_none_iff

theorem quotedId_iff {quote : Char} :
    (quotedAttribute quote "id".toList l).join.bind number32? = some n ↔ QuotedId quote l n := by
  constructor
  · intro h
    obtain ⟨value, hv, hn⟩ := Option.bind_eq_some_iff.1 h
    obtain ⟨rest, hrest, hcut⟩ := Option.map_eq_some_iff.1 (Option.join_eq_some_iff.1 hv)
    obtain ⟨⟨value, tail⟩, hparts, rfl⟩ := Option.map_eq_some_iff.1 hcut
    obtain ⟨hq, rfl⟩ := Text.cut_beq_eq_some_iff.1 hparts
    exact ⟨_, tail, Text.after_eq_some_iff.1 hrest, hq, number32?_eq_some_iff.1 hn⟩
  · rintro ⟨value, tail, hrest, hq, hn⟩
    have hafter := Text.after_eq_some_iff.2 hrest
    rw [idStart] at hafter
    rw [quotedAttribute, hafter, Option.map_some, Text.cut_beq_eq_some_iff.2 ⟨hq, rfl⟩]
    exact number32?_eq_some_iff.2 hn

theorem idNumber_eq_some_iff : idNumber l = some n ↔ ReadsId l n := by
  rw [ReadsId, ← quotedId_iff, ← quotedId_iff, ← quotedAttribute_eq_none_iff, idNumber,
    attributeValue]
  cases quotedAttribute '\'' "id".toList l <;> simp

theorem idNumber_eq_none_iff : idNumber l = none ↔ ∀ n, ¬ ReadsId l n := by
  simp only [← idNumber_eq_some_iff, Option.eq_none_iff_forall_ne_some, ne_eq]

theorem ReadsId.unique {m : UInt32} (h : ReadsId l n) (h' : ReadsId l m) : n = m :=
  Option.some.inj ((idNumber_eq_some_iff.2 h).symm.trans (idNumber_eq_some_iff.2 h'))

/-! ## Tags -/

/-- A line starts a cell. -/
def Opens (l : Line) : Prop :=
  "<cell ".toList <+: l

/-- A line ends a cell. -/
def Closes (l : Line) : Prop :=
  "</cell>".toList <+: l

/-- A line is one of a CPU. -/
def ShowsCpu (l : Line) : Prop :=
  "<cpu ".toList <+: l

theorem not_prefix_of_other {a b : Line} (h : a <+: l) (hab : ¬ a <+: b) (hba : ¬ b <+: a) :
    ¬ b <+: l :=
  fun hb => (List.prefix_or_prefix_of_prefix h hb).elim hab hba

theorem ShowsCpu.not_opens (h : ShowsCpu l) : ¬ Opens l :=
  not_prefix_of_other h (by decide) (by decide)

theorem ShowsCpu.not_closes (h : ShowsCpu l) : ¬ Closes l :=
  not_prefix_of_other h (by decide) (by decide)

/-- The CPUs of a cell that are known so far. -/
def CellScan.cpus (s : CellScan) (c : UInt32) : List UInt32 :=
  (s.topology.get? c).getD []

/-- What one more line may do to a scan. -/
inductive CellScan.Step (s : CellScan) (l : Line) : CellScan → Prop
  | opened {c : UInt32} (opens : Opens l) (id : ReadsId l c) :
      Step s l ⟨some c, s.topology.insert c (s.cpus c)⟩
  | unreadable (opens : Opens l) (id : ∀ c, ¬ ReadsId l c) : Step s l ⟨none, s.topology⟩
  | closed (opens : ¬ Opens l) (closes : Closes l) : Step s l ⟨none, s.topology⟩
  | cpu {c n : UInt32} (shows : ShowsCpu l) (cell : s.cell = some c) (id : ReadsId l n) :
      Step s l ⟨s.cell, s.topology.insert c (s.cpus c ++ [n])⟩
  | passed (opens : ¬ Opens l) (closes : ¬ Closes l)
      (cpu : ∀ c n, ShowsCpu l → ReadsId l n → s.cell ≠ some c) : Step s l s

theorem CellScan.step_line (s : CellScan) (l : Line) : s.Step l (s.line l) := by
  unfold CellScan.line
  simp only [List.isPrefixOf_iff_prefix]
  split
  · rename_i opens
    split
    · rename_i c hc
      exact .opened opens (idNumber_eq_some_iff.1 hc)
    · rename_i hc
      exact .unreadable opens (idNumber_eq_none_iff.1 hc)
  · rename_i opens
    split
    · rename_i closes
      exact .closed opens closes
    · rename_i closes
      split
      · rename_i shows
        split
        · rename_i c n hcell hn
          exact .cpu shows hcell (idNumber_eq_some_iff.1 hn)
        · rename_i hnot
          exact .passed opens closes fun c n _ hn hcell =>
            hnot c n hcell (idNumber_eq_some_iff.2 hn)
      · rename_i shows
        exact .passed opens closes fun c n h => absurd h shows

/-! ## Lines of a cell -/

/-- What comes after lines is within a cell: the last of them with a tag of a cell starts it. -/
def Within (front : List Line) (c : UInt32) : Prop :=
  ∃ before l between, front = before ++ l :: between ∧ Opens l ∧ ReadsId l c ∧
    ∀ l' ∈ between, ¬ Opens l' ∧ ¬ Closes l'

/-- The line at a position is one of a CPU of a cell. -/
def CpuAt (ls : List Line) (c : UInt32) (i : ℕ) (n : UInt32) : Prop :=
  ∃ front l back, ls = front ++ l :: back ∧ front.length = i ∧ ShowsCpu l ∧ ReadsId l n ∧
    Within front c

/-- The CPUs of a cell, in the order of their lines. -/
def HasCpus (ls : List Line) (c : UInt32) (cpus : List UInt32) : Prop :=
  ∃ found : List (ℕ × UInt32), found.Pairwise (fun a b => a.1 < b.1) ∧
    (∀ i n, (i, n) ∈ found ↔ CpuAt ls c i n) ∧ found.map (·.2) = cpus

/-- Where the item `b` may stand in a list with the last item `a`. -/
theorem concat_eq_append_cons_iff {α : Type} {as before back : List α} {a b : α} :
    as ++ [a] = before ++ b :: back ↔ as = before ∧ a = b ∧ back = [] ∨
      ∃ back', back = back' ++ [a] ∧ as = before ++ b :: back' := by
  cases back using List.reverseRec with
  | nil => simp
  | append_singleton back' b' _ =>
    rw [← List.cons_append, ← List.append_assoc, List.append_singleton_inj]
    constructor
    · rintro ⟨rfl, rfl⟩
      exact .inr ⟨back', rfl, rfl⟩
    · rintro (⟨-, -, h⟩ | ⟨back'', h, rfl⟩)
      · simp at h
      · obtain ⟨rfl, rfl⟩ := List.append_singleton_inj.1 h
        exact ⟨rfl, rfl⟩

theorem within_concat : Within (ls ++ [l]) c ↔
    Opens l ∧ ReadsId l c ∨ ¬ Opens l ∧ ¬ Closes l ∧ Within ls c := by
  constructor
  · rintro ⟨before, l', between, he, hopens, hid, hbetween⟩
    rcases concat_eq_append_cons_iff.1 he with ⟨-, rfl, -⟩ | ⟨between', rfl, rfl⟩
    · exact .inl ⟨hopens, hid⟩
    · obtain ⟨hbetween, hl⟩ := List.forall_mem_append.1 hbetween
      obtain ⟨ho, hc⟩ := List.forall_mem_singleton.1 hl
      exact .inr ⟨ho, hc, before, l', between', rfl, hopens, hid, hbetween⟩
  · rintro (⟨hopens, hid⟩ | ⟨ho, hc, before, l', between, rfl, hopens, hid, hbetween⟩)
    · exact ⟨ls, l, [], rfl, hopens, hid, List.forall_mem_nil _⟩
    · refine ⟨before, l', between ++ [l], ?_, hopens, hid, ?_⟩
      · rw [List.append_assoc, List.cons_append]
      · exact List.forall_mem_append.2 ⟨hbetween, List.forall_mem_singleton.2 ⟨ho, hc⟩⟩

theorem cpuAt_concat : CpuAt (ls ++ [l]) c i n ↔
    CpuAt ls c i n ∨ i = ls.length ∧ ShowsCpu l ∧ ReadsId l n ∧ Within ls c := by
  constructor
  · rintro ⟨front, l', back, he, rfl, h⟩
    rcases concat_eq_append_cons_iff.1 he with ⟨rfl, rfl, -⟩ | ⟨back', rfl, rfl⟩
    · exact .inr ⟨rfl, h⟩
    · exact .inl ⟨front, l', back', rfl, rfl, h⟩
  · rintro (⟨front, l', back, rfl, rfl, h⟩ | ⟨rfl, h⟩)
    · exact ⟨front, l', back ++ [l], by rw [List.append_assoc, List.cons_append], rfl, h⟩
    · exact ⟨ls, l, [], rfl, rfl, h⟩

theorem CpuAt.lt_length (h : CpuAt ls c i n) : i < ls.length := by
  obtain ⟨front, l, back, rfl, rfl, -⟩ := h
  simp

theorem HasCpus.concat {cpus : List UInt32} (h : HasCpus ls c cpus)
    (hcpu : ∀ n, ShowsCpu l → ReadsId l n → ¬ Within ls c) : HasCpus (ls ++ [l]) c cpus := by
  obtain ⟨found, hsorted, hmem, hcpus⟩ := h
  refine ⟨found, hsorted, fun i n => ?_, hcpus⟩
  rw [hmem, cpuAt_concat]
  exact ⟨.inl, fun h => h.resolve_right fun ⟨_, hs, hn, hw⟩ => hcpu n hs hn hw⟩

theorem HasCpus.concat_cpu {cpus : List UInt32} (h : HasCpus ls c cpus) (hs : ShowsCpu l)
    (hn : ReadsId l n) (hw : Within ls c) : HasCpus (ls ++ [l]) c (cpus ++ [n]) := by
  obtain ⟨found, hsorted, hmem, rfl⟩ := h
  refine ⟨found ++ [(ls.length, n)], ?_, fun i m => ?_, by simp⟩
  · rw [List.pairwise_append]
    refine ⟨hsorted, List.pairwise_singleton _ _, fun a ha b hb => ?_⟩
    rw [List.mem_singleton.1 hb]
    exact ((hmem a.1 a.2).1 ha).lt_length
  · rw [List.mem_append, hmem, cpuAt_concat, List.mem_singleton, Prod.mk.injEq]
    refine or_congr_right (and_congr_right fun _ => ?_)
    exact ⟨fun h => h ▸ ⟨hs, hn, hw⟩, fun ⟨_, hm, _⟩ => hm.unique hn⟩

/-! ## Scans -/

/-- A cell is started by a line. -/
def IsCell (ls : List Line) (c : UInt32) : Prop :=
  ∃ l ∈ ls, Opens l ∧ ReadsId l c

/-- A scan knows what the lines so far say: the cell that comes after them, the cells that they
start, and the CPUs of each. -/
structure ScannedTo (ls : List Line) (s : CellScan) : Prop where
  cell : ∀ c, s.cell = some c ↔ Within ls c
  keys : ∀ c, (s.topology.get? c).isSome ↔ IsCell ls c
  cpus : ∀ c, HasCpus ls c (s.cpus c)

theorem isCell_concat : IsCell (ls ++ [l]) c ↔ IsCell ls c ∨ Opens l ∧ ReadsId l c := by
  simp [IsCell, or_and_right, exists_or]

/-- Only a line that starts a cell adds one. -/
theorem isCell_concat_of_not (h : Opens l → ¬ ReadsId l c) :
    IsCell (ls ++ [l]) c ↔ IsCell ls c := by
  rw [isCell_concat]
  exact or_iff_left fun ⟨opens, id⟩ => h opens id

/-- The start of the cell within which lines are is one of the lines. -/
theorem Within.isCell (h : Within ls c) : IsCell ls c := by
  obtain ⟨before, l, between, rfl, opens, id, -⟩ := h
  exact ⟨l, by simp, opens, id⟩

theorem CellScan.cpus_insert_self (cell : Option UInt32) (t : Topology) (c : UInt32)
    (cpus : List UInt32) : CellScan.cpus ⟨cell, t.insert c cpus⟩ c = cpus := by
  rw [CellScan.cpus, SortedMap.get?_insert_self, Option.getD_some]

theorem CellScan.cpus_insert_of_ne {c' : UInt32} (h : c' ≠ c) (cell : Option UInt32) (t : Topology)
    (cpus : List UInt32) :
    CellScan.cpus ⟨cell, t.insert c cpus⟩ c' = CellScan.cpus ⟨cell, t⟩ c' := by
  rw [CellScan.cpus, CellScan.cpus, SortedMap.get?_insert_of_ne h]

theorem isSome_get?_insert {t : Topology} {c' : UInt32} {cpus : List UInt32} :
    ((t.insert c cpus).get? c').isSome ↔ (t.get? c').isSome ∨ c' = c := by
  by_cases h : c' = c
  · subst h
    simp
  · simp [SortedMap.get?_insert_of_ne h, h]

theorem scannedTo_nil : ScannedTo [] ⟨none, .empty⟩ where
  cell c := by simp [Within]
  keys c := by simp [IsCell]
  cpus c := ⟨[], .nil, fun i n => by simp [CpuAt], rfl⟩

theorem ScannedTo.step {s s' : CellScan} (h : ScannedTo ls s) (hs : s.Step l s') :
    ScannedTo (ls ++ [l]) s' := by
  cases hs with
  | @opened c opens id =>
    have hother : ∀ c' n, ShowsCpu l → ReadsId l n → ¬ Within ls c' :=
      fun _ _ hcpu => absurd opens hcpu.not_opens
    refine ⟨fun c' => ?_, fun c' => ?_, fun c' => ?_⟩
    · rw [within_concat, Option.some.injEq]
      constructor
      · rintro rfl
        exact .inl ⟨opens, id⟩
      · rintro (⟨-, id'⟩ | ⟨ho, -⟩)
        · exact id.unique id'
        · exact absurd opens ho
    · rw [isSome_get?_insert, h.keys, isCell_concat]
      refine or_congr_right ⟨?_, fun ⟨_, id'⟩ => id'.unique id⟩
      rintro rfl
      exact ⟨opens, id⟩
    · by_cases hc : c' = c
      · subst hc
        rw [CellScan.cpus_insert_self]
        exact (h.cpus c').concat (hother c')
      · rw [CellScan.cpus_insert_of_ne hc]
        exact (h.cpus c').concat (hother c')
  | unreadable opens id =>
    refine ⟨fun c' => ?_, fun c' => ?_, fun c' => ?_⟩
    · simp [within_concat, opens, id]
    · rw [h.keys, isCell_concat_of_not fun _ => id c']
    · exact (h.cpus c').concat fun n _ id' => absurd id' (id n)
  | closed opens closes =>
    refine ⟨fun c' => ?_, fun c' => ?_, fun c' => ?_⟩
    · simp [within_concat, opens, closes]
    · rw [h.keys, isCell_concat_of_not fun ho => absurd ho opens]
    · exact (h.cpus c').concat fun n hcpu => absurd closes hcpu.not_closes
  | @cpu c n shows cell id =>
    have hwithin : Within ls c := (h.cell c).1 cell
    refine ⟨fun c' => ?_, fun c' => ?_, fun c' => ?_⟩
    · rw [h.cell, within_concat]
      simp [shows.not_opens, shows.not_closes]
    · -- the cell that gets the CPU has been started by an earlier line
      rw [isSome_get?_insert, h.keys, isCell_concat_of_not fun ho => absurd ho shows.not_opens]
      refine or_iff_left_of_imp ?_
      rintro rfl
      exact hwithin.isCell
    · by_cases hc : c' = c
      · subst hc
        rw [CellScan.cpus_insert_self]
        exact (h.cpus c').concat_cpu shows id hwithin
      · rw [CellScan.cpus_insert_of_ne hc]
        refine (h.cpus c').concat fun n _ _ hw => hc ?_
        exact Option.some.inj (((h.cell c').2 hw).symm.trans cell)
  | passed opens closes cpu =>
    refine ⟨fun c' => ?_, fun c' => ?_, fun c' => ?_⟩
    · rw [h.cell, within_concat]
      simp [opens, closes]
    · rw [h.keys, isCell_concat_of_not fun ho => absurd ho opens]
    · exact (h.cpus c').concat fun n hcpu id hw => cpu c' n hcpu id ((h.cell c').2 hw)

theorem ScannedTo.foldl {s : CellScan} (h : ScannedTo ls s) (ls' : List Line) :
    ScannedTo (ls ++ ls') (ls'.foldl CellScan.line s) := by
  induction ls' generalizing ls s with
  | nil => rwa [List.append_nil]
  | cons l ls' ih =>
    have hstep := h.step (s.step_line l)
    rw [List.foldl_cons, List.append_cons]
    exact ih hstep

/-! ## Topologies -/

/-- Every text is read as a topology, whatever else it holds. Its cells are those that a line
starts, and each has the CPUs of the lines for which the nearest line before with a tag of a cell
starts this one: as many of each number as there are such lines, and by ascending number. -/
theorem capabilities_eq_of_lines (out : String) :
    (∀ c, ((capabilities out).get? c).isSome ↔ IsCell ((linesOf out).map trim) c) ∧
      ∀ c cpus, (capabilities out).get? c = some cpus → cpus.Pairwise (· ≤ ·) ∧
        ∃ shown, HasCpus ((linesOf out).map trim) c shown ∧ cpus.Perm shown := by
  have hscan := scannedTo_nil.foldl ((linesOf out).map trim)
  rw [List.nil_append] at hscan
  refine ⟨fun c => ?_, fun c cpus hget => ?_⟩
  · rw [← hscan.keys, capabilities, SortedMap.get?_map, Option.isSome_map]
  · rw [capabilities, SortedMap.get?_map] at hget
    obtain ⟨shown, hshown, rfl⟩ := Option.map_eq_some_iff.1 hget
    refine ⟨?_, shown, ?_, List.mergeSort_perm _ _⟩
    · refine (List.pairwise_mergeSort ?_ ?_ shown).imp of_decide_eq_true
      · simpa using fun a b c => UInt32.le_trans
      · simpa using UInt32.le_total
    · have hcpus := hscan.cpus c
      rwa [CellScan.cpus, hshown] at hcpus

end VcpuPinning.Virsh.Output
