import VcpuPinning.Proofs.Virsh.Layouts

/-!
# Any text as a table of pins

`Layouts` says what a well-formed table of pins looks like. Here any text is a table : its rows are
the lines with a number in front of a colon or a blank (`Row`, `Rows`), and whatever else it holds
is no row. `vcpupin_eq_of_rows` says what the rows are read as.
-/

namespace VcpuPinning.Virsh.Output

open Text (trim)

variable {maxCpu : ℕ}

/-! ## Rows -/

/-- A trimmed line is a row, with a virtual CPU and what is said about it. The two are separated by
the first colon. In a line without a colon they are separated by the first blank. -/
inductive Row : Line → UInt32 → Line → Prop
  | colon {key rest : Line} {vcpu : UInt32} (first : ':' ∉ key)
      (number : Number32 (trim key) vcpu) : Row (key ++ ':' :: rest) vcpu (trim rest)
  | blank {key rest : Line} {c : Char} {vcpu : UInt32} (none : ':' ∉ key ++ c :: rest)
      (first : ∀ d ∈ key, Text.isBlank d = false) (blank : Text.isBlank c)
      (number : Number32 (trim key) vcpu) : Row (key ++ c :: rest) vcpu (trim rest)

/-- The rows of lines, in the order of the lines. Lines that are no rows are passed over. -/
inductive Rows : List Line → List (UInt32 × Line) → Prop
  | nil : Rows [] []
  | other {l : Line} {ls : List Line} {rows : List (UInt32 × Line)}
      (other : ∀ vcpu affinity, ¬ Row (trim l) vcpu affinity) (rest : Rows ls rows) :
      Rows (l :: ls) rows
  | row {l : Line} {ls : List Line} {vcpu : UInt32} {affinity : Line}
      {rows : List (UInt32 × Line)} (row : Row (trim l) vcpu affinity) (rest : Rows ls rows) :
      Rows (l :: ls) ((vcpu, affinity) :: rows)

theorem Row.pinRow_eq {l affinity : Line} {vcpu : UInt32} (h : Row l vcpu affinity) :
    pinRow l = some (vcpu, affinity) := by
  cases h with
  | @colon key rest vcpu first number =>
    simp only [pinRow, cut_colon first, Option.bind_some, number32?_eq_some_iff.2 number,
      Option.map_some]
  | @blank key rest c vcpu none first blank number =>
    have hcolon := Text.cut_beq_eq_none_iff.2 none
    have hblank : Text.cut Text.isBlank (key ++ c :: rest) = some (key, rest) :=
      Text.cut_eq_some_iff.2 ⟨first, c, blank, rfl⟩
    simp only [pinRow, hcolon, hblank, Option.bind_some, number32?_eq_some_iff.2 number,
      Option.map_some]

theorem row_of_pinRow {l affinity : Line} {vcpu : UInt32} (h : pinRow l = some (vcpu, affinity)) :
    Row l vcpu affinity := by
  unfold pinRow at h
  obtain ⟨⟨key, rest⟩, hcut, h⟩ := Option.bind_eq_some_iff.1 h
  obtain ⟨n, hn, h⟩ := Option.map_eq_some_iff.1 h
  obtain ⟨rfl, rfl⟩ := Prod.mk.inj h
  have number := number32?_eq_some_iff.1 hn
  split at hcut
  · rename_i parts hcolon
    cases hcut
    obtain ⟨hkey, rfl⟩ := Text.cut_beq_eq_some_iff.1 hcolon
    exact .colon hkey number
  · rename_i hcolon
    obtain ⟨hkey, c, hc, rfl⟩ := Text.cut_eq_some_iff.1 hcut
    exact .blank (Text.cut_beq_eq_none_iff.1 hcolon) hkey hc number

theorem pinRow_eq_some_iff {l affinity : Line} {vcpu : UInt32} :
    pinRow l = some (vcpu, affinity) ↔ Row l vcpu affinity :=
  ⟨row_of_pinRow, Row.pinRow_eq⟩

theorem pinRow_eq_none_iff {l : Line} :
    pinRow l = none ↔ ∀ vcpu affinity, ¬ Row l vcpu affinity := by
  simp only [← pinRow_eq_some_iff, Option.eq_none_iff_forall_ne_some, Prod.forall, ne_eq]

/-- Every text has exactly one list of rows. -/
theorem rows_iff {ls : List Line} {rows : List (UInt32 × Line)} :
    Rows ls rows ↔ rows = (ls.map trim).filterMap pinRow := by
  constructor
  · intro h
    induction h with
    | nil => rfl
    | other other _ ih =>
      rw [List.map_cons, List.filterMap_cons_none (pinRow_eq_none_iff.2 other), ih]
    | row row _ ih =>
      rw [List.map_cons, List.filterMap_cons_some row.pinRow_eq, ih]
  · rintro rfl
    induction ls with
    | nil => exact .nil
    | cons l ls ih =>
      rw [List.map_cons]
      cases hrow : pinRow (trim l) with
      | none =>
        rw [List.filterMap_cons_none hrow]
        exact .other (pinRow_eq_none_iff.1 hrow) ih
      | some row =>
        rw [List.filterMap_cons_some hrow]
        exact .row (row_of_pinRow hrow) ih

/-! ## Sets of rows -/

/-- What a row says compiles to a set of CPUs of the host. -/
def Compiles (maxCpu : ℕ) (row : UInt32 × Line) (e : UInt32 × CpuSet) : Prop :=
  row.1 = e.1 ∧ CpuSpec.compile (String.ofList row.2) maxCpu = .ok e.2

/-- What a row says does not compile. -/
def IsRefused (maxCpu : ℕ) (row : UInt32 × Line) (refusal : SpecError) : Prop :=
  CpuSpec.compile (String.ofList row.2) maxCpu = .error refusal

/-- The error about a row that does not compile. -/
def refusalOf (vcpu : UInt32) (refusal : SpecError) : HypervisorError :=
  .parse "vcpupin" ("vcpu " ++ toString vcpu ++ ": " ++ refusal.message)

theorem compileRows_cons_of_refused {row : UInt32 × Line} {refusal : SpecError}
    (h : IsRefused maxCpu row refusal) (rows : List (UInt32 × Line)) :
    compileRows maxCpu (row :: rows) = .error (refusalOf row.1 refusal) := by
  rw [IsRefused] at h
  rw [compileRows, h]
  rfl

theorem compileRows_cons_of_compiles {row : UInt32 × Line} {e : UInt32 × CpuSet}
    (h : Compiles maxCpu row e) (rows : List (UInt32 × Line)) :
    compileRows maxCpu (row :: rows) = (compileRows maxCpu rows).map (e :: ·) := by
  obtain ⟨hvcpu, hset⟩ := h
  rw [compileRows, hset, hvcpu]
  cases compileRows maxCpu rows <;> rfl

theorem compiles_or_refused (maxCpu : ℕ) (row : UInt32 × Line) :
    (∃ e, Compiles maxCpu row e) ∨ ∃ refusal, IsRefused maxCpu row refusal := by
  cases h : CpuSpec.compile (String.ofList row.2) maxCpu with
  | ok set => exact .inl ⟨(row.1, set), rfl, h⟩
  | error refusal => exact .inr ⟨refusal, h⟩

theorem Compiles.unique {row : UInt32 × Line} {e e' : UInt32 × CpuSet} (h : Compiles maxCpu row e)
    (h' : Compiles maxCpu row e') : e = e' :=
  Prod.ext (h.1.symm.trans h'.1) (Except.ok.inj (h.2.symm.trans h'.2))

theorem Compiles.not_refused {row : UInt32 × Line} {e : UInt32 × CpuSet} {refusal : SpecError}
    (h : Compiles maxCpu row e) : ¬ IsRefused maxCpu row refusal :=
  fun h' => nomatch h.2.symm.trans h'

theorem compileRows_eq_ok_iff {rows : List (UInt32 × Line)} {compiled : List (UInt32 × CpuSet)} :
    compileRows maxCpu rows = .ok compiled ↔ List.Forall₂ (Compiles maxCpu) rows compiled := by
  induction rows generalizing compiled with
  | nil => simp [compileRows, eq_comm]
  | cons row rows ih =>
    rw [List.forall₂_cons_left_iff]
    rcases compiles_or_refused maxCpu row with ⟨e, he⟩ | ⟨refusal, hrow⟩
    · rw [compileRows_cons_of_compiles he]
      constructor
      · intro h
        cases hrows : compileRows maxCpu rows with
        | error _ => rw [hrows] at h; cases h
        | ok tail =>
          rw [hrows] at h
          exact ⟨e, tail, he, ih.1 hrows, (Except.ok.inj h).symm⟩
      · rintro ⟨e', tail, he', htail, rfl⟩
        rw [ih.2 htail, he.unique he']
        rfl
    · rw [compileRows_cons_of_refused hrow]
      constructor
      · intro h
        cases h
      · rintro ⟨e, -, he, -⟩
        exact absurd hrow he.not_refused

/-- The first row that does not compile is the one that is told. -/
theorem compileRows_eq_error_iff {rows : List (UInt32 × Line)} {e : HypervisorError} :
    compileRows maxCpu rows = .error e ↔ ∃ front row back refusal,
      rows = front ++ row :: back ∧ (∀ r ∈ front, ∃ e, Compiles maxCpu r e) ∧
      IsRefused maxCpu row refusal ∧ e = refusalOf row.1 refusal := by
  constructor
  · intro h
    induction rows with
    | nil => cases h
    | cons row rows ih =>
      rcases compiles_or_refused maxCpu row with ⟨e', he'⟩ | ⟨refusal, hrow⟩
      · rw [compileRows_cons_of_compiles he'] at h
        cases hrows : compileRows maxCpu rows with
        | ok _ => rw [hrows] at h; cases h
        | error _ =>
          rw [hrows] at h
          cases h
          obtain ⟨front, row', back, refusal, rfl, hfront, hrow'⟩ := ih hrows
          exact ⟨row :: front, row', back, refusal, rfl,
            List.forall_mem_cons.2 ⟨⟨e', he'⟩, hfront⟩, hrow'⟩
      · rw [compileRows_cons_of_refused hrow] at h
        exact ⟨[], row, rows, refusal, rfl, List.forall_mem_nil _, hrow, (Except.error.inj h).symm⟩
  · rintro ⟨front, row, back, refusal, rfl, hfront, hrow, rfl⟩
    induction front with
    | nil => exact compileRows_cons_of_refused hrow back
    | cons r front ih =>
      obtain ⟨⟨e, he⟩, hfront⟩ := List.forall_mem_cons.1 hfront
      rw [List.cons_append, compileRows_cons_of_compiles he, ih hfront]
      rfl

theorem width_of_compiles {rows : List (UInt32 × Line)} {compiled : List (UInt32 × CpuSet)}
    (h : List.Forall₂ (Compiles maxCpu) rows compiled) :
    ∀ e ∈ compiled, e.2.width = maxCpu ∧ e.2.count ≠ 0 := by
  induction h with
  | nil => exact List.forall_mem_nil _
  | cons he _ ih => exact List.forall_mem_cons.2 ⟨CpuSpec.width_of_compile he.2, ih⟩

theorem exists_forall₂_compiles_iff {rows : List (UInt32 × Line)} :
    (∃ compiled, List.Forall₂ (Compiles maxCpu) rows compiled) ↔
      ∀ row ∈ rows, ∃ e, Compiles maxCpu row e := by
  induction rows with
  | nil => simp
  | cons row rows ih =>
    rw [List.forall_mem_cons, ← ih]
    constructor
    · rintro ⟨_, h⟩
      obtain ⟨e, tail, he, htail, rfl⟩ := List.forall₂_cons_left_iff.1 h
      exact ⟨⟨e, he⟩, tail, htail⟩
    · rintro ⟨⟨e, he⟩, tail, htail⟩
      exact ⟨e :: tail, .cons he htail⟩

/-! ## Order of sets -/

/-- A row with its position comes in front of another: its number is less, or the numbers are equal
and it is printed first. -/
def Before (a b : (UInt32 × CpuSet) × ℕ) : Prop :=
  a.1.1 < b.1.1 ∨ a.1.1 = b.1.1 ∧ a.2 < b.2

/-- The sets of rows by ascending number, and those with one number by position. -/
def ByVcpu (rows : List (UInt32 × CpuSet)) (sets : List CpuSet) : Prop :=
  ∃ ordered : List ((UInt32 × CpuSet) × ℕ), ordered.Perm rows.zipIdx ∧ ordered.Pairwise Before ∧
    sets = ordered.map (·.1.2)

theorem Before.asymm {a b : (UInt32 × CpuSet) × ℕ} (h : Before a b) : ¬ Before b a := by
  rintro (h' | ⟨heq, h'⟩)
  · rcases h with h | ⟨heq, -⟩
    · exact UInt32.lt_asymm h h'
    · exact UInt32.ne_of_lt h' heq.symm
  · rcases h with h | ⟨-, h⟩
    · exact UInt32.ne_of_lt h heq.symm
    · exact Nat.lt_asymm h h'

/-- Sorting by number puts rows in that order, with the positions that they had. -/
theorem exists_ordered (rows : List (UInt32 × CpuSet)) :
    ∃ ordered : List ((UInt32 × CpuSet) × ℕ), ordered.Perm rows.zipIdx ∧ ordered.Pairwise Before ∧
      ordered.map (·.1) = rows.mergeSort fun a b => a.1 ≤ b.1 := by
  let le : UInt32 × CpuSet → UInt32 × CpuSet → Bool := fun a b => a.1 ≤ b.1
  have htrans : ∀ a b c, le a b → le b c → le a c := by
    simpa [le] using fun a b c d e f => UInt32.le_trans
  have htotal : ∀ a b, le a b || le b a := by
    simpa [le] using fun a b c d => UInt32.le_total a c
  have hperm := List.mergeSort_perm rows.zipIdx (List.zipIdxLE le)
  refine ⟨_, hperm, ?_, List.mergeSort_zipIdx⟩
  have hpos : ((rows.zipIdx.mergeSort (List.zipIdxLE le)).map (·.2)).Nodup := by
    rw [(hperm.map _).nodup_iff, List.zipIdx_map_snd]
    exact List.nodup_range'
  refine (List.pairwise_mergeSort (List.zipIdxLE_trans htrans) (List.zipIdxLE_total htotal)
    rows.zipIdx).imp₂ (fun a b hle hne => ?_) (List.pairwise_map.1 hpos)
  rw [List.zipIdxLE] at hle
  split at hle
  · rename_i hab
    split at hle
    · rename_i hba
      exact .inr ⟨UInt32.le_antisymm (of_decide_eq_true hab) (of_decide_eq_true hba),
        Nat.lt_of_le_of_ne (of_decide_eq_true hle) hne⟩
    · rename_i hba
      exact .inl (UInt32.not_le.1 fun h => hba (decide_eq_true h))
  · exact absurd hle Bool.false_ne_true

theorem byVcpu_iff {rows : List (UInt32 × CpuSet)} {sets : List CpuSet} :
    ByVcpu rows sets ↔ sets = (rows.mergeSort fun a b => a.1 ≤ b.1).map (·.2) := by
  obtain ⟨ordered, hperm, hbefore, hsort⟩ := exists_ordered rows
  have hmap : ordered.map (·.1.2) = (rows.mergeSort fun a b => a.1 ≤ b.1).map (·.2) := by
    rw [← hsort, List.map_map]
    rfl
  constructor
  · rintro ⟨ordered', hperm', hbefore', rfl⟩
    have heq : ordered' = ordered := (hperm'.trans hperm.symm).eq_of_pairwise
      (fun a b _ _ hab hba => absurd hba hab.asymm) hbefore' hbefore
    rw [heq, hmap]
  · rintro rfl
    exact ⟨ordered, hperm, hbefore, hmap.symm⟩

/-! ## Tables -/

/-- Every text is read as a table of pins, whatever else it holds. It is read if each of its rows
compiles, and the result has one set for each row, of the width of the host and never without a CPU,
by number and position. Otherwise the error is about the first row of the text that does not
compile. -/
theorem vcpupin_eq_of_rows (out : String) (maxCpu : ℕ) :
    ∃ rows, (∀ rows', Rows (linesOf out) rows' ↔ rows' = rows) ∧
      ((∃ sets, vcpupin out maxCpu = .ok sets) ↔ ∀ row ∈ rows, ∃ e, Compiles maxCpu row e) ∧
      (∀ sets, vcpupin out maxCpu = .ok sets ↔
        ∃ compiled, List.Forall₂ (Compiles maxCpu) rows compiled ∧ ByVcpu compiled sets) ∧
      (∀ sets, vcpupin out maxCpu = .ok sets → sets.length = rows.length ∧
        ∀ set ∈ sets, set.width = maxCpu ∧ set.count ≠ 0) ∧
      ∀ e, vcpupin out maxCpu = .error e ↔ ∃ front row back refusal,
        rows = front ++ row :: back ∧ (∀ r ∈ front, ∃ e, Compiles maxCpu r e) ∧
        IsRefused maxCpu row refusal ∧ e = refusalOf row.1 refusal := by
  generalize hrows : ((linesOf out).map trim).filterMap pinRow = rows
  have hok : ∀ sets, vcpupin out maxCpu = .ok sets ↔
      ∃ compiled, List.Forall₂ (Compiles maxCpu) rows compiled ∧ ByVcpu compiled sets := by
    intro sets
    rw [vcpupin, hrows]
    simp only [← compileRows_eq_ok_iff, byVcpu_iff]
    cases compileRows maxCpu rows <;> simp [Except.map, eq_comm]
  refine ⟨rows, fun rows' => ?_, ?_, hok, fun sets h => ?_, fun e => ?_⟩
  · rw [rows_iff, hrows]
  · rw [← exists_forall₂_compiles_iff]
    constructor
    · rintro ⟨sets, h⟩
      obtain ⟨compiled, hcompiled, -⟩ := (hok sets).1 h
      exact ⟨compiled, hcompiled⟩
    · rintro ⟨compiled, hcompiled⟩
      exact ⟨_, (hok _).2 ⟨compiled, hcompiled, byVcpu_iff.2 rfl⟩⟩
  · obtain ⟨compiled, hcompiled, hsets⟩ := (hok sets).1 h
    obtain rfl := byVcpu_iff.1 hsets
    refine ⟨?_, fun set hset => ?_⟩
    · rw [List.length_map, List.length_mergeSort, hcompiled.length_eq]
    · obtain ⟨e, he, rfl⟩ := List.mem_map.1 hset
      exact width_of_compiles hcompiled e (List.mem_mergeSort.1 he)
  · rw [← compileRows_eq_error_iff, vcpupin, hrows]
    cases compileRows maxCpu rows <;> simp [Except.map]

end VcpuPinning.Virsh.Output
