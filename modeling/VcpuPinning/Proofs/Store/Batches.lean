import VcpuPinning.Proofs.Store.Reports

/-!
# Batches of reports

Reports one after the other, in any store, also one with rows that cannot be read. What a report is
answered and what its row is then depend on the row before it alone (`take_fst`,
`row?_take_self`). Reports under keys of their own do not see one another (`fst_takeEach`,
`row?_takeEach_self`), so that their order does not matter (`snd_takeEach_of_perm`), and a report
that agrees with one of them is unchanged after them unless the row cannot be read
(`answer_rowAfter`).
-/

namespace VcpuPinning.Store

/-- A store is told by its rows and its numbers. -/
theorem ext_row? {s s' : Store} (hrows : ∀ t key, s.row? t key = s'.row? t key)
    (hnumbers : s.sequences = s'.sequences) : s = s' := by
  obtain ⟨hosts, instances, mappings, sequences⟩ := s
  obtain ⟨hosts', instances', mappings', sequences'⟩ := s'
  obtain rfl : hosts = hosts' := SortedMap.ext_get? (hrows .hosts)
  obtain rfl : instances = instances' := SortedMap.ext_get? (hrows .instances)
  obtain rfl : mappings = mappings' := SortedMap.ext_get? (hrows .mappings)
  obtain rfl : sequences = sequences' := hnumbers
  rfl

namespace ReportKind

variable {α : Type} (k : ReportKind α)

/-! ## One report -/

/-- What a report is answered, by the row under its key. -/
def answer (a : α) : Option String → Except StoreError Upsert
  | none => .ok .created
  | some row =>
    match decode k.ofJson? row with
    | .error e => .error e
    | .ok b =>
      match k.changes a b with
      | [] => .ok .unchanged
      | fields => .ok (.updated fields)

/-- The row under the key of a report after it was taken. A row that cannot be read stays. -/
def rowAfter (a : α) : Option String → String
  | none => encode k.toJson a
  | some row =>
    match k.answer a (some row) with
    | .ok (.updated _) => encode k.toJson a
    | _ => row

/-- The row cannot be read, or a report agrees with it, or differs. -/
theorem answer_cases (a : α) (row : String) :
    (∃ e, decode k.ofJson? row = .error e ∧ k.answer a (some row) = .error e ∧
      k.rowAfter a (some row) = row) ∨
    (∃ b, decode k.ofJson? row = .ok b ∧ k.changes a b = [] ∧
      k.answer a (some row) = .ok .unchanged ∧ k.rowAfter a (some row) = row) ∨
    ∃ b field fields, decode k.ofJson? row = .ok b ∧ k.changes a b = field :: fields ∧
      k.answer a (some row) = .ok (.updated (field :: fields)) ∧
      k.rowAfter a (some row) = encode k.toJson a := by
  cases hd : decode k.ofJson? row with
  | error e =>
    have ha : k.answer a (some row) = .error e := by simp [answer, hd]
    exact .inl ⟨e, rfl, ha, by rw [rowAfter, ha]⟩
  | ok b =>
    cases hc : k.changes a b with
    | nil =>
      have ha : k.answer a (some row) = .ok .unchanged := by simp [answer, hd, hc]
      exact .inr (.inl ⟨b, rfl, hc, ha, by rw [rowAfter, ha]⟩)
    | cons field fields =>
      have ha : k.answer a (some row) = .ok (.updated (field :: fields)) := by
        simp [answer, hd, hc]
      exact .inr (.inr ⟨b, field, fields, rfl, hc, ha, by rw [rowAfter, ha]⟩)

/-- Taking a report looks at the row under its key, and at nothing else. -/
theorem take_by_row (a : α) (s : Store) :
    (k.take a s).1 = k.answer a (s.row? k.table (k.key a)) ∧
      (k.take a s).2.row? k.table (k.key a) =
        some (k.rowAfter a (s.row? k.table (k.key a))) := by
  unfold take upsert commit
  simp only [Transaction.run_bind, Transaction.run_record]
  cases hr : s.row? k.table (k.key a) with
  | none => exact ⟨rfl, row?_putRow_self ..⟩
  | some row =>
    rcases k.answer_cases a row with ⟨e, hd, ha, hrow⟩ | ⟨b, hd, hc, ha, hrow⟩ |
      ⟨b, field, fields, hd, hc, ha, hrow⟩ <;> rw [ha, hrow]
    · simp only [hd]
      exact ⟨rfl, hr⟩
    · simp only [hd, Except.map, hc]
      exact ⟨rfl, hr⟩
    · simp only [hd, Except.map, hc]
      exact ⟨rfl, row?_putRow_self ..⟩

theorem take_fst (a : α) (s : Store) :
    (k.take a s).1 = k.answer a (s.row? k.table (k.key a)) :=
  (k.take_by_row a s).1

theorem row?_take_self (a : α) (s : Store) :
    (k.take a s).2.row? k.table (k.key a) =
      some (k.rowAfter a (s.row? k.table (k.key a))) :=
  (k.take_by_row a s).2

/-- A report fails where the row under its key cannot be read. -/
theorem isOk_answer (a : α) (s : Store) (key : String) :
    (k.answer a (s.row? k.table key)).isOk = (find k.table k.ofJson? key s).1.isOk := by
  rw [Store.find_eq]
  cases s.row? k.table key with
  | none => rfl
  | some row =>
    rcases k.answer_cases a row with ⟨e, hd, ha, -⟩ | ⟨b, hd, -, ha, -⟩ |
      ⟨b, field, fields, hd, -, ha, -⟩ <;> rw [ha, Option.elim_some, hd] <;> rfl

variable {k} {a a' : α}

/-- Then the row stays. -/
theorem rowAfter_of_error {row? : Option String} {e : StoreError} (h : k.answer a row? = .error e) :
    some (k.rowAfter a row?) = row? := by
  cases row? with
  | none => exact nomatch h
  | some row => rw [rowAfter, h]

/-- A report changes nothing where it is written. -/
theorem changes_self (a : α) : k.changes a a = [] :=
  (k.undated_eq_iff rfl).1 rfl

/-- After a report that did not fail, the row is that of one that agrees with it. -/
theorem exists_decode_rowAfter {row? : Option String} (h : (k.answer a row?).isOk) :
    ∃ b, decode k.ofJson? (k.rowAfter a row?) = .ok b ∧ k.changes a b = [] := by
  cases row? with
  | none => exact ⟨a, k.decode_encode a, changes_self a⟩
  | some row =>
    rcases k.answer_cases a row with ⟨e, -, ha, -⟩ | ⟨b, hd, hc, -, hrow⟩ |
      ⟨b, field, fields, -, -, -, hrow⟩
    · rw [ha] at h
      exact nomatch h
    · exact ⟨b, by rwa [hrow], hc⟩
    · exact ⟨a, by rw [hrow, k.decode_encode], changes_self a⟩

/-- What a report is answered depends on what it changes alone. -/
theorem answer_congr (h : k.changes a' = k.changes a) : k.answer a' = k.answer a := by
  funext row?
  cases row? with
  | none => rfl
  | some row => rw [answer, h]; rfl

/-- After a report was taken, one that agrees with it is unchanged unless the row cannot be read. -/
theorem answer_rowAfter (h : k.changes a' = k.changes a) (row? : Option String) :
    k.answer a' (some (k.rowAfter a row?)) =
      (k.answer a row?).map fun _ => Upsert.unchanged := by
  rw [answer_congr h]
  have written : k.answer a (some (encode k.toJson a)) = .ok .unchanged := by
    simp [answer, k.decode_encode, changes_self]
  cases row? with
  | none => exact written
  | some row =>
    rcases k.answer_cases a row with ⟨e, -, ha, hrow⟩ | ⟨b, -, -, ha, hrow⟩ |
      ⟨b, field, fields, -, -, ha, hrow⟩ <;> rw [ha, hrow]
    · exact ha
    · exact ha
    · exact written

/-- Nor does it change the row. -/
theorem rowAfter_rowAfter (h : k.changes a' = k.changes a) (row? : Option String) :
    k.rowAfter a' (some (k.rowAfter a row?)) = k.rowAfter a row? := by
  rw [rowAfter, answer_rowAfter h]
  cases k.answer a row? <;> rfl

/-! ## Reports under keys of their own -/

variable {as as' : List α} {s : Store}

theorem key_ne_of_nodup (hn : ((a :: as).map k.key).Nodup) : ∀ b ∈ as, k.key b ≠ k.key a :=
  fun _ hb he => (List.nodup_cons.1 hn).1 (he ▸ List.mem_map_of_mem hb)

/-- What reports are answered, each by the row that is there before all of them. -/
def answers (k : ReportKind α) (as : List α) (s : Store) : List (Except StoreError Upsert) :=
  as.map fun a => k.answer a (s.row? k.table (k.key a))

theorem length_answers (k : ReportKind α) (as : List α) (s : Store) :
    (k.answers as s).length = as.length :=
  List.length_map _

theorem answers_perm (hp : as'.Perm as) (s : Store) : (k.answers as' s).Perm (k.answers as s) :=
  hp.map _

/-- Each report is answered as if it was the only one. -/
theorem fst_takeEach (hn : (as.map k.key).Nodup) (s : Store) :
    (k.takeEach as s).1 = k.answers as s := by
  induction as generalizing s with
  | nil => rfl
  | cons a as ih =>
    have hrest : k.answers as (k.take a s).2 = k.answers as s := by
      refine List.map_congr_left fun b hb => ?_
      rw [k.row?_take_of_ne a s (key_ne_of_nodup hn b hb)]
    rw [takeEach, take_fst, ih (List.nodup_cons.1 hn).2, hrest]
    rfl

/-- Its row is written as if it was the only one. -/
theorem row?_takeEach_self (hn : (as.map k.key).Nodup) (ha : a ∈ as) (s : Store) :
    (k.takeEach as s).2.row? k.table (k.key a) =
      some (k.rowAfter a (s.row? k.table (k.key a))) := by
  induction as generalizing s with
  | nil => exact nomatch ha
  | cons b as ih =>
    have hother := key_ne_of_nodup hn
    rw [takeEach]
    rcases List.mem_cons.1 ha with rfl | ha
    · rw [k.row?_takeEach hother, k.row?_take_self]
    · rw [ih (List.nodup_cons.1 hn).2 ha, k.row?_take_of_ne b s (hother a ha)]

/-- Other rows stay. -/
theorem row?_takeEach_other {t : Table} {key : String}
    (h : t = k.table → ∀ a ∈ as, k.key a ≠ key) (s : Store) :
    (k.takeEach as s).2.row? t key = s.row? t key := by
  by_cases ht : t = k.table
  · exact k.row?_takeEach (h ht) s t
  · rw [row?, k.rows_takeEach as s ht]
    rfl

/-- The store that reports leave is told by the rows under their keys. -/
theorem snd_takeEach_eq {s' : Store} (hn : (as.map k.key).Nodup)
    (hself : ∀ a ∈ as, s'.row? k.table (k.key a) = some (k.rowAfter a (s.row? k.table (k.key a))))
    (hother : ∀ t key, (t = k.table → ∀ a ∈ as, k.key a ≠ key) → s'.row? t key = s.row? t key)
    (hnumbers : s'.sequences = s.sequences) : (k.takeEach as s).2 = s' := by
  refine ext_row? (fun t key => ?_) ((k.sequences_takeEach as s).trans hnumbers.symm)
  by_cases h : t = k.table → ∀ a ∈ as, k.key a ≠ key
  · rw [row?_takeEach_other h, hother t key h]
  · push Not at h
    obtain ⟨rfl, a, ha, rfl⟩ := h
    rw [row?_takeEach_self hn ha, hself a ha]

/-- The order of reports does not matter to the store. -/
theorem snd_takeEach_of_perm (hn : (as.map k.key).Nodup) (hp : as'.Perm as) (s : Store) :
    (k.takeEach as' s).2 = (k.takeEach as s).2 := by
  refine snd_takeEach_eq ((hp.map k.key).nodup_iff.2 hn) (fun a ha => ?_) (fun t key h => ?_)
    (k.sequences_takeEach as s)
  · exact row?_takeEach_self hn (hp.mem_iff.1 ha) s
  · exact row?_takeEach_other (fun ht a ha => h ht a (hp.mem_iff.2 ha)) s

/-! ## Reports that agree with earlier ones -/

section Again

variable (hn : (as.map k.key).Nodup) (hn' : (as'.map k.key).Nodup)
  (h : ∀ a' ∈ as', ∃ a ∈ as, k.key a' = k.key a ∧ k.changes a' = k.changes a)
include hn hn' h

/-- Reports that agree with earlier ones leave the store as it is. -/
theorem snd_takeEach_again (s : Store) :
    (k.takeEach as' (k.takeEach as s).2).2 = (k.takeEach as s).2 := by
  refine snd_takeEach_eq hn' (fun a' ha' => ?_) (fun _ _ _ => rfl) rfl
  obtain ⟨a, ha, hk, hc⟩ := h a' ha'
  rw [hk, row?_takeEach_self hn ha, rowAfter_rowAfter hc]

/-- They are unchanged, and fail where the earlier ones failed. -/
theorem fst_takeEach_again (s : Store) :
    (k.takeEach as' (k.takeEach as s).2).1 =
      (k.answers as' s).map (Except.map fun _ => Upsert.unchanged) := by
  rw [fst_takeEach hn', answers, answers, List.map_map]
  refine List.map_congr_left fun a' ha' => ?_
  obtain ⟨a, ha, hk, hc⟩ := h a' ha'
  rw [Function.comp_apply, hk, row?_takeEach_self hn ha, answer_rowAfter hc, answer_congr hc]

end Again

end ReportKind

end VcpuPinning.Store
