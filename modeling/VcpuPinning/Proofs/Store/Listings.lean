import VcpuPinning.Proofs.Store.Reports
import VcpuPinning.Proofs.Text.Utf8

/-!
# Lists and gets

A list of a table and the gets of its keys tell the same (`Agrees`) wherever each row is one of a
record that is stored under its own key (`Owned.agrees`). Operations of the store leave no other
rows (`ReportKind.Kept`, `MappingsKept`), so this holds of all three tables after any of them.
-/

namespace VcpuPinning.Store

variable {α : Type}

/-- The records of a list are those that are found under their own keys. Each is listed once, by the
octets of the keys, ascending, and nothing is found under any other key. -/
structure Agrees (keyOf : α → String) (found : String → Except StoreError (Option α))
    (records : List α) : Prop where
  mem_iff : ∀ r, r ∈ records ↔ found (keyOf r) = .ok (some r)
  once : records.Nodup
  ascending : records.Pairwise fun a b =>
    Text.Utf8.encode (keyOf a) < Text.Utf8.encode (keyOf b)
  others : ∀ key, (∀ r ∈ records, keyOf r ≠ key) → found key = .ok none

/-! ## Tables -/

/-- Every row of a table is one of a record with its key. -/
def Owned (t : Table) (ofJson? : Json → Option α) (keyOf : α → String) (s : Store) : Prop :=
  ∀ key row, s.row? t key = some row → ∃ r, decode ofJson? row = .ok r ∧ keyOf r = key

/-- The records of the rows of a table that can be read, by key. -/
def records (t : Table) (ofJson? : Json → Option α) (s : Store) : List α :=
  (s.rows t).entries.filterMap fun e => (decode ofJson? e.2).toOption

/-- The keys of a table ascend by their octets. -/
theorem compare_eq_lt_iff {a b : String} :
    compare a b = .lt ↔ Text.Utf8.encode a < Text.Utf8.encode b := by
  rw [Text.Utf8.encode_lt_encode_iff]
  exact compareOfLessAndEq_eq_lt

/-- Rows that can all be read are listed as the records that they are read as. -/
theorem decodeAll_eq {ofJson? : Json → Option α} {rows : List String}
    (h : ∀ row ∈ rows, ∃ r, decode ofJson? row = .ok r) :
    decodeAll ofJson? rows = .ok (rows.filterMap fun row => (decode ofJson? row).toOption) := by
  induction rows with
  | nil => rfl
  | cons row rows ih =>
    obtain ⟨⟨r, hr⟩, hrows⟩ := List.forall_mem_cons.1 h
    rw [decodeAll, hr, ih hrows, List.filterMap_cons, hr]
    rfl

namespace Owned

variable {t : Table} {ofJson? : Json → Option α} {keyOf : α → String} {s : Store}

theorem list_eq (h : Owned t ofJson? keyOf s) :
    list t ofJson? s = (.ok (records t ofJson? s), s) := by
  have hrows : ∀ row ∈ (s.rows t).values, ∃ r, decode ofJson? row = .ok r := by
    intro row hrow
    obtain ⟨⟨key, row⟩, he, rfl⟩ := List.mem_map.1 hrow
    obtain ⟨r, hr, -⟩ := h key row (SortedMap.mem_entries_iff.1 he)
    exact ⟨r, hr⟩
  rw [list, decodeAll_eq hrows, SortedMap.values, List.filterMap_map]
  rfl

/-- The record that is read from an entry has the key of the entry. -/
theorem keyOf_of_decode (h : Owned t ofJson? keyOf s) {e : String × String}
    (he : e ∈ (s.rows t).entries) {r : α} (hr : (decode ofJson? e.2).toOption = some r) :
    decode ofJson? e.2 = .ok r ∧ keyOf r = e.1 := by
  obtain ⟨r', hr', hk⟩ := h e.1 e.2 (SortedMap.mem_entries_iff.1 he)
  rw [hr'] at hr ⊢
  obtain rfl : r' = r := Option.some.inj hr
  exact ⟨rfl, hk⟩

theorem mem_records_iff (h : Owned t ofJson? keyOf s) {r : α} :
    r ∈ records t ofJson? s ↔ (find t ofJson? (keyOf r) s).1 = .ok (some r) := by
  rw [find_eq, records, List.mem_filterMap]
  constructor
  · rintro ⟨e, he, hr⟩
    obtain ⟨hd, hk⟩ := h.keyOf_of_decode he hr
    have hrow : s.row? t (keyOf r) = some e.2 := hk ▸ SortedMap.mem_entries_iff.1 he
    rw [hrow, Option.elim_some, hd]
    rfl
  · intro hf
    cases hrow : s.row? t (keyOf r) with
    | none => simp [hrow] at hf
    | some row =>
      obtain ⟨r', hr', -⟩ := h _ row hrow
      obtain rfl : r' = r := by simpa [hrow, hr', Except.map] using hf
      exact ⟨(keyOf r', row), SortedMap.mem_entries_iff.2 hrow, by rw [hr']; rfl⟩

theorem ascending_records (h : Owned t ofJson? keyOf s) :
    (records t ofJson? s).Pairwise fun a b =>
      Text.Utf8.encode (keyOf a) < Text.Utf8.encode (keyOf b) := by
  refine List.pairwise_filterMap.2 ((s.rows t).sorted.imp_of_mem fun he he' hlt a ha b hb => ?_)
  rw [(h.keyOf_of_decode he ha).2, (h.keyOf_of_decode he' hb).2]
  exact compare_eq_lt_iff.1 hlt

/-- Under a key that no record has there is no row. -/
theorem find_of_others (h : Owned t ofJson? keyOf s) {key : String}
    (hk : ∀ r ∈ records t ofJson? s, keyOf r ≠ key) : (find t ofJson? key s).1 = .ok none := by
  rw [find_eq]
  cases hrow : s.row? t key with
  | none => rfl
  | some row =>
    obtain ⟨r, hr, rfl⟩ := h key row hrow
    have hfound : (find t ofJson? (keyOf r) s).1 = .ok (some r) := by
      rw [find_eq, hrow, Option.elim_some, hr]
      rfl
    exact absurd rfl (hk r (h.mem_records_iff.2 hfound))

/-- Where every row is one of a record with its key, the list of a table agrees with its gets. -/
theorem agrees (h : Owned t ofJson? keyOf s) :
    Agrees keyOf (fun key => (find t ofJson? key s).1) (records t ofJson? s) where
  mem_iff _ := h.mem_records_iff
  once := by
    refine List.Pairwise.imp (fun {a b} hlt he => ?_) h.ascending_records
    rw [he] at hlt
    exact List.lt_irrefl _ hlt
  ascending := h.ascending_records
  others _ hk := h.find_of_others hk

end Owned

/-! ## Operations -/

theorem ReportKind.Kept.owned {k : ReportKind α} {s : Store} (h : k.Kept s) :
    Owned k.table k.ofJson? k.key s := by
  intro key row hrow
  obtain ⟨r, rfl, hk⟩ := h key row hrow
  exact ⟨r, k.decode_encode r, hk⟩

theorem MappingsKept.owned {s : Store} (h : s.MappingsKept) :
    Owned .mappings Mapping.ofJson? Mapping.instanceUuid s := by
  intro key row hrow
  obtain ⟨m, rfl, hk⟩ := h key row hrow
  exact ⟨m, decode_encode m, hk⟩

theorem MappingsKept.after {s : Store} (h : s.MappingsKept) (steps : List Step) :
    (s.after steps).MappingsKept := by
  induction steps generalizing s with
  | nil => exact h
  | cons step steps ih => exact ih (h.writes (writes_perform ..))

/-- After any operations on an empty store each list tells the records that the gets of their own
keys find, each once and by the octets of the keys, and the gets of all other keys find nothing. -/
theorem lists_agree_with_gets (steps : List Step) : ∃ hosts instances mappings,
    ((after .empty steps).listHosts.1 = .ok hosts ∧
      Agrees Host.name (fun name => ((after .empty steps).getHost name).1) hosts) ∧
    ((after .empty steps).listInstances.1 = .ok instances ∧
      Agrees Instance.uuid (fun uuid => ((after .empty steps).getInstance uuid).1) instances) ∧
    (after .empty steps).listMappings.1 = .ok mappings ∧
      Agrees Mapping.instanceUuid (fun uuid => ((after .empty steps).getMapping uuid).1)
        mappings := by
  have hhosts := (ReportKind.Kept.after (k := hostReports) .empty steps).owned
  have hinstances := (ReportKind.Kept.after (k := instanceReports) .empty steps).owned
  have hmappings := (MappingsKept.empty.after steps).owned
  exact ⟨_, _, _, ⟨congrArg Prod.fst hhosts.list_eq, hhosts.agrees⟩,
    ⟨congrArg Prod.fst hinstances.list_eq, hinstances.agrees⟩,
    congrArg Prod.fst hmappings.list_eq, hmappings.agrees⟩

end VcpuPinning.Store
