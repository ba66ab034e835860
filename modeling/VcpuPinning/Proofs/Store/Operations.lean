import VcpuPinning.Proofs.Store.Mappings

/-!
# The operations of the store

An `Operation` is one transaction of the store, and `Writes` says all that it can do to the rows
and to the numbers (`writes_perform`). The main statement, `atomic_and_framed`, is that an operation
that fails does nothing, and that one that succeeds changes at most the row that it is about, and
the last mapping number if it creates a mapping. It holds of any store, also of one with rows that
are no records.
-/

namespace VcpuPinning.Store

/-! ## Operations -/

/-- A transaction of the store. -/
inductive Operation where
  | upsertHost (host : Host)
  | getHost (name : String)
  | listHosts
  | upsertInstance (inst : Instance)
  | getInstance (uuid : String)
  | listInstances
  | createMapping (draft : Draft)
  | getMapping (uuid : String)
  | listMappings
  /-- Change the mapping of an instance, in any way. -/
  | updateMapping (uuid : String) (change : Mapping → Mapping)
  | deleteMapping (uuid : String)

namespace Operation

/-- What an operation answers with if it succeeds. -/
@[reducible] def Value : Operation → Type
  | upsertHost _ => Upsert
  | getHost _ => Option Host
  | listHosts => List Host
  | upsertInstance _ => Upsert
  | getInstance _ => Option Instance
  | listInstances => List Instance
  | createMapping _ => Mapping
  | getMapping _ => Option Mapping
  | listMappings => List Mapping
  | updateMapping _ _ => Mapping
  | deleteMapping _ => Bool

/-- Carry out an operation at a time. -/
def perform (now : UInt64) (s : Store) : (op : Operation) → Except StoreError op.Value × Store
  | upsertHost host => s.upsertHost host
  | getHost name => s.getHost name
  | listHosts => s.listHosts
  | upsertInstance inst => s.upsertInstance inst
  | getInstance uuid => s.getInstance uuid
  | listInstances => s.listInstances
  | createMapping draft => s.createMapping draft now
  | getMapping uuid => s.getMapping uuid
  | listMappings => s.listMappings
  | updateMapping uuid change => s.updateMapping uuid change now
  | deleteMapping uuid => s.deleteMapping uuid

/-- The table and the key of the row that an operation may write. -/
def target? : Operation → Option (Table × String)
  | upsertHost host => some (.hosts, host.name)
  | upsertInstance inst => some (.instances, inst.uuid)
  | createMapping draft => some (.mappings, draft.instanceUuid)
  | updateMapping uuid _ => some (.mappings, uuid)
  | deleteMapping uuid => some (.mappings, uuid)
  | _ => none

/-- The operation takes a report. -/
def IsReport : Operation → Prop
  | upsertHost _ => True
  | upsertInstance _ => True
  | _ => False

/-- The operation numbers a new mapping. -/
def IsCreate : Operation → Prop
  | createMapping _ => True
  | _ => False

theorem IsReport.table_ne {op : Operation} (h : op.IsReport) :
    (op.target?.map (·.1)) ≠ some .mappings := by
  cases op with
  | upsertHost host => exact nofun
  | upsertInstance inst => exact nofun
  | _ => exact h.elim

theorem IsReport.not_isCreate {op : Operation} (h : op.IsReport) : ¬ op.IsCreate := by
  cases op with
  | createMapping draft => exact h.elim
  | _ => exact id

/-- The answer to a get or a list, or to a report that agrees with the stored one. -/
def Quiet : (op : Operation) → Except StoreError op.Value → Prop
  | upsertHost _, r => r = .ok .unchanged
  | upsertInstance _, r => r = .ok .unchanged
  | createMapping _, _ => False
  | updateMapping _ _, _ => False
  | deleteMapping _, _ => False
  | _, _ => True

end Operation

/-! ## What an operation does -/

/-- All that an operation can do, with what it answers. -/
inductive Writes (now : UInt64) (s : Store) :
    (op : Operation) → Except StoreError op.Value → Store → Prop
  | fails {op : Operation} (e : StoreError) : Writes now s op (.error e) s
  | reads {op : Operation} (a : op.Value) (quiet : op.Quiet (.ok a)) : Writes now s op (.ok a) s
  | hostReported (host : Host) (outcome : Upsert) (changed : outcome ≠ .unchanged) :
      Writes now s (.upsertHost host) (.ok outcome)
        (s.putRow .hosts host.name (encode Host.toJson host))
  | instanceReported (inst : Instance) (outcome : Upsert) (changed : outcome ≠ .unchanged) :
      Writes now s (.upsertInstance inst) (.ok outcome)
        (s.putRow .instances inst.uuid (encode Instance.toJson inst))
  | created (draft : Draft) (fresh : s.row? .mappings draft.instanceUuid = none) :
      Writes now s (.createMapping draft) (.ok (draft.toMapping s.nextMappingNumber now))
        ((s.withNumber s.nextMappingNumber).withMapping
          (draft.toMapping s.nextMappingNumber now))
  | updated (uuid : String) (change : Mapping → Mapping) (m : Mapping)
      (found : s.mapping? uuid = some m) (allowed : m.status.canBecome (change m).status) :
      Writes now s (.updateMapping uuid change) (.ok (stamped m (change m) now))
        (s.putRow .mappings uuid (encode Mapping.toJson (stamped m (change m) now)))
  | deleted (uuid : String) (existed : Bool) :
      Writes now s (.deleteMapping uuid) (.ok existed) (s.dropRow .mappings uuid)

variable (now : UInt64) (s : Store)

theorem createMapping_cases (draft : Draft) :
    (∃ e, s.createMapping draft now = (.error e, s)) ∨
    s.row? .mappings draft.instanceUuid = none ∧ s.createMapping draft now =
      (.ok (draft.toMapping s.nextMappingNumber now),
        (s.withNumber s.nextMappingNumber).withMapping
          (draft.toMapping s.nextMappingNumber now)) := by
  rw [createMapping_eq]
  cases s.row? .mappings draft.instanceUuid with
  | some row => exact .inl ⟨_, rfl⟩
  | none => exact .inr ⟨rfl, rfl⟩

theorem updateMapping_cases (uuid : String) (change : Mapping → Mapping) :
    (∃ e, s.updateMapping uuid change now = (.error e, s)) ∨
    ∃ m, s.mapping? uuid = some m ∧ m.status.canBecome (change m).status ∧
      s.updateMapping uuid change now = (.ok (stamped m (change m) now),
        s.putRow .mappings uuid (encode Mapping.toJson (stamped m (change m) now))) := by
  cases hm : s.mapping? uuid with
  | none => exact .inl (updateMapping_of_none hm change now)
  | some m =>
    rw [updateMapping_eq hm]
    by_cases hs : m.status.canBecome (change m).status
    · exact .inr ⟨m, rfl, hs, if_pos hs⟩
    · exact .inl ⟨_, if_neg hs⟩

variable {now s} in
/-- An operation that leaves the store as it is and answers quietly. -/
theorem Writes.of_eq {op : Operation} {r : Except StoreError op.Value × Store} (hs : r.2 = s)
    (hq : ∀ a, op.Quiet (.ok a)) : Writes now s op r.1 r.2 := by
  rw [hs]
  cases r.1 with
  | error e => exact .fails e
  | ok a => exact .reads a (hq a)

/-- Every operation does one of these. -/
theorem writes_perform (op : Operation) :
    Writes now s op (op.perform now s).1 (op.perform now s).2 := by
  cases op with
  | upsertHost host =>
    rcases upsert_cases .hosts Host.toJson Host.ofJson? Host.changes host.name host s with
      ⟨e, h⟩ | h | ⟨outcome, ho, h⟩ <;> rw [Operation.perform, upsertHost, h]
    · exact .fails e
    · exact .reads _ rfl
    · exact .hostReported host outcome ho
  | upsertInstance inst =>
    rcases upsert_cases .instances Instance.toJson Instance.ofJson? Instance.changes inst.uuid inst
      s with ⟨e, h⟩ | h | ⟨outcome, ho, h⟩ <;> rw [Operation.perform, upsertInstance, h]
    · exact .fails e
    · exact .reads _ rfl
    · exact .instanceReported inst outcome ho
  | createMapping draft =>
    rcases createMapping_cases now s draft with ⟨e, h⟩ | ⟨fresh, h⟩ <;> rw [Operation.perform, h]
    · exact .fails e
    · exact .created draft fresh
  | updateMapping uuid change =>
    rcases updateMapping_cases now s uuid change with ⟨e, h⟩ | ⟨m, found, allowed, h⟩ <;>
      rw [Operation.perform, h]
    · exact .fails e
    · exact .updated uuid change m found allowed
  | deleteMapping uuid =>
    rw [Operation.perform, deleteMapping_eq_dropRow]
    exact .deleted uuid _
  | getHost name => exact .of_eq (find_snd ..) fun _ => trivial
  | getInstance uuid => exact .of_eq (find_snd ..) fun _ => trivial
  | getMapping uuid => exact .of_eq (find_snd ..) fun _ => trivial
  | listHosts => exact .of_eq rfl fun _ => trivial
  | listInstances => exact .of_eq rfl fun _ => trivial
  | listMappings => exact .of_eq rfl fun _ => trivial

/-! ## What it leaves alone -/

/-- The later store agrees with the earlier one on all that an operation is not about. -/
structure Framed (op : Operation) (s s' : Store) : Prop where
  rows : ∀ t key, op.target? ≠ some (t, key) → s'.row? t key = s.row? t key
  tables : ∀ t, (op.target?.map (·.1)) ≠ some t → s'.rows t = s.rows t
  sequences : ¬ op.IsCreate → s'.sequences = s.sequences
  numbers : ∀ name, name ≠ mappingSequence → s'.sequences.get? name = s.sequences.get? name

namespace Framed

variable {op : Operation}

variable {s} in
theorem refl : Framed op s s :=
  ⟨fun _ _ _ => rfl, fun _ _ => rfl, fun _ => rfl, fun _ _ => rfl⟩

/-- Other rows in the table that an operation writes. -/
theorem withRows {t : Table} {key : String} (ht : op.target? = some (t, key))
    {rows : SortedMap String String} (h : ∀ k ≠ key, rows.get? k = (s.rows t).get? k) :
    Framed op s (s.withRows t rows) where
  rows u k hne := by
    by_cases hu : u = t
    · subst hu
      rw [row?, rows_withRows_self, h k (by rintro rfl; exact hne ht)]
      rfl
    · rw [row?, rows_withRows_of_ne s hu]
      rfl
  tables u hne := rows_withRows_of_ne s (by rintro rfl; exact hne (by rw [ht]; rfl)) rows
  sequences _ := sequences_withRows s t rows
  numbers _ _ := by rw [sequences_withRows]

theorem putRow {t : Table} {key : String} (ht : op.target? = some (t, key)) (row : String) :
    Framed op s (s.putRow t key row) :=
  withRows s ht fun _ hk => SortedMap.get?_insert_of_ne hk row

theorem dropRow {t : Table} {key : String} (ht : op.target? = some (t, key)) :
    Framed op s (s.dropRow t key) :=
  withRows s ht fun _ hk => SortedMap.get?_erase_of_ne hk

/-- A create may change the last mapping number as well. -/
theorem withNumber {number : UInt64} {s' : Store} (hc : op.IsCreate)
    (h : Framed op (s.withNumber number) s') : Framed op s s' where
  rows t key hne := (h.rows t key hne).trans (by cases t <;> rfl)
  tables t hne := (h.tables t hne).trans (by cases t <;> rfl)
  sequences hn := absurd hc hn
  numbers name hne := (h.numbers name hne).trans (SortedMap.get?_insert_of_ne hne number)

end Framed

variable {now s}

theorem Writes.framed {op : Operation} {r : Except StoreError op.Value} {s' : Store}
    (h : Writes now s op r s') : Framed op s s' := by
  cases h with
  | fails e => exact .refl
  | reads a quiet => exact .refl
  | hostReported host outcome changed => exact .putRow s rfl _
  | instanceReported inst outcome changed => exact .putRow s rfl _
  | created draft fresh => exact .withNumber s trivial (.putRow _ rfl _)
  | updated uuid change m found allowed => exact .putRow s rfl _
  | deleted uuid existed => exact .dropRow s rfl

theorem Writes.eq_of_error {op : Operation} {e : StoreError} {s' : Store}
    (h : Writes now s op (.error e) s') : s' = s := by
  cases h
  rfl

theorem Writes.eq_of_quiet {op : Operation} {r : Except StoreError op.Value} {s' : Store}
    (h : Writes now s op r s') (hq : op.Quiet r) : s' = s := by
  cases h with
  | fails e => rfl
  | reads a quiet => rfl
  | hostReported host outcome changed => exact absurd (Except.ok.inj hq) changed
  | instanceReported inst outcome changed => exact absurd (Except.ok.inj hq) changed
  | created draft fresh => exact hq.elim
  | updated uuid change m found allowed => exact hq.elim
  | deleted uuid existed => exact hq.elim

/-- An operation that fails leaves the store as it is, and so do gets, lists and reports that agree
with the stored ones. Any other changes at most the row that it is about, and the last mapping
number if it creates a mapping; a report changes neither a mapping nor a number. -/
theorem atomic_and_framed (now : UInt64) (s : Store) (op : Operation) :
    (∀ e, (op.perform now s).1 = .error e → (op.perform now s).2 = s) ∧
    (op.Quiet (op.perform now s).1 → (op.perform now s).2 = s) ∧
    Framed op s (op.perform now s).2 ∧
    (op.IsReport → (op.perform now s).2.mappings = s.mappings ∧
      (op.perform now s).2.sequences = s.sequences) := by
  have h := writes_perform now s op
  refine ⟨fun e he => (he ▸ h).eq_of_error, h.eq_of_quiet, h.framed, fun hr => ⟨?_, ?_⟩⟩
  · exact h.framed.tables .mappings hr.table_ne
  · exact h.framed.sequences hr.not_isCreate

end VcpuPinning.Store
