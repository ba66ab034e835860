import VcpuPinning.Proofs.Json.Records
import VcpuPinning.Proofs.Store.Transactions
import VcpuPinning.Store

/-!
# The mappings of a store

`Store.mapping?` is the view of the table of mappings : the mapping that the row of an instance is
the written form of. In a store that the service wrote every row has one (`MappingsKept`), and
each operation on mappings is described through the view by one equation.
-/

namespace VcpuPinning.Store

/-! ## The view -/

/-- The mapping of an instance, if there is a row of one. -/
def mapping? (s : Store) (uuid : String) : Option Mapping :=
  (s.row? .mappings uuid).bind fun row => (decode Mapping.ofJson? row).toOption

/-- Every row of a mapping is the written form of a mapping of its instance. -/
def MappingsKept (s : Store) : Prop :=
  ∀ uuid row, s.row? .mappings uuid = some row →
    ∃ m : Mapping, row = encode Mapping.toJson m ∧ m.instanceUuid = uuid

/-- The mapping is the one that is stored for its instance. -/
def Holds (s : Store) (m : Mapping) : Prop :=
  s.mapping? m.instanceUuid = some m

/-- The store with a mapping in the place of any other of its instance. -/
def withMapping (s : Store) (m : Mapping) : Store :=
  s.putRow .mappings m.instanceUuid (encode Mapping.toJson m)

/-- The store with another last mapping number. -/
def withNumber (s : Store) (number : UInt64) : Store :=
  { s with sequences := s.sequences.insert mappingSequence number }

/-- The number of the next mapping. -/
def nextMappingNumber (s : Store) : UInt64 :=
  (s.sequences.get? mappingSequence).getD 0 + 1

/-- A mapping is read back from its row. -/
@[simp] theorem decode_encode (m : Mapping) :
    decode Mapping.ofJson? (encode Mapping.toJson m) = .ok m := by
  simp [decode, encode, Json.parse?_toText m.spelled_toJson, Mapping.ofJson?_toJson]

theorem row?_putRow_self (s : Store) (t : Table) (key row : String) :
    (s.putRow t key row).row? t key = some row := by
  simp [row?, putRow]

theorem row?_putRow_of_ne (s : Store) (t : Table) {key k : String} (h : k ≠ key) (row : String) :
    (s.putRow t key row).row? t k = s.row? t k := by
  simp [row?, putRow, SortedMap.get?_insert_of_ne h]

theorem row?_dropRow_self (s : Store) (t : Table) (key : String) :
    (s.dropRow t key).row? t key = none := by
  simp [row?, dropRow]

theorem row?_dropRow_of_ne (s : Store) (t : Table) {key k : String} (h : k ≠ key) :
    (s.dropRow t key).row? t k = s.row? t k := by
  simp [row?, dropRow, SortedMap.get?_erase_of_ne h]

@[simp] theorem mapping?_withMapping_self (s : Store) (m : Mapping) :
    (s.withMapping m).mapping? m.instanceUuid = some m := by
  simp [mapping?, withMapping, row?_putRow_self, Except.toOption]

theorem holds_withMapping (s : Store) (m : Mapping) : (s.withMapping m).Holds m :=
  mapping?_withMapping_self s m

theorem isSome_mapping?_withMapping (s : Store) (m : Mapping) :
    ((s.withMapping m).mapping? m.instanceUuid).isSome := by
  simp

theorem mapping?_withMapping_of_ne (s : Store) (m : Mapping) {uuid : String}
    (h : uuid ≠ m.instanceUuid) : (s.withMapping m).mapping? uuid = s.mapping? uuid := by
  simp [mapping?, withMapping, row?_putRow_of_ne s _ h]

@[simp] theorem mapping?_dropRow_self (s : Store) (uuid : String) :
    (s.dropRow .mappings uuid).mapping? uuid = none := by
  simp [mapping?, row?_dropRow_self]

theorem mapping?_dropRow_of_ne (s : Store) {uuid other : String} (h : other ≠ uuid) :
    (s.dropRow .mappings uuid).mapping? other = s.mapping? other := by
  simp [mapping?, row?_dropRow_of_ne s _ h]

theorem mapping?_withMapping (s : Store) (m : Mapping) :
    (s.withMapping m).mapping? = Function.update s.mapping? m.instanceUuid (some m) := by
  funext uuid
  by_cases hu : uuid = m.instanceUuid
  · subst hu
    simp
  · rw [mapping?_withMapping_of_ne s m hu, Function.update_of_ne hu]

/-- Of two mappings of one instance the later one is stored. -/
theorem withMapping_withMapping (s : Store) {m m' : Mapping}
    (h : m'.instanceUuid = m.instanceUuid) :
    (s.withMapping m).withMapping m' = s.withMapping m' := by
  simp only [withMapping, putRow, rows_withRows_self, h, SortedMap.insert_insert]
  rfl

theorem mapping?_withMapping_withMapping (s : Store) {m m' : Mapping}
    (h : m'.instanceUuid = m.instanceUuid) : ((s.withMapping m).withMapping m').mapping? =
      Function.update s.mapping? m.instanceUuid (some m') := by
  rw [withMapping_withMapping s h, mapping?_withMapping, h]

theorem mapping?_dropRow (s : Store) (uuid : String) :
    (s.dropRow .mappings uuid).mapping? = Function.update s.mapping? uuid none := by
  funext other
  by_cases hu : other = uuid
  · subst hu
    simp
  · rw [mapping?_dropRow_of_ne s hu, Function.update_of_ne hu]

/-- Stores with the same rows of mappings have the same mappings. -/
theorem mapping?_congr {s s' : Store} (h : s'.mappings = s.mappings) :
    s'.mapping? = s.mapping? := by
  funext uuid
  simp [mapping?, row?, rows, h]

/-! ## What the operations keep -/

namespace MappingsKept

variable {s : Store}

theorem empty : MappingsKept empty := by
  intro uuid row h
  simp [row?, rows, Store.empty] at h

theorem congr {s' : Store} (h : s.MappingsKept) (he : s'.mappings = s.mappings) :
    s'.MappingsKept := by
  intro uuid row hr
  exact h uuid row (by simpa [row?, rows, he] using hr)

theorem withNumber (h : s.MappingsKept) (number : UInt64) :
    (s.withNumber number).MappingsKept :=
  h

theorem withMapping (h : s.MappingsKept) (m : Mapping) : (s.withMapping m).MappingsKept := by
  intro uuid row hr
  by_cases hu : uuid = m.instanceUuid
  · subst hu
    rw [Store.withMapping, row?_putRow_self] at hr
    exact ⟨m, (Option.some.inj hr).symm, rfl⟩
  · rw [Store.withMapping, row?_putRow_of_ne s _ hu] at hr
    exact h uuid row hr

theorem dropRow (h : s.MappingsKept) (uuid : String) :
    (s.dropRow .mappings uuid).MappingsKept := by
  intro other row hr
  by_cases hu : other = uuid
  · subst hu
    simp [row?_dropRow_self] at hr
  · rw [row?_dropRow_of_ne s _ hu] at hr
    exact h other row hr

/-- The row of a mapping is its written form. -/
theorem row?_of_mapping? (h : s.MappingsKept) {uuid : String} {m : Mapping}
    (hm : s.mapping? uuid = some m) : s.row? .mappings uuid = some (encode Mapping.toJson m) := by
  obtain ⟨row, hr, hd⟩ := Option.bind_eq_some_iff.1 hm
  obtain ⟨m', rfl, -⟩ := h uuid row hr
  obtain rfl : m' = m := by simpa [Except.toOption] using hd
  exact hr

theorem instanceUuid_of_mapping? (h : s.MappingsKept) {uuid : String} {m : Mapping}
    (hm : s.mapping? uuid = some m) : m.instanceUuid = uuid := by
  obtain ⟨m', he, hu⟩ := h uuid _ (h.row?_of_mapping? hm)
  have hd := decode_encode m
  rw [he, decode_encode] at hd
  rw [← Except.ok.inj hd, hu]

/-- A mapping that is found is stored for its own instance. -/
theorem holds (h : s.MappingsKept) {uuid : String} {m : Mapping} (hm : s.mapping? uuid = some m) :
    s.Holds m := by
  rwa [Holds, h.instanceUuid_of_mapping? hm]

theorem row?_of_mapping?_eq_none (h : s.MappingsKept) {uuid : String}
    (hm : s.mapping? uuid = none) : s.row? .mappings uuid = none := by
  cases hr : s.row? .mappings uuid with
  | none => rfl
  | some row =>
    obtain ⟨m, rfl, -⟩ := h uuid row hr
    simp [mapping?, hr, Except.toOption] at hm

end MappingsKept

/-! ## The operations through the view -/

variable {s : Store}

theorem record_of_mapping? {uuid : String} {m : Mapping} (hm : s.mapping? uuid = some m) :
    (Transaction.record .mappings uuid Mapping.ofJson?).run.run s = (.ok (some m), s) := by
  obtain ⟨row, hr, hd⟩ := Option.bind_eq_some_iff.1 hm
  rw [Transaction.run_record, hr]
  cases hrow : decode Mapping.ofJson? row with
  | error e => simp [hrow, Except.toOption] at hd
  | ok m' =>
    obtain rfl : m' = m := by simpa [hrow, Except.toOption] using hd
    simp [Except.map, hrow]

theorem record_mapping (h : s.MappingsKept) (uuid : String) :
    (Transaction.record .mappings uuid Mapping.ofJson?).run.run s =
      (.ok (s.mapping? uuid), s) := by
  cases hm : s.mapping? uuid with
  | none => rw [Transaction.run_record, h.row?_of_mapping?_eq_none hm]
  | some m => exact record_of_mapping? hm

theorem getMapping_of_some {uuid : String} {m : Mapping} (hm : s.mapping? uuid = some m) :
    s.getMapping uuid = (.ok (some m), s) := by
  rw [getMapping, find, commit, record_of_mapping? hm]

theorem getMapping_eq (h : s.MappingsKept) (uuid : String) :
    s.getMapping uuid = (.ok (s.mapping? uuid), s) := by
  rw [getMapping, find, commit, record_mapping h]

/-- A mapping is created with the next number unless its instance has a row. -/
theorem createMapping_eq (s : Store) (draft : Draft) (now : UInt64) :
    s.createMapping draft now =
      if (s.row? .mappings draft.instanceUuid).isSome then
        (.error (.alreadyExists (mappingOf draft.instanceUuid)), s)
      else
        (.ok (draft.toMapping s.nextMappingNumber now),
          (s.withNumber s.nextMappingNumber).withMapping
            (draft.toMapping s.nextMappingNumber now)) := by
  unfold createMapping commit
  simp only [Transaction.run_bind, Transaction.run_fetch]
  cases s.row? .mappings draft.instanceUuid with
  | some row => rfl
  | none => rfl

/-- A new mapping is pending, and takes the next number. -/
theorem createMapping_of_none (h : s.MappingsKept) {draft : Draft}
    (hm : s.mapping? draft.instanceUuid = none) (now : UInt64) :
    s.createMapping draft now =
      (.ok (draft.toMapping s.nextMappingNumber now),
        (s.withNumber s.nextMappingNumber).withMapping
          (draft.toMapping s.nextMappingNumber now)) := by
  have hr := h.row?_of_mapping?_eq_none hm
  rw [createMapping_eq, if_neg (by simp [hr])]

theorem createMapping_of_some (h : s.MappingsKept) {draft : Draft} {m : Mapping}
    (hm : s.mapping? draft.instanceUuid = some m) (now : UInt64) :
    s.createMapping draft now = (.error (.alreadyExists (mappingOf draft.instanceUuid)), s) := by
  have hr := h.row?_of_mapping? hm
  rw [createMapping_eq, if_pos (by simp [hr])]

/-- A mapping that cannot be read cannot be changed. -/
theorem updateMapping_of_none {uuid : String} (hm : s.mapping? uuid = none)
    (change : Mapping → Mapping) (now : UInt64) :
    ∃ e, s.updateMapping uuid change now = (.error e, s) := by
  unfold updateMapping commit
  simp only [Transaction.run_bind, Transaction.run_record]
  unfold mapping? at hm
  cases hr : s.row? .mappings uuid with
  | none => exact ⟨_, rfl⟩
  | some row =>
    rw [hr, Option.bind_some] at hm
    cases hd : decode Mapping.ofJson? row with
    | error e =>
      simp only [hd]
      exact ⟨e, rfl⟩
    | ok m => simp [hd, Except.toOption] at hm

/-- A change is written with the identity of the stored mapping if it is allowed, and is refused
otherwise. -/
theorem updateMapping_eq {uuid : String} {m : Mapping} (hm : s.mapping? uuid = some m)
    (change : Mapping → Mapping) (now : UInt64) :
    s.updateMapping uuid change now =
      if m.status.canBecome (change m).status then
        (.ok (stamped m (change m) now),
          s.putRow .mappings uuid (encode Mapping.toJson (stamped m (change m) now)))
      else (.error (.invalidTransition uuid m.status.word (change m).status.word), s) := by
  unfold updateMapping commit
  simp only [Transaction.run_bind, record_of_mapping? hm]
  by_cases hs : m.status.canBecome (change m).status
  · simp only [hs, Bool.not_true, Bool.false_eq_true, ↓reduceIte]
    rfl
  · simp only [hs, Bool.not_false, Bool.false_eq_true, ↓reduceIte]
    rfl

/-- An allowed change is written with the identity of the stored mapping. -/
theorem updateMapping_of_holds {m : Mapping} (hm : s.Holds m) {change : Mapping → Mapping}
    (hs : m.status.canBecome (change m).status) (now : UInt64) :
    s.updateMapping m.instanceUuid change now =
      (.ok (stamped m (change m) now), s.withMapping (stamped m (change m) now)) := by
  rw [updateMapping_eq hm, if_pos hs]
  rfl

theorem updateMapping_of_some (h : s.MappingsKept) {uuid : String} {m : Mapping}
    (hm : s.mapping? uuid = some m) {change : Mapping → Mapping}
    (hs : m.status.canBecome (change m).status) (now : UInt64) :
    s.updateMapping uuid change now =
      (.ok (stamped m (change m) now), s.withMapping (stamped m (change m) now)) := by
  obtain rfl := h.instanceUuid_of_mapping? hm
  exact updateMapping_of_holds hm hs now

theorem deleteMapping_eq_dropRow (s : Store) (uuid : String) : s.deleteMapping uuid =
    (.ok (s.row? .mappings uuid).isSome, s.dropRow .mappings uuid) := by
  unfold deleteMapping commit
  simp only [Transaction.run_bind, Transaction.run_fetch, Transaction.run_drop,
    Transaction.run_pure]

theorem deleteMapping_eq (h : s.MappingsKept) (uuid : String) :
    s.deleteMapping uuid = (.ok (s.mapping? uuid).isSome, s.dropRow .mappings uuid) := by
  have hr : (s.row? .mappings uuid).isSome = (s.mapping? uuid).isSome := by
    cases hm : s.mapping? uuid with
    | none => rw [h.row?_of_mapping?_eq_none hm]; rfl
    | some m => rw [h.row?_of_mapping? hm]; rfl
  rw [deleteMapping_eq_dropRow, hr]

/-! ## Hosts and instances -/

/-- What is found under a key is decoded from its row, and the store stays as it is. -/
theorem find_eq {α : Type} (t : Table) (ofJson? : Json → Option α) (key : String) (s : Store) :
    find t ofJson? key s =
      ((s.row? t key).elim (.ok none) fun row => (decode ofJson? row).map some, s) := by
  unfold find commit
  rw [Transaction.run_record]
  cases s.row? t key with
  | none => rfl
  | some row => cases h : decode ofJson? row <;> simp [Except.map, h]

theorem find_snd {α : Type} (t : Table) (ofJson? : Json → Option α) (key : String) (s : Store) :
    (find t ofJson? key s).2 = s := by
  rw [find_eq]

/-- What is found under a key depends on its row only. -/
theorem find_congr {α : Type} (s s' : Store) {t : Table} {key : String}
    (h : s'.row? t key = s.row? t key) (ofJson? : Json → Option α) :
    (find t ofJson? key s').1 = (find t ofJson? key s).1 := by
  rw [find_eq, find_eq, h]

/-- Where no mapping is found there is no row, or one that cannot be read. -/
theorem getMapping_of_none {s : Store} {uuid : String} (hm : s.mapping? uuid = none) :
    s.getMapping uuid = (.ok none, s) ∨
      ∃ row e, s.row? .mappings uuid = some row ∧ s.getMapping uuid = (.error e, s) := by
  rw [getMapping, find_eq]
  unfold mapping? at hm
  cases hr : s.row? .mappings uuid with
  | none => exact .inl rfl
  | some row =>
    rw [hr, Option.bind_some] at hm
    cases hd : decode Mapping.ofJson? row with
    | error e => exact .inr ⟨row, e, rfl, by rw [Option.elim_some, hd]; rfl⟩
    | ok m => simp [hd, Except.toOption] at hm

theorem getInstance_congr {s s' : Store} (h : s'.instances = s.instances) (uuid : String) :
    (s'.getInstance uuid).1 = (s.getInstance uuid).1 :=
  find_congr s s' (by rw [row?, row?, rows, rows, h]) _

@[simp] theorem getHost_snd (s : Store) (name : String) : (s.getHost name).2 = s :=
  find_snd _ _ _ _

@[simp] theorem getInstance_snd (s : Store) (uuid : String) : (s.getInstance uuid).2 = s :=
  find_snd _ _ _ _

@[simp] theorem getHost_withMapping (s : Store) (m : Mapping) (name : String) :
    ((s.withMapping m).getHost name).1 = (s.getHost name).1 :=
  find_congr s (s.withMapping m) rfl _

@[simp] theorem getHost_withNumber (s : Store) (number : UInt64) (name : String) :
    ((s.withNumber number).getHost name).1 = (s.getHost name).1 :=
  find_congr s (s.withNumber number) rfl _

/-! ## Reports -/

/-- A report fails, or changes nothing, or writes its row. -/
theorem upsert_cases {α : Type} (t : Table) (toJson : α → Json) (ofJson? : Json → Option α)
    (changes : α → α → List String) (key : String) (record : α) (s : Store) :
    (∃ e, upsert t toJson ofJson? changes key record s = (.error e, s)) ∨
    upsert t toJson ofJson? changes key record s = (.ok .unchanged, s) ∨
    ∃ outcome, outcome ≠ .unchanged ∧
      upsert t toJson ofJson? changes key record s =
        (.ok outcome, s.putRow t key (encode toJson record)) := by
  rw [upsert, commit]
  simp only [Transaction.run_bind, Transaction.run_record]
  cases s.row? t key with
  | none => exact .inr (.inr ⟨.created, by decide, rfl⟩)
  | some row =>
    dsimp only
    cases decode ofJson? row with
    | error e => exact .inl ⟨e, rfl⟩
    | ok stored =>
      dsimp only [Except.map]
      cases changes record stored with
      | nil => exact .inr (.inl rfl)
      | cons field fields => exact .inr (.inr ⟨.updated (field :: fields), by simp, rfl⟩)

/-- A report writes one row, or nothing. -/
theorem upsert_store {α : Type} (t : Table) (toJson : α → Json) (ofJson? : Json → Option α)
    (changes : α → α → List String) (key : String) (record : α) (s : Store) :
    (upsert t toJson ofJson? changes key record s).2 = s ∨
      (upsert t toJson ofJson? changes key record s).2 =
        s.putRow t key (encode toJson record) := by
  rcases upsert_cases t toJson ofJson? changes key record s with ⟨e, h⟩ | h | ⟨outcome, -, h⟩
  · exact .inl (by rw [h])
  · exact .inl (by rw [h])
  · exact .inr (by rw [h])

/-- A report leaves the mappings and their numbers alone. -/
theorem mappings_upsert {α : Type} {t : Table} (ht : t ≠ .mappings) (toJson : α → Json)
    (ofJson? : Json → Option α) (changes : α → α → List String) (key : String) (record : α)
    (s : Store) :
    (upsert t toJson ofJson? changes key record s).2.mappings = s.mappings ∧
      (upsert t toJson ofJson? changes key record s).2.sequences = s.sequences := by
  rcases upsert_store t toJson ofJson? changes key record s with h | h
  · rw [h]
    exact ⟨rfl, rfl⟩
  · rw [h]
    exact ⟨rows_withRows_of_ne s ht.symm _, sequences_withRows s t _⟩

end VcpuPinning.Store
