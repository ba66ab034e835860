import VcpuPinning.Proofs.Rpc.Messages
import VcpuPinning.Proofs.Store.Identity

/-!
# The reports of a store

A `ReportKind` says how the reports of one kind are stored and compared; hosts and instances are the
two kinds. In a store that only the service wrote each row of a kind is the written form of a report
under its own key (`Kept`), so that taking a report is described by one equation, `take_eq`: the
report is written if there was none or if it differs from the stored one in more than the time.
-/

namespace VcpuPinning

/-! ## Fields -/

/-- Two hosts differ in the field with a name. The name and the time of a host do not count. -/
inductive Host.DiffersIn (new stored : Host) : String → Prop
  | topology (h : new.topology ≠ stored.topology) : DiffersIn new stored "cpu_topology"
  | maxCpu (h : new.maxCpu ≠ stored.maxCpu) : DiffersIn new stored "maxcpu"
  | rpcAddress (h : new.rpcAddress ≠ stored.rpcAddress) : DiffersIn new stored "rpc_address"

/-- Two instances differ in the field with a name. The identifier and the time of an instance do
not count. -/
inductive Instance.DiffersIn (new stored : Instance) : String → Prop
  | host (h : new.host ≠ stored.host) : DiffersIn new stored "host"
  | status (h : new.status ≠ stored.status) : DiffersIn new stored "status"
  | cpuMappings (h : new.cpuMappings ≠ stored.cpuMappings) :
      DiffersIn new stored "cpu_mappings"

/-- A host without its time. -/
def Host.undated (h : Host) : Host :=
  { h with updatedAt := 0 }

/-- An instance without its time. -/
def Instance.undated (i : Instance) : Instance :=
  { i with updatedAt := 0 }

theorem Host.mem_changes_iff {new stored : Host} {field : String} :
    field ∈ new.changes stored ↔ new.DiffersIn stored field := by
  unfold changes
  constructor
  · intro h
    simp only [List.mem_append, List.mem_ite_nil_right, List.mem_singleton] at h
    obtain (⟨h, rfl⟩ | ⟨h, rfl⟩) | ⟨h, rfl⟩ := h
    · exact .topology h
    · exact .maxCpu h
    · exact .rpcAddress h
  · intro h
    cases h with
    | topology h => simp [h]
    | maxCpu h => simp [h]
    | rpcAddress h => simp [h]

theorem Instance.mem_changes_iff {new stored : Instance} {field : String} :
    field ∈ new.changes stored ↔ new.DiffersIn stored field := by
  unfold changes
  constructor
  · intro h
    simp only [List.mem_append, List.mem_ite_nil_right, List.mem_singleton] at h
    obtain (⟨h, rfl⟩ | ⟨h, rfl⟩) | ⟨h, rfl⟩ := h
    · exact .host h
    · exact .status h
    · exact .cpuMappings h
  · intro h
    cases h with
    | host h => simp [h]
    | status h => simp [h]
    | cpuMappings h => simp [h]

/-- A name or no name, in front of a part of other names. -/
theorem sublist_ite_append {p : Prop} [Decidable p] {field : String} {fields names : List String}
    (h : fields.Sublist names) :
    ((if p then [field] else []) ++ fields).Sublist (field :: names) := by
  split
  · exact h.cons_cons field
  · exact h.cons field

/-- The changed fields are named in the order of the fields. -/
theorem Host.changes_sublist (new stored : Host) :
    (new.changes stored).Sublist fieldNames := by
  unfold changes
  rw [List.append_assoc, ← List.append_nil (if new.rpcAddress ≠ stored.rpcAddress then _ else _)]
  exact .cons _ <| sublist_ite_append <| sublist_ite_append <| sublist_ite_append <|
    List.nil_sublist _

theorem Instance.changes_sublist (new stored : Instance) :
    (new.changes stored).Sublist fieldNames := by
  unfold changes
  rw [List.append_assoc, ← List.append_nil (if new.cpuMappings ≠ stored.cpuMappings then _ else _)]
  exact .cons _ <| sublist_ite_append <| sublist_ite_append <| sublist_ite_append <|
    List.nil_sublist _

theorem Host.undated_eq_iff {new stored : Host} (h : new.name = stored.name) :
    new.undated = stored.undated ↔ new.changes stored = [] := by
  rw [changes_eq_nil_iff]
  simp [undated, h]

theorem Instance.undated_eq_iff {new stored : Instance} (h : new.uuid = stored.uuid) :
    new.undated = stored.undated ↔ new.changes stored = [] := by
  rw [changes_eq_nil_iff]
  simp [undated, h]

namespace Store

/-! ## Kinds of reports -/

/-- How the reports of a kind are stored, written, read and compared. -/
structure ReportKind (α : Type) where
  table : Table
  key : α → String
  toJson : α → Json
  ofJson? : Json → Option α
  /-- The names of the fields, in order. -/
  fieldNames : List String
  /-- The names of the fields in which a report differs from the stored one. -/
  changes : α → α → List String
  /-- A report differs from the stored one in the field with a name. -/
  DiffersIn : α → α → String → Prop
  /-- A report without its time. -/
  undated : α → α
  /-- The report that an operation takes, if it takes one of the kind. -/
  reported? : Operation → Option α
  faithful : Json.Faithful toJson ofJson?
  changes_sublist : ∀ new stored, (changes new stored).Sublist fieldNames
  mem_changes_iff : ∀ {new stored field}, field ∈ changes new stored ↔ DiffersIn new stored field
  key_undated : ∀ a, key (undated a) = key a
  undated_eq_iff : ∀ {new stored}, key new = key stored →
    (undated new = undated stored ↔ changes new stored = [])
  perform_reported : ∀ {op a}, reported? op = some a → ∀ now s,
    (op.perform now s).2 = (upsert table toJson ofJson? changes (key a) a s).2
  spared : ∀ {op}, reported? op = none → op.target?.map (·.1) ≠ some table

/-- The host that an operation reports, if it reports one. -/
def Operation.host? : Operation → Option Host
  | upsertHost host => some host
  | _ => none

/-- The instance that an operation reports, if it reports one. -/
def Operation.instance? : Operation → Option Instance
  | upsertInstance inst => some inst
  | _ => none

/-- The reports of hosts. -/
def hostReports : ReportKind Host where
  table := .hosts
  key := Host.name
  toJson := Host.toJson
  ofJson? := Host.ofJson?
  fieldNames := Host.fieldNames
  changes := Host.changes
  DiffersIn := Host.DiffersIn
  undated := Host.undated
  reported? := Operation.host?
  faithful := Host.faithful
  changes_sublist := Host.changes_sublist
  mem_changes_iff := Host.mem_changes_iff
  key_undated _ := rfl
  undated_eq_iff := Host.undated_eq_iff
  perform_reported {op a} h now s := by
    cases op with
    | upsertHost b =>
      obtain rfl : b = a := Option.some.inj h
      rfl
    | _ => exact nomatch h
  spared {op} h := by
    cases op with
    | upsertHost b => exact nomatch h
    | _ => simp [Operation.target?]

/-- The reports of instances. -/
def instanceReports : ReportKind Instance where
  table := .instances
  key := Instance.uuid
  toJson := Instance.toJson
  ofJson? := Instance.ofJson?
  fieldNames := Instance.fieldNames
  changes := Instance.changes
  DiffersIn := Instance.DiffersIn
  undated := Instance.undated
  reported? := Operation.instance?
  faithful := Instance.faithful
  changes_sublist := Instance.changes_sublist
  mem_changes_iff := Instance.mem_changes_iff
  key_undated _ := rfl
  undated_eq_iff := Instance.undated_eq_iff
  perform_reported {op a} h now s := by
    cases op with
    | upsertInstance b =>
      obtain rfl : b = a := Option.some.inj h
      rfl
    | _ => exact nomatch h
  spared {op} h := by
    cases op with
    | upsertInstance b => exact nomatch h
    | _ => simp [Operation.target?]

namespace ReportKind

variable {α : Type} (k : ReportKind α) {s s' : Store} {key : String} {a b : α}

/-- Take a report. -/
def take (a : α) (s : Store) : Except StoreError Upsert × Store :=
  upsert k.table k.toJson k.ofJson? k.changes (k.key a) a s

/-- The store with a report in the place of any other under its key. -/
def write (a : α) (s : Store) : Store :=
  s.putRow k.table (k.key a) (encode k.toJson a)

/-- The report under a key, if there is a row of one. -/
def stored? (s : Store) (key : String) : Option α :=
  (s.row? k.table key).bind fun row => (decode k.ofJson? row).toOption

/-- Every row is the written form of a report with its key. -/
def Kept (s : Store) : Prop :=
  ∀ key row, s.row? k.table key = some row → ∃ a, row = encode k.toJson a ∧ k.key a = key

/-- A report is read back from its row. -/
theorem decode_encode (a : α) : decode k.ofJson? (encode k.toJson a) = .ok a := by
  unfold decode encode
  rw [k.faithful.read_sent]

/-! ## Writing a report -/

@[simp] theorem stored?_write_self (a : α) (s : Store) :
    k.stored? (k.write a s) (k.key a) = some a := by
  simp [stored?, write, row?_putRow_self, k.decode_encode, Except.toOption]

theorem stored?_write_of_ne (s : Store) (h : key ≠ k.key a) :
    k.stored? (k.write a s) key = k.stored? s key := by
  simp [stored?, write, row?_putRow_of_ne s _ h]

theorem stored?_congr (h : s'.rows k.table = s.rows k.table) : k.stored? s' = k.stored? s := by
  funext key
  simp [stored?, row?, h]

namespace Kept

variable {k}

theorem empty : k.Kept .empty := by
  intro key row h
  cases ht : k.table <;> simp [row?, rows, Store.empty, ht] at h

theorem congr (h : k.Kept s) (he : s'.rows k.table = s.rows k.table) : k.Kept s' := by
  intro key row hr
  exact h key row (by simpa [row?, he] using hr)

theorem write (h : k.Kept s) (a : α) : k.Kept (k.write a s) := by
  intro key row hr
  by_cases hk : key = k.key a
  · subst hk
    rw [ReportKind.write, row?_putRow_self] at hr
    exact ⟨a, (Option.some.inj hr).symm, rfl⟩
  · rw [ReportKind.write, row?_putRow_of_ne s _ hk] at hr
    exact h key row hr

/-- A row is that of the report that it is read as. -/
theorem row?_eq (h : k.Kept s) (key : String) :
    s.row? k.table key = (k.stored? s key).map (encode k.toJson) := by
  unfold stored?
  cases hr : s.row? k.table key with
  | none => rfl
  | some row =>
    obtain ⟨a, rfl, -⟩ := h key row hr
    simp [k.decode_encode, Except.toOption]

theorem key_of_stored? (h : k.Kept s) (ha : k.stored? s key = some a) : k.key a = key := by
  have hr : s.row? k.table key = some (encode k.toJson a) := by rw [h.row?_eq, ha]; rfl
  obtain ⟨b, he, hb⟩ := h key _ hr
  have hd := k.decode_encode a
  rw [he, k.decode_encode] at hd
  rw [← Except.ok.inj hd, hb]

/-- What is found under a key is the stored report. -/
theorem find_eq (h : k.Kept s) (key : String) :
    find k.table k.ofJson? key s = (.ok (k.stored? s key), s) := by
  rw [Store.find_eq, h.row?_eq]
  cases k.stored? s key with
  | none => rfl
  | some a => simp [k.decode_encode, Except.map]

end Kept

/-! ## Taking a report -/

variable {k}

/-- A report that differs from the stored one names at least one field. -/
theorem changes_ne_nil (hk : k.key a = k.key b) (h : k.undated a ≠ k.undated b) :
    k.changes a b ≠ [] :=
  fun hc => h ((k.undated_eq_iff hk).2 hc)

/-- A report is written if there was none under its key or if it differs from the stored one. -/
theorem take_eq [DecidableEq α] (h : k.Kept s) (a : α) :
    k.take a s =
      match k.stored? s (k.key a) with
      | none => (.ok .created, k.write a s)
      | some b =>
        if k.undated a = k.undated b then (.ok .unchanged, s)
        else (.ok (.updated (k.changes a b)), k.write a s) := by
  unfold take upsert commit
  simp only [Transaction.run_bind, Transaction.run_record]
  rw [h.row?_eq]
  cases hs : k.stored? s (k.key a) with
  | none => rfl
  | some b =>
    have hb : k.key a = k.key b := (h.key_of_stored? hs).symm
    simp only [Option.map_some, k.decode_encode, Except.map]
    by_cases hu : k.undated a = k.undated b
    · rw [if_pos hu, (k.undated_eq_iff hb).1 hu]
      rfl
    · rw [if_neg hu]
      cases hc : k.changes a b with
      | nil => exact absurd hc (changes_ne_nil hb hu)
      | cons field fields => rfl

/-- The report that is stored after one was taken, if another was stored before. -/
def settled [DecidableEq α] (k : ReportKind α) (stored? : Option α) (a : α) : α :=
  match stored? with
  | none => a
  | some b => if k.undated a = k.undated b then b else a

@[simp] theorem settled_none [DecidableEq α] (k : ReportKind α) (a : α) :
    k.settled none a = a := rfl

@[simp] theorem settled_some [DecidableEq α] (k : ReportKind α) (a b : α) :
    k.settled (some b) a = if k.undated a = k.undated b then b else a := rfl

theorem stored?_write (k : ReportKind α) (a : α) (s : Store) :
    k.stored? (k.write a s) = Function.update (k.stored? s) (k.key a) (some a) := by
  funext key
  by_cases hk : key = k.key a
  · rw [hk, stored?_write_self, Function.update_self]
  · rw [k.stored?_write_of_ne s hk, Function.update_of_ne hk]

/-- Taking a report settles what is stored under its key, and nothing else. -/
theorem stored?_take [DecidableEq α] (h : k.Kept s) (a : α) :
    k.stored? (k.take a s).2 = Function.update (k.stored? s) (k.key a)
      (some (k.settled (k.stored? s (k.key a)) a)) := by
  rw [take_eq h]
  cases hs : k.stored? s (k.key a) with
  | none => exact k.stored?_write a s
  | some b =>
    rw [settled_some]
    dsimp only
    split
    · rw [← hs, Function.update_eq_self]
    · exact k.stored?_write a s

/-- A settled report agrees with the one that was taken. -/
theorem undated_settled [DecidableEq α] (k : ReportKind α) (stored? : Option α) (a : α) :
    k.undated (k.settled stored? a) = k.undated a := by
  cases stored? with
  | none => rfl
  | some b =>
    rw [settled_some]
    split
    · rename_i h
      exact h.symm
    · rfl

/-- What is stored under the key of a report agrees with it then. -/
theorem stored?_take_self [DecidableEq α] (h : k.Kept s) (a : α) :
    ∃ b, k.stored? (k.take a s).2 (k.key a) = some b ∧ k.undated b = k.undated a := by
  refine ⟨k.settled (k.stored? s (k.key a)) a, ?_, k.undated_settled _ a⟩
  rw [stored?_take h, Function.update_self]

/-- Taking a report writes its row, or nothing. -/
theorem take_snd (k : ReportKind α) (a : α) (s : Store) :
    (k.take a s).2 = s ∨ (k.take a s).2 = k.write a s :=
  upsert_store ..

/-- What is stored after a report was taken is the report, or was stored before. -/
theorem stored?_take_cases (k : ReportKind α) (s : Store)
    (h : k.stored? (k.take a s).2 key = some b) : b = a ∨ k.stored? s key = some b := by
  rcases k.take_snd a s with hs | hs
  · exact .inr (hs ▸ h)
  · rw [hs, stored?_write] at h
    by_cases hk : key = k.key a
    · rw [hk, Function.update_self] at h
      exact .inl (Option.some.inj h).symm
    · rw [Function.update_of_ne hk] at h
      exact .inr h

/-- A report leaves all other rows alone. -/
theorem row?_take_of_ne (k : ReportKind α) (a : α) (s : Store) (h : key ≠ k.key a) (t : Table) :
    (k.take a s).2.row? t key = s.row? t key := by
  rcases k.take_snd a s with hs | hs
  · rw [hs]
  · rw [hs, ReportKind.write]
    by_cases ht : t = k.table
    · subst ht
      exact row?_putRow_of_ne s _ h _
    · rw [row?, putRow, rows_withRows_of_ne s ht]
      rfl

theorem rows_take_of_ne (k : ReportKind α) (a : α) (s : Store) {t : Table} (h : t ≠ k.table) :
    (k.take a s).2.rows t = s.rows t := by
  rcases k.take_snd a s with hs | hs
  · rw [hs]
  · rw [hs]
    exact rows_withRows_of_ne s h _

theorem sequences_take (k : ReportKind α) (a : α) (s : Store) :
    (k.take a s).2.sequences = s.sequences := by
  rcases k.take_snd a s with hs | hs
  · rw [hs]
  · rw [hs]
    exact sequences_withRows s _ _

theorem Kept.take [DecidableEq α] (h : k.Kept s) (a : α) : k.Kept (k.take a s).2 := by
  rcases k.take_snd a s with hs | hs
  · rwa [hs]
  · rw [hs]
    exact h.write a

/-- A report never fails where the rows can be read. -/
theorem exists_take_eq_ok [DecidableEq α] (h : k.Kept s) (a : α) :
    ∃ outcome s', k.take a s = (.ok outcome, s') := by
  rw [take_eq h]
  cases k.stored? s (k.key a) with
  | none => exact ⟨_, _, rfl⟩
  | some b =>
    dsimp only
    split <;> exact ⟨_, _, rfl⟩

/-- A report that agrees with the stored one is unchanged, and leaves the store as it is. -/
theorem take_of_agree [DecidableEq α] (h : k.Kept s) (hb : k.stored? s (k.key a) = some b)
    (hu : k.undated b = k.undated a) : k.take a s = (.ok .unchanged, s) := by
  rw [take_eq h, hb]
  exact if_pos hu.symm

/-! ## Reports one after the other -/

/-- Take reports one after the other, each for itself. -/
def takeEach (k : ReportKind α) : List α → Store → List (Except StoreError Upsert) × Store
  | [], s => ([], s)
  | a :: as, s => ((k.take a s).1 :: (k.takeEach as (k.take a s).2).1,
      (k.takeEach as (k.take a s).2).2)

theorem length_fst_takeEach (k : ReportKind α) (as : List α) (s : Store) :
    (k.takeEach as s).1.length = as.length := by
  induction as generalizing s with
  | nil => rfl
  | cons a as ih => exact congrArg (· + 1) (ih _)

/-- What each of the reports keeps, all of them keep. -/
theorem takeEach_induction (k : ReportKind α) {P : Store → Prop} {as : List α}
    (hstep : ∀ a ∈ as, ∀ s, P s → P (k.take a s).2) (h : P s) : P (k.takeEach as s).2 := by
  induction as generalizing s with
  | nil => exact h
  | cons a as ih =>
    obtain ⟨ha, has⟩ := List.forall_mem_cons.1 hstep
    exact ih has (ha s h)

theorem Kept.takeEach [DecidableEq α] (h : k.Kept s) (as : List α) :
    k.Kept (k.takeEach as s).2 :=
  k.takeEach_induction (fun a _ _ hs => hs.take a) h

/-- Reports leave the rows under other keys alone. -/
theorem row?_takeEach (k : ReportKind α) {as : List α} (h : ∀ a ∈ as, k.key a ≠ key) (s : Store)
    (t : Table) : (k.takeEach as s).2.row? t key = s.row? t key :=
  k.takeEach_induction (P := fun s' => s'.row? t key = s.row? t key)
    (fun a ha s' hs => (k.row?_take_of_ne a s' (h a ha).symm t).trans hs) rfl

theorem rows_takeEach (k : ReportKind α) (as : List α) (s : Store) {t : Table}
    (h : t ≠ k.table) : (k.takeEach as s).2.rows t = s.rows t :=
  k.takeEach_induction (P := fun s' => s'.rows t = s.rows t)
    (fun a _ s' hs => (k.rows_take_of_ne a s' h).trans hs) rfl

theorem sequences_takeEach (k : ReportKind α) (as : List α) (s : Store) :
    (k.takeEach as s).2.sequences = s.sequences :=
  k.takeEach_induction (P := fun s' => s'.sequences = s.sequences)
    (fun a _ s' hs => (k.sequences_take a s').trans hs) rfl

/-- After reports under keys of their own, each of them agrees with what is stored. -/
theorem stored?_takeEach [DecidableEq α] (h : k.Kept s) {as : List α}
    (hn : (as.map k.key).Nodup) {a : α} (ha : a ∈ as) :
    ∃ b, k.stored? (k.takeEach as s).2 (k.key a) = some b ∧ k.undated b = k.undated a := by
  induction as generalizing s with
  | nil => exact nomatch ha
  | cons c as ih =>
    obtain ⟨hc, hn⟩ := List.nodup_cons.1 hn
    rcases List.mem_cons.1 ha with rfl | ha
    · have hother : ∀ b ∈ as, k.key b ≠ k.key a :=
        fun b hb he => hc (he ▸ List.mem_map_of_mem hb)
      have hrow := k.row?_takeEach hother (k.take a s).2 k.table
      have hs : k.stored? (k.takeEach (a :: as) s).2 (k.key a) =
          k.stored? (k.take a s).2 (k.key a) := by
        unfold stored?
        exact congrArg (Option.bind · _) hrow
      rw [hs]
      exact stored?_take_self h a
    · exact ih (h.take c) hn ha

/-- No report of a list fails. -/
theorem exists_takeEach_eq_ok [DecidableEq α] (h : k.Kept s) (as : List α) :
    ∃ (outcomes : List Upsert) (s' : Store), k.takeEach as s = (outcomes.map .ok, s') := by
  induction as generalizing s with
  | nil => exact ⟨[], s, rfl⟩
  | cons a as ih =>
    obtain ⟨outcome, s₁, hfirst⟩ := exists_take_eq_ok h a
    have hk : k.Kept s₁ := by simpa [hfirst] using h.take a
    obtain ⟨outcomes, s', ho⟩ := ih hk
    refine ⟨outcome :: outcomes, s', ?_⟩
    rw [takeEach, hfirst, ho, List.map_cons]

/-- Reports that agree with what is stored are unchanged, and leave the store as it is. -/
theorem takeEach_of_agree [DecidableEq α] (h : k.Kept s) {as : List α}
    (ha : ∀ a ∈ as, ∃ b, k.stored? s (k.key a) = some b ∧ k.undated b = k.undated a) :
    k.takeEach as s = (List.replicate as.length (.ok .unchanged), s) := by
  induction as with
  | nil => rfl
  | cons a as ih =>
    obtain ⟨⟨b, hb, hu⟩, has⟩ := List.forall_mem_cons.1 ha
    rw [takeEach, take_of_agree h hb hu, ih has, List.length_cons, List.replicate_succ]

/-! ## What the operations keep -/

/-- An operation takes a report of the kind, or leaves the table as it is. -/
theorem perform_cases (k : ReportKind α) (now : UInt64) (s : Store) (op : Operation) :
    (∃ a, k.reported? op = some a ∧ (op.perform now s).2 = (k.take a s).2) ∨
      k.reported? op = none ∧ (op.perform now s).2.rows k.table = s.rows k.table := by
  cases hr : k.reported? op with
  | some a => exact .inl ⟨a, rfl, k.perform_reported hr now s⟩
  | none => exact .inr ⟨rfl, (writes_perform now s op).framed.tables _ (k.spared hr)⟩

theorem Kept.perform [DecidableEq α] (h : k.Kept s) (now : UInt64) (op : Operation) :
    k.Kept (op.perform now s).2 := by
  rcases k.perform_cases now s op with ⟨a, -, hp⟩ | ⟨-, hp⟩
  · rw [hp]
    exact h.take a
  · exact h.congr hp

/-- The rows of a kind stay written reports, whatever operations there are. -/
theorem Kept.after [DecidableEq α] (h : k.Kept s) (steps : List Step) :
    k.Kept (s.after steps) := by
  induction steps generalizing s with
  | nil => exact h
  | cons step steps ih => exact ih (h.perform step.now step.operation)

end ReportKind

/-- The store after some steps and then others. -/
theorem after_append (s : Store) (steps later : List Step) :
    s.after (steps ++ later) = (s.after steps).after later := by
  induction steps generalizing s with
  | nil => rfl
  | cons step steps ih => exact ih _

end Store

end VcpuPinning
