import VcpuPinning.Host
import VcpuPinning.Instance
import VcpuPinning.Mapping
import VcpuPinning.Store.Transaction

/-!
# The store

The operations on hosts, instances and mappings. A report is written only if it changes something
but the time. New mappings are numbered, and an update cannot change what identifies a mapping nor
bring it back to the pending state. Every operation is one transaction.
-/

namespace VcpuPinning

/-- What became of a report. -/
inductive Upsert where
  /-- There was none under its key. -/
  | created
  /-- It differs from the stored one in the named fields. -/
  | updated (fields : List String)
  /-- It agrees with the stored one but for the time, and was not written. -/
  | unchanged
  deriving DecidableEq, Repr

/-- The names of the fields that an accepted report changed. -/
def Upsert.changedFields : Upsert → List String
  | .updated fields => fields
  | _ => []

namespace Store

variable {α : Type}

/-! ## Records of any kind -/

/-- The written form of a record. -/
def encode (toJson : α → Json) (record : α) : String :=
  (toJson record).toText

/-- The records of rows in order, up to the first row that is none. -/
def decodeAll (ofJson? : Json → Option α) : List String → Except StoreError (List α)
  | [] => .ok []
  | row :: rows =>
    match decode ofJson? row with
    | .error e => .error e
    | .ok record =>
      match decodeAll ofJson? rows with
      | .error e => .error e
      | .ok records => .ok (record :: records)

/-- The record under a key. -/
def find (t : Table) (ofJson? : Json → Option α) (key : String) (s : Store) :
    Except StoreError (Option α) × Store :=
  commit (Transaction.record t key ofJson?) s

/-- All records of a table, by ascending key. -/
def list (t : Table) (ofJson? : Json → Option α) (s : Store) :
    Except StoreError (List α) × Store :=
  (decodeAll ofJson? (s.rows t).values, s)

/-- Write a report unless it changes nothing. -/
def upsert (t : Table) (toJson : α → Json) (ofJson? : Json → Option α)
    (changes : α → α → List String) (key : String) (record : α) (s : Store) :
    Except StoreError Upsert × Store :=
  commit (do
    match ← Transaction.record t key ofJson? with
    | none =>
      Transaction.store t key (encode toJson record)
      return .created
    | some stored =>
      match changes record stored with
      | [] => return .unchanged
      | fields =>
        Transaction.store t key (encode toJson record)
        return .updated fields) s

/-! ## Hosts and instances -/

/-- Write a host report unless it changes nothing. -/
def upsertHost (host : Host) (s : Store) : Except StoreError Upsert × Store :=
  upsert .hosts Host.toJson Host.ofJson? Host.changes host.name host s

/-- The host with a name. -/
def getHost (name : String) (s : Store) : Except StoreError (Option Host) × Store :=
  find .hosts Host.ofJson? name s

/-- All hosts. -/
def listHosts (s : Store) : Except StoreError (List Host) × Store :=
  list .hosts Host.ofJson? s

/-- Write an instance report unless it changes nothing. -/
def upsertInstance (inst : Instance) (s : Store) : Except StoreError Upsert × Store :=
  upsert .instances Instance.toJson Instance.ofJson? Instance.changes inst.uuid inst s

/-- The instance with an identifier. -/
def getInstance (uuid : String) (s : Store) : Except StoreError (Option Instance) × Store :=
  find .instances Instance.ofJson? uuid s

/-- All instances. -/
def listInstances (s : Store) : Except StoreError (List Instance) × Store :=
  list .instances Instance.ofJson? s

/-! ## Mappings -/

/-- The name of the sequence of mapping numbers. -/
def mappingSequence : String :=
  "instance_cpu_mappings"

/-- What a message calls the mapping of an instance. -/
def mappingOf (uuid : String) : String :=
  "cpu mapping for instance " ++ uuid

/-- Write a new mapping, which is pending. An instance has one mapping at most. -/
def createMapping (draft : Draft) (now : UInt64) (s : Store) :
    Except StoreError Mapping × Store :=
  commit (do
    let key := draft.instanceUuid
    if (← Transaction.fetch .mappings key).isSome then throw (.alreadyExists (mappingOf key))
    let mapping := draft.toMapping (← Transaction.nextNumber mappingSequence) now
    Transaction.store .mappings key (encode Mapping.toJson mapping)
    return mapping) s

/-- The mapping of an instance. -/
def getMapping (uuid : String) (s : Store) : Except StoreError (Option Mapping) × Store :=
  find .mappings Mapping.ofJson? uuid s

/-- All mappings. -/
def listMappings (s : Store) : Except StoreError (List Mapping) × Store :=
  list .mappings Mapping.ofJson? s

/-- A mapping with the identity of the stored one, written now. -/
def stamped (stored changed : Mapping) (now : UInt64) : Mapping :=
  { changed with
    id := stored.id
    instanceUuid := stored.instanceUuid
    createdAt := stored.createdAt
    updatedAt := now }

/-- Change a mapping. Its identity stays as it is, and its status changes only in the ways that
are allowed. -/
def updateMapping (uuid : String) (change : Mapping → Mapping) (now : UInt64) (s : Store) :
    Except StoreError Mapping × Store :=
  commit (do
    match ← Transaction.record .mappings uuid Mapping.ofJson? with
    | none => throw (.notFound (mappingOf uuid))
    | some stored =>
      let changed := change stored
      if !stored.status.canBecome changed.status then
        throw (.invalidTransition uuid stored.status.word changed.status.word)
      let mapping := stamped stored changed now
      Transaction.store .mappings uuid (encode Mapping.toJson mapping)
      return mapping) s

/-- Remove the mapping of an instance, and tell whether there was one. -/
def deleteMapping (uuid : String) (s : Store) : Except StoreError Bool × Store :=
  commit (do
    let existed := (← Transaction.fetch .mappings uuid).isSome
    Transaction.drop .mappings uuid
    return existed) s

end Store

end VcpuPinning
