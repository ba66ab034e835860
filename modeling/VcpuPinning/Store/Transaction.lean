import VcpuPinning.Json.Reader
import VcpuPinning.SortedMap
import VcpuPinning.Store.Error

/-!
# Tables and transactions

A `Store` holds three tables of rows and a table of counters. A row is the written form of a
record. A `Transaction` reads and writes a working copy of the store; `Store.commit` keeps the copy
if the transaction succeeds and drops it otherwise (`commit_of_error`).
-/

namespace VcpuPinning

/-- The tables of rows. -/
inductive Store.Table where
  | hosts
  | instances
  | mappings
  deriving DecidableEq, Repr

/-- The tables, each by key. -/
structure Store where
  hosts : SortedMap String String
  instances : SortedMap String String
  mappings : SortedMap String String
  /-- The last number that was given out, by the name of the sequence. -/
  sequences : SortedMap String UInt64
  deriving DecidableEq

namespace Store

/-- The store without rows. -/
def empty : Store :=
  ⟨.empty, .empty, .empty, .empty⟩

/-- The rows of a table. -/
def rows (s : Store) : Table → SortedMap String String
  | .hosts => s.hosts
  | .instances => s.instances
  | .mappings => s.mappings

/-- The store with other rows in a table. -/
def withRows (s : Store) (t : Table) (rows : SortedMap String String) : Store :=
  match t with
  | .hosts => { s with hosts := rows }
  | .instances => { s with instances := rows }
  | .mappings => { s with mappings := rows }

/-- The row of a table under a key. -/
def row? (s : Store) (t : Table) (key : String) : Option String :=
  (s.rows t).get? key

/-- The store with a row in the place of any other under its key. -/
def putRow (s : Store) (t : Table) (key row : String) : Store :=
  s.withRows t ((s.rows t).insert key row)

/-- The store without a row under a key. -/
def dropRow (s : Store) (t : Table) (key : String) : Store :=
  s.withRows t ((s.rows t).erase key)

@[simp] theorem rows_withRows_self (s : Store) (t : Table) (rows : SortedMap String String) :
    (s.withRows t rows).rows t = rows := by
  cases t <;> rfl

theorem rows_withRows_of_ne (s : Store) {t u : Table} (h : u ≠ t)
    (rows : SortedMap String String) : (s.withRows t rows).rows u = s.rows u := by
  cases t <;> cases u <;> first | rfl | exact absurd rfl h

@[simp] theorem sequences_withRows (s : Store) (t : Table) (rows : SortedMap String String) :
    (s.withRows t rows).sequences = s.sequences := by
  cases t <;> rfl

/-! ## Transactions -/

/-- Steps on a working copy of the store, any of which may fail. -/
abbrev Transaction (α : Type) :=
  ExceptT StoreError (StateM Store) α

variable {α : Type}

/-- Carry out a transaction: all of it, or nothing. -/
def commit (t : Transaction α) (s : Store) : Except StoreError α × Store :=
  match t.run.run s with
  | (.ok a, s') => (.ok a, s')
  | (.error e, _) => (.error e, s)

/-- A transaction that fails leaves the store as it was. -/
theorem commit_of_error {t : Transaction α} {s : Store} {e : StoreError}
    (h : (commit t s).1 = .error e) : (commit t s).2 = s := by
  simp only [commit] at h ⊢
  split at h
  · exact absurd h (by simp)
  · rfl

/-- The record that a row is the written form of. -/
def decode (record : Json → Option α) (row : String) : Except StoreError α :=
  match (Json.parse? row).bind record with
  | some a => .ok a
  | none => .error (.deserialize "not a record of the table")

namespace Transaction

/-- The row of a table under a key, read from the working copy. -/
def fetch (t : Table) (key : String) : Transaction (Option String) := do
  return (← get).row? t key

/-- Put a row into the working copy. -/
def store (t : Table) (key row : String) : Transaction Unit :=
  modify fun s => s.putRow t key row

/-- Remove a row from the working copy. -/
def drop (t : Table) (key : String) : Transaction Unit :=
  modify fun s => s.dropRow t key

/-- The record under a key, if there is a row. -/
def record (t : Table) (key : String) (ofJson? : Json → Option α) : Transaction (Option α) := do
  match ← fetch t key with
  | none => return none
  | some row => return some (← ExceptT.mk (pure (decode ofJson? row)))

/-- The next number of a sequence, the first of which is 1. -/
def nextNumber (sequence : String) : Transaction UInt64 := do
  let number := ((← get).sequences.get? sequence).getD 0 + 1
  modify fun s => { s with sequences := s.sequences.insert sequence number }
  return number

end Transaction

end Store

end VcpuPinning
