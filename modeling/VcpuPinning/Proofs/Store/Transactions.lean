import VcpuPinning.Store.Transaction

/-!
# Carrying out transactions

`Transaction.run_bind` carries out a transaction step by step, and each step has one equation.
With them an operation of the store is evaluated without opening the monad that it is written in.
-/

namespace VcpuPinning.Store.Transaction

variable {α β : Type}

theorem run_bind (t : Transaction α) (f : α → Transaction β) (s : Store) :
    (t >>= f).run.run s =
      match t.run.run s with
      | (.ok a, s') => (f a).run.run s'
      | (.error e, s') => (.error e, s') := by
  simp only [ExceptT.run_bind, StateT.run_bind]
  rcases t.run.run s with ⟨_ | a, s'⟩ <;> rfl

@[simp] theorem run_pure (a : α) (s : Store) :
    (pure a : Transaction α).run.run s = (.ok a, s) := rfl

@[simp] theorem run_throw (e : StoreError) (s : Store) :
    (throw e : Transaction α).run.run s = (.error e, s) := rfl

@[simp] theorem run_result (result : Except StoreError α) (s : Store) :
    (ExceptT.mk (pure result) : Transaction α).run.run s = (result, s) := rfl

@[simp] theorem run_fetch (t : Table) (key : String) (s : Store) :
    (fetch t key).run.run s = (.ok (s.row? t key), s) := rfl

@[simp] theorem run_store (t : Table) (key row : String) (s : Store) :
    (store t key row).run.run s = (.ok (), s.putRow t key row) := rfl

@[simp] theorem run_drop (t : Table) (key : String) (s : Store) :
    (drop t key).run.run s = (.ok (), s.dropRow t key) := rfl

@[simp] theorem run_nextNumber (sequence : String) (s : Store) :
    (nextNumber sequence).run.run s =
      (.ok ((s.sequences.get? sequence).getD 0 + 1),
        { s with sequences :=
          s.sequences.insert sequence ((s.sequences.get? sequence).getD 0 + 1) }) := rfl

/-- The record under a key is decoded from its row. -/
theorem run_record (t : Table) (key : String) (ofJson? : Json → Option α) (s : Store) :
    (record t key ofJson?).run.run s =
      match s.row? t key with
      | none => (.ok none, s)
      | some row => ((decode ofJson? row).map some, s) := by
  rw [record, run_bind, run_fetch]
  cases s.row? t key with
  | none => rfl
  | some row =>
    simp only
    rw [run_bind, run_result]
    cases decode ofJson? row <;> rfl

end VcpuPinning.Store.Transaction
