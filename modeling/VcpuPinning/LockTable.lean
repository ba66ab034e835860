/-!
# Locks by key

A `LockTable` hands out one lock per key. Whoever asks for a lock gets a ticket, and the tickets
of a lock are served in order of arrival: the first one holds the lock, the others wait. Giving a
ticket back releases the lock or gives up the wait, and a ticket that is used once more is given
back first. The table keeps a slot for a key as long as tickets refer to its lock, and drops the
slots that nobody needs whenever a lock is asked for.
-/

namespace VcpuPinning

/-- A table of locks, with tickets of type `τ`. -/
structure LockTable (τ : Type) where
  /-- The lock of each key. -/
  slots : List (String × Nat)
  /-- The tickets in order of arrival, each with its lock. -/
  tickets : List (τ × Nat)
  /-- The number of the next new lock. -/
  next : Nat

namespace LockTable

variable {τ : Type}

/-- The table without keys. -/
def empty : LockTable τ :=
  ⟨[], [], 0⟩

/-- Tickets refer to the lock. -/
def inUse (t : LockTable τ) (lock : Nat) : Bool :=
  t.tickets.any (·.2 == lock)

/-- The slots that stay when a lock is asked for: that of the key, and those in use. -/
def kept (t : LockTable τ) (key : String) : List (String × Nat) :=
  t.slots.filter fun (k, lock) => k == key || t.inUse lock

/-- Give a ticket back. -/
def giveBack [DecidableEq τ] (t : LockTable τ) (ticket : τ) : LockTable τ :=
  { t with tickets := t.tickets.filter (·.1 ≠ ticket) }

/-- Let a new ticket queue for the lock of a key. -/
def enqueue (t : LockTable τ) (ticket : τ) (key : String) : LockTable τ :=
  match (t.kept key).lookup key with
  | some lock => ⟨t.kept key, t.tickets ++ [(ticket, lock)], t.next⟩
  | none => ⟨t.kept key ++ [(key, t.next)], t.tickets ++ [(ticket, t.next)], t.next + 1⟩

/-- Ask for the lock of a key. A ticket stands for one lock at a time. -/
def ask [DecidableEq τ] (t : LockTable τ) (ticket : τ) (key : String) : LockTable τ :=
  (t.giveBack ticket).enqueue ticket key

/-- The tickets of a lock, its holder first. -/
def queue (t : LockTable τ) (lock : Nat) : List τ :=
  (t.tickets.filter (·.2 == lock)).map (·.1)

/-- The ticket holds its lock: none of the same lock arrived before it. -/
def holdsLock [DecidableEq τ] (t : LockTable τ) (ticket : τ) : Bool :=
  t.tickets.any fun (s, lock) => s = ticket && (t.queue lock).head? = some ticket

/-- The tickets that hold their locks, in order of arrival. -/
def held [DecidableEq τ] (t : LockTable τ) : List τ :=
  (t.tickets.map (·.1)).filter t.holdsLock

/-- The tickets that wait, in order of arrival. -/
def waiting [DecidableEq τ] (t : LockTable τ) : List τ :=
  (t.tickets.map (·.1)).filter fun ticket => !t.holdsLock ticket

/-- The number of keys with a slot. -/
def tracked (t : LockTable τ) : Nat :=
  t.slots.length

/-- Every ticket either holds its lock or waits for it. -/
theorem length_held_add_length_waiting [DecidableEq τ] (t : LockTable τ) :
    t.held.length + t.waiting.length = t.tickets.length := by
  have h := List.length_eq_countP_add_countP t.holdsLock (l := t.tickets.map (·.1))
  simpa [held, waiting, List.countP_eq_length_filter] using h.symm

/-- A table with an empty list of tickets holds nothing. -/
@[simp] theorem held_empty [DecidableEq τ] : (empty : LockTable τ).held = [] := rfl

/-- A ticket that was given back is gone. -/
theorem not_mem_giveBack [DecidableEq τ] (t : LockTable τ) (ticket : τ) :
    ticket ∉ (t.giveBack ticket).tickets.map (·.1) := by
  simp [giveBack]

/-- Asking puts a ticket at the end. -/
theorem tickets_ask [DecidableEq τ] (t : LockTable τ) (ticket : τ) (key : String) :
    ∃ lock, (t.ask ticket key).tickets = (t.giveBack ticket).tickets ++ [(ticket, lock)] := by
  simp only [ask, enqueue]
  split
  · exact ⟨_, rfl⟩
  · exact ⟨_, rfl⟩

end LockTable

end VcpuPinning
