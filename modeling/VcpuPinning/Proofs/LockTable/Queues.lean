import Mathlib.Data.List.Induction
import Mathlib.Data.List.Nodup
import VcpuPinning.LockTable

/-!
# One queue per key

A `LockTable` behaves as `Queues` : for each key the tickets that asked for it, in order of
arrival, of which the first holds the key. `queueOf` reads the queues off a table, and every move
keeps it (`queueOf_onTable`). Asking prunes the slots whose lock has no other reference
(`inUse_iff_one_lt_references`), so the tickets of a key share one lock for as long as any of them
is there.

The queues need no table : `standing` reads off a history the asks that no later move of their
ticket undid, and the queue of a key lists them in the order in which they were made
(`queuesAfter_eq`).
-/

namespace VcpuPinning.LockTable

variable {τ : Type} [DecidableEq τ]

/-! ## Moves -/

/-- What a holder of a ticket does. -/
inductive Move (τ : Type) where
  /-- It starts to wait for a key. -/
  | ask (ticket : τ) (key : String)
  /-- It drops its guard, or gives up its wait. -/
  | giveBack (ticket : τ)
  deriving DecidableEq

namespace Move

/-- The ticket that moves. -/
def ticket : Move τ → τ
  | .ask ticket _ => ticket
  | .giveBack ticket => ticket

/-- What a move asks for. -/
def asked : Move τ → List (τ × String)
  | .ask ticket key => [(ticket, key)]
  | .giveBack _ => []

/-- The table after a move. -/
def onTable (t : LockTable τ) : Move τ → LockTable τ
  | .ask ticket key => t.ask ticket key
  | .giveBack ticket => t.giveBack ticket

end Move

/-- The table after moves. -/
def tableAfter (ms : List (Move τ)) : LockTable τ :=
  ms.foldl Move.onTable empty

/-! ## Queues -/

/-- The tickets of each key in order of arrival, its holder first. -/
abbrev Queues (τ : Type) :=
  String → List τ

namespace Queues

/-- The queues without a ticket. -/
def leave (q : Queues τ) (ticket : τ) : Queues τ :=
  fun key => (q key).filter (· ≠ ticket)

/-- The queues with one more ticket at the end of one of them. -/
def join (q : Queues τ) (ticket : τ) (key : String) : Queues τ :=
  fun k => if k = key then q k ++ [ticket] else q k

/-- The queues after a move. -/
def after (q : Queues τ) : Move τ → Queues τ
  | .ask ticket key => (q.leave ticket).join ticket key
  | .giveBack ticket => q.leave ticket

omit [DecidableEq τ] in
@[simp] theorem join_self (q : Queues τ) (ticket : τ) (key : String) :
    q.join ticket key key = q key ++ [ticket] := by
  simp [join]

omit [DecidableEq τ] in
theorem join_of_ne (q : Queues τ) (ticket : τ) {k key : String} (h : k ≠ key) :
    q.join ticket key k = q k := by
  simp [join, h]

theorem leave_of_not_mem {q : Queues τ} {ticket : τ} {key : String} (h : ticket ∉ q key) :
    q.leave ticket key = q key := by
  refine List.filter_eq_self.2 fun a ha => ?_
  simp only [ne_eq, decide_eq_true_eq]
  rintro rfl
  exact h ha

/-- A move leaves every queue alone that its ticket neither is in nor asks to join. -/
theorem after_of_not_mem {q : Queues τ} {m : Move τ} {key : String} (hm : m.ticket ∉ q key)
    (hk : key ∉ m.asked.map Prod.snd) : q.after m key = q key := by
  cases m with
  | ask ticket k =>
    rw [after, join_of_ne _ _ (by simpa [Move.asked] using hk)]
    exact leave_of_not_mem hm
  | giveBack ticket => exact leave_of_not_mem hm

end Queues

/-- The queues after moves. -/
def queuesAfter (ms : List (Move τ)) : Queues τ :=
  ms.foldl Queues.after fun _ => []

/-! ## The asks that stand -/

/-- The asks of a history that no later move of their ticket undid, in order. -/
def standing : List (Move τ) → List (τ × String)
  | [] => []
  | m :: ms => m.asked.filter (fun a => a.1 ∉ ms.map Move.ticket) ++ standing ms

theorem standing_append_singleton (ms : List (Move τ)) (m : Move τ) :
    standing (ms ++ [m]) = (standing ms).filter (fun a => a.1 ≠ m.ticket) ++ m.asked := by
  induction ms with
  | nil => simp [standing]
  | cons n ms ih =>
    simp only [List.cons_append, standing, ih, List.filter_append, List.filter_filter,
      List.append_assoc]
    congr 1
    refine List.filter_congr fun a _ => ?_
    simp [Bool.and_comm]

/-- The queue of a key lists the standing asks for it. -/
theorem queuesAfter_eq (ms : List (Move τ)) (key : String) :
    queuesAfter ms key = ((standing ms).filter (·.2 = key)).map Prod.fst := by
  induction ms using List.reverseRecOn with
  | nil => rfl
  | append_singleton ms m ih =>
    have hl : (queuesAfter ms).leave m.ticket key =
        (((standing ms).filter (fun a => a.1 ≠ m.ticket)).filter (·.2 = key)).map Prod.fst := by
      rw [Queues.leave, ih, List.filter_map, List.filter_filter, List.filter_filter]
      congr 1
      refine List.filter_congr fun a _ => ?_
      simp [Bool.and_comm]
    rw [standing_append_singleton, List.filter_append, List.map_append, ← hl, queuesAfter,
      List.foldl_append, List.foldl_cons, List.foldl_nil]
    cases m with
    | ask ticket k =>
      by_cases hk : k = key
      · subst hk
        simp [Queues.after, Move.asked, Move.ticket, queuesAfter]
      · simp [Queues.after, Move.asked, Move.ticket, queuesAfter, hk,
          Queues.join_of_ne _ _ (Ne.symm hk)]
    | giveBack ticket => simp [Queues.after, Move.asked, Move.ticket, queuesAfter]

/-! ## Tables and their queues -/

/-- What every move keeps : a slot for each key and each lock at most, and a slot for the lock of
every ticket. -/
structure Sound (t : LockTable τ) : Prop where
  keys : (t.slots.map Prod.fst).Nodup
  locks : (t.slots.map Prod.snd).Nodup
  fresh : ∀ slot ∈ t.slots, slot.2 < t.next
  slot : ∀ a ∈ t.tickets, ∃ key, (key, a.2) ∈ t.slots
  tickets : (t.tickets.map Prod.fst).Nodup

/-- The tickets of the lock of a key, its holder first. -/
def queueOf (t : LockTable τ) (key : String) : List τ :=
  match t.slots.lookup key with
  | some lock => t.queue lock
  | none => []

namespace Sound

variable {t : LockTable τ}

omit [DecidableEq τ] in
theorem empty : Sound (empty : LockTable τ) where
  keys := List.nodup_nil
  locks := List.nodup_nil
  fresh _ h := by simp [LockTable.empty] at h
  slot _ h := by simp [LockTable.empty] at h
  tickets := List.nodup_nil

omit [DecidableEq τ] in
/-- A key has one lock. -/
theorem lock_unique (h : t.Sound) {key : String} {l l' : Nat} (hl : (key, l) ∈ t.slots)
    (hl' : (key, l') ∈ t.slots) : l = l' :=
  congrArg Prod.snd (List.inj_on_of_nodup_map h.keys hl hl' rfl)

omit [DecidableEq τ] in
/-- A lock has one key. -/
theorem key_unique (h : t.Sound) {k k' : String} {lock : Nat} (hk : (k, lock) ∈ t.slots)
    (hk' : (k', lock) ∈ t.slots) : k = k' :=
  congrArg Prod.fst (List.inj_on_of_nodup_map h.locks hk hk' rfl)

omit [DecidableEq τ] in
theorem lookup_of_mem (h : t.Sound) {key : String} {lock : Nat} (hm : (key, lock) ∈ t.slots) :
    t.slots.lookup key = some lock := by
  cases hl : t.slots.lookup key with
  | none =>
    have := List.lookup_eq_none_iff.1 hl _ hm
    simp at this
  | some l =>
    obtain ⟨l₁, l₂, hs, -⟩ := List.lookup_eq_some_iff.1 hl
    have hm' : (key, l) ∈ t.slots := by simp [hs]
    rw [h.lock_unique hm' hm]

omit [DecidableEq τ] in
theorem queueOf_of_mem (h : t.Sound) {key : String} {lock : Nat} (hm : (key, lock) ∈ t.slots) :
    t.queueOf key = t.queue lock := by
  unfold queueOf
  rw [h.lookup_of_mem hm]

end Sound

variable {t : LockTable τ}

omit [DecidableEq τ] in
theorem queueOf_of_not_mem {key : String} (h : key ∉ t.slots.map Prod.fst) :
    t.queueOf key = [] := by
  have hl : t.slots.lookup key = none := by
    refine List.lookup_eq_none_iff.2 fun slot hs => ?_
    rw [bne_iff_ne]
    rintro rfl
    exact h (List.mem_map_of_mem hs)
  unfold queueOf
  rw [hl]

omit [DecidableEq τ] in
theorem mem_queue_iff {ticket : τ} {lock : Nat} :
    ticket ∈ t.queue lock ↔ (ticket, lock) ∈ t.tickets := by
  simp [queue]

omit [DecidableEq τ] in
theorem queue_eq_nil {lock : Nat} (h : t.inUse lock = false) : t.queue lock = [] := by
  refine List.eq_nil_iff_forall_not_mem.2 fun ticket ht => ?_
  have hu : t.inUse lock := List.any_eq_true.2 ⟨_, mem_queue_iff.1 ht, by simp⟩
  simp [h] at hu

omit [DecidableEq τ] in
/-- Pruning spares the slot that is asked for and the slots in use. -/
theorem mem_kept_iff {key : String} {slot : String × Nat} :
    slot ∈ t.kept key ↔ slot ∈ t.slots ∧ (slot.1 = key ∨ t.inUse slot.2) := by
  simp [kept]

omit [DecidableEq τ] in
theorem mem_queueOf_iff (h : t.Sound) {key : String} {ticket : τ} :
    ticket ∈ t.queueOf key ↔ ∃ lock, (key, lock) ∈ t.slots ∧ (ticket, lock) ∈ t.tickets := by
  constructor
  · intro hq
    by_cases hk : key ∈ t.slots.map Prod.fst
    · obtain ⟨⟨k, lock⟩, hs, rfl⟩ := List.mem_map.1 hk
      exact ⟨lock, hs, mem_queue_iff.1 (h.queueOf_of_mem hs ▸ hq)⟩
    · simp [queueOf_of_not_mem hk] at hq
  · rintro ⟨lock, hs, ht⟩
    rw [h.queueOf_of_mem hs]
    exact mem_queue_iff.2 ht

/-- The references to a lock : its slot has one, and every ticket has one. -/
def references (t : LockTable τ) (lock : Nat) : ℕ :=
  t.slots.countP (·.2 == lock) + t.tickets.countP (·.2 == lock)

omit [DecidableEq τ] in
/-- The slot of a lock is the only one that refers to it. -/
theorem countP_slots (h : t.Sound) {key : String} {lock : Nat} (hs : (key, lock) ∈ t.slots) :
    t.slots.countP (·.2 == lock) = 1 := by
  have hc : (t.slots.map Prod.snd).count lock = 1 :=
    List.count_eq_one_of_mem h.locks (List.mem_map_of_mem hs)
  rwa [List.count, List.countP_map] at hc

omit [DecidableEq τ] in
/-- A lock is in use while there is a reference to it besides that of its slot. -/
theorem inUse_iff_one_lt_references (h : t.Sound) {key : String} {lock : Nat}
    (hs : (key, lock) ∈ t.slots) : t.inUse lock ↔ 1 < t.references lock := by
  have hpos : 0 < t.tickets.countP (·.2 == lock) ↔ t.inUse lock := by
    rw [List.countP_pos_iff, inUse, List.any_eq_true]
  rw [references, countP_slots h hs, ← hpos]
  omega

/-! ## Giving back -/

theorem queue_giveBack (t : LockTable τ) (ticket : τ) (lock : Nat) :
    (t.giveBack ticket).queue lock = (t.queue lock).filter (· ≠ ticket) := by
  simp only [queue, giveBack, List.filter_map, List.filter_filter]
  congr 1
  refine List.filter_congr fun a _ => ?_
  simp [Bool.and_comm]

theorem Sound.giveBack (h : t.Sound) (ticket : τ) : (t.giveBack ticket).Sound where
  keys := h.keys
  locks := h.locks
  fresh := h.fresh
  slot a ha := h.slot a (List.mem_of_mem_filter ha)
  tickets := h.tickets.sublist (List.filter_sublist.map _)

theorem queueOf_giveBack (t : LockTable τ) (ticket : τ) :
    (t.giveBack ticket).queueOf = Queues.leave t.queueOf ticket := by
  funext key
  have hs : (t.giveBack ticket).slots = t.slots := rfl
  rw [Queues.leave, queueOf, queueOf, hs]
  cases t.slots.lookup key with
  | none => rfl
  | some lock => exact queue_giveBack t ticket lock

/-! ## Asking

`enqueue` prunes the slots, adds a slot if the key has none, and adds the ticket. Each of these
keeps a table sound, and only the last one changes a queue. -/

/-- The table with the slots that stay when a key is asked for. -/
def pruned (t : LockTable τ) (key : String) : LockTable τ :=
  { t with slots := t.kept key }

/-- The table with a new lock for a key. -/
def withSlot (t : LockTable τ) (key : String) : LockTable τ :=
  ⟨t.slots ++ [(key, t.next)], t.tickets, t.next + 1⟩

/-- The table with one more ticket of a lock. -/
def withTicket (t : LockTable τ) (ticket : τ) (lock : Nat) : LockTable τ :=
  { t with tickets := t.tickets ++ [(ticket, lock)] }

omit [DecidableEq τ] in
/-- Who asks for a key joins its lock, or a new one if the key has none. -/
theorem enqueue_cases (t : LockTable τ) (ticket : τ) (key : String) :
    (∃ lock, (key, lock) ∈ (t.pruned key).slots ∧
      t.enqueue ticket key = (t.pruned key).withTicket ticket lock) ∨
    (key ∉ (t.pruned key).slots.map Prod.fst ∧
      t.enqueue ticket key =
        ((t.pruned key).withSlot key).withTicket ticket (t.pruned key).next) := by
  cases hl : (t.kept key).lookup key with
  | some lock =>
    obtain ⟨l₁, l₂, hs, -⟩ := List.lookup_eq_some_iff.1 hl
    have hm : (key, lock) ∈ t.kept key := by simp [hs]
    exact Or.inl ⟨lock, hm, by simp [enqueue, hl, pruned, withTicket]⟩
  | none =>
    refine Or.inr ⟨fun hk => ?_, by simp [enqueue, hl, pruned, withSlot, withTicket]⟩
    obtain ⟨slot, hs, rfl⟩ := List.mem_map.1 hk
    have := List.lookup_eq_none_iff.1 hl _ hs
    simp at this

omit [DecidableEq τ] in
theorem Sound.pruned (h : t.Sound) (key : String) : (t.pruned key).Sound where
  keys := h.keys.sublist (List.filter_sublist.map _)
  locks := h.locks.sublist (List.filter_sublist.map _)
  fresh slot hs := h.fresh slot (mem_kept_iff.1 hs).1
  slot a ha := by
    obtain ⟨k, hk⟩ := h.slot a ha
    exact ⟨k, mem_kept_iff.2 ⟨hk, Or.inr (List.any_eq_true.2 ⟨a, ha, by simp⟩)⟩⟩
  tickets := h.tickets

omit [DecidableEq τ] in
theorem queueOf_pruned (h : t.Sound) (key : String) : (t.pruned key).queueOf = t.queueOf := by
  funext k
  by_cases hk : k ∈ t.slots.map Prod.fst
  · obtain ⟨⟨k, lock⟩, hs, rfl⟩ := List.mem_map.1 hk
    by_cases hm : (k, lock) ∈ t.kept key
    · rw [(h.pruned key).queueOf_of_mem hm, h.queueOf_of_mem hs]
      rfl
    · -- a slot is pruned only when its queue is empty
      have hu : t.inUse lock = false := by
        rw [Bool.eq_false_iff]
        exact fun hu => hm (mem_kept_iff.2 ⟨hs, Or.inr hu⟩)
      rw [h.queueOf_of_mem hs, queue_eq_nil hu]
      refine queueOf_of_not_mem fun hk => ?_
      obtain ⟨⟨k', l⟩, hs', rfl⟩ := List.mem_map.1 hk
      obtain rfl := h.lock_unique hs (mem_kept_iff.1 hs').1
      exact hm hs'
  · rw [queueOf_of_not_mem hk]
    exact queueOf_of_not_mem fun hk' => hk ((List.filter_sublist.map _).subset hk')

omit [DecidableEq τ] in
theorem mem_withSlot (t : LockTable τ) (key : String) :
    (key, t.next) ∈ (t.withSlot key).slots := by
  simp [withSlot]

omit [DecidableEq τ] in
theorem Sound.withSlot (h : t.Sound) {key : String} (hk : key ∉ t.slots.map Prod.fst) :
    (t.withSlot key).Sound where
  keys := by
    unfold LockTable.withSlot
    rw [List.map_append]
    exact List.concat_eq_append ▸ h.keys.concat hk
  locks := by
    unfold LockTable.withSlot
    rw [List.map_append]
    refine List.concat_eq_append ▸ h.locks.concat fun hl => ?_
    obtain ⟨slot, hs, hn⟩ := List.mem_map.1 hl
    exact absurd (h.fresh slot hs) (hn ▸ Nat.lt_irrefl _)
  fresh slot hs := by
    rcases List.mem_append.1 hs with hs | hs
    · exact Nat.lt_succ_of_lt (h.fresh slot hs)
    · rw [List.mem_singleton.1 hs]
      exact Nat.lt_succ_self _
  slot a ha := by
    obtain ⟨k, hk⟩ := h.slot a ha
    exact ⟨k, List.mem_append_left _ hk⟩
  tickets := h.tickets

omit [DecidableEq τ] in
theorem queueOf_withSlot (h : t.Sound) {key : String} (hk : key ∉ t.slots.map Prod.fst) :
    (t.withSlot key).queueOf = t.queueOf := by
  funext k
  by_cases hs : k ∈ t.slots.map Prod.fst
  · obtain ⟨⟨k, lock⟩, hm, rfl⟩ := List.mem_map.1 hs
    rw [(h.withSlot hk).queueOf_of_mem (List.mem_append_left _ hm), h.queueOf_of_mem hm]
    rfl
  rw [queueOf_of_not_mem hs]
  by_cases hkk : k = key
  · subst hkk
    -- nobody can have a ticket of a lock that was just made
    have hu : t.inUse t.next = false := by
      refine List.any_eq_false.2 fun a ha hb => ?_
      obtain ⟨k', hk'⟩ := h.slot a ha
      have := h.fresh _ hk'
      simp only [beq_iff_eq] at hb
      omega
    rw [(h.withSlot hk).queueOf_of_mem (mem_withSlot t k)]
    exact queue_eq_nil hu
  · refine queueOf_of_not_mem fun hk' => ?_
    simp only [LockTable.withSlot, List.map_append, List.mem_append] at hk'
    rcases hk' with hk' | hk'
    · exact hs hk'
    · exact hkk (by simpa using hk')

omit [DecidableEq τ] in
theorem Sound.withTicket (h : t.Sound) {ticket : τ} {key : String} {lock : Nat}
    (ht : ticket ∉ t.tickets.map Prod.fst) (hs : (key, lock) ∈ t.slots) :
    (t.withTicket ticket lock).Sound where
  keys := h.keys
  locks := h.locks
  fresh := h.fresh
  slot a ha := by
    rcases List.mem_append.1 ha with ha | ha
    · exact h.slot a ha
    · rw [List.mem_singleton.1 ha]
      exact ⟨key, hs⟩
  tickets := by
    unfold LockTable.withTicket
    rw [List.map_append]
    exact List.concat_eq_append ▸ h.tickets.concat ht

omit [DecidableEq τ] in
theorem queueOf_withTicket (h : t.Sound) {ticket : τ} {key : String} {lock : Nat}
    (ht : ticket ∉ t.tickets.map Prod.fst) (hs : (key, lock) ∈ t.slots) :
    (t.withTicket ticket lock).queueOf = Queues.join t.queueOf ticket key := by
  have h' := h.withTicket ht hs
  funext k
  by_cases hk : k ∈ t.slots.map Prod.fst
  · obtain ⟨⟨k, l⟩, hs', rfl⟩ := List.mem_map.1 hk
    rw [h'.queueOf_of_mem hs']
    by_cases hkk : k = key
    · subst hkk
      obtain rfl := h.lock_unique hs hs'
      rw [Queues.join_self, h.queueOf_of_mem hs]
      simp [queue, LockTable.withTicket]
    · have hl : lock ≠ l := by
        rintro rfl
        exact hkk (h.key_unique hs' hs)
      rw [Queues.join_of_ne _ _ hkk, h.queueOf_of_mem hs']
      simp [queue, LockTable.withTicket, hl]
  · have hkk : k ≠ key := by
      rintro rfl
      exact hk (List.mem_map_of_mem hs)
    rw [Queues.join_of_ne _ _ hkk, queueOf_of_not_mem hk]
    exact queueOf_of_not_mem hk

omit [DecidableEq τ] in
theorem Sound.enqueue (h : t.Sound) {ticket : τ} (ht : ticket ∉ t.tickets.map Prod.fst)
    (key : String) : (t.enqueue ticket key).Sound := by
  rcases enqueue_cases t ticket key with ⟨lock, hs, he⟩ | ⟨hk, he⟩
  · rw [he]
    exact (h.pruned key).withTicket ht hs
  · rw [he]
    exact ((h.pruned key).withSlot hk).withTicket ht (mem_withSlot (t.pruned key) key)

omit [DecidableEq τ] in
theorem queueOf_enqueue (h : t.Sound) {ticket : τ} (ht : ticket ∉ t.tickets.map Prod.fst)
    (key : String) : (t.enqueue ticket key).queueOf = Queues.join t.queueOf ticket key := by
  rcases enqueue_cases t ticket key with ⟨lock, hs, he⟩ | ⟨hk, he⟩
  · rw [he, queueOf_withTicket (h.pruned key) ht hs, queueOf_pruned h]
  · rw [he, queueOf_withTicket ((h.pruned key).withSlot hk) ht
      (mem_withSlot (t.pruned key) key), queueOf_withSlot (h.pruned key) hk,
      queueOf_pruned h]

/-! ## Moves keep tables and queues together -/

theorem Sound.onTable (h : t.Sound) : ∀ m : Move τ, (m.onTable t).Sound
  | .ask ticket key => (h.giveBack ticket).enqueue (not_mem_giveBack t ticket) key
  | .giveBack ticket => h.giveBack ticket

theorem queueOf_onTable (h : t.Sound) :
    ∀ m : Move τ, (m.onTable t).queueOf = Queues.after t.queueOf m
  | .ask ticket key => by
    rw [Move.onTable, ask, queueOf_enqueue (h.giveBack ticket) (not_mem_giveBack t ticket),
      queueOf_giveBack]
    rfl
  | .giveBack ticket => queueOf_giveBack t ticket

theorem tableAfter_append_singleton (ms : List (Move τ)) (m : Move τ) :
    tableAfter (ms ++ [m]) = m.onTable (tableAfter ms) := by
  simp [tableAfter]

theorem queuesAfter_append_singleton (ms : List (Move τ)) (m : Move τ) :
    queuesAfter (ms ++ [m]) = (queuesAfter ms).after m := by
  simp [queuesAfter]

theorem sound_tableAfter (ms : List (Move τ)) : (tableAfter ms).Sound := by
  induction ms using List.reverseRecOn with
  | nil => exact .empty
  | append_singleton ms m ih =>
    rw [tableAfter_append_singleton]
    exact ih.onTable m

/-- After any moves, the table has the queues. -/
theorem queueOf_tableAfter (ms : List (Move τ)) : (tableAfter ms).queueOf = queuesAfter ms := by
  induction ms using List.reverseRecOn with
  | nil => rfl
  | append_singleton ms m ih =>
    rw [tableAfter_append_singleton, queuesAfter_append_singleton,
      queueOf_onTable (sound_tableAfter ms), ih]

/-! ## Holders and waiters -/

omit [DecidableEq τ] in
theorem nodup_queue (h : t.Sound) (lock : Nat) : (t.queue lock).Nodup :=
  h.tickets.sublist (List.filter_sublist.map _)

omit [DecidableEq τ] in
/-- A ticket is in one queue at most. -/
theorem key_unique_of_mem_queueOf (h : t.Sound) {ticket : τ} {k k' : String}
    (hk : ticket ∈ t.queueOf k) (hk' : ticket ∈ t.queueOf k') : k = k' := by
  obtain ⟨l, hs, ht⟩ := (mem_queueOf_iff h).1 hk
  obtain ⟨l', hs', ht'⟩ := (mem_queueOf_iff h).1 hk'
  obtain rfl : l = l' := congrArg Prod.snd (List.inj_on_of_nodup_map h.tickets ht ht' rfl)
  exact h.key_unique hs hs'

theorem holdsLock_iff (h : t.Sound) {ticket : τ} :
    t.holdsLock ticket ↔ ∃ key, (t.queueOf key).head? = some ticket := by
  simp only [holdsLock, List.any_eq_true, Bool.and_eq_true, decide_eq_true_eq, Prod.exists]
  constructor
  · rintro ⟨s, lock, hm, rfl, hh⟩
    obtain ⟨key, hs⟩ := h.slot _ hm
    exact ⟨key, h.queueOf_of_mem hs ▸ hh⟩
  · rintro ⟨key, hh⟩
    obtain ⟨lock, hs, ht⟩ := (mem_queueOf_iff h).1 (List.mem_of_head? hh)
    exact ⟨ticket, lock, ht, rfl, h.queueOf_of_mem hs ▸ hh⟩

/-- The holders are the first of the queues. -/
theorem mem_held_iff (h : t.Sound) {ticket : τ} :
    ticket ∈ t.held ↔ ∃ key, (t.queueOf key).head? = some ticket := by
  unfold held
  rw [List.mem_filter, holdsLock_iff h, and_iff_right_iff_imp]
  rintro ⟨key, hh⟩
  obtain ⟨lock, -, ht⟩ := (mem_queueOf_iff h).1 (List.mem_of_head? hh)
  exact List.mem_map_of_mem ht

/-- The others of the queues wait. -/
theorem mem_waiting_iff (h : t.Sound) {ticket : τ} :
    ticket ∈ t.waiting ↔ ∃ key, ticket ∈ (t.queueOf key).tail := by
  unfold waiting
  rw [List.mem_filter, Bool.not_eq_true', ← Bool.not_eq_true, holdsLock_iff h]
  constructor
  · rintro ⟨hm, hn⟩
    obtain ⟨⟨s, lock⟩, ht, rfl⟩ := List.mem_map.1 hm
    obtain ⟨key, hs⟩ := h.slot _ ht
    have hq : s ∈ t.queueOf key := (mem_queueOf_iff h).2 ⟨lock, hs, ht⟩
    refine ⟨key, ?_⟩
    cases he : t.queueOf key with
    | nil => simp [he] at hq
    | cons a rest =>
      rw [he] at hq
      rcases List.mem_cons.1 hq with rfl | hr
      · exact absurd ⟨key, by rw [he]; rfl⟩ hn
      · exact hr
  · rintro ⟨key, ht⟩
    have hq := List.mem_of_mem_tail ht
    obtain ⟨lock, hs, hm⟩ := (mem_queueOf_iff h).1 hq
    refine ⟨List.mem_map_of_mem hm, ?_⟩
    rintro ⟨k, hh⟩
    obtain rfl := key_unique_of_mem_queueOf h hq (List.mem_of_head? hh)
    have hn := nodup_queue h lock
    rw [← h.queueOf_of_mem hs] at hn
    cases he : t.queueOf key with
    | nil => simp [he] at hq
    | cons a rest =>
      rw [he] at hh hn ht
      obtain rfl : a = ticket := by simpa using hh
      exact (List.nodup_cons.1 hn).1 ht

/-! ## The queues of a history -/

theorem mem_standing_iff {ms : List (Move τ)} {ticket : τ} {key : String} :
    (ticket, key) ∈ standing ms ↔ ticket ∈ queuesAfter ms key := by
  simp [queuesAfter_eq]

/-- The tickets of one key have one lock, and those of different keys have different ones. -/
theorem lock_eq_iff_of_standing {ms : List (Move τ)} {a b : τ} {k k' : String}
    (ha : (a, k) ∈ standing ms) (hb : (b, k') ∈ standing ms) {l l' : Nat}
    (hl : (a, l) ∈ (tableAfter ms).tickets) (hl' : (b, l') ∈ (tableAfter ms).tickets) :
    l = l' ↔ k = k' := by
  have h := sound_tableAfter ms
  -- the slot of a standing ask is the slot of its ticket
  have slot : ∀ {c : τ} {key : String} {lock : Nat}, (c, key) ∈ standing ms →
      (c, lock) ∈ (tableAfter ms).tickets → (key, lock) ∈ (tableAfter ms).slots := by
    intro c key lock hc hm
    rw [mem_standing_iff, ← queueOf_tableAfter] at hc
    obtain ⟨lock', hs, ht⟩ := (mem_queueOf_iff h).1 hc
    obtain rfl : lock' = lock := congrArg Prod.snd (List.inj_on_of_nodup_map h.tickets ht hm rfl)
    exact hs
  constructor
  · rintro rfl
    exact h.key_unique (slot ha hl) (slot hb hl')
  · rintro rfl
    exact h.lock_unique (slot ha hl) (slot hb hl')

theorem exists_lock_of_standing {ms : List (Move τ)} {a : τ} {k : String}
    (ha : (a, k) ∈ standing ms) : ∃ lock, (a, lock) ∈ (tableAfter ms).tickets := by
  rw [mem_standing_iff, ← queueOf_tableAfter] at ha
  obtain ⟨lock, -, ht⟩ := (mem_queueOf_iff (sound_tableAfter ms)).1 ha
  exact ⟨lock, ht⟩

theorem held_iff_of_standing {ms : List (Move τ)} {a : τ} {key : String}
    (ha : (a, key) ∈ standing ms) :
    a ∈ (tableAfter ms).held ↔ (queuesAfter ms key).head? = some a := by
  have h := sound_tableAfter ms
  rw [mem_held_iff h, queueOf_tableAfter]
  refine ⟨?_, fun hh => ⟨key, hh⟩⟩
  rintro ⟨k, hh⟩
  rw [mem_standing_iff, ← queueOf_tableAfter] at ha
  have hk : a ∈ (tableAfter ms).queueOf k := queueOf_tableAfter ms ▸ List.mem_of_head? hh
  rwa [key_unique_of_mem_queueOf h ha hk]

/-- The next in the queue is first once the first has given its ticket back. -/
theorem queuesAfter_giveBack {ms : List (Move τ)} {key : String} {a : τ} {rest : List τ}
    (hq : queuesAfter ms key = a :: rest) : queuesAfter (ms ++ [.giveBack a]) key = rest := by
  have h := sound_tableAfter ms
  have ha : a ∈ (tableAfter ms).queueOf key := by simp [queueOf_tableAfter, hq]
  obtain ⟨lock, hs, -⟩ := (mem_queueOf_iff h).1 ha
  have hn : (a :: rest).Nodup := by
    rw [← hq, ← queueOf_tableAfter, h.queueOf_of_mem hs]
    exact nodup_queue h lock
  have hr : Queues.leave (fun _ => rest) a key = rest :=
    Queues.leave_of_not_mem (List.nodup_cons.1 hn).1
  rw [queuesAfter_append_singleton, Queues.after, Queues.leave, hq]
  simpa [Queues.leave] using hr

/-- Locks by key are one queue per key, first come first served. After any moves, in any order and
over any keys :

* the holders are the first of the queues, the waiters are the others, and the queue of a key
  lists the asks for it that stand, in the order in which they were made;
* at most one ticket holds a key, and one waits for a key only while another holds it;
* a key that is given back goes to the first of those that wait;
* a move leaves the queue of every other key alone;
* the tickets of a key share one lock, which no ticket of another key has. -/
theorem table_follows_queues (ms : List (Move τ)) :
    (∀ a, a ∈ (tableAfter ms).held ↔ ∃ key, (queuesAfter ms key).head? = some a) ∧
    (∀ a, a ∈ (tableAfter ms).waiting ↔ ∃ key, a ∈ (queuesAfter ms key).tail) ∧
    (∀ key, queuesAfter ms key = ((standing ms).filter (·.2 = key)).map Prod.fst) ∧
    (∀ key a b, (a, key) ∈ standing ms → (b, key) ∈ standing ms →
      a ∈ (tableAfter ms).held → b ∈ (tableAfter ms).held → a = b) ∧
    (∀ key a, (a, key) ∈ standing ms → a ∈ (tableAfter ms).waiting →
      ∃ b, b ≠ a ∧ (b, key) ∈ standing ms ∧ b ∈ (tableAfter ms).held) ∧
    (∀ key a rest, queuesAfter ms key = a :: rest →
      queuesAfter (ms ++ [.giveBack a]) key = rest ∧
        ∀ b ∈ rest.head?, b ∈ (tableAfter (ms ++ [.giveBack a])).held) ∧
    (∀ (m : Move τ) (key : String), (m.ticket, key) ∉ standing ms → key ∉ m.asked.map Prod.snd →
      queuesAfter (ms ++ [m]) key = queuesAfter ms key) ∧
    (∀ a k, (a, k) ∈ standing ms → ∃ l, (a, l) ∈ (tableAfter ms).tickets ∧
      ∀ b k' l', (b, k') ∈ standing ms → (b, l') ∈ (tableAfter ms).tickets →
        (l = l' ↔ k = k')) := by
  have h := sound_tableAfter ms
  have hq := queueOf_tableAfter ms
  refine ⟨fun a => hq ▸ mem_held_iff h, fun a => hq ▸ mem_waiting_iff h, queuesAfter_eq ms,
    ?_, ?_, ?_, ?_, ?_⟩
  · intro key a b ha hb hha hhb
    rw [held_iff_of_standing ha] at hha
    rw [held_iff_of_standing hb, hha] at hhb
    exact Option.some.inj hhb
  · intro key a ha hw
    have hnh : a ∉ (tableAfter ms).held := by
      unfold waiting at hw
      rw [List.mem_filter, Bool.not_eq_true'] at hw
      exact fun hh => by simp [(List.mem_filter.1 hh).2] at hw
    cases he : queuesAfter ms key with
    | nil =>
      rw [mem_standing_iff, he] at ha
      simp at ha
    | cons b rest =>
      have hb : (b, key) ∈ standing ms := by simp [mem_standing_iff, he]
      have hbh : b ∈ (tableAfter ms).held := (held_iff_of_standing hb).2 (by rw [he]; rfl)
      exact ⟨b, fun hba => hnh (hba ▸ hbh), hb, hbh⟩
  · intro key a rest he
    have hr := queuesAfter_giveBack he
    refine ⟨hr, fun b hb => ?_⟩
    rw [mem_held_iff (sound_tableAfter _), queueOf_tableAfter]
    exact ⟨key, hr ▸ hb⟩
  · intro m key hm hk
    rw [queuesAfter_append_singleton]
    exact Queues.after_of_not_mem (fun hin => hm (mem_standing_iff.2 hin)) hk
  · intro a k ha
    obtain ⟨l, hl⟩ := exists_lock_of_standing ha
    exact ⟨l, hl, fun b k' l' hb hl' => lock_eq_iff_of_standing ha hb hl hl'⟩

-- a ticket that gives up its wait is passed over
example :
    (tableAfter [.ask 1 "a", .ask 2 "a", .ask 3 "a", .giveBack 2, .giveBack 1]).held = [3] := by
  decide

end VcpuPinning.LockTable
