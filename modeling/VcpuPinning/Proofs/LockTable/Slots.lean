import Mathlib.Data.Finset.Card
import VcpuPinning.Proofs.LockTable.Queues

/-!
# Slots do not leak

A table keeps a slot for every key that is held or awaited. A slot whose key is not stays until a lock
is asked for again, and no longer: asking keeps the slots whose lock has a reference besides that of
the slot (`kept_eq_filter_references`), which are those with a ticket in their queue
(`references_eq`). The main statement, `slots_do_not_leak`, counts the slots.
-/

namespace VcpuPinning.LockTable

variable {τ : Type} [DecidableEq τ] {t : LockTable τ}

/-- The keys that are held or awaited. -/
def demanded (ms : List (Move τ)) : Finset String :=
  ((standing ms).map Prod.snd).toFinset

theorem mem_demanded_iff {ms : List (Move τ)} {key : String} :
    key ∈ demanded ms ↔ ∃ a, (a, key) ∈ standing ms := by
  simp [demanded]

/-- The keys with a slot. -/
def slotKeys (t : LockTable τ) : Finset String :=
  (t.slots.map Prod.fst).toFinset

omit [DecidableEq τ] in
theorem tracked_eq_card (h : t.Sound) : t.tracked = t.slotKeys.card := by
  rw [slotKeys, List.toFinset_card_of_nodup h.keys, List.length_map, tracked]

/-- Whoever asked for a key, and did not give its ticket back, holds the key or waits for it. -/
theorem held_or_waiting_of_standing {ms : List (Move τ)} {a : τ} {key : String}
    (ha : (a, key) ∈ standing ms) : a ∈ (tableAfter ms).held ∨ a ∈ (tableAfter ms).waiting := by
  have h := sound_tableAfter ms
  rw [mem_standing_iff, ← queueOf_tableAfter] at ha
  rw [mem_held_iff h, mem_waiting_iff h]
  cases hq : (tableAfter ms).queueOf key with
  | nil => simp [hq] at ha
  | cons b rest =>
    rcases List.mem_cons.1 (hq ▸ ha) with rfl | hr
    · exact .inl ⟨key, by rw [hq]; rfl⟩
    · exact .inr ⟨key, by rwa [hq]⟩

/-! ## References -/

omit [DecidableEq τ] in
/-- The slot and every ticket in the queue of a key refer to its lock. -/
theorem references_eq (h : t.Sound) {key : String} {lock : Nat} (hs : (key, lock) ∈ t.slots) :
    t.references lock = 1 + (t.queueOf key).length := by
  rw [references, countP_slots h hs, h.queueOf_of_mem hs, queue, List.length_map,
    List.countP_eq_length_filter]

omit [DecidableEq τ] in
/-- Pruning goes by references. -/
theorem kept_eq_filter_references (h : t.Sound) (key : String) :
    t.kept key = t.slots.filter fun slot => slot.1 = key ∨ 1 < t.references slot.2 := by
  refine List.filter_congr fun slot hs => ?_
  rw [Bool.eq_iff_iff, Bool.or_eq_true, beq_iff_eq, inUse_iff_one_lt_references h hs,
    decide_eq_true_eq]

/-! ## Slots and keys -/

/-- A key that is held or awaited has a slot. -/
theorem demanded_subset (ms : List (Move τ)) : demanded ms ⊆ (tableAfter ms).slotKeys := by
  intro key hkey
  obtain ⟨a, ha⟩ := mem_demanded_iff.1 hkey
  rw [mem_standing_iff, ← queueOf_tableAfter] at ha
  obtain ⟨lock, hs, -⟩ := (mem_queueOf_iff (sound_tableAfter ms)).1 ha
  exact List.mem_toFinset.2 (List.mem_map_of_mem hs)

omit [DecidableEq τ] in
/-- The slots after asking for a key are its own and those that were in use. -/
theorem mem_slots_enqueue {ticket : τ} {key : String} {slot : String × Nat}
    (hs : slot ∈ (t.enqueue ticket key).slots) : slot.1 = key ∨ t.inUse slot.2 := by
  have hkept : slot ∈ t.kept key → slot.1 = key ∨ t.inUse slot.2 := fun h => (mem_kept_iff.1 h).2
  rcases enqueue_cases t ticket key with ⟨lock, -, he⟩ | ⟨-, he⟩
  · rw [he] at hs
    exact hkept hs
  · rw [he] at hs
    rcases List.mem_append.1 hs with hs | hs
    · exact hkept hs
    · exact .inl (congrArg Prod.fst (List.mem_singleton.1 hs))

/-- Right after a key was asked for, every key with a slot is held or awaited. -/
theorem slotKeys_subset (ms : List (Move τ)) (ticket : τ) (key : String) :
    (tableAfter (ms ++ [.ask ticket key])).slotKeys ⊆ demanded (ms ++ [.ask ticket key]) := by
  intro k hk
  have h := sound_tableAfter (ms ++ [Move.ask ticket key])
  obtain ⟨⟨k, lock⟩, hs, rfl⟩ := List.mem_map.1 (List.mem_toFinset.1 hk)
  rw [mem_demanded_iff]
  have hask : tableAfter (ms ++ [.ask ticket key]) = (tableAfter ms).ask ticket key :=
    tableAfter_append_singleton ms _
  rcases mem_slots_enqueue (hask ▸ hs) with rfl | huse
  · -- the ticket that asked is in the queue
    refine ⟨ticket, ?_⟩
    rw [standing_append_singleton]
    exact List.mem_append_right _ (List.mem_singleton.2 rfl)
  · -- so is the ticket for which the slot was kept
    obtain ⟨⟨a, l⟩, ha, hl⟩ := List.any_eq_true.1 huse
    obtain rfl : l = lock := beq_iff_eq.1 hl
    obtain ⟨_, ht⟩ := tickets_ask (tableAfter ms) ticket key
    have hmem : (a, l) ∈ (tableAfter (ms ++ [.ask ticket key])).tickets := by
      rw [hask, ht]
      exact List.mem_append_left _ ha
    refine ⟨a, ?_⟩
    rw [mem_standing_iff, ← queueOf_tableAfter]
    exact (mem_queueOf_iff h).2 ⟨l, hs, hmem⟩

/-- Giving tickets back leaves the slots alone. -/
theorem slots_giveBacks (ms : List (Move τ)) (tickets : List τ) :
    (tableAfter (ms ++ tickets.map .giveBack)).slots = (tableAfter ms).slots := by
  induction tickets using List.reverseRecOn with
  | nil => simp
  | append_singleton tickets ticket ih =>
    rw [List.map_append, ← List.append_assoc, List.map_singleton, tableAfter_append_singleton]
    exact ih

/-! ## Counting -/

/-- Slots do not leak. After any moves, in any order and over any keys :

* the keys that count are those some ticket holds or waits for;
* the lock of a slot is referred to by the slot and by every ticket in the queue of its key, and
  asking drops the slots of the other keys whose lock has no reference but that of the slot;
* right after a key was asked for, there are as many slots as keys that are held or awaited;
* until a key is asked for again, their number stays and is never below that of these keys. -/
theorem slots_do_not_leak (ms : List (Move τ)) :
    (∀ key, key ∈ demanded ms ↔
      ∃ a, (a, key) ∈ standing ms ∧ (a ∈ (tableAfter ms).held ∨ a ∈ (tableAfter ms).waiting)) ∧
    (∀ key lock, (key, lock) ∈ (tableAfter ms).slots →
      (tableAfter ms).references lock = 1 + (queuesAfter ms key).length) ∧
    (∀ key, (tableAfter ms).kept key = (tableAfter ms).slots.filter fun slot =>
      slot.1 = key ∨ 1 < (tableAfter ms).references slot.2) ∧
    (∀ ticket key, (tableAfter (ms ++ [.ask ticket key])).tracked =
      (demanded (ms ++ [.ask ticket key])).card) ∧
    (∀ tickets : List τ,
      (tableAfter (ms ++ tickets.map .giveBack)).tracked = (tableAfter ms).tracked ∧
        (demanded (ms ++ tickets.map .giveBack)).card ≤ (tableAfter ms).tracked) := by
  have h := sound_tableAfter ms
  refine ⟨fun key => ?_, fun key lock hs => ?_, kept_eq_filter_references h, fun ticket key => ?_,
    fun tickets => ?_⟩
  · rw [mem_demanded_iff]
    refine exists_congr fun a => (and_iff_left_of_imp fun ha => ?_).symm
    exact held_or_waiting_of_standing ha
  · rw [← queueOf_tableAfter]
    exact references_eq h hs
  · rw [tracked_eq_card (sound_tableAfter _)]
    exact congrArg Finset.card ((slotKeys_subset ms ticket key).antisymm (demanded_subset _))
  · have hn : (tableAfter (ms ++ tickets.map .giveBack)).tracked = (tableAfter ms).tracked :=
      congrArg List.length (slots_giveBacks ms tickets)
    refine ⟨hn, ?_⟩
    rw [← hn, tracked_eq_card (sound_tableAfter _)]
    exact Finset.card_le_card (demanded_subset _)

-- the slot of an idle key stays until the next ask
example : (tableAfter [Move.ask 0 "vm-a", .ask 1 "vm-b", .giveBack 1]).tracked = 2 ∧
    (tableAfter [Move.ask 0 "vm-a", .ask 1 "vm-b", .giveBack 1, .ask 2 "vm-c", .giveBack 2,
      .ask 2 "vm-c"]).tracked = 2 := by
  decide

end VcpuPinning.LockTable
