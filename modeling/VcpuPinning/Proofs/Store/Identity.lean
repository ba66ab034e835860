import VcpuPinning.Proofs.Store.Operations

/-!
# The identity of mappings

The main statement, `mapping_identity`, is about any operations on an empty store, one after the
other. The mappings that they create are numbered 1, 2, 3 and so on, each is stored under its
instance, no two of them have one number, and the status of a mapping with a number is pending for a
while and then never again.

A `Turn` is what an operation means for the mappings, whatever the change that is passed to an
update. Each turn keeps `Numbered`, the invariant that ties the last number to the stored mappings.
-/

namespace VcpuPinning

/-! ## Statuses -/

namespace Mapping.Status

theorem canBecome_iff {a b : Status} : a.canBecome b ↔ b ≠ .pending ∨ a = .pending := by
  cases a <;> cases b <;> decide

theorem canBecome_self (a : Status) : a.canBecome a := by
  cases a <;> rfl

theorem canBecome_trans {a b c : Status} (h : a.canBecome b) (h' : b.canBecome c) :
    a.canBecome c := by
  rw [canBecome_iff] at *
  grind

/-- Statuses each of which may become any later one are pending for a while and then never
again. -/
theorem exists_replicate_append {l : List Status} (h : l.Pairwise fun a b => a.canBecome b) :
    ∃ n ended, l = List.replicate n .pending ++ ended ∧ ∀ a ∈ ended, a ≠ .pending := by
  induction l with
  | nil => exact ⟨0, [], rfl, by simp⟩
  | cons a l ih =>
    obtain ⟨ha, hl⟩ := List.pairwise_cons.1 h
    by_cases hp : a = .pending
    · obtain ⟨n, ended, rfl, hended⟩ := ih hl
      exact ⟨n + 1, ended, by rw [hp, List.replicate_succ, List.cons_append], hended⟩
    · refine ⟨0, a :: l, rfl, List.forall_mem_cons.2 ⟨hp, fun b hb => ?_⟩⟩
      exact (canBecome_iff.1 (ha b hb)).resolve_right hp

end Mapping.Status

namespace Store

/-! ## Numbers -/

/-- The last mapping number that was given out. -/
def lastMappingNumber (s : Store) : UInt64 :=
  (s.sequences.get? mappingSequence).getD 0

/-- The stored mapping with a number. -/
def numbered? (s : Store) (id : UInt64) : Option Mapping :=
  s.mappings.values.findSome? fun row =>
    (decode Mapping.ofJson? row).toOption.filter (·.id = id)

/-- The mapping that an operation created, by its answer. -/
def Operation.created? : (op : Operation) → Except StoreError op.Value → Option Mapping
  | createMapping _, r => r.toOption
  | _, _ => none

/-! ## Runs -/

/-- An operation and the time at which it is carried out. -/
structure Step where
  now : UInt64
  operation : Operation

/-- The store after a step. -/
def Step.next (step : Step) (s : Store) : Store :=
  (step.operation.perform step.now s).2

/-- The mapping that a step creates. -/
def Step.created? (step : Step) (s : Store) : Option Mapping :=
  step.operation.created? (step.operation.perform step.now s).1

/-- The store after steps. -/
def after (s : Store) : List Step → Store
  | [] => s
  | step :: steps => after (step.next s) steps

/-- The mappings that steps create, as they are answered, in order. -/
def creations (s : Store) : List Step → List Mapping
  | [] => []
  | step :: steps => (step.created? s).toList ++ creations (step.next s) steps

/-- The status of the mapping with a number after each of the steps, as long as one is stored. -/
def statuses (id : UInt64) (s : Store) : List Step → List Mapping.Status
  | [] => []
  | step :: steps =>
    (((step.next s).numbered? id).map (·.status)).toList ++ statuses id (step.next s) steps

/-! ## Turns -/

/-- What an operation means for the mappings and their numbers. -/
inductive Turn (s s' : Store) : Option Mapping → Prop
  | same (mappings : s'.mapping? = s.mapping?)
      (last : s'.lastMappingNumber = s.lastMappingNumber) : Turn s s' none
  | created (m : Mapping) (fresh : s.mapping? m.instanceUuid = none)
      (id : m.id = s.lastMappingNumber + 1) (status : m.status = .pending)
      (mappings : s'.mapping? = Function.update s.mapping? m.instanceUuid (some m))
      (last : s'.lastMappingNumber = m.id) : Turn s s' (some m)
  | updated (m m' : Mapping) (uuid : String) (found : s.mapping? uuid = some m)
      (id : m'.id = m.id) (allowed : m.status.canBecome m'.status)
      (mappings : s'.mapping? = Function.update s.mapping? uuid (some m'))
      (last : s'.lastMappingNumber = s.lastMappingNumber) : Turn s s' none
  | deleted (uuid : String) (mappings : s'.mapping? = Function.update s.mapping? uuid none)
      (last : s'.lastMappingNumber = s.lastMappingNumber) : Turn s s' none

theorem Operation.created?_of_quiet {op : Operation} {r : Except StoreError op.Value}
    (h : op.Quiet r) : op.created? r = none := by
  cases op with
  | createMapping draft => exact h.elim
  | _ => rfl

theorem Operation.created?_error (op : Operation) (e : StoreError) :
    op.created? (.error e) = none := by
  cases op <;> rfl

variable {now : UInt64} {s s' : Store}

theorem instanceUuid_stamped (m changed : Mapping) (now : UInt64) :
    (stamped m changed now).instanceUuid = m.instanceUuid := rfl

/-- A changed mapping is written under its instance. -/
theorem MappingsKept.putRow_stamped (hs : s.MappingsKept) {uuid : String} {m : Mapping}
    (found : s.mapping? uuid = some m) (changed : Mapping) (now : UInt64) :
    s.putRow .mappings uuid (encode Mapping.toJson (stamped m changed now)) =
      s.withMapping (stamped m changed now) := by
  rw [Store.withMapping, instanceUuid_stamped, hs.instanceUuid_of_mapping? found]

theorem MappingsKept.writes (hs : s.MappingsKept) {op : Operation}
    {r : Except StoreError op.Value} (h : Writes now s op r s') : s'.MappingsKept := by
  cases h with
  | fails e => exact hs
  | reads a quiet => exact hs
  | hostReported host outcome changed => exact hs.congr rfl
  | instanceReported inst outcome changed => exact hs.congr rfl
  | created draft fresh => exact (hs.withNumber _).withMapping _
  | updated uuid change m found allowed =>
    rw [hs.putRow_stamped found]
    exact hs.withMapping _
  | deleted uuid existed => exact hs.dropRow uuid

/-- Each operation takes one of these turns. -/
theorem Writes.turn (hs : s.MappingsKept) {op : Operation} {r : Except StoreError op.Value}
    (h : Writes now s op r s') : Turn s s' (op.created? r) := by
  cases h with
  | fails e =>
    rw [Operation.created?_error]
    exact .same rfl rfl
  | reads a quiet =>
    rw [Operation.created?_of_quiet quiet]
    exact .same rfl rfl
  | hostReported host outcome changed => exact .same (mapping?_congr rfl) rfl
  | instanceReported inst outcome changed => exact .same (mapping?_congr rfl) rfl
  | created draft fresh =>
    refine .created _ (by simp [mapping?, Draft.toMapping, fresh]) rfl rfl ?_ ?_
    · rw [mapping?_withMapping]
      rfl
    · simp [lastMappingNumber, Store.withMapping, putRow, withRows, withNumber, Draft.toMapping]
  | updated uuid change m found allowed =>
    refine .updated m (stamped m (change m) now) uuid found rfl allowed ?_ rfl
    rw [hs.putRow_stamped found, mapping?_withMapping]
    rw [instanceUuid_stamped, hs.instanceUuid_of_mapping? found]
  | deleted uuid existed => exact .deleted uuid (mapping?_dropRow s uuid) rfl

theorem Step.turn (hs : s.MappingsKept) (step : Step) :
    Turn s (step.next s) (step.created? s) :=
  (writes_perform step.now s step.operation).turn hs

namespace Turn

variable {c : Option Mapping}

/-- Each stored mapping comes from one with the same number under the same key, or is new. -/
theorem origin (ht : Turn s s' c) {uuid : String} {m' : Mapping}
    (hm : s'.mapping? uuid = some m') :
    (∃ m, s.mapping? uuid = some m ∧ m.id = m'.id ∧ m.status.canBecome m'.status) ∨
      c = some m' ∧ m'.instanceUuid = uuid := by
  have kept (h : s.mapping? uuid = some m') : ∃ m, s.mapping? uuid = some m ∧ m.id = m'.id ∧
      m.status.canBecome m'.status := ⟨m', h, rfl, Mapping.Status.canBecome_self _⟩
  cases ht with
  | same mappings last => exact .inl (kept (mappings ▸ hm))
  | created m fresh id status mappings last =>
    by_cases hu : uuid = m.instanceUuid
    · rw [mappings, hu, Function.update_self] at hm
      obtain rfl := Option.some.inj hm
      exact .inr ⟨rfl, hu.symm⟩
    · rw [mappings, Function.update_of_ne hu] at hm
      exact .inl (kept hm)
  | updated m m₁ u found id allowed mappings last =>
    by_cases hu : uuid = u
    · rw [mappings, hu, Function.update_self] at hm
      obtain rfl := Option.some.inj hm
      exact .inl ⟨m, hu ▸ found, id.symm, allowed⟩
    · rw [mappings, Function.update_of_ne hu] at hm
      exact .inl (kept hm)
  | deleted u mappings last =>
    by_cases hu : uuid = u
    · rw [mappings, hu, Function.update_self] at hm
      exact nomatch hm
    · rw [mappings, Function.update_of_ne hu] at hm
      exact .inl (kept hm)

theorem last_of_none (ht : Turn s s' none) : s'.lastMappingNumber = s.lastMappingNumber := by
  cases ht <;> assumption

/-- A new mapping is pending, and its number is the next one. -/
theorem of_some {m : Mapping} (ht : Turn s s' (some m)) : m.id = s.lastMappingNumber + 1 ∧
    m.status = .pending ∧ s'.lastMappingNumber = m.id := by
  cases ht with
  | created m fresh id status mappings last => exact ⟨id, status, last⟩

end Turn

/-! ## The invariant -/

/-- `k` mapping numbers were given out, and each stored mapping has one of them for its own. -/
structure Numbered (s : Store) (k : ℕ) : Prop where
  kept : s.MappingsKept
  last : s.lastMappingNumber.toNat = k
  le_last : ∀ uuid m, s.mapping? uuid = some m → m.id.toNat ≤ k
  unique : ∀ uuid uuid' m m', s.mapping? uuid = some m → s.mapping? uuid' = some m' →
    m.id = m'.id → uuid = uuid'

namespace Numbered

variable {k : ℕ} {c : Option Mapping}

theorem empty : Numbered .empty 0 where
  kept := .empty
  last := rfl
  le_last uuid m hm := by simp [mapping?, row?, rows, Store.empty] at hm
  unique uuid _ m _ hm := by simp [mapping?, row?, rows, Store.empty] at hm

theorem toNat_id_of_turn (h : Numbered s k) (ht : Turn s s' c)
    (hmax : k + c.toList.length < UInt64.size) {m : Mapping} (hc : c = some m) :
    m.id.toNat = k + 1 := by
  subst hc
  rw [ht.of_some.1, UInt64.toNat_add, h.last]
  exact Nat.mod_eq_of_lt hmax

/-- A new mapping has a number that no stored one has. -/
theorem id_ne_of_turn (h : Numbered s k) (ht : Turn s s' c)
    (hmax : k + c.toList.length < UInt64.size) {m m₀ : Mapping} (hc : c = some m) {uuid : String}
    (hm : s.mapping? uuid = some m₀) : m₀.id ≠ m.id := by
  intro he
  have hle := h.le_last uuid m₀ hm
  rw [he, h.toNat_id_of_turn ht hmax hc] at hle
  omega

/-- A turn that creates a mapping counts the numbers on. -/
theorem turn (h : Numbered s k) (ht : Turn s s' c) (hk : s'.MappingsKept)
    (hmax : k + c.toList.length < UInt64.size) : Numbered s' (k + c.toList.length) where
  kept := hk
  last := by
    cases c with
    | none => rw [ht.last_of_none, h.last]; rfl
    | some m => rw [ht.of_some.2.2, h.toNat_id_of_turn ht hmax rfl]; rfl
  le_last uuid m hm := by
    rcases ht.origin hm with ⟨m₀, hm₀, hid, -⟩ | ⟨rfl, -⟩
    · exact hid ▸ Nat.le_add_right_of_le (h.le_last uuid m₀ hm₀)
    · exact Nat.le_of_eq (h.toNat_id_of_turn ht hmax rfl)
  unique uuid uuid' m m' hm hm' hid := by
    rcases ht.origin hm with ⟨m₀, hm₀, hid₀, -⟩ | ⟨hc, rfl⟩ <;>
      rcases ht.origin hm' with ⟨m₁, hm₁, hid₁, -⟩ | ⟨hc', rfl⟩
    · exact h.unique uuid uuid' m₀ m₁ hm₀ hm₁ (by rw [hid₀, hid, hid₁])
    · exact absurd (hid₀.trans hid) (h.id_ne_of_turn ht hmax hc' hm₀)
    · exact absurd (hid₁.trans hid.symm) (h.id_ne_of_turn ht hmax hc hm₁)
    · rw [Option.some.inj (hc.symm.trans hc')]

theorem numbered?_eq_some_iff (h : Numbered s k) {id : UInt64} {m : Mapping} :
    s.numbered? id = some m ↔ m.id = id ∧ ∃ uuid, s.mapping? uuid = some m := by
  have stored {m : Mapping} (hm : s.numbered? id = some m) :
      m.id = id ∧ ∃ uuid, s.mapping? uuid = some m := by
    obtain ⟨row, hrow, hf⟩ := List.exists_of_findSome?_eq_some hm
    obtain ⟨⟨uuid, row⟩, he, rfl⟩ := List.mem_map.1 hrow
    obtain ⟨hd, hid⟩ := Option.filter_eq_some_iff.1 hf
    exact ⟨by simpa using hid, uuid, Option.bind_eq_some_iff.2
      ⟨row, SortedMap.mem_entries_iff.1 he, hd⟩⟩
  refine ⟨stored, ?_⟩
  rintro ⟨rfl, uuid, hm⟩
  cases hn : s.numbered? m.id with
  | none =>
    obtain ⟨row, hr, hd⟩ := Option.bind_eq_some_iff.1 hm
    have hrow : row ∈ s.mappings.values := List.mem_map.2 ⟨_, SortedMap.mem_entries_iff.2 hr, rfl⟩
    have hf := List.findSome?_eq_none_iff.1 hn row hrow
    simp [hd] at hf
  | some m' =>
    obtain ⟨hid, uuid', hm'⟩ := stored hn
    obtain rfl := h.unique uuid' uuid m' m hm' hm hid
    exact hm'.symm.trans hm

end Numbered

/-! ## What a run keeps -/

namespace Numbered

variable {k : ℕ} {id : UInt64}

theorem next (h : Numbered s k) (step : Step)
    (hmax : k + (step.created? s).toList.length < UInt64.size) :
    Numbered (step.next s) (k + (step.created? s).toList.length) :=
  h.turn (step.turn h.kept) (h.kept.writes (writes_perform ..)) hmax

/-- The mapping with a number comes from the one that had it, or is new and pending. -/
theorem numbered?_origin (h : Numbered s k) (step : Step)
    (hmax : k + (step.created? s).toList.length < UInt64.size) {m' : Mapping}
    (hm : (step.next s).numbered? id = some m') :
    (∃ m, s.numbered? id = some m ∧ m.status.canBecome m'.status) ∨
      k < id.toNat ∧ m'.status = .pending := by
  have ht := step.turn h.kept
  obtain ⟨rfl, uuid, hm⟩ := (h.next step hmax).numbered?_eq_some_iff.1 hm
  rcases ht.origin hm with ⟨m, hm₀, hid, hs⟩ | ⟨hc, -⟩
  · exact .inl ⟨m, h.numbered?_eq_some_iff.2 ⟨hid, uuid, hm₀⟩, hs⟩
  · rw [h.toNat_id_of_turn ht hmax hc]
    exact .inr ⟨k.lt_succ_self, (hc ▸ ht).of_some.2.1⟩

/-- The mappings that steps create are numbered one after the other. -/
theorem after (h : Numbered s k) (steps : List Step)
    (hmax : k + (creations s steps).length < UInt64.size) :
    Numbered (s.after steps) (k + (creations s steps).length) ∧
      (creations s steps).map (·.id.toNat) =
        List.range' (k + 1) (creations s steps).length := by
  induction steps generalizing s k with
  | nil => exact ⟨h, rfl⟩
  | cons step steps ih =>
    simp only [creations, List.length_append] at hmax ⊢
    have hstep : k + (step.created? s).toList.length < UInt64.size := by omega
    obtain ⟨hafter, hids⟩ := ih (h.next step hstep) (by omega)
    refine ⟨by rwa [Nat.add_assoc] at hafter, ?_⟩
    rw [List.map_append, hids]
    cases hc : step.created? s with
    | none => simp
    | some m =>
      have hid := h.toNat_id_of_turn (step.turn h.kept) hstep hc
      simp [hid, List.range'_succ, Nat.add_comm 1]

/-- A number that was given out and has no mapping any more never has one again. -/
theorem statuses_of_none (h : Numbered s k) (hid : id.toNat ≤ k) (hn : s.numbered? id = none)
    (steps : List Step) (hmax : k + (creations s steps).length < UInt64.size) :
    statuses id s steps = [] := by
  induction steps generalizing s k with
  | nil => rfl
  | cons step steps ih =>
    simp only [creations, List.length_append] at hmax
    have hstep : k + (step.created? s).toList.length < UInt64.size := by omega
    have hnone : (step.next s).numbered? id = none := by
      refine Option.eq_none_iff_forall_ne_some.2 fun m hm => ?_
      rcases h.numbered?_origin step hstep hm with ⟨m₀, hm₀, -⟩ | ⟨hlt, -⟩
      · exact nomatch hn.symm.trans hm₀
      · omega
    rw [statuses, hnone]
    exact ih (h.next step hstep) (by omega) hnone (by omega)

theorem le_of_numbered? (h : Numbered s k) {m : Mapping} (hm : s.numbered? id = some m) :
    id.toNat ≤ k := by
  obtain ⟨rfl, uuid, hm⟩ := h.numbered?_eq_some_iff.1 hm
  exact h.le_last uuid m hm

/-- The status of a stored mapping may become each of its later ones, and these one another. -/
theorem pairwise_statuses (h : Numbered s k) {m : Mapping} (hm : s.numbered? id = some m)
    (steps : List Step) (hmax : k + (creations s steps).length < UInt64.size) :
    (m.status :: statuses id s steps).Pairwise fun a b => a.canBecome b := by
  induction steps generalizing s k m with
  | nil => simp [statuses]
  | cons step steps ih =>
    simp only [creations, List.length_append] at hmax
    have hstep : k + (step.created? s).toList.length < UInt64.size := by omega
    have hle := h.le_of_numbered? hm
    cases hm' : (step.next s).numbered? id with
    | none =>
      have hnil := (h.next step hstep).statuses_of_none (by omega) hm' steps (by omega)
      simp [statuses, hm', hnil]
    | some m' =>
      have hs : m.status.canBecome m'.status := by
        rcases h.numbered?_origin step hstep hm' with ⟨m₀, hm₀, hs⟩ | ⟨hlt, -⟩
        · rwa [Option.some.inj (hm.symm.trans hm₀)]
        · omega
      have hlater := ih (h.next step hstep) hm' (by omega)
      rw [statuses, hm']
      refine List.pairwise_cons.2 ⟨List.forall_mem_cons.2 ⟨hs, fun b hb => ?_⟩, hlater⟩
      exact Mapping.Status.canBecome_trans hs ((List.pairwise_cons.1 hlater).1 b hb)

/-- The statuses of a number that was not given out yet: pending first, if there are any. -/
theorem statuses_of_lt (h : Numbered s k) (hid : k < id.toNat) (steps : List Step)
    (hmax : k + (creations s steps).length < UInt64.size) :
    (statuses id s steps).Pairwise (fun a b => a.canBecome b) ∧
      ∀ a ∈ (statuses id s steps).head?, a = .pending := by
  induction steps generalizing s k with
  | nil => simp [statuses]
  | cons step steps ih =>
    simp only [creations, List.length_append] at hmax
    have hstep : k + (step.created? s).toList.length < UInt64.size := by omega
    have hnext := h.next step hstep
    cases hm : (step.next s).numbered? id with
    | none =>
      rw [statuses, hm]
      by_cases hk : k + (step.created? s).toList.length < id.toNat
      · exact ih hnext hk (by omega)
      · have hnil := hnext.statuses_of_none (by omega) hm steps (by omega)
        simp [hnil]
    | some m =>
      have hp : m.status = .pending := by
        rcases h.numbered?_origin step hstep hm with ⟨m₀, hm₀, -⟩ | ⟨-, hp⟩
        · exact absurd (h.le_of_numbered? hm₀) (Nat.not_le.2 hid)
        · exact hp
      rw [statuses, hm]
      refine ⟨hnext.pairwise_statuses hm steps (by omega), ?_⟩
      rintro a ⟨⟩
      exact hp

/-- A number without a mapping gets one that is pending for a while and then never again, if it gets
one at all. -/
theorem exists_replicate_append_statuses (h : Numbered s k) (hn : s.numbered? id = none)
    (steps : List Step) (hmax : k + (creations s steps).length < UInt64.size) :
    ∃ n ended, statuses id s steps = List.replicate n .pending ++ ended ∧
      (∀ a ∈ ended, a = .succeed ∨ a = .failed) ∧ (ended ≠ [] → 0 < n) := by
  by_cases hid : id.toNat ≤ k
  · exact ⟨0, [], h.statuses_of_none hid hn steps hmax, by simp, by simp⟩
  obtain ⟨hpair, hhead⟩ := h.statuses_of_lt (Nat.not_le.1 hid) steps hmax
  obtain ⟨n, ended, he, hended⟩ := Mapping.Status.exists_replicate_append hpair
  refine ⟨n, ended, he, fun a ha => ?_, fun hne => ?_⟩
  · have hp := hended a ha
    cases a with
    | pending => exact absurd rfl hp
    | succeed => exact .inl rfl
    | failed => exact .inr rfl
  · obtain ⟨a, l, rfl⟩ := List.exists_cons_of_ne_nil hne
    refine Nat.pos_of_ne_zero ?_
    rintro rfl
    exact hended a List.mem_cons_self (hhead a (by rw [he]; rfl))

end Numbered

/-! ## Identity -/

variable {now : UInt64} {s : Store}

/-- An ended mapping cannot be made pending again. -/
theorem updateMapping_of_ended {uuid : String} {m : Mapping} (hm : s.mapping? uuid = some m)
    (ended : m.status ≠ .pending) {change : Mapping → Mapping}
    (back : (change m).status = .pending) : s.updateMapping uuid change now =
      (.error (.invalidTransition uuid m.status.word Mapping.Status.pending.word), s) := by
  have hnot : ¬ m.status.canBecome (change m).status := by
    rw [Mapping.Status.canBecome_iff, back]
    simp [ended]
  rw [updateMapping_eq hm, if_neg hnot, back]

/-- Operations on an empty store, with fewer than `2 ^ 64 - 1` mappings created. The mappings are
numbered in order from one, and a refused one takes no number. Each row is stored under its own
instance, whatever a change made of the mapping, and its number is one that was given out and that
no other row has. The mapping with a number is pending for a while and then never again, as a change
back is refused. -/
theorem mapping_identity (steps : List Step)
    (h : (creations .empty steps).length < UInt64.size - 1) :
    (creations .empty steps).map (·.id.toNat) =
        List.range' 1 (creations .empty steps).length ∧
    (after .empty steps).lastMappingNumber.toNat = (creations .empty steps).length ∧
    (∀ draft now e, ((after .empty steps).createMapping draft now).1 = .error e →
      ((after .empty steps).createMapping draft now).2 = after .empty steps) ∧
    (∀ uuid row, (after .empty steps).row? .mappings uuid = some row →
      ∃ m, decode Mapping.ofJson? row = .ok m ∧ m.instanceUuid = uuid ∧
        m.id ≤ (after .empty steps).lastMappingNumber) ∧
    (∀ uuid uuid' m m', (after .empty steps).mapping? uuid = some m →
      (after .empty steps).mapping? uuid' = some m' → m.id = m'.id → uuid = uuid') ∧
    (∀ id, ∃ n ended,
      statuses id .empty steps = List.replicate n .pending ++ ended ∧
        (∀ a ∈ ended, a = .succeed ∨ a = .failed) ∧ (ended ≠ [] → 0 < n)) ∧
    ∀ uuid m change now, (after .empty steps).mapping? uuid = some m → m.status ≠ .pending →
      (change m).status = .pending →
      (after .empty steps).updateMapping uuid change now =
        (.error (.invalidTransition uuid m.status.word "PENDING"), after .empty steps) := by
  have hmax : 0 + (creations .empty steps).length < UInt64.size := by
    rw [Nat.zero_add]
    exact Nat.lt_of_lt_of_le h (Nat.sub_le _ _)
  obtain ⟨hn, hids⟩ := Numbered.empty.after steps hmax
  rw [Nat.zero_add] at hn
  refine ⟨hids, hn.last, fun draft now e he => ?_, fun uuid row hr => ?_, hn.unique,
    fun id => ?_, fun uuid m change now hm ended back => updateMapping_of_ended hm ended back⟩
  · exact (he ▸ writes_perform now _ (.createMapping draft)).eq_of_error
  · obtain ⟨m, rfl, hu⟩ := hn.kept uuid row hr
    have hm : (after .empty steps).mapping? uuid = some m := by
      simp [mapping?, hr, Except.toOption]
    exact ⟨m, decode_encode m, hu, UInt64.le_iff_toNat_le.2 (hn.last ▸ hn.le_last uuid m hm)⟩
  · exact Numbered.empty.exists_replicate_append_statuses rfl steps hmax

/-- A mapping is created, is refused when it is created again, is deleted, and is created anew. -/
def recreation : List Step :=
  let draft : Draft := ⟨"vm-a", none, none, some "node-1", "0-1"⟩
  [⟨10, .createMapping draft⟩, ⟨11, .createMapping draft⟩, ⟨12, .deleteMapping "vm-a"⟩,
    ⟨13, .createMapping draft⟩]

/-- The two mappings of `recreation` have the numbers one and two. -/
theorem mapping_identity_of_recreation :
    (creations .empty recreation).map (·.id.toNat) = [1, 2] ∧
      (after .empty recreation).lastMappingNumber.toNat = 2 := by
  have hlen : (creations .empty recreation).length = 2 := by decide +kernel
  obtain ⟨hids, hlast, -⟩ := mapping_identity recreation (by rw [hlen]; decide)
  rw [hlen] at hids hlast
  exact ⟨hids, hlast⟩

end Store

end VcpuPinning
