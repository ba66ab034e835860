import VcpuPinning.Proofs.Conductor.Interleaving

/-!
# What the lock keeps apart

While operations on the mapping of one instance run at the same time, one of them at most is
`Inside` : it got the lock, and carries out its body. `Exclusive` says so of a system, together
with the queue of the lock and the calls under way. Here is what each kind of step does to it.
-/

namespace VcpuPinning.Conductor

open LockTable Program

variable {ι : Type} [DecidableEq ι]

/-! ## Stores with the same mappings -/

/-- The stores have the same rows of mappings, and the same numbers for new ones. -/
structure SameMappings (s s' : Store) : Prop where
  mappings : s'.mappings = s.mappings
  sequences : s'.sequences = s.sequences

namespace SameMappings

variable {s s' s'' : Store}

theorem refl (s : Store) : SameMappings s s :=
  ⟨rfl, rfl⟩

theorem trans (h : SameMappings s s') (h' : SameMappings s' s'') : SameMappings s s'' :=
  ⟨h'.mappings.trans h.mappings, h'.sequences.trans h.sequences⟩

/-- With the reports of the other store, a store with the same mappings is the other one. -/
theorem eq (h : SameMappings s s') :
    { s with hosts := s'.hosts, instances := s'.instances } = s' := by
  obtain ⟨hosts, instances, mappings, sequences⟩ := s'
  obtain ⟨rfl, rfl⟩ := h
  rfl

theorem report {q : Statement} (h : q.IsReport) (now : UInt64) (s : Store) :
    SameMappings s (q.perform now s).2 := by
  cases q with
  | reportHost host =>
    exact ⟨(Store.mappings_upsert (by decide) ..).1, (Store.mappings_upsert (by decide) ..).2⟩
  | reportInstance inst =>
    exact ⟨(Store.mappings_upsert (by decide) ..).1, (Store.mappings_upsert (by decide) ..).2⟩
  | _ => exact h.elim

end SameMappings

/-! ## What the lock keeps apart -/

/-- The rest of an operation that holds the lock of its instance. -/
def Inside {α : Type} (uuid : String) (s : Store) (p : Program α) : Prop :=
  ∃ (body : Program α) (known : Bool), p = body.bind (unlock uuid) ∧
    Guarded uuid body known (fun _ _ => True) ∧ (known = true → (s.mapping? uuid).isSome)

/-- One operation at most is inside, and the others do not touch the mapping. -/
structure Exclusive (uuid : String) (sys : System ι) (holder : Option ι) : Prop where
  kept : sys.store.MappingsKept
  sound : sys.locks.Sound
  others : ∀ key ≠ uuid, sys.locks.queueOf key = []
  first : ∀ i, holder = some i → (sys.locks.queueOf uuid).head? = some i
  outside : ∀ i, holder ≠ some i → Outside uuid (sys.rest i)
  inside : ∀ i, holder = some i → Inside uuid sys.store (sys.rest i)
  calling : ∀ i ∈ sys.calling, holder = some i ∧
    ∃ caller host mapping next, sys.rest i = .call caller host mapping next
  nodup : sys.calling.Nodup

/-- An update of a mapping that is known to be there answers with it, and leaves it there. -/
theorem Guarded.update {α : Type} {uuid : String}
    {next : Except StoreError Mapping → Program α} {s : Store} (hs : s.MappingsKept)
    (hm : (s.mapping? uuid).isSome) {change : Mapping → Mapping}
    (hc : ∀ m : Mapping, m.status.canBecome (change m).status)
    (hok : ∀ m : Mapping, m.instanceUuid = uuid →
      Guarded uuid (next (.ok m)) true fun _ _ => True) (now : UInt64) :
    (s.updateMapping uuid change now).2.MappingsKept ∧ ∃ known',
      Guarded uuid (next (s.updateMapping uuid change now).1) known' (fun _ _ => True) ∧
        (known' = true → ((s.updateMapping uuid change now).2.mapping? uuid).isSome) := by
  obtain ⟨m, hm⟩ := Option.isSome_iff_exists.1 hm
  obtain rfl := hs.instanceUuid_of_mapping? hm
  have hu := Store.updateMapping_of_some hs hm (hc m) now
  rw [hu]
  exact ⟨hs.withMapping _, true, hok _ rfl, fun _ => Store.isSome_mapping?_withMapping _ _⟩

/-- A statement of a guarded body does what it was taken to do. -/
theorem Guarded.perform {α : Type} {uuid : String} {q : Statement}
    {next : Except StoreError q.Value → Program α} {known : Bool} {s : Store}
    (h : Guarded uuid (access q next) known fun _ _ => True) (hs : s.MappingsKept)
    (hk : known = true → (s.mapping? uuid).isSome) (now : UInt64) :
    (q.perform now s).2.MappingsKept ∧ ∃ known',
      Guarded uuid (next (q.perform now s).1) known' (fun _ _ => True) ∧
        (known' = true → ((q.perform now s).2.mapping? uuid).isSome) := by
  cases q with
  | findHost name =>
    have hp : (Statement.perform now s (.findHost name)).2 = s := Store.getHost_snd s name
    rw [hp]
    exact ⟨hs, known, h _, hk⟩
  | findMapping u =>
    obtain ⟨rfl, hnone, hsome⟩ := h
    have hp : Statement.perform now s (.findMapping u) = (.ok (s.mapping? u), s) :=
      Store.getMapping_eq hs u
    rw [hp]
    cases hm : s.mapping? u with
    | none => exact ⟨hs, false, hnone, nofun⟩
    | some m =>
      exact ⟨hs, true, hsome m (hs.instanceUuid_of_mapping? hm), fun _ => rfl⟩
  | create draft =>
    obtain ⟨rfl, herror, hok⟩ := h
    cases hm : s.mapping? draft.instanceUuid with
    | some m =>
      have hp : Statement.perform now s (.create draft) = _ :=
        Store.createMapping_of_some hs hm now
      rw [hp]
      exact ⟨hs, known, herror _, hk⟩
    | none =>
      have hp : Statement.perform now s (.create draft) = _ :=
        Store.createMapping_of_none hs hm now
      rw [hp]
      exact ⟨(hs.withNumber _).withMapping _, true, hok _ rfl,
        fun _ => Store.isSome_mapping?_withMapping _ _⟩
  | move u host =>
    obtain ⟨rfl, rfl, hok⟩ := h
    exact Guarded.update hs (hk rfl) (fun m => Mapping.canBecome_withHost m host) hok now
  | settle u failure =>
    obtain ⟨rfl, rfl, hok⟩ := h
    exact Guarded.update hs (hk rfl) (fun m => Mapping.canBecome_settled m failure) hok now
  | delete u =>
    obtain ⟨rfl, hok⟩ := h
    have hp : Statement.perform now s (.delete u) = _ := Store.deleteMapping_eq hs u
    rw [hp]
    exact ⟨hs.dropRow u, false, hok _, nofun⟩
  | listHosts | findInstance _ | listInstances | listMappings | reportHost _ | reportInstance _ =>
    exact h.elim

namespace Inside

variable {α : Type} {uuid : String} {s : Store} {p : Program α}

theorem congr {s' : Store} (h : Inside uuid s p) (hs : s'.mappings = s.mappings) :
    Inside uuid s' p := by
  obtain ⟨body, known, hp, hb, hk⟩ := h
  exact ⟨body, known, hp, hb, fun h => Store.mapping?_congr hs ▸ hk h⟩

/-- Who got the lock does not ask for it. -/
theorem ne_acquire (h : Inside uuid s p) (u : String) (next : Program α) :
    p ≠ acquire u next := by
  obtain ⟨body, known, rfl, hb, -⟩ := h
  cases body with
  | acquire => exact hb.elim
  | _ => exact nofun

/-- A statement under the lock. -/
theorem perform {q : Statement} {next : Except StoreError q.Value → Program α}
    (h : Inside uuid s (access q next)) (hs : s.MappingsKept) (now : UInt64) :
    (q.perform now s).2.MappingsKept ∧
      Inside uuid (q.perform now s).2 (next (q.perform now s).1) := by
  obtain ⟨body, known, hp, hb, hk⟩ := h
  cases body with
  | access q' next' =>
    cases hp
    obtain ⟨hs', known', hb', hk'⟩ := hb.perform hs hk now
    exact ⟨hs', _, known', rfl, hb', hk'⟩
  | _ => exact nomatch hp

/-- The answer of a host under the lock. -/
theorem answer {caller : Caller} {host : Host} {mapping : Mapping}
    {next : Except ConductorError Rpc.Applied → Program α}
    (h : Inside uuid s (call caller host mapping next)) (r : Except ConductorError Rpc.Applied) :
    mapping.instanceUuid = uuid ∧ Inside uuid s (next r) := by
  obtain ⟨body, known, hp, hb, hk⟩ := h
  cases body with
  | call caller' host' mapping' next' =>
    cases hp
    exact ⟨hb.1, _, known, rfl, hb.2 r, hk⟩
  | _ => exact nomatch hp

/-- The lock is given back at the end. -/
theorem release {u : String} {next : Program α} (h : Inside uuid s (release u next)) :
    u = uuid ∧ ∃ a, next = done a := by
  obtain ⟨body, known, hp, hb, hk⟩ := h
  cases body with
  | done a =>
    cases hp
    exact ⟨rfl, a, rfl⟩
  | release => exact hb.elim
  | _ => exact nomatch hp

/-- A cycle ends a mapping that is there. -/
theorem settle {u : String} {failure : Option String}
    {next : Except StoreError Mapping → Program α}
    (h : Inside uuid s (access (.settle u failure) next)) :
    u = uuid ∧ (s.mapping? uuid).isSome := by
  obtain ⟨body, known, hp, hb, hk⟩ := h
  cases body with
  | access q' next' =>
    cases hp
    exact ⟨hb.1, hk hb.2.1⟩
  | _ => exact nomatch hp

end Inside

namespace Outside

variable {α : Type} {uuid : String}

/-- An operation without the lock only reads where the instance is. -/
theorem perform {q : Statement} {next : Except StoreError q.Value → Program α}
    (h : Outside uuid (access q next)) : ∃ u, q = .findInstance u := by
  cases q with
  | findInstance u => exact ⟨u, rfl⟩
  | _ => exact h.elim

theorem inside {u : String} {next : Program α} (h : Outside uuid (acquire u next)) (s : Store) :
    u = uuid ∧ Inside uuid s next := by
  obtain ⟨rfl, body, rfl, hb⟩ := h
  exact ⟨rfl, body, false, rfl, hb, nofun⟩

end Outside

namespace Exclusive

variable {uuid : String} {sys : System ι} {holder : Option ι} {i : ι}

omit [DecidableEq ι] in
theorem start {ops : ι → Operation} (hops : ∀ i, (ops i).About uuid) {s : Store}
    (hs : s.MappingsKept) :
    Exclusive uuid ⟨s, .empty, fun i => (ops i).program.run, []⟩ none where
  kept := hs
  sound := .empty
  others _ _ := rfl
  first _ hi := nomatch hi
  outside i _ := outside_program (hops i)
  inside _ hi := nomatch hi
  calling _ hi := nomatch hi
  nodup := List.nodup_nil

/-- Who may read or write mappings, or call a host, has the lock. -/
theorem holder_eq (h : Exclusive uuid sys holder) (hi : ¬ Outside uuid (sys.rest i)) :
    holder = some i :=
  Decidable.byContradiction fun hne => hi (h.outside i hne)

omit [DecidableEq ι] in
theorem holder_ne (h : Exclusive uuid sys holder) (hi : ¬ Inside uuid sys.store (sys.rest i)) :
    holder ≠ some i :=
  fun he => hi (h.inside i he)

omit [DecidableEq ι] in
/-- While the holder is at another step than a call, no call is under way. -/
theorem calling_eq_nil (h : Exclusive uuid sys (some i))
    (hi : ∀ caller host mapping next, sys.rest i ≠ call caller host mapping next) :
    sys.calling = [] := by
  refine List.eq_nil_iff_forall_not_mem.2 fun j hj => ?_
  obtain ⟨he, caller, host, mapping, next, hc⟩ := h.calling j hj
  obtain rfl := Option.some.inj he
  exact hi caller host mapping next hc

omit [DecidableEq ι] in
/-- One call at most is under way. -/
theorem length_calling_le_one (h : Exclusive uuid sys holder) : sys.calling.length ≤ 1 := by
  have one : ∀ i ∈ sys.calling, ∀ j ∈ sys.calling, i = j := fun i hi j hj =>
    Option.some.inj ((h.calling i hi).1.symm.trans (h.calling j hj).1)
  have hn := h.nodup
  generalize sys.calling = calling at one hn ⊢
  rcases calling with _ | ⟨i, _ | ⟨j, rest⟩⟩
  · exact Nat.zero_le 1
  · exact Nat.le_refl 1
  · obtain rfl := one i (by simp) j (by simp)
    exact absurd List.mem_cons_self (List.nodup_cons.1 hn).1

omit [DecidableEq ι] in
theorem report (h : Exclusive uuid sys holder) {s : Store} (hs : SameMappings sys.store s) :
    Exclusive uuid { sys with store := s } holder where
  kept := h.kept.congr hs.mappings
  sound := h.sound
  others := h.others
  first := h.first
  outside := h.outside
  inside i hi := (h.inside i hi).congr hs.mappings
  calling := h.calling
  nodup := h.nodup

/-- A step of the holder that is no call and keeps the lock. -/
theorem own (h : Exclusive uuid sys (some i)) {s : Store} (hs : s.MappingsKept)
    {p : Program (Except ConductorError Answer)} (hp : Inside uuid s p) :
    Exclusive uuid
      { sys with store := s, rest := Function.update sys.rest i p, calling := [] } (some i) where
  kept := hs
  sound := h.sound
  others := h.others
  first := h.first
  outside j hj := by
    have hji : j ≠ i := fun hji => hj (congrArg some hji.symm)
    simpa only [Function.update_of_ne hji] using h.outside j hj
  inside j hj := by
    obtain rfl := Option.some.inj hj
    simpa only [Function.update_self] using hp
  calling _ hj := nomatch hj
  nodup := List.nodup_nil

/-- A step of an operation that does not have the lock, and still does not have it. -/
theorem reads (h : Exclusive uuid sys holder) (hi : holder ≠ some i)
    {p : Program (Except ConductorError Answer)} (hp : Outside uuid p) :
    Exclusive uuid { sys with rest := Function.update sys.rest i p } holder where
  kept := h.kept
  sound := h.sound
  others := h.others
  first := h.first
  outside j hj := by
    by_cases hji : j = i
    · subst hji
      simpa only [Function.update_self] using hp
    · simpa only [Function.update_of_ne hji] using h.outside j hj
  inside j hj := by
    have hji : j ≠ i := fun hji => hi (hji ▸ hj)
    simpa only [Function.update_of_ne hji] using h.inside j hj
  calling j hj := by
    obtain ⟨he, hc⟩ := h.calling j hj
    have hji : j ≠ i := fun hji => hi (hji ▸ he)
    exact ⟨he, by simpa only [Function.update_of_ne hji] using hc⟩
  nodup := h.nodup

/-- Who asks for the lock queues behind the others. -/
theorem ask (h : Exclusive uuid sys holder) (hi : holder ≠ some i) :
    Exclusive uuid { sys with locks := sys.locks.ask i uuid } holder where
  kept := h.kept
  sound := h.sound.onTable (.ask i uuid)
  others key hk := by
    have hq := congrFun (queueOf_onTable h.sound (.ask i uuid)) key
    rw [Move.onTable, Queues.after, Queues.join_of_ne _ _ hk, Queues.leave, h.others key hk] at hq
    exact hq
  first j hj := by
    have hq := congrFun (queueOf_onTable h.sound (.ask i uuid)) uuid
    have hji : j ≠ i := fun hji => hi (hji ▸ hj)
    rw [Move.onTable, Queues.after, Queues.join_self, Queues.leave] at hq
    obtain ⟨js, hjs⟩ := List.head?_eq_some_iff.1 (h.first j hj)
    rw [hq, hjs, List.filter_cons_of_pos (by simpa using hji)]
    rfl
  outside := h.outside
  inside := h.inside
  calling := h.calling
  nodup := h.nodup

/-- The first of the queue gets the lock when nobody has it. -/
theorem grant (h : Exclusive uuid sys none) (hi : sys.locks.holdsLock i)
    {p : Program (Except ConductorError Answer)} (hp : Inside uuid sys.store p) :
    Exclusive uuid { sys with rest := Function.update sys.rest i p } (some i) where
  kept := h.kept
  sound := h.sound
  others := h.others
  first j hj := by
    obtain rfl := Option.some.inj hj
    obtain ⟨key, hk⟩ := (holdsLock_iff h.sound).1 hi
    by_cases hu : key = uuid
    · exact hu ▸ hk
    · rw [h.others key hu] at hk
      exact nomatch hk
  outside j hj := by
    have hji : j ≠ i := fun hji => hj (congrArg some hji.symm)
    simpa only [Function.update_of_ne hji] using h.outside j nofun
  inside j hj := by
    obtain rfl := Option.some.inj hj
    simpa only [Function.update_self] using hp
  calling j hj := nomatch (h.calling j hj).1
  nodup := h.nodup

omit [DecidableEq ι] in
theorem call (h : Exclusive uuid sys (some i)) {caller : Caller} {host : Host}
    {mapping : Mapping} {next : Except ConductorError Rpc.Applied → Program _}
    (hi : sys.rest i = .call caller host mapping next) (hn : i ∉ sys.calling) :
    Exclusive uuid { sys with calling := i :: sys.calling } (some i) where
  kept := h.kept
  sound := h.sound
  others := h.others
  first := h.first
  outside := h.outside
  inside := h.inside
  calling j hj := by
    rcases List.mem_cons.1 hj with rfl | hj
    · exact ⟨rfl, caller, host, mapping, next, hi⟩
    · exact h.calling j hj
  nodup := List.nodup_cons.2 ⟨hn, h.nodup⟩

/-- The holder gives the lock back, and is done. -/
theorem release (h : Exclusive uuid sys (some i)) (hc : sys.calling = [])
    (a : Except ConductorError Answer) :
    Exclusive uuid { sys with
      locks := sys.locks.giveBack i
      rest := Function.update sys.rest i (done a) } none where
  kept := h.kept
  sound := h.sound.giveBack i
  others key hk := by
    rw [queueOf_giveBack, Queues.leave, h.others key hk]
    rfl
  first _ hj := nomatch hj
  outside j _ := by
    by_cases hji : j = i
    · subst hji
      simp only [Function.update_self]
      exact trivial
    · simpa only [Function.update_of_ne hji] using
        h.outside j fun he => hji (Option.some.inj he).symm
  inside _ hj := nomatch hj
  calling j hj := by
    have hj' : j ∈ sys.calling := hj
    rw [hc] at hj'
    exact absurd hj' List.not_mem_nil
  nodup := h.nodup

end Exclusive

end VcpuPinning.Conductor
