import VcpuPinning.Proofs.Conductor.Operations

/-!
# The life of a mapping

`mapping_lifecycle` : after any operations from an empty store, every stored mapping was created
by one of them, kept what identifies it, and tells by its status whether a cycle has run on it.
A history is a list of entries, one for each operation, and `Life` reads a stored mapping off the
entries since its creation. Each `Effect` of an operation extends it (`Effect.recorded`).
-/

namespace VcpuPinning

namespace Mapping

/-- The three shapes of a stored mapping, by whether a cycle has run on it. -/
inductive Shape (cycled : Prop) (m : Mapping) : Prop
  | pending (status : m.status = .pending) (reason : m.statusReason = none) (never : ¬ cycled)
  | succeed (status : m.status = .succeed) (reason : m.statusReason = none) (once : cycled)
  | failed (text : String) (status : m.status = .failed) (reason : m.statusReason = some text)
      (once : cycled)

theorem Shape.congr {p q : Prop} {m : Mapping} (h : p ↔ q) : m.Shape p → m.Shape q
  | .pending status reason never => .pending status reason (mt h.2 never)
  | .succeed status reason once => .succeed status reason (h.1 once)
  | .failed text status reason once => .failed text status reason (h.1 once)

/-- A mapping that a cycle ended has succeeded, or failed with a reason. -/
theorem Ended.shape {p : Prop} {m : Mapping} (h : m.Ended) (hp : p) : m.Shape p := by
  rw [Ended] at h
  cases hr : m.statusReason with
  | none => exact .succeed (by rw [h, hr]; rfl) hr hp
  | some text => exact .failed text (by rw [h, hr]; rfl) hr hp

theorem Ended.ne_pending {m : Mapping} (h : m.Ended) : m.status ≠ .pending := by
  intro hp
  have ht := h.isTerminal
  rw [hp] at ht
  exact nomatch ht

/-- A version of a record and a later one, if the record was last put on a host in between. -/
structure Later (m m' : Mapping) (moved : Option String) : Prop where
  version : m.Version m'
  /-- The status never returns to pending. -/
  settled : m.status ≠ .pending → m'.status ≠ .pending
  host : m'.host = moved.or m.host

theorem Later.refl (m : Mapping) : m.Later m none :=
  ⟨.refl m, fun h => h, rfl⟩

theorem Later.trans {m m' m'' : Mapping} {moved moved' : Option String} (h : m.Later m' moved)
    (h' : m'.Later m'' moved') : m.Later m'' (moved'.or moved) where
  version := h.version.trans h'.version
  settled hm := h'.settled (h.settled hm)
  host := by rw [h'.host, h.host, Option.or_assoc]

end Mapping

namespace Conductor

variable {σ : Type}

/-! ## Histories -/

/-- An operation that was carried out. -/
structure Entry where
  operation : Operation
  answer : Except ConductorError Answer
  /-- What was to be seen of it, in order. -/
  events : List Event

namespace Entry

/-- It wrote the draft of a request, and answered with the new mapping. -/
structure Creates (e : Entry) (caller : Caller) (r : Rpc.CreateMapping) (m : Mapping) : Prop where
  operation : e.operation = .create caller r
  answer : e.answer = .ok (.mapping (some m))
  wrote : .stated (.create (draftOf caller r m.host)) ∈ e.events
  version : ((draftOf caller r m.host).toMapping m.id m.createdAt).Version m

/-- It removed the mapping of an instance. -/
def Deletes (e : Entry) (uuid : String) : Prop :=
  e.operation = .delete uuid ∧ e.answer = .ok .deleted

/-- It ran a cycle on the mapping of an instance. -/
def Cycles (e : Entry) (uuid : String) : Prop :=
  ∃ event ∈ e.events, event.ofCycle uuid

end Entry

/-- The host that the mapping of an instance was last put on. -/
def lastHost (uuid : String) : List Entry → Option String
  | [] => none
  | e :: es => (lastHost uuid es).or (e.operation.movedTo? uuid)

theorem lastHost_append_singleton (uuid : String) (es : List Entry) (e : Entry) :
    lastHost uuid (es ++ [e]) = (e.operation.movedTo? uuid).or (lastHost uuid es) := by
  induction es with
  | nil => simp [lastHost]
  | cons e' es ih => rw [List.cons_append, lastHost, ih, lastHost, Option.or_assoc]

/-- The entry of an operation that is carried out by itself. -/
def Operation.entry (around : Surroundings σ) (op : Operation) (st : Store × σ) : Entry :=
  ⟨op, (op.perform around st).1, op.program.run.trace around st⟩

/-- The entries of operations that are carried out one after the other. -/
def Operation.history (around : Surroundings σ) : List Operation → Store × σ → List Entry
  | [], _ => []
  | op :: ops, st => op.entry around st :: history around ops (op.perform around st).2

/-! ## What the entries tell about a stored mapping -/

/-- The life of the mapping of an instance : from the entry that created it on, nothing removed
it. -/
structure Life (birth : Entry) (since : List Entry) (uuid : String) (m : Mapping) : Prop where
  born : ∃ caller r first, r.instanceUuid = uuid ∧ birth.Creates caller r first ∧
    first.Later m (lastHost uuid since)
  alive : ∀ e ∈ since, ¬ e.Deletes uuid
  shape : m.Shape (∃ e ∈ birth :: since, e.Cycles uuid)

namespace Life

variable {birth e : Entry} {since : List Entry} {uuid : String} {m m' : Mapping}

theorem alive_append (h : Life birth since uuid m) (hd : ¬ e.Deletes uuid) :
    ∀ e' ∈ since ++ [e], ¬ e'.Deletes uuid := by
  intro e' he'
  rcases List.mem_append.1 he' with he' | he'
  · exact h.alive e' he'
  · rwa [List.mem_singleton.1 he']

/-- The entry ran no cycle on the mapping and put it on no host. -/
theorem skip (h : Life birth since uuid m) (hd : ¬ e.Deletes uuid) (hc : ¬ e.Cycles uuid)
    (hm : e.operation.movedTo? uuid = none) : Life birth (since ++ [e]) uuid m where
  born := by
    rw [lastHost_append_singleton, hm, Option.none_or]
    exact h.born
  alive := h.alive_append hd
  shape := by
    refine h.shape.congr ⟨fun ⟨e', he', hcy⟩ => ⟨e', ?_, hcy⟩, fun ⟨e', he', hcy⟩ => ⟨e', ?_, hcy⟩⟩
    · exact List.mem_append_left [e] he'
    · rcases List.mem_append.1 (show e' ∈ (birth :: since) ++ [e] from he') with he' | he'
      · exact he'
      · exact absurd (List.mem_singleton.1 he' ▸ hcy) hc

/-- The entry ran a cycle on the mapping. -/
theorem cycle (h : Life birth since uuid m) (hd : ¬ e.Deletes uuid) (hc : e.Cycles uuid)
    (hl : m.Later m' (e.operation.movedTo? uuid)) (hm : m'.Ended) :
    Life birth (since ++ [e]) uuid m' where
  born := by
    obtain ⟨caller, r, first, hu, hf, hfirst⟩ := h.born
    rw [lastHost_append_singleton]
    exact ⟨caller, r, first, hu, hf, hfirst.trans hl⟩
  alive := h.alive_append hd
  shape := hm.shape ⟨e, by simp, hc⟩

end Life

/-- Every stored mapping has a life in the entries. -/
def Recorded (entries : List Entry) (s : Store) : Prop :=
  ∀ uuid m, s.mapping? uuid = some m →
    ∃ before birth since, entries = before ++ birth :: since ∧ Life birth since uuid m

theorem Recorded.empty : Recorded [] .empty := by
  intro uuid m hm
  obtain ⟨row, hr, -⟩ := Option.bind_eq_some_iff.1 hm
  simp [Store.row?, Store.rows, Store.empty] at hr

/-! ## What an operation does to them -/

namespace Effect

variable {s s' : Store} {e : Entry} {uuid : String} {m : Mapping}

theorem not_deletes_of_mapping {m : Option Mapping} (h : e.answer = .ok (.mapping m)) :
    ¬ e.Deletes uuid := by
  rintro ⟨-, ha⟩
  rw [h] at ha
  exact nomatch ha

/-- What an operation that leaves the mappings alone does to none. -/
theorem spared (ho : ∀ a, e.answer = .ok a → e.operation.Spares a) (hc : Calm e.events)
    (hr : ∀ caller u host, e.operation = .reconcile caller u host → s.mapping? u = none)
    (hm : s.mapping? uuid = some m) :
    ¬ e.Deletes uuid ∧ ¬ e.Cycles uuid ∧ e.operation.movedTo? uuid = none := by
  refine ⟨fun ⟨hop, ha⟩ => ?_, fun ⟨event, he, hcy⟩ => hc uuid event he hcy, ?_⟩
  · have hs := ho _ ha
    rw [hop] at hs
    exact hs
  · cases hop : e.operation with
    | reconcile caller u host =>
      by_cases hu : u = uuid
      · rw [hu] at hop
        rw [hr _ _ _ hop] at hm
        exact nomatch hm
      · simp [Operation.movedTo?, hu]
    | _ => rfl

/-- The mapping of another instance than the one that an operation is about. -/
theorem movedTo?_of_ne {op : Operation} {u : String} (ht : op.target? = some u) (hu : uuid ≠ u) :
    op.movedTo? uuid = none := by
  cases op with
  | reconcile caller u' host =>
    obtain rfl := Option.some.inj ht
    simp [Operation.movedTo?, hu.symm]
  | _ => rfl

/-- Each stored mapping keeps its life, extended by the operation. -/
theorem recorded (h : Effect s s' e.events e.operation e.answer) {es : List Entry}
    (hs : Recorded es s) : Recorded (es ++ [e]) s' := by
  intro uuid m hm
  have skip (hm : s.mapping? uuid = some m) (hd : ¬ e.Deletes uuid) (hc : ¬ e.Cycles uuid)
      (hv : e.operation.movedTo? uuid = none) : ∃ before birth since,
        es ++ [e] = before ++ birth :: since ∧ Life birth since uuid m := by
    obtain ⟨before, birth, since, rfl, hl⟩ := hs uuid m hm
    exact ⟨before, birth, since ++ [e], by simp, hl.skip hd hc hv⟩
  obtain ⟨op, answer, events⟩ := e
  cases h with
  | idle same calm ho absent =>
    rw [same] at hm
    obtain ⟨hd, hc, hv⟩ := spared (e := ⟨op, answer, events⟩) ho calm absent hm
    exact skip hm hd hc hv
  | @creates caller r now m' fresh wrote new state stored =>
    rw [stored] at hm
    by_cases hu : uuid = r.instanceUuid
    · subst hu
      rw [Function.update_self] at hm
      obtain rfl := Option.some.inj hm
      refine ⟨es, ⟨.create caller r, _, events⟩, [], rfl,
        ⟨caller, r, m', rfl, ⟨rfl, rfl, wrote, ?_⟩, .refl m'⟩, by simp, ?_⟩
      · exact ⟨rfl, new.instanceUuid, new.projectId, new.userId, new.spec, rfl⟩
      · split at state
        · refine .pending state.1 state.2.1 ?_
          rintro ⟨e, he, event, hev, hcy⟩
          obtain rfl := List.mem_singleton.1 he
          exact state.2.2 _ event hev hcy
        · obtain ⟨event, hev, hcy⟩ := state.2.some
          exact state.1.shape ⟨_, List.mem_singleton_self _, event, hev, hcy⟩
    · rw [Function.update_of_ne hu] at hm
      refine skip hm (not_deletes_of_mapping rfl) ?_ rfl
      rintro ⟨event, hev, hcy⟩
      split at state
      · exact state.2.2 uuid event hev hcy
      · exact hu (state.2.only uuid event hev hcy)
  | @applies _ u m₁ m' target found version host ended cycled stored =>
    rw [stored] at hm
    by_cases hu : uuid = u
    · subst hu
      rw [Function.update_self] at hm
      obtain rfl := Option.some.inj hm
      obtain ⟨before, birth, since, rfl, hl⟩ := hs uuid m₁ found
      exact ⟨before, birth, since ++ [_], by simp, hl.cycle (not_deletes_of_mapping rfl)
        cycled.some ⟨version, fun _ => ended.ne_pending, host⟩ ended⟩
    · rw [Function.update_of_ne hu] at hm
      exact skip hm (not_deletes_of_mapping rfl)
        (fun ⟨event, hev, hcy⟩ => hu (cycled.only uuid event hev hcy)) (movedTo?_of_ne target hu)
  | @deletes u calm stored =>
    rw [stored] at hm
    by_cases hu : uuid = u
    · subst hu
      rw [Function.update_self] at hm
      exact nomatch hm
    · rw [Function.update_of_ne hu] at hm
      refine skip hm ?_ (fun ⟨event, hev, hcy⟩ => calm uuid event hev hcy) rfl
      rintro ⟨hop, -⟩
      exact hu (Operation.delete.inj hop).symm

/-- A stored mapping that is not removed has a later version. -/
theorem later (h : Effect s s' e.events e.operation e.answer) (hm : s.mapping? uuid = some m)
    (hd : ¬ e.Deletes uuid) :
    ∃ m', s'.mapping? uuid = some m' ∧ m.Later m' (e.operation.movedTo? uuid) := by
  obtain ⟨op, answer, events⟩ := e
  cases h with
  | idle same calm ho absent =>
    obtain ⟨-, -, hv⟩ := spared (e := ⟨op, answer, events⟩) ho calm absent hm
    rw [same]
    exact ⟨m, hm, hv ▸ .refl m⟩
  | @creates caller r now m' fresh wrote new state stored =>
    have hu : uuid ≠ r.instanceUuid := by
      rintro rfl
      rw [fresh] at hm
      exact nomatch hm
    rw [stored, Function.update_of_ne hu]
    exact ⟨m, hm, .refl m⟩
  | @applies _ u m₁ m' target found version host ended cycled stored =>
    rw [stored]
    by_cases hu : uuid = u
    · subst hu
      obtain rfl := Option.some.inj (found.symm.trans hm)
      exact ⟨m', Function.update_self .., version, fun _ => ended.ne_pending, host⟩
    · rw [Function.update_of_ne hu]
      exact ⟨m, hm, movedTo?_of_ne target hu ▸ .refl m⟩
  | @deletes u calm stored =>
    have hu : uuid ≠ u := fun hu => hd ⟨congrArg _ hu.symm, rfl⟩
    rw [stored, Function.update_of_ne hu]
    exact ⟨m, hm, .refl m⟩

/-- An operation that is to apply a mapping answers with the mapping as it is stored. -/
theorem answered {op : Operation} {events : List Event} {a : Answer}
    (h : Effect s s' events op (.ok a)) (hs : s'.MappingsKept) (ht : op.target? = some uuid) :
    (∃ m, a = .mapping (some m) ∧ m.instanceUuid = uuid ∧ m.status.isTerminal ∧
      s'.row? .mappings uuid = some (Store.encode Mapping.toJson m)) ∨
    (a = .mapping none ∧ ∃ caller host, op = .reconcile caller uuid host) := by
  have written {m : Mapping} (hm : m.Ended)
      (stored : s'.mapping? = Function.update s.mapping? uuid (some m)) :
      m.instanceUuid = uuid ∧ m.status.isTerminal ∧
        s'.row? .mappings uuid = some (Store.encode Mapping.toJson m) := by
    have hu : s'.mapping? uuid = some m := by rw [stored, Function.update_self]
    exact ⟨hs.instanceUuid_of_mapping? hu, hm.isTerminal, hs.row?_of_mapping? hu⟩
  cases h with
  | idle same calm ho absent =>
    have hspare := ho a rfl
    cases op with
    | create caller r => exact hspare.elim
    | reconcile caller u host =>
      obtain rfl := Option.some.inj ht
      cases a with
      | mapping m =>
        cases m with
        | none => exact Or.inr ⟨rfl, caller, host, rfl⟩
        | some m => exact hspare.elim
      | _ => exact hspare.elim
    | reapply caller u => exact hspare.elim
    | _ => exact nomatch ht
  | @creates caller r now m fresh wrote new state stored =>
    cases hw : r.waitUntilActive with
    | true => simp [Operation.target?, hw] at ht
    | false =>
      obtain rfl : r.instanceUuid = uuid := by simpa [Operation.target?, hw] using ht
      simp only [hw, Bool.false_eq_true, ↓reduceIte] at state
      exact Or.inl ⟨m, rfl, written state.1 stored⟩
  | @applies _ u m m' target found version host ended cycled stored =>
    obtain rfl := Option.some.inj (target.symm.trans ht)
    exact Or.inl ⟨m', rfl, written ended stored⟩
  | deletes calm stored => exact nomatch ht

end Effect

/-! ## Runs of operations -/

theorem recorded_after (around : Surroundings σ) (ops : List Operation) {st : Store × σ}
    {es : List Entry} (hk : st.1.MappingsKept) (hs : Recorded es st.1) :
    Recorded (es ++ Operation.history around ops st) (Operation.after around ops st).1 := by
  induction ops generalizing st es with
  | nil => rwa [Operation.history, List.append_nil]
  | cons op ops ih =>
    obtain ⟨he, hk'⟩ := effect_perform around hk st.2 op
    have hs' := Effect.recorded (e := op.entry around st) he hs
    rw [Operation.history, List.append_cons]
    exact ih hk' hs'

theorem later_after (around : Surroundings σ) (ops : List Operation) {st : Store × σ}
    (hk : st.1.MappingsKept) {uuid : String} {m : Mapping} (hm : st.1.mapping? uuid = some m)
    (hd : ∀ e ∈ Operation.history around ops st, ¬ e.Deletes uuid) :
    ∃ m', (Operation.after around ops st).1.mapping? uuid = some m' ∧
      m.Later m' (lastHost uuid (Operation.history around ops st)) := by
  induction ops generalizing st m with
  | nil => exact ⟨m, hm, .refl m⟩
  | cons op ops ih =>
    obtain ⟨he, hk'⟩ := effect_perform around hk st.2 op
    obtain ⟨m₁, hm₁, hl₁⟩ := Effect.later (e := op.entry around st) he hm
      (hd _ (List.mem_cons_self ..))
    obtain ⟨m₂, hm₂, hl₂⟩ := ih hk' hm₁ fun e h => hd e (List.mem_cons_of_mem _ h)
    exact ⟨m₂, hm₂, hl₁.trans hl₂⟩

/-- After any operations from an empty store, each stored mapping has a life in their history. As
long as it is not removed it stays the same record, and what its cycles answer is what is
stored. -/
theorem mapping_lifecycle (around : Surroundings σ) (c : σ) (ops : List Operation) :
    let st := Operation.after around ops (.empty, c)
    (∀ uuid row, st.1.row? .mappings uuid = some row →
      ∃ m before birth since, row = Store.encode Mapping.toJson m ∧
        Operation.history around ops (.empty, c) = before ++ birth :: since ∧
        Life birth since uuid m) ∧
    (∀ later uuid m, st.1.mapping? uuid = some m →
      (∀ e ∈ Operation.history around later st, ¬ e.Deletes uuid) →
      ∃ m', (Operation.after around later st).1.mapping? uuid = some m' ∧
        m.Later m' (lastHost uuid (Operation.history around later st))) ∧
    ∀ (op : Operation) uuid a, op.target? = some uuid → (op.perform around st).1 = .ok a →
      (∃ m, a = .mapping (some m) ∧ m.instanceUuid = uuid ∧ m.status.isTerminal ∧
        (op.perform around st).2.1.row? .mappings uuid =
          some (Store.encode Mapping.toJson m)) ∨
      (a = .mapping none ∧ ∃ caller host, op = .reconcile caller uuid host) := by
  intro st
  have hk : st.1.MappingsKept := mappingsKept_after around ops Store.MappingsKept.empty
  refine ⟨fun uuid row hr => ?_, fun later uuid m hm hd => later_after around later hk hm hd,
    fun op uuid a ht ha => ?_⟩
  · obtain ⟨m, rfl, -⟩ := hk uuid row hr
    have hm : st.1.mapping? uuid = some m := by simp [Store.mapping?, hr, Except.toOption]
    have hrec : Recorded ([] ++ Operation.history around ops (.empty, c)) st.1 :=
      recorded_after around ops Store.MappingsKept.empty .empty
    obtain ⟨before, birth, since, he, hl⟩ := hrec uuid m hm
    exact ⟨m, before, birth, since, rfl, he, hl⟩
  · obtain ⟨he, hk'⟩ := effect_perform around hk st.2 op
    rw [show (op.perform around (st.1, st.2)).1 = .ok a from ha] at he
    exact he.answered hk' ht

end Conductor

end VcpuPinning
