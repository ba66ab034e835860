import VcpuPinning.Proofs.Conductor.Locking
import VcpuPinning.Proofs.LockTable.Queues

/-!
# Interleavings

A `System` is the service with any number of operations under way. Each `Step` is one step of one
of them, or the report of a host, and the labels of a `Run` tell what each operation read from
around it. By its readings an operation can be carried out again without the others
(`Program.replay`, of which every run by itself is an instance, `Program.exists_replay_eq_run`),
and `Serial` carries out operations one at a time by theirs.
-/

namespace VcpuPinning.Conductor

variable {α ι : Type}

/-! ## Readings -/

/-- What an operation learns from around it by one of its steps. -/
inductive Reading where
  /-- It made a statement at a time, with the hosts and instances as they were reported then. -/
  | stated (now : UInt64) (hosts instances : SortedMap String String)
  /-- It got the lock that it waited for. -/
  | granted
  /-- The host that it called answered. -/
  | answered (answer : Except ConductorError Rpc.Applied)
  | released

namespace Program

/-- One step of a program by a reading, on a store of which only the mappings and their numbers
matter. -/
def advance : Program α → Reading → Store → Option (Program α × Store)
  | access q next, .stated now hosts instances, s =>
    let result := q.perform now { s with hosts := hosts, instances := instances }
    some (next result.1, result.2)
  | acquire _ next, .granted, s => some (next, s)
  | release _ next, .released, s => some (next, s)
  | call _ _ _ next, .answered answer, s => some (next answer, s)
  | _, _, _ => none

/-- The rest of a program that is carried out by readings, and the store then. -/
def replay (p : Program α) : List Reading → Store → Option (Program α × Store)
  | [], s => some (p, s)
  | r :: rs, s => (p.advance r s).bind fun next => replay next.1 rs next.2

theorem replay_append_singleton {p p' : Program α} {rs : List Reading} {s s' : Store}
    (h : p.replay rs s = some (p', s')) (r : Reading) :
    p.replay (rs ++ [r]) s = p'.advance r s' := by
  induction rs generalizing p s with
  | nil =>
    obtain ⟨rfl, rfl⟩ := Prod.mk.inj (Option.some.inj h)
    rw [List.nil_append, replay]
    cases p.advance r s <;> rfl
  | cons r' rs ih =>
    obtain ⟨next, ha, hn⟩ := Option.bind_eq_some_iff.1 h
    rw [List.cons_append, replay, ha]
    exact ih hn

/-- A program that is carried out by itself is a replay, with the readings of its run. -/
theorem exists_replay_eq_run {σ : Type} (around : Surroundings σ) (p : Program α)
    (st : Store × σ) : ∃ rs, p.replay rs st.1 =
      some (done ((p.run around).run st).1, ((p.run around).run st).2.1) := by
  induction p generalizing st with
  | done a => exact ⟨[], rfl⟩
  | access q next ih =>
    obtain ⟨rs, h⟩ := ih (q.perform (around.clock.run st.2).1 st.1).1
      ((q.perform (around.clock.run st.2).1 st.1).2, (around.clock.run st.2).2)
    exact ⟨.stated (around.clock.run st.2).1 st.1.hosts st.1.instances :: rs, h⟩
  | acquire uuid next ih =>
    obtain ⟨rs, h⟩ := ih st
    exact ⟨.granted :: rs, h⟩
  | release uuid next ih =>
    obtain ⟨rs, h⟩ := ih st
    exact ⟨.released :: rs, h⟩
  | call caller host mapping next ih =>
    obtain ⟨rs, h⟩ := ih ((around.executor caller host mapping).run st.2).1
      (st.1, ((around.executor caller host mapping).run st.2).2)
    exact ⟨.answered ((around.executor caller host mapping).run st.2).1 :: rs, h⟩

end Program

/-! ## Steps -/

/-- The service with operations under way. -/
structure System (ι : Type) where
  store : Store
  /-- The locks of instances, with the operations as tickets. -/
  locks : LockTable ι
  /-- What each operation has left to do. -/
  rest : ι → Program (Except ConductorError Answer)
  /-- The operations whose call of a host is under way. -/
  calling : List ι

/-- What is to be seen of a step. -/
inductive Label (ι : Type) where
  | reported
  | stated (i : ι) (q : Statement) (now : UInt64) (hosts instances : SortedMap String String)
  | asked (i : ι)
  | granted (i : ι)
  | called (i : ι)
  | answered (i : ι) (answer : Except ConductorError Rpc.Applied)
  | released (i : ι)

/-- The statement takes the report of a host. -/
def Statement.IsReport : Statement → Prop
  | .reportHost _ => True
  | .reportInstance _ => True
  | _ => False

/-- The statement reads or writes mappings. -/
def Statement.touches : Statement → Bool
  | .findMapping _ | .listMappings | .create _ | .move _ _ | .settle _ _ | .delete _ => true
  | _ => false

namespace Label

variable [DecidableEq ι]

/-- What an operation learns by a step, if it is a step of its own that teaches it anything. -/
def reading? (i : ι) : Label ι → Option Reading
  | stated j _ now hosts instances => if j = i then some (.stated now hosts instances) else none
  | granted j => if j = i then some .granted else none
  | answered j answer => if j = i then some (.answered answer) else none
  | released j => if j = i then some .released else none
  | _ => none

omit [DecidableEq ι] in
/-- The operation that gets the lock by a step. -/
def grantee? : Label ι → Option ι
  | granted i => some i
  | _ => none

omit [DecidableEq ι] in
/-- The operation that reads or writes mappings by a step. -/
def toucher? : Label ι → Option ι
  | stated i q _ _ _ => if q.touches then some i else none
  | _ => none

end Label

variable [DecidableEq ι]

/-- One step of one operation, or a report. -/
inductive Step (sys : System ι) : Label ι → System ι → Prop
  | reported {q : Statement} (now : UInt64) (report : q.IsReport) :
      Step sys .reported { sys with store := (q.perform now sys.store).2 }
  | stated {i : ι} {q : Statement} {next : Except StoreError q.Value → Program _} (now : UInt64)
      (rest : sys.rest i = .access q next) :
      Step sys (.stated i q now sys.store.hosts sys.store.instances) { sys with
        store := (q.perform now sys.store).2
        rest := Function.update sys.rest i (next (q.perform now sys.store).1) }
  | asked {i : ι} {uuid : String} {next : Program _} (rest : sys.rest i = .acquire uuid next)
      (new : i ∉ sys.locks.tickets.map Prod.fst) :
      Step sys (.asked i) { sys with locks := sys.locks.ask i uuid }
  | granted {i : ι} {uuid : String} {next : Program _} (rest : sys.rest i = .acquire uuid next)
      (holds : sys.locks.holdsLock i) :
      Step sys (.granted i) { sys with rest := Function.update sys.rest i next }
  | called {i : ι} {caller : Caller} {host : Host} {mapping : Mapping}
      {next : Except ConductorError Rpc.Applied → Program _}
      (rest : sys.rest i = .call caller host mapping next) (new : i ∉ sys.calling) :
      Step sys (.called i) { sys with calling := i :: sys.calling }
  | answered {i : ι} {caller : Caller} {host : Host} {mapping : Mapping}
      {next : Except ConductorError Rpc.Applied → Program _}
      (answer : Except ConductorError Rpc.Applied)
      (rest : sys.rest i = .call caller host mapping next) (calling : i ∈ sys.calling) :
      Step sys (.answered i answer) { sys with
        rest := Function.update sys.rest i (next answer)
        calling := sys.calling.erase i }
  | released {i : ι} {uuid : String} {next : Program _} (rest : sys.rest i = .release uuid next) :
      Step sys (.released i) { sys with
        locks := sys.locks.giveBack i
        rest := Function.update sys.rest i next }

/-- The step of a statement, given what it answers. -/
theorem Step.stated_of_eq {sys : System ι} {i : ι} {q : Statement}
    {next : Except StoreError q.Value → Program _} {answer : Except StoreError q.Value}
    {s' : Store} (now : UInt64) (rest : sys.rest i = .access q next)
    (hq : q.perform now sys.store = (answer, s')) :
    Step sys (.stated i q now sys.store.hosts sys.store.instances)
      { sys with store := s', rest := Function.update sys.rest i (next answer) } := by
  have h := Step.stated now rest
  rwa [hq] at h

/-- The steps of operations from a store on, in any order. -/
inductive Run (ops : ι → Operation) (s : Store) : List (Label ι) → System ι → Prop
  | start : Run ops s [] ⟨s, .empty, fun i => (ops i).program.run, []⟩
  | step {labels : List (Label ι)} {sys sys' : System ι} {label : Label ι}
      (run : Run ops s labels sys) (step : Step sys label sys') :
      Run ops s (labels ++ [label]) sys'

/-- What an operation read in a run. -/
def readings (labels : List (Label ι)) (i : ι) : List Reading :=
  labels.filterMap (Label.reading? i)

omit [DecidableEq ι] in
/-- The operations that got the lock in a run, in order. -/
def lockOrder (labels : List (Label ι)) : List ι :=
  labels.filterMap Label.grantee?

omit [DecidableEq ι] in
/-- The operations carried out one at a time, by what they read, each as far as it has come. -/
inductive Serial (ops : ι → Operation) (readings : ι → List Reading)
    (rest : ι → Program (Except ConductorError Answer)) (s : Store) : List ι → Store → Prop
  | nil : Serial ops readings rest s [] s
  | snoc {order : List ι} {i : ι} {s₁ s₂ : Store} (earlier : Serial ops readings rest s order s₁)
      (replay : (ops i).program.run.replay (readings i) s₁ = some (rest i, s₂)) :
      Serial ops readings rest s (order ++ [i]) s₂

omit [DecidableEq ι] in
/-- Operations that have not moved on leave the serial run as it was. -/
theorem Serial.congr {ops : ι → Operation} {readings readings' : ι → List Reading}
    {rest rest' : ι → Program (Except ConductorError Answer)} {s s' : Store} {order : List ι}
    (h : Serial ops readings rest s order s') (hr : ∀ i ∈ order, readings' i = readings i)
    (hp : ∀ i ∈ order, rest' i = rest i) : Serial ops readings' rest' s order s' := by
  induction h with
  | nil => exact .nil
  | @snoc order i s₁ s₂ _ hreplay ih =>
    refine .snoc (ih (fun j hj => hr j (by simp [hj])) fun j hj => hp j (by simp [hj])) ?_
    rw [hr i (by simp), hp i (by simp), hreplay]

omit [DecidableEq ι] in
theorem Serial.of_concat {ops : ι → Operation} {readings : ι → List Reading}
    {rest : ι → Program (Except ConductorError Answer)} {s s₂ : Store} {order : List ι} {i : ι}
    (h : Serial ops readings rest s (order ++ [i]) s₂) :
    ∃ s₁, Serial ops readings rest s order s₁ ∧
      (ops i).program.run.replay (readings i) s₁ = some (rest i, s₂) := by
  generalize hl : order ++ [i] = l at h
  cases h with
  | nil => simp at hl
  | @snoc order' i' s₁ _ earlier replay =>
    obtain ⟨rfl, hi⟩ := List.append_inj' hl rfl
    obtain rfl := List.singleton_inj.1 hi
    exact ⟨s₁, earlier, replay⟩

end VcpuPinning.Conductor
