import Mathlib.Data.List.Sort
import VcpuPinning.Proofs.Conductor.Operations

/-!
# Outcomes of cycles

`every_cycle_settles` : in any store, also one with rows of hosts that are missing or cannot be
read, the two operations that apply a stored mapping end it. The host is called once if its row can
be read and never otherwise, and the mapping tells by its status and its reason what the host
answered (`Follows`). Where there is no mapping, or none with a host, an operation `Idles`.
-/

namespace VcpuPinning

namespace Conductor

variable {σ : Type}

/-! ## Calls -/

/-- The event is a call of a host. -/
def Event.isCall : Event → Bool
  | .called _ _ _ => true
  | .stated _ => false

/-- The calls of hosts that an operation makes when it is carried out by itself, in order. -/
def Operation.calls (around : Surroundings σ) (op : Operation) (st : Store × σ) : List Event :=
  (op.program.run.trace around st).filter Event.isCall

/-- The operation writes nothing and calls no host. -/
structure Operation.Idles (around : Surroundings σ) (op : Operation) (s : Store) (c : σ) :
    Prop where
  store : (op.perform around (s, c)).2.1 = s
  calls : op.calls around (s, c) = []

/-- What is around the conductor after its clock was read. -/
def Surroundings.tick (around : Surroundings σ) (c : σ) : σ :=
  (around.clock.run c).2

namespace Runs

variable {around : Surroundings σ} {op : Operation} {s : Store} {c c' : σ} {st' : Store × σ}
  {events : List Event} {answer : Except ConductorError Answer}

theorem perform_eq (h : Runs around op.program.run (s, c) events answer st') :
    op.perform around (s, c) = (answer, st') :=
  h.run

theorem calls_eq (h : Runs around op.program.run (s, c) events answer st') :
    op.calls around (s, c) = events.filter Event.isCall := by
  rw [Operation.calls, h.trace]

theorem idles (h : Runs around op.program.run (s, c) events answer (s, c'))
    (he : events.filter Event.isCall = []) : op.Idles around s c where
  store := by rw [h.perform_eq]
  calls := h.calls_eq.trans he

end Runs

/-! ## What a cycle makes of its mapping -/

/-- A mapping tells what a host answered. -/
structure Follows (answer : Except ConductorError Rpc.Applied) (m : Mapping) : Prop where
  succeed_iff : m.status = .succeed ↔ ∃ reply, answer = .ok reply ∧ reply.applied = true
  /-- The reason names the virtual CPUs that were not pinned, in ascending order. -/
  refused : ∀ reply, answer = .ok reply → reply.applied = false →
    ∃ vcpus : List ℕ, vcpus.Pairwise (· < ·) ∧
      (∀ vcpu, vcpu ∈ vcpus ↔ reply.vcpuResults[vcpu]? = some false) ∧
      m.statusReason = some ("vcpus " ++ listText vcpus ++ " could not be pinned")
  failed : ∀ e, answer = .error e → m.statusReason = some e.message

/-- What a cycle makes of a mapping, by the host that was found for it, and which hosts are called
in it. -/
structure Outcome (around : Surroundings σ) (caller : Caller)
    (found : Except StoreError (Option Host)) (c : σ) (m : Mapping) (calls : List Event)
    (r : Mapping) : Prop where
  /-- Only the outcome and the time are written. -/
  kept : r = { m with
    status := r.status, statusReason := r.statusReason, updatedAt := r.updatedAt }
  /-- The mapping has failed exactly if it has a reason. -/
  ended : r.Ended
  /-- A host whose row can be read is called once, and answers. -/
  known : ∀ h, found = .ok (some h) → calls = [.called caller h m] ∧
    Follows ((around.executor caller h m).run (around.tick c)).1 r
  /-- No host is called if the row is missing or cannot be read. -/
  unknown : (∀ h, found ≠ .ok (some h)) → calls = [] ∧ r.status = .failed

/-- The operation runs one cycle, on a mapping as it is then, and it stores the mapping that the
cycle ended and answers with it. -/
def Operation.Settles (around : Surroundings σ) (caller : Caller) (op : Operation)
    (st : Store × σ) (found : Except StoreError (Option Host)) (c : σ) (m : Mapping) : Prop :=
  ∃ r c', op.perform around st = (.ok (.mapping (some r)), (st.1.withMapping r, c')) ∧
    Outcome around caller found c m (op.calls around st) r

section Cycles

variable {around : Surroundings σ} {caller : Caller} {host : String} {s : Store} {m : Mapping}
  {c : σ}

theorem callee_eq_ok_iff {found : Except StoreError (Option Host)} {h : Host} :
    callee host found = .ok h ↔ found = .ok (some h) := by
  rcases found with e | _ | h' <;> simp [callee]

/-- What a host answers decides what its mapping tells. -/
theorem follows_afterCycle (answer : Except ConductorError Rpc.Applied) (m : Mapping)
    (now : UInt64) : Follows answer (m.afterCycle (failureOf answer) now) where
  succeed_iff := by
    rw [(m.ended_afterCycle _ _).succeed_iff, Mapping.statusReason_afterCycle]
    rcases answer with e | ⟨applied, results⟩
    · simp [failureOf]
    · cases applied <;> simp [failureOf]
  refused reply ha hr := by
    refine ⟨PinOutcome.failedVcpus ⟨reply.vcpuResults⟩, PinOutcome.pairwise_failedVcpus _,
      fun vcpu => PinOutcome.mem_failedVcpus, ?_⟩
    rw [Mapping.statusReason_afterCycle, ha]
    simp [failureOf, hr]
  failed e he := by
    rw [Mapping.statusReason_afterCycle, he]
    rfl

/-- The mapping at the end of a cycle tells what became of the attempt. -/
theorem outcome_afterCycle {a : Attempt σ} (ha : attempt around caller m host s c = a)
    (now : UInt64) : Outcome around caller (s.getHost host).1 c m (a.events.filter Event.isCall)
      (m.afterCycle a.failure now) where
  kept := rfl
  ended := m.ended_afterCycle _ _
  known h hh := by
    have hc : callee host (s.getHost host).1 = .ok h := callee_eq_ok_iff.2 hh
    subst ha
    simp only [attempt, hc]
    exact ⟨rfl, follows_afterCycle _ m now⟩
  unknown hn := by
    cases hc : callee host (s.getHost host).1 with
    | ok h => exact absurd (callee_eq_ok_iff.1 hc) (hn h)
    | error reason =>
      subst ha
      simp only [attempt, hc]
      exact ⟨rfl, rfl⟩

/-- The calls of an operation that makes statements, and then runs a cycle, are those of the
cycle. -/
theorem outcome_of_runs (before : List Statement) {op : Operation} {last : Statement}
    {a : Attempt σ} (ha : attempt around caller m host s c = a) {st st' : Store × σ}
    {answer : Except ConductorError Answer}
    (hr : Runs around op.program.run st
      (before.map Event.stated ++ (a.events ++ [.stated last])) answer st') (now : UInt64) :
    Outcome around caller (s.getHost host).1 c m (op.calls around st)
      (m.afterCycle a.failure now) := by
  have hb : (before.map Event.stated).filter Event.isCall = [] := by
    simp [List.filter_eq_nil_iff, Event.isCall]
  have hl : [Event.stated last].filter Event.isCall = [] := rfl
  rw [hr.calls_eq, List.filter_append, hb, List.nil_append, List.filter_append, hl,
    List.append_nil]
  exact outcome_afterCycle ha now

/-! ## Operations -/

/-- A stored mapping is put on the host, and a cycle settles it there. -/
theorem reconcile_settles (hm : s.Holds m) (caller : Caller) (host : String) (c : σ) :
    (Operation.reconcile caller m.instanceUuid host).Settles around caller (s, c)
      (s.getHost host).1 (around.tick (around.tick c))
      { m with host := some host, updatedAt := (around.clock.run (around.tick c)).1 } := by
  obtain ⟨moved, hmoved⟩ : ∃ moved, m.afterMove host (around.clock.run (around.tick c)).1 = moved :=
    ⟨_, rfl⟩
  obtain ⟨a, ha⟩ : ∃ a, attempt around caller moved host (s.withMapping moved)
    (around.tick (around.tick c)) = a := ⟨_, rfl⟩
  have hr : Runs around (Operation.reconcile caller m.instanceUuid host).program.run (s, c) _ _ _ :=
    (Runs.reconcile_of_holds hm caller host rfl hmoved ha).map Answer.mapping
  have ho := outcome_of_runs [.findMapping m.instanceUuid, .move m.instanceUuid host]
    ha hr (around.clock.run a.after).1
  have hw : (s.withMapping moved).withMapping
      (moved.afterCycle a.failure (around.clock.run a.after).1) =
        s.withMapping (moved.afterCycle a.failure (around.clock.run a.after).1) :=
    Store.withMapping_withMapping s rfl
  rw [hw] at hr
  subst hmoved
  rw [Store.getHost_withMapping] at ho
  exact ⟨_, _, hr.perform_eq, ho⟩

/-- A cycle settles a stored mapping on the host that it is on. -/
theorem reapply_settles (hm : s.Holds m) (hh : m.host = some host) (caller : Caller) (c : σ) :
    (Operation.reapply caller m.instanceUuid).Settles around caller (s, c) (s.getHost host).1
      (around.tick c) m := by
  have hr : Runs around (Operation.reapply caller m.instanceUuid).program.run (s, c) _ _ _ :=
    (Runs.reapply_of_holds hm hh caller c rfl).map fun m => Answer.mapping (some m)
  exact ⟨_, _, hr.perform_eq, outcome_of_runs [.findMapping m.instanceUuid] rfl hr _⟩

theorem reconcile_idles {uuid : String} (hm : s.mapping? uuid = none) (caller : Caller)
    (host : String) (c : σ) :
    (Operation.reconcile caller uuid host).Idles around s c ∧
      (s.row? .mappings uuid = none →
        ((Operation.reconcile caller uuid host).perform around (s, c)).1 =
          .ok (.mapping none)) := by
  rcases Store.getMapping_of_none hm with h | ⟨row, e, hrow, h⟩
  · have hr : Runs around (Operation.reconcile caller uuid host).program.run (s, c) _ _ _ :=
      (Runs.reconcile_of_none h caller host c).map Answer.mapping
    exact ⟨hr.idles rfl, fun _ => congrArg Prod.fst hr.perform_eq⟩
  · have hr : Runs around (Operation.reconcile caller uuid host).program.run (s, c) _ _ _ :=
      (Runs.reconcile_of_unreadable h caller host c).map Answer.mapping
    exact ⟨hr.idles rfl, fun hn => absurd (hn.symm.trans hrow) nofun⟩

theorem reapply_idles {uuid : String} (hm : ∀ m, s.mapping? uuid = some m → m.host = none)
    (caller : Caller) (c : σ) :
    (Operation.reapply caller uuid).Idles around s c ∧
      ∃ e, ((Operation.reapply caller uuid).perform around (s, c)).1 = .error e := by
  have refused {e : ConductorError} {c' : σ} (h : Runs around (reapplyMapping caller uuid).run
      (s, c) [.stated (.findMapping uuid)] (.error e) (s, c')) :
      (Operation.reapply caller uuid).Idles around s c ∧
        ∃ e, ((Operation.reapply caller uuid).perform around (s, c)).1 = .error e := by
    have hr : Runs around (Operation.reapply caller uuid).program.run (s, c) _ _ _ :=
      h.map fun m => Answer.mapping (some m)
    exact ⟨hr.idles rfl, e, congrArg Prod.fst hr.perform_eq⟩
  cases h : s.mapping? uuid with
  | some m => exact refused (Runs.reapply_of_no_host h (hm m h) caller c)
  | none =>
    rcases Store.getMapping_of_none h with hg | ⟨row, e, -, hg⟩
    · exact refused (Runs.reapply_of_none hg caller c)
    · exact refused (Runs.reapply_of_unreadable hg caller c)

end Cycles

/-- In any store the operations that apply a stored mapping end it by what the host answers, and
those that have nothing to apply do nothing. -/
theorem every_cycle_settles (around : Surroundings σ) (caller : Caller) (s : Store) (c : σ) :
    (∀ m host, s.Holds m →
      (Operation.reconcile caller m.instanceUuid host).Settles around caller (s, c)
        (s.getHost host).1 (around.tick (around.tick c))
        { m with host := some host, updatedAt := (around.clock.run (around.tick c)).1 }) ∧
    (∀ m host, s.Holds m → m.host = some host →
      (Operation.reapply caller m.instanceUuid).Settles around caller (s, c) (s.getHost host).1
        (around.tick c) m) ∧
    (∀ uuid host, s.mapping? uuid = none →
      (Operation.reconcile caller uuid host).Idles around s c ∧
        (s.row? .mappings uuid = none →
          ((Operation.reconcile caller uuid host).perform around (s, c)).1 =
            .ok (.mapping none))) ∧
    ∀ uuid, (∀ m, s.mapping? uuid = some m → m.host = none) →
      (Operation.reapply caller uuid).Idles around s c ∧
        ∃ e, ((Operation.reapply caller uuid).perform around (s, c)).1 = .error e :=
  ⟨fun _ host hm => reconcile_settles hm caller host c,
    fun _ _ hm hh => reapply_settles hm hh caller c,
    fun _ host hm => reconcile_idles hm caller host c,
    fun _ hm => reapply_idles hm caller c⟩

/-- A mapping of which a host refuses two virtual CPUs has failed, and its reason names them. -/
theorem every_cycle_settles_of_refused_vcpus :
    let host : Host := ⟨"sim-1", .empty, 4, none, 0⟩
    let m : Mapping := ⟨1, "vm-a", none, none, some "sim-1", "1-2", .pending, none, 0, 0⟩
    let around : Surroundings Unit :=
      ⟨fun c => (7, c), fun _ _ _ => pure (.ok ⟨false, [true, false, false]⟩)⟩
    let s := (Store.empty.upsertHost host).2.withMapping m
    let op := Operation.reapply ⟨"r", none, none, true⟩ "vm-a"
    ∃ r, (op.perform around (s, ())).1 = .ok (.mapping (some r)) ∧ r.status = .failed ∧
      r.statusReason = some "vcpus [1, 2] could not be pinned" ∧
      op.calls around (s, ()) = [.called ⟨"r", none, none, true⟩ host m] := by
  intro host m around s op
  have hm : s.Holds m := Store.holds_withMapping _ m
  have hh : (s.getHost "sim-1").1 = .ok (some host) := by decide +kernel
  obtain ⟨r, c', hr, ho⟩ :=
    (every_cycle_settles around ⟨"r", none, none, true⟩ s ()).2.1 m "sim-1" hm rfl
  obtain ⟨hcalls, hf⟩ := ho.known host hh
  obtain ⟨vcpus, hp, hmem, hreason⟩ := hf.refused _ rfl rfl
  have hv : vcpus = [1, 2] := by
    refine hp.eq_of_mem_iff (by decide) fun vcpu => (hmem vcpu).trans ?_
    rcases vcpu with _ | _ | _ | vcpu <;> simp
  subst hv
  exact ⟨r, congrArg Prod.fst hr, ho.ended.failed_iff.2 ⟨_, hreason⟩, hreason, hcalls⟩

end Conductor

end VcpuPinning
