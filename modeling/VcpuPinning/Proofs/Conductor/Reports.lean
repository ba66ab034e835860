import Mathlib.Data.List.Count
import VcpuPinning.Proofs.Conductor.Operations
import VcpuPinning.Proofs.Store.Reports

/-!
# Reports to the service

Every statement of a program is an operation of the store, so that the store that a program leaves
is one that operations leave (`Program.exists_steps`), and the rows of a reached store are written
reports (`Reached.kept`). The two requests that take reports are described by what they make of the
store (`perform_reportHost`, `perform_reportInstances`), and their summary counts each record once
(`foldl_tally_results`).
-/

namespace VcpuPinning

/-- The report differs from the stored one. -/
def Upsert.isUpdated : Upsert → Bool
  | .updated _ => true
  | _ => false

namespace Conductor

variable {α σ : Type}

/-! ## Histories -/

/-- The operation of the store that a statement is. -/
def Statement.operation : Statement → Store.Operation
  | findHost name => .getHost name
  | listHosts => .listHosts
  | findInstance uuid => .getInstance uuid
  | listInstances => .listInstances
  | findMapping uuid => .getMapping uuid
  | listMappings => .listMappings
  | reportHost host => .upsertHost host
  | reportInstance inst => .upsertInstance inst
  | create draft => .createMapping draft
  | move uuid host => .updateMapping uuid (·.withHost host)
  | settle uuid failure => .updateMapping uuid (·.settled failure.isNone failure)
  | delete uuid => .deleteMapping uuid

theorem Statement.perform_snd (now : UInt64) (s : Store) (q : Statement) :
    (q.perform now s).2 = (q.operation.perform now s).2 := by
  cases q <;> rfl

/-- The store that a program leaves is one that operations of the store leave. -/
theorem Program.exists_steps (around : Surroundings σ) (p : Program α) (st : Store × σ) :
    ∃ steps, ((p.run around).run st).2.1 = st.1.after steps := by
  induction p generalizing st with
  | done a => exact ⟨[], rfl⟩
  | access q next ih =>
    obtain ⟨s, c⟩ := st
    obtain ⟨steps, h⟩ := ih (q.perform (around.clock.run c).1 s).1
      ((q.perform (around.clock.run c).1 s).2, (around.clock.run c).2)
    refine ⟨⟨(around.clock.run c).1, q.operation⟩ :: steps, h.trans ?_⟩
    rw [Store.after, Store.Step.next, ← Statement.perform_snd]
  | acquire uuid next ih => exact ih st
  | release uuid next ih => exact ih st
  | call caller host mapping next ih => exact ih _ _

/-- So is the store that operations of the service leave. -/
theorem Operation.exists_steps (around : Surroundings σ) (ops : List Operation)
    (st : Store × σ) : ∃ steps, (Operation.after around ops st).1 = st.1.after steps := by
  induction ops generalizing st with
  | nil => exact ⟨[], rfl⟩
  | cons op ops ih =>
    obtain ⟨first, hfirst⟩ := Program.exists_steps around op.program.run st
    obtain ⟨steps, hsteps⟩ := ih (op.perform around st).2
    refine ⟨first ++ steps, hsteps.trans ?_⟩
    rw [show (op.perform around st).2.1 = st.1.after first from hfirst]
    exact (Store.after_append st.1 first steps).symm

/-- The reports of a reached store can be read. -/
theorem Reached.kept [DecidableEq α] (k : Store.ReportKind α) {s : Store} (h : Reached s) :
    k.Kept s := by
  obtain ⟨σ, around, ops, c, rfl⟩ := h
  obtain ⟨steps, hsteps⟩ := Operation.exists_steps around ops (.empty, c)
  rw [hsteps]
  exact .after .empty steps

/-! ## Summaries -/

/-- The report was taken, and differs from the stored one. -/
def isUpdated : Except StoreError Upsert → Bool
  | .ok outcome => outcome.isUpdated
  | .error _ => false

/-- The report was not taken. -/
def isFailed : Except StoreError Upsert → Bool
  | .ok _ => false
  | .error _ => true

/-- Each record is counted once, under its own heading. -/
theorem foldl_tally_results (results : List (Except StoreError Upsert)) (summary : Rpc.Summary) :
    results.foldl tally summary =
      ⟨summary.created + .ofNat (results.count (.ok .created)),
        summary.updated + .ofNat (results.countP isUpdated),
        summary.unchanged + .ofNat (results.count (.ok .unchanged)),
        summary.failed + .ofNat (results.countP isFailed)⟩ := by
  induction results generalizing summary with
  | nil => simp
  | cons result results ih =>
    rw [List.foldl_cons, ih]
    rcases result with e | _ | fields | _ <;>
      simp [tally, isUpdated, isFailed, Upsert.isUpdated, List.countP_cons, UInt64.ofNat_add,
        UInt64.add_assoc, UInt64.add_comm]

theorem count_results (results : List (Except StoreError Upsert)) :
    results.count (.ok .created) + results.countP isUpdated + results.count (.ok .unchanged) +
      results.countP isFailed = results.length := by
  induction results with
  | nil => rfl
  | cons result results ih =>
    rw [List.length_cons, ← ih]
    rcases result with e | _ | fields | _ <;>
      simp [isUpdated, isFailed, Upsert.isUpdated, List.countP_cons] <;> omega

section Outcomes

variable (outcomes : List Upsert)

theorem count_map_ok (outcome : Upsert) :
    (outcomes.map Except.ok).count (.ok outcome : Except StoreError Upsert) =
      outcomes.count outcome :=
  List.count_map_of_injective outcomes Except.ok (fun _ _ => Except.ok.inj) outcome

theorem countP_isUpdated_map_ok :
    (outcomes.map Except.ok).countP isUpdated = outcomes.countP (·.isUpdated) :=
  List.countP_map ..

theorem countP_isFailed_map_ok : (outcomes.map Except.ok).countP isFailed = 0 := by
  simp [List.countP_eq_zero, isFailed]

/-- Outcomes of which none is a failure are counted under the other headings. -/
theorem foldl_tally (summary : Rpc.Summary) :
    (outcomes.map .ok).foldl tally summary =
      ⟨summary.created + .ofNat (outcomes.count .created),
        summary.updated + .ofNat (outcomes.countP (·.isUpdated)),
        summary.unchanged + .ofNat (outcomes.count .unchanged), summary.failed⟩ := by
  rw [foldl_tally_results, count_map_ok, count_map_ok, countP_isUpdated_map_ok,
    countP_isFailed_map_ok]
  simp

theorem count_outcomes :
    outcomes.count .created + outcomes.countP (·.isUpdated) + outcomes.count .unchanged =
      outcomes.length := by
  have h := count_results (outcomes.map .ok)
  rwa [count_map_ok, count_map_ok, countP_isUpdated_map_ok, countP_isFailed_map_ok,
    List.length_map] at h

end Outcomes

/-- The summary of outcomes none of which is a failure. -/
def summaryOf (outcomes : List Upsert) : Rpc.Summary :=
  ⟨.ofNat (outcomes.count .created), .ofNat (outcomes.countP (·.isUpdated)),
    .ofNat (outcomes.count .unchanged), 0⟩

theorem summaryOf_unchanged (n : ℕ) :
    summaryOf (List.replicate n .unchanged) = ⟨0, 0, .ofNat n, 0⟩ := by
  simp [summaryOf, List.count_replicate, List.countP_replicate, Upsert.isUpdated]

/-! ## Requests -/

/-- The service answers the report of a host with what became of it. -/
theorem perform_reportHost (around : Surroundings σ) (host : Host) (s : Store) (c : σ) :
    (Operation.reportHost host).perform around (s, c) =
      (((s.upsertHost host).1.mapError .store).map .host,
        ((s.upsertHost host).2, (around.clock.run c).2)) :=
  ((Runs.onStore (.reportHost host)).map Answer.host).run

/-- The records of instances are taken one after the other, for the host that reports them. -/
theorem run_reconcileEach (around : Surroundings σ) (hostName : String) (summary : Rpc.Summary)
    (is : List Instance) (s : Store) (c : σ) :
    ((reconcileEach hostName summary is).run around).run (s, c) =
      ((Store.instanceReports.takeEach (is.map (reportedOn hostName)) s).1.foldl tally summary,
        ((Store.instanceReports.takeEach (is.map (reportedOn hostName)) s).2,
          (fun c => (around.clock.run c).2)^[is.length] c)) := by
  induction is generalizing summary s c with
  | nil => rfl
  | cons i is ih => exact ih ..

theorem perform_reportInstances (around : Surroundings σ) (hostName : String)
    (is : List Instance) (st : Store × σ) :
    (Operation.reportInstances hostName is).perform around st =
      (.ok (.instances (((reconcileInstances hostName is).run around).run st).1),
        (((reconcileInstances hostName is).run around).run st).2) := by
  have hr : Runs around (reconcileInstances hostName is) st _ _ _ := ⟨rfl, rfl⟩
  have hlift : Runs around (ExceptT.lift (reconcileInstances hostName is) :
      ExceptT ConductorError Program _).run st _ (.ok _) _ :=
    hr.bind_done (f := Program.done ∘ Except.ok) rfl
  exact (hlift.map Answer.instances).run

/-- The records of instances are answered with their summary. -/
theorem run_reconcileInstances (around : Surroundings σ) {is : List Instance}
    {outcomes : List Upsert} {s s' : Store} (hostName : String)
    (ht : Store.instanceReports.takeEach (is.map (reportedOn hostName)) s =
      (outcomes.map .ok, s')) (c : σ) :
    ((reconcileInstances hostName is).run around).run (s, c) =
      (summaryOf outcomes, (s', (fun c => (around.clock.run c).2)^[is.length] c)) := by
  have hr := run_reconcileEach around hostName {} is s c
  rw [ht, foldl_tally] at hr
  refine hr.trans ?_
  simp [summaryOf]

end Conductor

end VcpuPinning
