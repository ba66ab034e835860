import VcpuPinning.Conductor.Mappings
import VcpuPinning.Conductor.Reports

/-!
# Carrying out programs

`Program.trace` lists what a program does when it is carried out by itself, and `Runs` ties a
program to its trace, its result and the state that it leaves. There is one rule for each way in
which programs are put together, so an operation is carried out by composing the runs of its
parts.
-/

namespace VcpuPinning.Conductor

variable {α β σ : Type}

/-- A step of a program that can be seen from outside. -/
inductive Event where
  /-- A statement was made on the store. -/
  | stated (q : Statement)
  /-- A host was called to apply a mapping. -/
  | called (caller : Caller) (host : Host) (mapping : Mapping)
  deriving DecidableEq

namespace Program

/-- What a program does when it is carried out by itself. -/
def trace (around : Surroundings σ) : Program α → Store × σ → List Event
  | done _, _ => []
  | access q next, (store, st) =>
    let now := around.clock.run st
    let result := q.perform now.1 store
    .stated q :: trace around (next result.1) (result.2, now.2)
  | acquire _ next, st => trace around next st
  | release _ next, st => trace around next st
  | call caller host mapping next, (store, st) =>
    let answer := (around.executor caller host mapping).run st
    .called caller host mapping :: trace around (next answer.1) (store, answer.2)

theorem trace_bind (around : Surroundings σ) (p : Program α) (f : α → Program β)
    (st : Store × σ) :
    trace around (p.bind f) st = trace around p st ++
      trace around (f ((run around p).run st).1) ((run around p).run st).2 := by
  induction p generalizing st with
  | done a => rfl
  | access q next ih => exact congrArg _ (ih _ _)
  | acquire uuid next ih => exact ih _
  | release uuid next ih => exact ih _
  | call caller host mapping next ih => exact congrArg _ (ih _ _)

end Program

open Program

/-- Carried out by itself, a program does what the events tell, ends with a result and leaves a
state. -/
structure Runs (around : Surroundings σ) (p : Program α) (st : Store × σ) (events : List Event)
    (a : α) (st' : Store × σ) : Prop where
  trace : p.trace around st = events
  run : p.run around st = (a, st')

namespace Runs

variable {around : Surroundings σ} {st st' st'' : Store × σ} {l k : List Event}

protected theorem bind {p : Program α} {f : α → Program β} {a : α} {b : β}
    (h : Runs around p st l a st') (h' : Runs around (f a) st' k b st'') :
    Runs around (p.bind f) st (l ++ k) b st'' where
  trace := by
    rw [trace_bind, h.trace, show (p.run around).run st = _ from h.run, h'.trace]
  run := by
    rw [run_bind, show (p.run around).run st = _ from h.run]
    exact h'.run

/-- Nothing is to be seen of a step that only changes the result. -/
theorem bind_done {p : Program α} {f : α → Program β} {a : α} {b : β}
    (h : Runs around p st l a st') (hf : f a = done b) :
    Runs around (p.bind f) st l b st' := by
  have h' : Runs around (f a) st' [] b st' := by
    rw [hf]
    exact ⟨rfl, rfl⟩
  simpa only [List.append_nil] using h.bind h'

/-! ## Programs with errors -/

variable {x : ExceptT ConductorError Program α} {f : α → ExceptT ConductorError Program β}

theorem pure (a : α) :
    Runs around (Pure.pure a : ExceptT ConductorError Program α).run st [] (.ok a) st :=
  ⟨rfl, rfl⟩

theorem throw (e : ConductorError) :
    Runs around (MonadExcept.throw e : ExceptT ConductorError Program α).run st [] (.error e) st :=
  ⟨rfl, rfl⟩

theorem bind_ok {a : α} {r : Except ConductorError β} (h : Runs around x.run st l (.ok a) st')
    (h' : Runs around (f a).run st' k r st'') :
    Runs around (x >>= f).run st (l ++ k) r st'' :=
  Runs.bind (f := ExceptT.bindCont f) h h'

theorem bind_error {e : ConductorError} (h : Runs around x.run st l (.error e) st') :
    Runs around (x >>= f).run st l (.error e) st' :=
  h.bind_done (f := ExceptT.bindCont f) rfl

theorem map {r : Except ConductorError α} (g : α → β) (h : Runs around x.run st l r st') :
    Runs around (g <$> x).run st l (r.map g) st' := by
  cases r with
  | ok a => exact h.bind_done rfl
  | error e => exact h.bind_done rfl

theorem adapt {r : Except ConductorError α} (g : ConductorError → ConductorError)
    (h : Runs around x.run st l r st') :
    Runs around (ExceptT.adapt g x).run st l (r.mapError g) st' :=
  h.bind_done (f := done ∘ Except.mapError g) rfl

theorem locked {r : Except ConductorError α} (uuid : String)
    (h : Runs around x.run st l r st') : Runs around (locked uuid x).run st l r st' := by
  have h' : Runs around (release uuid (done r)) st' [] r st' := ⟨rfl, rfl⟩
  have hb := Runs.bind (f := fun r => release uuid (done r)) h h'
  rw [List.append_nil] at hb
  exact ⟨hb.trace, hb.run⟩

/-! ## Statements and calls -/

variable {s : Store} {c : σ}

theorem onStore (q : Statement) :
    Runs around (onStore q).run (s, c) [.stated q]
      ((q.perform (around.clock.run c).1 s).1.mapError .store)
      ((q.perform (around.clock.run c).1 s).2, (around.clock.run c).2) := by
  constructor
  · simp only [Program.onStore, ExceptT.run_mk, Program.trace]
    cases (q.perform (around.clock.run c).1 s).1 <;> rfl
  · simp only [Program.onStore, ExceptT.run_mk, Program.run]
    cases (q.perform (around.clock.run c).1 s).1 <;> rfl

theorem lift_access (q : Statement) :
    Runs around (ExceptT.lift (access q done) : ExceptT ConductorError Program _).run (s, c)
      [.stated q] (.ok (q.perform (around.clock.run c).1 s).1)
      ((q.perform (around.clock.run c).1 s).2, (around.clock.run c).2) :=
  ⟨rfl, rfl⟩

theorem lift_call (caller : Caller) (host : Host) (mapping : Mapping) :
    Runs around
      (ExceptT.lift (call caller host mapping done) : ExceptT ConductorError Program _).run (s, c)
      [.called caller host mapping] (.ok ((around.executor caller host mapping).run c).1)
      (s, ((around.executor caller host mapping).run c).2) :=
  ⟨rfl, rfl⟩

end Runs

end VcpuPinning.Conductor
