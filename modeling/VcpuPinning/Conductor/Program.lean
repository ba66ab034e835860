import VcpuPinning.Conductor.Error
import VcpuPinning.Conductor.Statement

/-!
# Programs of the conductor

An operation of the conductor is a `Program`: it makes statements on the store, asks for the lock of
an instance and gives it back, and calls the host that pins. `Program.run` carries out a program by
itself; between any two steps of a program, steps of others may happen.
-/

namespace VcpuPinning.Conductor

/-- What an operation of the conductor does, step by step. -/
inductive Program (α : Type) where
  /-- It ends. -/
  | done (a : α)
  /-- It makes a statement on the store. -/
  | access (q : Statement) (next : Except StoreError q.Value → Program α)
  /-- It waits for the lock of an instance. -/
  | acquire (uuid : String) (next : Program α)
  /-- It gives the lock of an instance back. -/
  | release (uuid : String) (next : Program α)
  /-- It has a host apply a mapping. -/
  | call (caller : Caller) (host : Host) (mapping : Mapping)
      (next : Except ConductorError Rpc.Applied → Program α)

/-- Has hosts apply mappings, with state of type `σ`. -/
abbrev Executor (σ : Type) :=
  Caller → Host → Mapping → StateM σ (Except ConductorError Rpc.Applied)

/-- What the conductor finds around it. -/
structure Surroundings (σ : Type) where
  /-- The time in seconds. -/
  clock : StateM σ UInt64
  executor : Executor σ

namespace Program

variable {α β σ : Type}

/-- One program after another. -/
def bind : Program α → (α → Program β) → Program β
  | done a, f => f a
  | access q next, f => access q fun answer => (next answer).bind f
  | acquire uuid next, f => acquire uuid (next.bind f)
  | release uuid next, f => release uuid (next.bind f)
  | call caller host mapping next, f => call caller host mapping fun r => (next r).bind f

instance : Monad Program where
  pure := done
  bind := bind

/-- Carry out a program by itself; the lock of an instance is free then. -/
def run (around : Surroundings σ) : Program α → StateM (Store × σ) α
  | done a, st => (a, st)
  | access q next, (store, st) =>
    let now := around.clock.run st
    let result := q.perform now.1 store
    run around (next result.1) (result.2, now.2)
  | acquire _ next, st => run around next st
  | release _ next, st => run around next st
  | call caller host mapping next, (store, st) =>
    let answer := (around.executor caller host mapping).run st
    run around (next answer.1) (store, answer.2)

/-- A statement whose errors are errors of the program. -/
def onStore (q : Statement) : ExceptT ConductorError Program q.Value :=
  ExceptT.mk <| access q fun
    | .ok a => done (.ok a)
    | .error e => done (.error (.store e))

/-- A program under the lock of an instance. -/
def locked (uuid : String) (body : ExceptT ConductorError Program α) :
    ExceptT ConductorError Program α :=
  ExceptT.mk <| acquire uuid <| body.run.bind fun result => release uuid (done result)

/-- Programs carried out one after the other. -/
theorem run_bind (around : Surroundings σ) (p : Program α) (f : α → Program β) (st : Store × σ) :
    run around (p.bind f) st =
      run around (f ((run around p).run st).1) ((run around p).run st).2 := by
  induction p generalizing st with
  | done a => rfl
  | access q next ih => exact ih _ _
  | acquire uuid next ih => exact ih _
  | release uuid next ih => exact ih _
  | call caller host mapping next ih => exact ih _ _

end Program

end VcpuPinning.Conductor
