import VcpuPinning.Hypervisor

/-!
# One step after another

An operation of a hypervisor, or of whoever uses one, is a sequence of steps that may fail and that
change a state. The first step that fails ends it (`run_bind_error`), and after one that does not the
others go on from where it stopped (`run_bind_ok`).
-/

namespace VcpuPinning

variable {α β ε σ : Type} {st st' : σ} {a : α}

theorem run_bind_eq {x : StateM σ α} (h : x.run st = (a, st')) (f : α → StateM σ β) :
    (x >>= f).run st = (f a).run st' := by
  rw [StateT.run_bind, h]
  rfl

theorem run_map_eq {x : StateM σ α} (h : x.run st = (a, st')) (g : α → β) :
    (g <$> x).run st = (g a, st') := by
  rw [StateT.run_map, h]
  rfl

theorem run_bind_ok {x : ExceptT ε (StateM σ) α} (h : x.run.run st = (.ok a, st'))
    (f : α → ExceptT ε (StateM σ) β) : (x >>= f).run.run st = (f a).run.run st' := by
  rw [ExceptT.run_bind, run_bind_eq h]

theorem run_bind_error {x : ExceptT ε (StateM σ) α} {e : ε} (h : x.run.run st = (.error e, st'))
    (f : α → ExceptT ε (StateM σ) β) : (x >>= f).run.run st = (.error e, st') := by
  rw [ExceptT.run_bind, run_bind_eq h]
  rfl

/-- A step that others follow without an error has succeeded. -/
theorem exists_of_run_bind {x : ExceptT ε (StateM σ) α} {f : α → ExceptT ε (StateM σ) β} {b : β}
    {st st' : σ} (h : (x >>= f).run.run st = (.ok b, st')) :
    ∃ a st₁, x.run.run st = (.ok a, st₁) ∧ (f a).run.run st₁ = (.ok b, st') := by
  obtain ⟨r, st₁, hx⟩ : ∃ r st₁, x.run.run st = (r, st₁) := ⟨_, _, rfl⟩
  cases r with
  | error e => cases (run_bind_error hx f).symm.trans h
  | ok a => exact ⟨a, st₁, hx, (run_bind_ok hx f).symm.trans h⟩

theorem run_map_except (f : α → β) (x : ExceptT ε (StateM σ) α) (st : σ) :
    (f <$> x).run.run st = ((x.run.run st).1.map f, (x.run.run st).2) := by
  rw [ExceptT.run_map]
  exact run_map_eq rfl _

theorem run_adapt {δ : Type} {x : ExceptT ε (StateM σ) α} {r : Except ε α} (g : ε → δ)
    (h : x.run.run st = (r, st')) : (ExceptT.adapt g x).run.run st = (r.mapError g, st') :=
  run_map_eq h _

/-- Errors are adapted step by step. -/
theorem adapt_bind {δ : Type} (g : ε → δ) (x : ExceptT ε (StateM σ) α)
    (f : α → ExceptT ε (StateM σ) β) :
    ExceptT.adapt g (x >>= f) = ExceptT.adapt g x >>= fun a => ExceptT.adapt g (f a) := by
  funext st
  obtain ⟨r, st', hx⟩ : ∃ r st', x.run.run st = (r, st') := ⟨_, _, rfl⟩
  cases r with
  | error e =>
    exact (run_adapt g (run_bind_error hx f)).trans (run_bind_error (run_adapt g hx) _).symm
  | ok a =>
    obtain ⟨r, st'', hf⟩ : ∃ r st'', (f a).run.run st' = (r, st'') := ⟨_, _, rfl⟩
    have hb : (x >>= f).run.run st = (r, st'') := (run_bind_ok hx f).trans hf
    exact (run_adapt g hb).trans ((run_bind_ok (run_adapt g hx) _).trans (run_adapt g hf)).symm

theorem adapt_lift {δ : Type} (g : ε → δ) (x : StateM σ α) :
    ExceptT.adapt g (ExceptT.lift x : ExceptT ε (StateM σ) α) = ExceptT.lift x := rfl

end VcpuPinning
