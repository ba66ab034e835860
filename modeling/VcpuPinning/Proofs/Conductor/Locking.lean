import VcpuPinning.Proofs.Conductor.Operations

/-!
# What operations do under the lock

An operation on the mapping of an instance is `Outside` : it reads where the instance is, and then
takes the lock of the instance for a body that is `Guarded`. A guarded body only touches the
mapping of its instance, and ends a cycle only where the mapping is known to be there.
-/

namespace VcpuPinning.Conductor

variable {α β γ : Type}

namespace Program

theorem bind_assoc (p : Program α) (f : α → Program β) (g : β → Program γ) :
    (p.bind f).bind g = p.bind fun a => (f a).bind g := by
  induction p with
  | done a => rfl
  | access q next ih => exact congrArg (access q) (funext ih)
  | acquire uuid next ih => exact congrArg (acquire uuid) ih
  | release uuid next ih => exact congrArg (release uuid) ih
  | call caller host mapping next ih =>
    exact congrArg (call caller host mapping) (funext ih)

/-- The end of a program under the lock of an instance. -/
def unlock (uuid : String) (a : α) : Program α :=
  release uuid (done a)

/-- What is done with the result of a locked program may be done under the lock. -/
theorem map_locked (f : α → β) (uuid : String) (body : ExceptT ConductorError Program α) :
    f <$> locked uuid body = locked uuid (f <$> body) := by
  change acquire uuid (((body.run.bind (unlock uuid))).bind _) =
    acquire uuid ((body.run.bind _).bind (unlock uuid))
  rw [bind_assoc, bind_assoc]
  refine congrArg (acquire uuid ∘ body.run.bind) (funext fun r => ?_)
  cases r <;> rfl

end Program

open Program

/-! ## Bodies -/

/-- The rest of a body under the lock of an instance. Whether the instance is known to have a
mapping follows from the statements so far, and a body that `ends` does so with its result and
that knowledge. -/
def Guarded (uuid : String) : Program α → Bool → (α → Bool → Prop) → Prop
  | done a, known, ends => ends a known
  | access (.findHost _) next, known, ends => ∀ r, Guarded uuid (next r) known ends
  | access (.findMapping u) next, _, ends =>
    u = uuid ∧ Guarded uuid (next (.ok none)) false ends ∧
      ∀ m : Mapping, m.instanceUuid = uuid → Guarded uuid (next (.ok (some m))) true ends
  | access (.create draft) next, known, ends =>
    draft.instanceUuid = uuid ∧ (∀ e, Guarded uuid (next (.error e)) known ends) ∧
      ∀ m : Mapping, m.instanceUuid = uuid → Guarded uuid (next (.ok m)) true ends
  | access (.move u _) next, known, ends =>
    u = uuid ∧ known = true ∧
      ∀ m : Mapping, m.instanceUuid = uuid → Guarded uuid (next (.ok m)) true ends
  | access (.settle u _) next, known, ends =>
    u = uuid ∧ known = true ∧
      ∀ m : Mapping, m.instanceUuid = uuid → Guarded uuid (next (.ok m)) true ends
  | access (.delete u) next, _, ends =>
    u = uuid ∧ ∀ existed, Guarded uuid (next (.ok existed)) false ends
  | call _ _ mapping next, known, ends =>
    mapping.instanceUuid = uuid ∧ ∀ r, Guarded uuid (next r) known ends
  | _, _, _ => False

theorem Guarded.bind {uuid : String} {ends : β → Bool → Prop} {f : α → Program β} :
    ∀ {p : Program α} {known : Bool},
      Guarded uuid p known (fun a known => Guarded uuid (f a) known ends) →
      Guarded uuid (p.bind f) known ends
  | done _, _, h => h
  | access (.findHost _) _, _, h => fun r => Guarded.bind (h r)
  | access (.findMapping _) _, _, h =>
    ⟨h.1, Guarded.bind h.2.1, fun m hm => Guarded.bind (h.2.2 m hm)⟩
  | access (.create _) _, _, h =>
    ⟨h.1, fun e => Guarded.bind (h.2.1 e), fun m hm => Guarded.bind (h.2.2 m hm)⟩
  | access (.move _ _) _, _, h => ⟨h.1, h.2.1, fun m hm => Guarded.bind (h.2.2 m hm)⟩
  | access (.settle _ _) _, _, h => ⟨h.1, h.2.1, fun m hm => Guarded.bind (h.2.2 m hm)⟩
  | access (.delete _) _, _, h => ⟨h.1, fun existed => Guarded.bind (h.2 existed)⟩
  | call _ _ _ _, _, h => ⟨h.1, fun r => Guarded.bind (h.2 r)⟩

theorem Guarded.mono {uuid : String} {ends ends' : α → Bool → Prop}
    (he : ∀ a known, ends a known → ends' a known) :
    ∀ {p : Program α} {known : Bool}, Guarded uuid p known ends → Guarded uuid p known ends'
  | done _, _, h => he _ _ h
  | access (.findHost _) _, _, h => fun r => Guarded.mono he (h r)
  | access (.findMapping _) _, _, h =>
    ⟨h.1, Guarded.mono he h.2.1, fun m hm => Guarded.mono he (h.2.2 m hm)⟩
  | access (.create _) _, _, h =>
    ⟨h.1, fun e => Guarded.mono he (h.2.1 e), fun m hm => Guarded.mono he (h.2.2 m hm)⟩
  | access (.move _ _) _, _, h => ⟨h.1, h.2.1, fun m hm => Guarded.mono he (h.2.2 m hm)⟩
  | access (.settle _ _) _, _, h => ⟨h.1, h.2.1, fun m hm => Guarded.mono he (h.2.2 m hm)⟩
  | access (.delete _) _, _, h => ⟨h.1, fun existed => Guarded.mono he (h.2 existed)⟩
  | call _ _ _ _, _, h => ⟨h.1, fun r => Guarded.mono he (h.2 r)⟩

/-- A body of two parts, the first of which may fail. -/
theorem Guarded.andThen {uuid : String} {known : Bool} {x : ExceptT ConductorError Program α}
    {f : α → ExceptT ConductorError Program β} {ends : Except ConductorError β → Bool → Prop}
    (h : Guarded uuid x.run known fun r known =>
      Guarded uuid (ExceptT.bindCont f r) known ends) :
    Guarded uuid (x >>= f).run known ends :=
  Guarded.bind h

theorem guarded_settle {uuid : String} {ends : Except ConductorError Mapping → Bool → Prop}
    (failure : Option String) (hends : ∀ m : Mapping, m.instanceUuid = uuid → ends (.ok m) true) :
    Guarded uuid (settle uuid failure).run true ends :=
  ⟨rfl, rfl, hends⟩

theorem guarded_cycle {uuid : String} {ends : Except ConductorError Mapping → Bool → Prop}
    (caller : Caller) {mapping : Mapping} (hu : mapping.instanceUuid = uuid) (host : String)
    (hends : ∀ m : Mapping, m.instanceUuid = uuid → ends (.ok m) true) :
    Guarded uuid (cycle caller mapping host).run true ends := by
  subst hu
  -- only a known host is called before the cycle is settled
  refine Guarded.andThen ?_
  rintro (e | _ | h)
  · exact guarded_settle _ hends
  · exact guarded_settle _ hends
  · exact Guarded.andThen ⟨rfl, fun answer => guarded_settle _ hends⟩

/-! ## Operations -/

/-- The rest of an operation that does not hold the lock of its instance. -/
def Outside (uuid : String) : Program α → Prop
  | done _ => True
  | access (.findInstance _) next => ∀ r, Outside uuid (next r)
  | acquire u next => u = uuid ∧ ∃ body : Program α, next = body.bind (unlock uuid) ∧
      Guarded uuid body false fun _ _ => True
  | _ => False

theorem Outside.locked {uuid : String} {x : ExceptT ConductorError Program α} (f : α → β)
    (h : Guarded uuid x.run false fun _ _ => True) :
    Outside uuid (f <$> Program.locked uuid x).run := by
  rw [map_locked]
  refine ⟨rfl, (f <$> x).run, rfl, Guarded.bind (h.mono fun r _ _ => ?_)⟩
  cases r <;> exact trivial

/-- The operation is about the mapping of an instance. -/
def Operation.About (uuid : String) : Operation → Prop
  | create _ r => r.instanceUuid = uuid
  | reconcile _ u _ => u = uuid
  | reapply _ u => u = uuid
  | delete u => u = uuid
  | _ => False

theorem outside_create (caller : Caller) (r : Rpc.CreateMapping) :
    Outside r.instanceUuid (Operation.create caller r).program.run := by
  obtain ⟨uuid, spec, wait, asked⟩ := r
  have waits : Guarded uuid (ExceptT.adapt (createError uuid)
      (onStore (.create (draftOf caller ⟨uuid, spec, true, asked⟩ asked))) >>= fun mapping =>
        (Pure.pure mapping : ExceptT ConductorError Program Mapping)).run false
      fun _ _ => True :=
    Guarded.andThen ⟨rfl, fun _ => trivial, fun _ _ => trivial⟩
  have applies (host : String) : Guarded uuid (ExceptT.adapt (createError uuid)
      (onStore (.create (draftOf caller ⟨uuid, spec, false, asked⟩ (some host)))) >>= fun mapping =>
        cycle caller mapping host).run false fun _ _ => True :=
    Guarded.andThen ⟨rfl, fun _ => trivial, fun m hm =>
      guarded_cycle caller hm host fun _ _ => trivial⟩
  rw [Operation.program, createMapping]
  cases hv : CpuSpec.validate spec with
  | error e => exact trivial
  | ok =>
  cases wait with
  | true => exact Outside.locked (fun m => Answer.mapping (some m)) waits
  | false =>
    -- the only statement before the lock is the one that finds the instance
    rintro (e | _ | ⟨u, host, status, cpuMappings, updatedAt⟩)
    · exact trivial
    · cases asked with
      | none => exact trivial
      | some host => exact Outside.locked (fun m => Answer.mapping (some m)) (applies host)
    · cases host with
      | none =>
        cases asked with
        | none => exact trivial
        | some host => exact Outside.locked (fun m => Answer.mapping (some m)) (applies host)
      | some host =>
        by_cases hs : status = .running
        · subst hs
          exact Outside.locked (fun m => Answer.mapping (some m)) (applies host)
        · cases status <;> first | exact absurd rfl hs | exact trivial

theorem outside_reconcile (caller : Caller) (uuid host : String) :
    Outside uuid (Operation.reconcile caller uuid host).program.run := by
  refine Outside.locked _ (Guarded.andThen ⟨rfl, trivial, fun _ _ => ?_⟩)
  refine Guarded.andThen ⟨rfl, rfl, fun m hm => ?_⟩
  exact Guarded.andThen (guarded_cycle caller hm host fun _ _ => trivial)

theorem outside_reapply (caller : Caller) (uuid : String) :
    Outside uuid (Operation.reapply caller uuid).program.run := by
  refine Outside.locked _ (Guarded.andThen ⟨rfl, trivial, fun m hm => ?_⟩)
  simp only [Guarded, ExceptT.bindCont]
  cases m.host with
  | none => exact trivial
  | some host => exact guarded_cycle caller hm host fun _ _ => trivial

theorem outside_delete (uuid : String) :
    Outside uuid (Operation.delete uuid).program.run := by
  refine Outside.locked _ (Guarded.andThen ⟨rfl, fun existed => ?_⟩)
  cases existed <;> exact trivial

/-- Every operation on the mapping of an instance takes the lock of the instance for it. -/
theorem outside_program {uuid : String} {op : Operation} (h : op.About uuid) :
    Outside uuid op.program.run := by
  cases op with
  | create caller r =>
    obtain rfl : r.instanceUuid = uuid := h
    exact outside_create caller r
  | reconcile caller u host =>
    obtain rfl : u = uuid := h
    exact outside_reconcile caller u host
  | reapply caller u =>
    obtain rfl : u = uuid := h
    exact outside_reapply caller u
  | delete u =>
    obtain rfl : u = uuid := h
    exact outside_delete u
  | reportHost _ | reportInstances _ _ => exact h.elim

end VcpuPinning.Conductor
