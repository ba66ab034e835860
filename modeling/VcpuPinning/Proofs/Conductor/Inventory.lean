import VcpuPinning.Proofs.Conductor.Reports

/-!
# The inventory

The instances that hosts reported. `Program.Makes` says that all the statements of a program have a
property, whatever the program is answered, and what such statements keep the program keeps
(`Makes.run`). The service reports no instance without a host (`makes_places`), so every instance of
a reached store has one (`Reached.placed`).
-/

namespace VcpuPinning.Conductor

variable {α β σ : Type}

namespace Program

/-- Every statement that a program can make has a property, whatever it is answered. -/
def Makes (P : Statement → Prop) : Program α → Prop
  | done _ => True
  | access q next => P q ∧ ∀ r, Makes P (next r)
  | acquire _ next => Makes P next
  | release _ next => Makes P next
  | call _ _ _ next => ∀ r, Makes P (next r)

namespace Makes

variable {P : Statement → Prop}

protected theorem bind {p : Program α} {f : α → Program β} (hp : p.Makes P)
    (hf : ∀ a, (f a).Makes P) : (p.bind f).Makes P := by
  induction p with
  | done a => exact hf a
  | access q next ih => exact ⟨hp.1, fun r => ih r (hp.2 r)⟩
  | acquire uuid next ih => exact ih hp
  | release uuid next ih => exact ih hp
  | call caller host mapping next ih => exact fun r => ih r (hp r)

variable {x : ExceptT ConductorError Program α} {f : α → ExceptT ConductorError Program β}

theorem andThen (hx : x.run.Makes P) (hf : ∀ a, (f a).run.Makes P) : (x >>= f).run.Makes P :=
  Makes.bind hx fun
    | .ok a => hf a
    | .error _ => trivial

theorem map (g : α → β) (hx : x.run.Makes P) : (g <$> x).run.Makes P :=
  Makes.bind hx fun
    | .ok _ => trivial
    | .error _ => trivial

theorem adapt (g : ConductorError → ConductorError) (hx : x.run.Makes P) :
    (ExceptT.adapt g x).run.Makes P :=
  Makes.bind hx fun _ => trivial

theorem locked (uuid : String) (hx : x.run.Makes P) : (Program.locked uuid x).run.Makes P :=
  Makes.bind hx fun _ => trivial

theorem onStore {q : Statement} (hq : P q) : (Program.onStore q).run.Makes P :=
  ⟨hq, fun
    | .ok _ => trivial
    | .error _ => trivial⟩

theorem mono {Q : Statement → Prop} (h : ∀ q, P q → Q q) {p : Program α} (hp : p.Makes P) :
    p.Makes Q := by
  induction p with
  | done a => exact trivial
  | access q next ih => exact ⟨h q hp.1, fun r => ih r (hp.2 r)⟩
  | acquire uuid next ih => exact ih hp
  | release uuid next ih => exact ih hp
  | call caller host mapping next ih => exact fun r => ih r (hp r)

/-- What all statements with the property keep, the program keeps. -/
theorem run {p : Program α} (hp : p.Makes P) {I : Store → Prop}
    (hstep : ∀ now s q, P q → I s → I (q.perform now s).2) (around : Surroundings σ)
    {st : Store × σ} (hs : I st.1) : I ((p.run around).run st).2.1 := by
  induction p generalizing st with
  | done a => exact hs
  | access q next ih => exact ih _ (hp.2 _) (hstep _ _ q hp.1 hs)
  | acquire uuid next ih => exact ih hp hs
  | release uuid next ih => exact ih hp hs
  | call caller host mapping next ih => exact ih _ (hp _) hs

end Makes

end Program

open Program

/-! ## Reports of instances -/

/-- A statement reports no instance. -/
def Statement.Silent (q : Statement) : Prop :=
  q.operation.instance? = none

/-- A statement that reports an instance tells its host. -/
def Statement.Places (q : Statement) : Prop :=
  ∀ i, q.operation.instance? = some i → i.host ≠ none

theorem Statement.Silent.places {q : Statement} (h : q.Silent) : q.Places :=
  fun _ hi => nomatch h.symm.trans hi

theorem makes_cycle (caller : Caller) (mapping : Mapping) (host : String) :
    (cycle caller mapping host).run.Makes Statement.Silent := by
  refine .andThen ⟨rfl, fun _ => trivial⟩ fun found => ?_
  cases callee host found with
  | error reason => exact .onStore rfl
  | ok h => exact .andThen (fun _ => trivial) fun _ => .onStore rfl

theorem makes_activeHost (r : Rpc.CreateMapping) :
    (activeHost r).run.Makes Statement.Silent := by
  refine .andThen (.andThen (.onStore rfl) fun _ => trivial) fun location => ?_
  rcases location with _ | ⟨host, status⟩
  · cases r.host <;> exact trivial
  · dsimp only
    split <;> exact trivial

theorem makes_createMapping (caller : Caller) (r : Rpc.CreateMapping) :
    (createMapping caller r).run.Makes Statement.Silent := by
  unfold createMapping
  cases CpuSpec.validate r.spec with
  | error e => exact trivial
  | ok =>
  cases r.waitUntilActive with
  | true =>
    simp only [↓reduceIte]
    refine .andThen trivial fun host => .locked _ (.andThen (.adapt _ ?_) fun m => trivial)
    exact .onStore rfl
  | false =>
    simp only [Bool.false_eq_true, ↓reduceIte]
    refine .andThen (.map _ (makes_activeHost r)) fun host =>
      .locked _ (.andThen (.adapt _ ?_) fun m => ?_)
    · exact .onStore rfl
    · cases host with
      | none => exact trivial
      | some host => exact makes_cycle ..

/-- An operation reports no instances. -/
def Operation.Silent : Operation → Prop
  | reportInstances _ _ => False
  | _ => True

theorem makes_silent {op : Operation} (h : op.Silent) : op.program.run.Makes Statement.Silent := by
  cases op with
  | create caller r => exact .map _ (makes_createMapping caller r)
  | reconcile caller uuid host =>
    refine .map _ (.locked uuid (.andThen (.onStore rfl) fun found => ?_))
    cases found with
    | none => exact trivial
    | some m => exact .andThen (.onStore rfl) fun m => .map _ (makes_cycle ..)
  | reapply caller uuid =>
    refine .map _ (.locked uuid (.andThen (.onStore rfl) fun found => ?_))
    cases found with
    | none => exact trivial
    | some m =>
      dsimp only
      cases m.host with
      | none => exact trivial
      | some host => exact makes_cycle ..
  | delete uuid =>
    refine .map _ (.locked uuid (.andThen (.onStore rfl) fun existed => ?_))
    cases existed <;> exact trivial
  | reportHost host => exact .map _ (.onStore rfl)
  | reportInstances hostName instances => exact h.elim

theorem makes_reconcileEach (hostName : String) (summary : Rpc.Summary) (is : List Instance) :
    (reconcileEach hostName summary is).Makes Statement.Places := by
  induction is generalizing summary with
  | nil => exact trivial
  | cons i is ih =>
    refine ⟨?_, fun outcome => ih _⟩
    rintro _ ⟨⟩
    exact nofun

/-- The service takes no report of an instance without a host. -/
theorem makes_places (op : Operation) : op.program.run.Makes Statement.Places := by
  have silent (h : op.Silent) := (makes_silent h).mono fun _ => Statement.Silent.places
  cases op with
  | reportInstances hostName instances =>
    exact .map _ (.bind (makes_reconcileEach hostName {} instances) fun _ => trivial)
  | _ => exact silent trivial

/-! ## Stored instances -/

/-- Every instance can be read and has a host. -/
structure Placed (s : Store) : Prop where
  kept : Store.instanceReports.Kept s
  host : ∀ uuid i, Store.instanceReports.stored? s uuid = some i → i.host ≠ none

namespace Placed

theorem empty : Placed .empty where
  kept := .empty
  host uuid i hi := by
    obtain ⟨row, hr, -⟩ := Option.bind_eq_some_iff.1 hi
    simp [Store.row?, Store.rows, Store.instanceReports, Store.empty] at hr

/-- A statement that tells the host of each instance that it reports keeps the others. -/
theorem perform {s : Store} (h : Placed s) (now : UInt64) {q : Statement} (hq : q.Places) :
    Placed (q.perform now s).2 := by
  rw [Statement.perform_snd]
  refine ⟨h.kept.perform now q.operation, fun uuid j hj => ?_⟩
  rcases Store.instanceReports.perform_cases now s q.operation with ⟨i, hi, hp⟩ | ⟨-, hp⟩
  · rw [hp] at hj
    rcases Store.instanceReports.stored?_take_cases s hj with rfl | hj
    · exact hq j hi
    · exact h.host uuid j hj
  · rw [Store.ReportKind.stored?_congr _ hp] at hj
    exact h.host uuid j hj

theorem after (around : Surroundings σ) (ops : List Operation) {st : Store × σ}
    (h : Placed st.1) : Placed (Operation.after around ops st).1 := by
  induction ops generalizing st with
  | nil => exact h
  | cons op ops ih =>
    exact ih ((makes_places op).run (fun now _ q hq hs => hs.perform now hq) around h)

/-- What is found under an identifier has a host. -/
theorem getInstance {s : Store} (h : Placed s) (uuid : String) :
    (s.getInstance uuid).1 = .ok none ∨
      ∃ i host, (s.getInstance uuid).1 = .ok (some i) ∧ i.host = some host := by
  have hf : (s.getInstance uuid).1 = .ok (Store.instanceReports.stored? s uuid) :=
    congrArg Prod.fst (h.kept.find_eq uuid)
  rw [hf]
  cases hi : Store.instanceReports.stored? s uuid with
  | none => exact .inl rfl
  | some i =>
    obtain ⟨host, hh⟩ := Option.ne_none_iff_exists'.1 (h.host uuid i hi)
    exact .inr ⟨i, host, rfl, hh⟩

end Placed

/-- Every instance of a reached store has a host. -/
theorem Reached.placed {s : Store} : Reached s → Placed s
  | ⟨_, around, ops, _, h⟩ => h ▸ Placed.empty.after around ops

end VcpuPinning.Conductor
