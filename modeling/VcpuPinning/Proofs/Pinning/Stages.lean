import Mathlib.Logic.Function.Basic
import Mathlib.Logic.Relation
import VcpuPinning.LockTable
import VcpuPinning.Pinning

/-!
# Applies under way

A `System` is a pinner with any number of applies under way, each of which holds the lock of its
domain while it reads the domain and pins its virtual CPUs. A `Step` is one step of one of them: it
asks for the lock, gets it, reads the domain, makes one attempt to pin, or gives the lock back. Left
alone, the stages of an apply are what `Pinner.apply` does (`exists_stages_of_apply`).
-/

namespace VcpuPinning.Pinning

open Pinner

variable {σ ι : Type}

/-! ## Stages -/

/-- A specification that is to be applied to a domain. -/
structure Request where
  uuid : String
  spec : String

/-- How far an apply has come. -/
inductive Stage where
  | idle
  /-- It has asked for the lock of its domain. -/
  | waiting
  /-- It has the lock, and is to read the domain. -/
  | reading
  /-- It is to pin the virtual CPUs that are left, after others with these results. -/
  | pinning (set : CpuSet) (left : List UInt32) (results : List Bool)
  /-- It cannot pin anything. -/
  | failed (e : PinError)
  /-- It has given the lock back. -/
  | ended (result : Except PinError PinOutcome)

namespace Stage

/-- The attempt that an apply is about to make. -/
def attempt? : Stage → Option (UInt32 × CpuSet)
  | pinning set (v :: _) _ => some (v, set)
  | _ => none

/-- The result of an apply that has nothing left to do but to give the lock back. -/
def result? : Stage → Option (Except PinError PinOutcome)
  | pinning _ [] results => some (.ok ⟨results⟩)
  | failed e => some (.error e)
  | _ => none

/-- The next step of an apply that has the lock, on the host. -/
def next (p : Pinner σ) (r : Request) : Stage → σ → Option (Stage × σ)
  | reading, st =>
    match p.hypervisor.domainInfo r.uuid st with
    | (.error e, st) => some (failed (.hypervisor e), st)
    | (.ok info, st) =>
      match CpuSpec.compile r.spec p.maxCpu.toNat with
      | .error e => some (failed (.spec e), st)
      | .ok set => some (pinning set (vcpusOf info.vcpus) [], st)
  | pinning set (v :: left) results, st =>
    let result := (p.hypervisor.pinVcpu r.uuid v set).run st
    some (pinning set left (results ++ [result.1.isOk]), result.2)
  | _, _ => none

section Reading

variable {p : Pinner σ} {r : Request} {st st' : σ}

theorem next_of_unreadable {e : HypervisorError}
    (h : p.hypervisor.domainInfo r.uuid st = (.error e, st')) :
    reading.next p r st = some (failed (.hypervisor e), st') := by
  simp only [next, h]

theorem next_of_refused {info : DomainInfo}
    (h : p.hypervisor.domainInfo r.uuid st = (.ok info, st')) {e : SpecError}
    (hc : CpuSpec.compile r.spec p.maxCpu.toNat = .error e) :
    reading.next p r st = some (failed (.spec e), st') := by
  simp only [next, h, hc]

theorem next_of_compiled {info : DomainInfo}
    (h : p.hypervisor.domainInfo r.uuid st = (.ok info, st')) {set : CpuSet}
    (hc : CpuSpec.compile r.spec p.maxCpu.toNat = .ok set) :
    reading.next p r st = some (pinning set (vcpusOf info.vcpus) [], st') := by
  simp only [next, h, hc]

end Reading

/-- The apply has the lock. -/
def Inside : Stage → Prop
  | reading | pinning _ _ _ | failed _ => True
  | _ => False

/-- The apply waits for the lock or has it. -/
def Queued : Stage → Prop
  | waiting => True
  | stage => stage.Inside

/-- The apply has, or had, the lock. -/
def Granted : Stage → Prop
  | ended _ => True
  | stage => stage.Inside

end Stage

/-! ## An apply by itself -/

/-- The stages of an apply that nothing comes between. -/
def Stages (p : Pinner σ) (r : Request) : Stage × σ → Stage × σ → Prop :=
  Relation.ReflTransGen fun a b => a.1.next p r a.2 = some b

theorem stages_pinEach (p : Pinner σ) (r : Request) (set : CpuSet) (left : List UInt32)
    (results : List Bool) (st : σ) :
    Stages p r (.pinning set left results, st)
      (.pinning set [] (results ++ ((pinEach p.hypervisor r.uuid set left).run st).1),
        ((pinEach p.hypervisor r.uuid set left).run st).2) := by
  induction left generalizing results st with
  | nil =>
    have hnil : results ++ ((pinEach p.hypervisor r.uuid set []).run st).1 = results :=
      List.append_nil results
    rw [hnil]
    exact .refl
  | cons v left ih =>
    have hrest := ih (results ++ [((p.hypervisor.pinVcpu r.uuid v set).run st).1.isOk])
      ((p.hypervisor.pinVcpu r.uuid v set).run st).2
    rw [List.append_assoc] at hrest
    exact .head rfl hrest

/-- The stages of an apply end with the result of `Pinner.apply`. -/
theorem exists_stages_of_apply (p : Pinner σ) (r : Request) (st : σ) :
    ∃ stage, stage.result? = some ((p.apply r.uuid r.spec).run st).1 ∧
      Stages p r (.reading, st) (stage, ((p.apply r.uuid r.spec).run st).2) := by
  cases hinfo : p.hypervisor.domainInfo r.uuid st with
  | mk info st' =>
  cases info with
  | error e =>
    rw [apply_of_domainInfo_error hinfo]
    exact ⟨.failed (.hypervisor e), rfl, .single (Stage.next_of_unreadable hinfo)⟩
  | ok info =>
    cases hc : CpuSpec.compile r.spec p.maxCpu.toNat with
    | error e =>
      rw [apply_of_compile_error hinfo hc]
      exact ⟨.failed (.spec e), rfl, .single (Stage.next_of_refused hinfo hc)⟩
    | ok set =>
      rw [apply_of_compile_ok hinfo hc]
      exact ⟨_, rfl, .head (Stage.next_of_compiled hinfo hc)
        (stages_pinEach p r set (vcpusOf info.vcpus) [] st')⟩

/-! ## Systems -/

/-- A pinner with applies under way. -/
structure System (σ ι : Type) where
  host : σ
  /-- The locks of domains, with the applies as tickets. -/
  locks : LockTable ι
  stage : ι → Stage

/-- What is to be seen of a step. -/
inductive Label (ι : Type) where
  | asked (i : ι)
  | granted (i : ι)
  /-- The apply read its domain, or made an attempt to pin. -/
  | worked (i : ι) (attempt? : Option (UInt32 × CpuSet))
  | released (i : ι)

variable [DecidableEq ι]

/-- One step of one apply. -/
inductive Step (p : Pinner σ) (req : ι → Request) (sys : System σ ι) :
    Label ι → System σ ι → Prop
  | asked {i : ι} (stage : sys.stage i = .idle) :
      Step p req sys (.asked i) { sys with
        locks := sys.locks.ask i (req i).uuid
        stage := Function.update sys.stage i .waiting }
  | granted {i : ι} (stage : sys.stage i = .waiting) (holds : sys.locks.holdsLock i) :
      Step p req sys (.granted i) { sys with stage := Function.update sys.stage i .reading }
  | worked {i : ι} {stage : Stage} {host : σ}
      (next : (sys.stage i).next p (req i) sys.host = some (stage, host)) :
      Step p req sys (.worked i (sys.stage i).attempt?) { sys with
        host := host
        stage := Function.update sys.stage i stage }
  | released {i : ι} {result : Except PinError PinOutcome}
      (done : (sys.stage i).result? = some result) :
      Step p req sys (.released i) { sys with
        locks := sys.locks.giveBack i
        stage := Function.update sys.stage i (.ended result) }

/-- The steps of applies from a host on, in any order. -/
inductive Run (p : Pinner σ) (req : ι → Request) (host : σ) : List (Label ι) → System σ ι → Prop
  | start : Run p req host [] ⟨host, .empty, fun _ => .idle⟩
  | step {labels : List (Label ι)} {sys sys' : System σ ι} {label : Label ι}
      (run : Run p req host labels sys) (step : Step p req sys label sys') :
      Run p req host (labels ++ [label]) sys'

/-! ## What a run tells -/

namespace Label

/-- The apply that gets the lock by a step. -/
def grantee? : Label ι → Option ι
  | granted i => some i
  | _ => none

/-- The attempt of an apply. -/
def attemptOf? (i : ι) : Label ι → Option (UInt32 × CpuSet)
  | worked j attempt? => if j = i then attempt? else none
  | _ => none

/-- The attempt on a domain. -/
def attemptOn? (req : ι → Request) (uuid : String) : Label ι → Option (UInt32 × CpuSet)
  | worked j attempt? => if (req j).uuid = uuid then attempt? else none
  | _ => none

/-- The attempt, with the domain that it is made on. -/
def attempt? (req : ι → Request) : Label ι → Option (String × UInt32 × CpuSet)
  | worked j attempt? => attempt?.map ((req j).uuid, ·)
  | _ => none

end Label

/-- The applies that got the lock in a run, in order. -/
def lockOrder (labels : List (Label ι)) : List ι :=
  labels.filterMap Label.grantee?

/-- Those that got the lock of a domain. -/
def turns (req : ι → Request) (labels : List (Label ι)) (uuid : String) : List ι :=
  (lockOrder labels).filter fun i => (req i).uuid = uuid

/-- The attempts of an apply, in order. -/
def attemptsOf (labels : List (Label ι)) (i : ι) : List (UInt32 × CpuSet) :=
  labels.filterMap (Label.attemptOf? i)

/-- All attempts on a domain, in order. -/
def attemptsOn (req : ι → Request) (labels : List (Label ι)) (uuid : String) :
    List (UInt32 × CpuSet) :=
  labels.filterMap (Label.attemptOn? req uuid)

end VcpuPinning.Pinning
