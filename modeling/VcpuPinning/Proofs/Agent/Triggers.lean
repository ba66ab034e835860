import Mathlib.Data.List.Forall2
import VcpuPinning.Agent.Dispatcher
import VcpuPinning.Proofs.CpuSpec.Hosts
import VcpuPinning.Proofs.Pinning.Calls

/-!
# What a dispatcher acts on

A notice is `Triggered` on a host if its event is one of two, up to the case of ASCII letters, it is
about an instance of the host, and it holds a specification under the trigger key. Otherwise one of
these fails first, and `IgnoredFor` says which. Calls are written down by `Dispatcher.recorded`, which
acts on a notice as `Dispatcher.dispatch` does. The main statement, `acts_exactly_on_triggers`, is
that a notice leads to one call if it is triggered and to none if it is not.
-/

namespace VcpuPinning.Agent

variable {σ α : Type}

/-! ## Events -/

/-- The same character, or the two cases of an ASCII letter. -/
def SameLetter (a b : Char) : Prop :=
  a = b ∨ a.isUpper ∧ b.toNat = a.toNat + 32 ∨ b.isUpper ∧ a.toNat = b.toNat + 32

/-- The texts are equal up to the case of ASCII letters. -/
def SameLetters (s t : String) : Prop :=
  List.Forall₂ SameLetter s.toList t.toList

theorem toNat_toLower {a : Char} (h : a.isUpper) : a.toLower.toNat = a.toNat + 32 := by
  have hu : 65 ≤ a.val ∧ a.val ≤ 90 := of_decide_eq_true h
  have hle : a.val.toNat ≤ 90 := UInt32.le_iff_toNat_le.1 hu.2
  have ha : a.toLower.val = a.val + 32 := congrArg Char.val (dif_pos hu)
  calc a.toLower.val.toNat
      = (a.val.toNat + 32) % 2 ^ 32 := by rw [ha, UInt32.toNat_add]; rfl
    _ = a.val.toNat + 32 := by omega

theorem toLower_of_not_isUpper {a : Char} (h : ¬ a.isUpper) : a.toLower = a :=
  dif_neg fun hu => h (decide_eq_true hu)

/-- The lower case of a character is compared with no upper case letter. -/
theorem toLower_eq_iff {a b : Char} (hb : ¬ b.isUpper) : a.toLower = b ↔ SameLetter a b := by
  unfold SameLetter
  by_cases ha : a.isUpper
  · have hne : a ≠ b := by
      rintro rfl
      exact hb ha
    rw [← Char.toNat_inj, toNat_toLower ha]
    simp [hne, ha, hb, eq_comm]
  · rw [toLower_of_not_isUpper ha]
    simp [ha, hb]

theorem map_toLower_eq_iff {cs ds : List Char} (hds : ∀ d ∈ ds, ¬ d.isUpper) :
    cs.map Char.toLower = ds ↔ List.Forall₂ SameLetter cs ds := by
  induction ds generalizing cs with
  | nil => simp
  | cons d ds ih =>
    rw [List.forall_mem_cons] at hds
    cases cs with
    | nil => simp
    | cons c cs =>
      rw [List.map_cons, List.cons.injEq, List.forall₂_cons, toLower_eq_iff hds.1, ih hds.2]

/-- A text in lower case is equal to an event without upper case letters if the text is, up to
case. -/
theorem lower_eq_iff {s t : String} (ht : ∀ d ∈ t.toList, ¬ d.isUpper) :
    s.map Char.toLower = t ↔ SameLetters s t := by
  rw [← String.toList_inj, String.toList_map, map_toLower_eq_iff ht, SameLetters]

/-- The event of the notice is one to act on. -/
def Notice.Concerns (n : Notice) : Prop :=
  SameLetters n.eventType instanceCreated ∨ SameLetters n.eventType metadataUpdated

theorem Notice.concerns_iff {n : Notice} : n.Concerns ↔
    ¬ (n.eventType.map Char.toLower ≠ instanceCreated ∧
      n.eventType.map Char.toLower ≠ metadataUpdated) := by
  rw [Concerns, ← lower_eq_iff (by simp [instanceCreated]),
    ← lower_eq_iff (by simp [metadataUpdated]), not_and_or, not_ne_iff, not_ne_iff]

/-! ## Notices to act on -/

/-- A notice to act on, with its specification. -/
structure Triggered (hostName triggerKey : String) (n : Notice) (spec : String) : Prop where
  concerns : n.Concerns
  host : n.host = some hostName
  value : n.metadata.get? triggerKey = some spec
  valid : CpuSpec.validate spec = .ok ()

/-- What fails first in a notice that is not acted on. -/
inductive IgnoredFor (hostName triggerKey : String) (n : Notice) : IgnoreReason → Prop
  | unsupportedEvent (event : ¬ n.Concerns) :
      IgnoredFor hostName triggerKey n (.unsupportedEvent n.eventType)
  | otherHost (concerns : n.Concerns) (host : n.host ≠ some hostName) :
      IgnoredFor hostName triggerKey n (.otherHost n.host)
  | noTrigger (concerns : n.Concerns) (host : n.host = some hostName)
      (value : n.metadata.get? triggerKey = none) : IgnoredFor hostName triggerKey n .noTrigger
  | invalidTrigger {spec : String} {e : SpecError} (concerns : n.Concerns)
      (host : n.host = some hostName) (value : n.metadata.get? triggerKey = some spec)
      (invalid : CpuSpec.validate spec = .error e) :
      IgnoredFor hostName triggerKey n (.invalidTrigger e)

section Triage

variable {hostName triggerKey spec : String} {n : Notice} {reason : IgnoreReason}

theorem Triggered.triage_eq (h : Triggered hostName triggerKey n spec) :
    triage hostName triggerKey n = .ok spec := by
  simp [triage, if_neg (Notice.concerns_iff.1 h.concerns), h.host, h.value, h.valid]

theorem IgnoredFor.triage_eq (h : IgnoredFor hostName triggerKey n reason) :
    triage hostName triggerKey n = .error reason := by
  cases h with
  | unsupportedEvent event =>
    rw [Notice.concerns_iff, not_not] at event
    exact if_pos event
  | otherHost concerns host => simp [triage, if_neg (Notice.concerns_iff.1 concerns), host]
  | noTrigger concerns host value =>
    simp [triage, if_neg (Notice.concerns_iff.1 concerns), host, value]
  | invalidTrigger concerns host value invalid =>
    simp [triage, if_neg (Notice.concerns_iff.1 concerns), host, value, invalid]

/-- A notice is acted on or ignored. -/
theorem triggered_or_ignoredFor (hostName triggerKey : String) (n : Notice) :
    (∃ spec, Triggered hostName triggerKey n spec) ∨
      ∃ reason, IgnoredFor hostName triggerKey n reason := by
  by_cases concerns : n.Concerns
  case neg => exact .inr ⟨_, .unsupportedEvent concerns⟩
  by_cases host : n.host = some hostName
  case neg => exact .inr ⟨_, .otherHost concerns host⟩
  cases value : n.metadata.get? triggerKey with
  | none => exact .inr ⟨_, .noTrigger concerns host value⟩
  | some spec =>
    cases valid : CpuSpec.validate spec with
    | error e => exact .inr ⟨_, .invalidTrigger concerns host value valid⟩
    | ok u => exact .inl ⟨spec, concerns, host, value, valid⟩

/-- A notice that is acted on is not ignored. -/
theorem Triggered.not_ignoredFor (h : Triggered hostName triggerKey n spec) :
    ¬ IgnoredFor hostName triggerKey n reason := fun hi =>
  nomatch h.triage_eq.symm.trans hi.triage_eq

theorem Triggered.unique (h : Triggered hostName triggerKey n spec) {spec' : String}
    (h' : Triggered hostName triggerKey n spec') : spec = spec' :=
  Option.some.inj (h.value.symm.trans h'.value)

end Triage

/-! ## Calls -/

/-- A call that is made for a notice. -/
inductive Call where
  /-- The conductor is to apply the mapping of an instance on a host. -/
  | reconcile (caller : Caller) (uuid host : String)
  /-- The executor is to apply a specification to a domain. -/
  | apply (uuid spec : String)

/-- The call, which is written down. -/
def Call.recorded (c : Call) (x : StateM σ α) : StateM (σ × List Call) α := fun st =>
  ((x.run st.1).1, (x.run st.1).2, st.2 ++ [c])

/-- Act on a notice, with a record of the calls. -/
def Dispatcher.recorded (d : Dispatcher σ) (caller : Caller) (n : Notice) :
    StateM (σ × List Call) (Except DispatchError Dispatch) :=
  act d.hostName d.triggerKey d.mode
    (fun caller uuid host =>
      (Call.reconcile caller uuid host).recorded (d.link.reconcileInstance caller uuid host))
    (fun uuid spec => (Call.apply uuid spec).recorded (d.pinner.apply uuid spec)) caller n

section Act

variable {hostName triggerKey spec : String} {n : Notice} {caller : Caller}
  {reconcile : Caller → String → String → StateM σ (Except Rpc.CallError (Option Mapping))}
  {apply : String → String → StateM σ (Except PinError PinOutcome)}

theorem act_of_ignoredFor {reason : IgnoreReason} (h : IgnoredFor hostName triggerKey n reason)
    (mode : DispatchMode) : act hostName triggerKey mode reconcile apply caller n =
      pure (.ok (.ignored reason)) := by
  simp only [act, h.triage_eq]

/-- The conductor is called, whatever the specification. -/
theorem act_of_conductor (h : Triggered hostName triggerKey n spec) :
    act hostName triggerKey .conductor reconcile apply caller n =
      (fun r => (r.map .reconciled).mapError .conductor) <$>
        reconcile caller n.instanceUuid hostName := by
  simp only [act, h.triage_eq]
  rfl

/-- The executor is called with the specification. -/
theorem act_of_direct (h : Triggered hostName triggerKey n spec) :
    act hostName triggerKey .direct reconcile apply caller n =
      (fun r => (r.map .applied).mapError .pin) <$> apply n.instanceUuid spec := by
  simp only [act, h.triage_eq]
  rfl

end Act

/-- The executor refuses the value of a notice to act on only because a number is out of range, or
because no CPU is selected. -/
theorem Triggered.reason_of_refused {hostName triggerKey spec : String} {n : Notice}
    (h : Triggered hostName triggerKey n spec) {p : Pinner σ} {uuid : String} {st : σ}
    {e : SpecError} (he : ((p.apply uuid spec).run st).1 = .error (.spec e)) :
    e.reason = .outOfRange ∨ e.reason = .empty := by
  cases Pinner.apply_eq_error_iff.1 he with
  | refused _ hc =>
    by_contra hr
    rw [not_or] at hr
    exact nomatch h.valid.symm.trans (CpuSpec.validate_eq_error hc hr.1 hr.2)

/-- A notice leads to a call exactly if it is about an event to act on and an instance of the host,
and holds a valid value under the trigger key. Then there is one call: one of the conductor, with the
instance and the host, or one of the executor, with the value, depending on the mode. The executor
refuses such a value only because a number is out of range or because no CPU is selected. Any other
notice is ignored for what fails first, and a value that is ignored as invalid compiles on no
host. -/
theorem acts_exactly_on_triggers (d : Dispatcher σ) (caller : Caller) (n : Notice) (st : σ) :
    ∃ calls, (d.recorded caller n).run (st, []) =
        (((d.dispatch caller n).run st).1, ((d.dispatch caller n).run st).2, calls) ∧
      (calls ≠ [] ↔ ∃ spec, Triggered d.hostName d.triggerKey n spec) ∧
      (∀ spec, Triggered d.hostName d.triggerKey n spec → d.mode = .conductor →
        calls = [.reconcile caller n.instanceUuid d.hostName] ∧
        d.dispatch caller n = (fun r => (r.map .reconciled).mapError .conductor) <$>
          d.link.reconcileInstance caller n.instanceUuid d.hostName) ∧
      (∀ spec, Triggered d.hostName d.triggerKey n spec → d.mode = .direct →
        calls = [.apply n.instanceUuid spec] ∧
        d.dispatch caller n = (fun r => (r.map .applied).mapError .pin) <$>
          d.pinner.apply n.instanceUuid spec ∧
        ∀ e, ((d.pinner.apply n.instanceUuid spec).run st).1 = .error (.spec e) →
          e.reason = .outOfRange ∨ e.reason = .empty) ∧
      ((∀ spec, ¬ Triggered d.hostName d.triggerKey n spec) →
        calls = [] ∧ ∃ reason, IgnoredFor d.hostName d.triggerKey n reason ∧
          d.dispatch caller n = pure (.ok (.ignored reason))) ∧
      ∀ e, IgnoredFor d.hostName d.triggerKey n (.invalidTrigger e) →
        ∃ spec, n.metadata.get? d.triggerKey = some spec ∧
          ∀ total set, CpuSpec.compile spec total ≠ .ok set := by
  obtain ⟨hostName, triggerKey, mode, link, pinner⟩ := d
  have hinvalid : ∀ e, IgnoredFor hostName triggerKey n (.invalidTrigger e) →
      ∃ spec, n.metadata.get? triggerKey = some spec ∧
        ∀ total set, CpuSpec.compile spec total ≠ .ok set := by
    rintro e (_ | _ | _ | ⟨concerns, host, value, invalid⟩)
    refine ⟨_, value, fun total set hset => ?_⟩
    obtain ⟨e', he', -⟩ := CpuSpec.exists_compile_eq_error invalid total
    exact nomatch hset.symm.trans he'
  rcases triggered_or_ignoredFor hostName triggerKey n with ⟨spec, h⟩ | ⟨reason, h⟩
  · have hnot : ∀ p : Prop, (∀ spec, ¬ Triggered hostName triggerKey n spec) → p := fun p hno =>
      absurd h (hno spec)
    cases mode with
    | conductor =>
      refine ⟨[.reconcile caller n.instanceUuid hostName], ?_, ?_, ?_, ?_, hnot _, hinvalid⟩
      · rw [Dispatcher.recorded, Dispatcher.dispatch, act_of_conductor h, act_of_conductor h]
        rfl
      · simpa using ⟨spec, h⟩
      · exact fun _ _ _ => ⟨rfl, act_of_conductor h⟩
      · exact fun _ _ hmode => nomatch hmode
    | direct =>
      refine ⟨[.apply n.instanceUuid spec], ?_, ?_, ?_, ?_, hnot _, hinvalid⟩
      · rw [Dispatcher.recorded, Dispatcher.dispatch, act_of_direct h, act_of_direct h]
        rfl
      · simpa using ⟨spec, h⟩
      · exact fun _ _ hmode => nomatch hmode
      · intro spec' h' _
        obtain rfl := h.unique h'
        exact ⟨rfl, act_of_direct h, fun e => h.reason_of_refused⟩
  · have hnot : ∀ spec, ¬ Triggered hostName triggerKey n spec := fun spec ht => ht.not_ignoredFor h
    refine ⟨[], ?_, ?_, fun spec ht => absurd ht (hnot spec), fun spec ht => absurd ht (hnot spec),
      fun _ => ⟨rfl, reason, h, act_of_ignoredFor h mode⟩, hinvalid⟩
    · rw [Dispatcher.recorded, Dispatcher.dispatch, act_of_ignoredFor h, act_of_ignoredFor h]
      rfl
    · simpa using hnot

-- the case of the letters of an event does not matter
example : triage "compute-1" "vcpu-pinning" ⟨"Instance.CREATE.end", none, "vm-1",
    some "compute-1", .ofList [("vcpu-pinning", "0-1")]⟩ = .ok "0-1" := by
  decide +kernel

end VcpuPinning.Agent
